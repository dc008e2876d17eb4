import Pesigitg.Base.LastWrite
import Pesigitg.Base.Tlv
import Pesigitg.Common.Net

/-!
# The neighbour table

The kernel dumps its neighbour table as netlink messages: each says how long it is, a neighbour
message holds attributes that say how long they are, and both start at multiples of four bytes.
`processChunk` reads what one `recv` returned. Fields stand in the byte order of the machine.

The second half describes dumps, and proves that a dump is read for what it says: an address gets
the link address of the last record that has a usable one for it.
-/

namespace Pesigitg

open Base

namespace Neigh

def nlmsgError : Nat := 2
def nlmsgDone : Nat := 3
def rtmNewneigh : Nat := 28

def afInet : UInt8 := 2
def afInet6 : UInt8 := 10

def nudReachable : Nat := 0x02
def nudStale : Nat := 0x04
def nudDelay : Nat := 0x08
def nudProbe : Nat := 0x10
def nudPermanent : Nat := 0x80

/-- States that indicate the neighbour has a usable, resolved MAC. -/
def nudValid : Nat := nudReachable ||| nudStale ||| nudDelay ||| nudProbe ||| nudPermanent

def ndaDst : Nat := 1
def ndaLladdr : Nat := 2

/-- The error that stands for a kernel error message. -/
def eproto : Nat := 71

/-- Sizes of the headers: `nlmsghdr`, `ndmsg` and `nlattr`. -/
@[simp] def nlmsghdrSize : Nat := 16
@[simp] def ndmsgSize : Nat := 12
@[simp] def nlattrSize : Nat := 4

/-- `nlmsg_align`. -/
def nlmsgAlign (len : Nat) : Nat := (len + 3) / 4 * 4

/-- Alignment only adds. -/
theorem le_nlmsgAlign (len : Nat) : len ≤ nlmsgAlign len := by
  unfold nlmsgAlign
  omega

/-- A field of a header. -/
def field (order : ByteOrder) (bytes : Bytes) (offset width : Nat) : Nat :=
  order.read ((bytes.drop offset).take width)

def nlmsgLayout (order : ByteOrder) : TlvLayout where
  header := nlmsghdrSize
  lengthOf head := field order head 0 4
  stride := nlmsgAlign
  header_pos := by decide
  le_stride := le_nlmsgAlign

def nlattrLayout (order : ByteOrder) : TlvLayout where
  header := nlattrSize
  lengthOf head := field order head 0 2
  stride := nlmsgAlign
  header_pos := by decide
  le_stride := le_nlmsgAlign

/-- The type of a message. -/
def nlmsgType (order : ByteOrder) (msg : Bytes) : Nat := field order msg 4 2

/-- The type of an attribute. Its two upper bits are flags. -/
def nlaType (order : ByteOrder) (attr : Bytes) : Nat := field order attr 2 2 &&& 0x3fff

abbrev Table := IpAddr → Option Mac

/-- What the attributes of a message have given so far. -/
structure Found where
  dstIp : Option IpAddr
  lladdr : Option Mac
deriving DecidableEq

/-- One round of the loop over the attributes. -/
def visitAttr (order : ByteOrder) (family : UInt8) (found : Found) (attr : Bytes) :
    Checked (Found × Option Empty) := do
  let data ← sliceFrom attr nlattrSize
  if nlaType order attr = ndaDst ∧ family = afInet ∧ data.length = 4 then
    let a ← readByte data 0
    let b ← readByte data 1
    let c ← readByte data 2
    let d ← readByte data 3
    pure ({ found with dstIp := some (.v4 (ipv4Octets a b c d)) }, none)
  else if nlaType order attr = ndaDst ∧ family = afInet6 ∧ data.length = 16 then
    let octets ← toOctets 16 data
    pure ({ found with dstIp := some (.v6 octets) }, none)
  else if nlaType order attr = ndaLladdr ∧ data.length = 6 then
    let mac ← toOctets 6 data
    pure ({ found with lladdr := some mac }, none)
  else pure (found, none)

/-- Enter an address that came with a link address. -/
def Found.enter (found : Found) (table : Table) : Table :=
  match found with
  | ⟨some ip, some mac⟩ => Function.update table ip (some mac)
  | _ => table

/-- `parse_neigh_msg`. -/
def parseNeighMsg (order : ByteOrder) (buf : Bytes) (table : Table) : Checked Table :=
  if buf.length < nlmsgAlign nlmsghdrSize + ndmsgSize then pure table
  else do
    let ndm ← slice buf (nlmsgAlign nlmsghdrSize) (nlmsgAlign nlmsghdrSize + ndmsgSize)
    if field order ndm 8 2 &&& nudValid = 0 then pure table
    else
      let family ← readByte ndm 0
      if family ≠ afInet ∧ family ≠ afInet6 then pure table
      else
        let out ← (nlattrLayout order).walk (visitAttr order family) buf
          (nlmsgAlign nlmsghdrSize + nlmsgAlign ndmsgSize) ⟨none, none⟩
        pure (out.1.enter table)

inductive ChunkOutcome where
  | continues
  | done
  | error (errno : Nat)
deriving DecidableEq, Repr

/-- One round of the loop over the messages. -/
def visitMessage (order : ByteOrder) (table : Table) (msg : Bytes) :
    Checked (Table × Option ChunkOutcome) :=
  if nlmsgType order msg = nlmsgDone then pure (table, some .done)
  else if nlmsgType order msg = nlmsgError then pure (table, some (.error eproto))
  else if nlmsgType order msg = rtmNewneigh then do
    let table ← parseNeighMsg order msg table
    pure (table, none)
  else pure (table, none)

/-- `process_chunk`. -/
def processChunk (order : ByteOrder) (buf : Bytes) (table : Table) :
    Checked (Table × ChunkOutcome) := do
  let out ← (nlmsgLayout order).walk (visitMessage order) buf 0 table
  pure (out.1, out.2.getD .continues)

section Safety

variable {order : ByteOrder} {family : UInt8} {found : Found} {buf : Bytes} {table : Table}

/-- Reading an attribute stays inside it. -/
theorem visitAttr_returns (room : nlattrSize ≤ buf.length) :
    (visitAttr order family found buf).Returns := by
  unfold visitAttr
  rw [sliceFrom_of_le room, Checked.ok_bind]
  split_ifs with v4 v6 link
  · have sized := v4.2.2
    rw [readByte_of_lt (by omega), readByte_of_lt (by omega), readByte_of_lt (by omega),
      readByte_of_lt (by omega)]
    exact Checked.returns_ok _
  · rw [toOctets_of_length v6.2.2]
    exact Checked.returns_ok _
  · rw [toOctets_of_length link.2]
    exact Checked.returns_ok _
  · exact Checked.returns_ok _

/-- Reading a message stays inside it. -/
theorem parseNeighMsg_returns : (parseNeighMsg order buf table).Returns := by
  unfold parseNeighMsg
  split_ifs with short
  · exact Checked.returns_ok _
  · rw [slice_of_le (Nat.le_add_right ..) (by omega), Checked.ok_bind]
    split_ifs with unresolved
    · exact Checked.returns_ok _
    · have inside : 0 < ((buf.take (nlmsgAlign nlmsghdrSize + ndmsgSize)).drop
          (nlmsgAlign nlmsghdrSize)).length := by
        simp only [List.length_drop, List.length_take, ndmsgSize] at short ⊢
        omega
      rw [readByte_of_lt inside, Checked.ok_bind]
      split_ifs with foreign
      · exact Checked.returns_ok _
      · apply Checked.Returns.bind
        · exact TlvLayout.walk_returns fun found attr room => visitAttr_returns room
        · intro out _
          exact Checked.returns_ok _

/-- So does dispatching on its type. -/
theorem visitMessage_returns : (visitMessage order table buf).Returns := by
  unfold visitMessage
  split_ifs
  · exact Checked.returns_ok _
  · exact Checked.returns_ok _
  · apply Checked.Returns.bind parseNeighMsg_returns
    intro table _
    exact Checked.returns_ok _
  · exact Checked.returns_ok _

/-- A chunk of any bytes is read without a panic. -/
theorem processChunk_returns : (processChunk order buf table).Returns := by
  apply Checked.Returns.bind
  · exact TlvLayout.walk_returns fun table msg _ => visitMessage_returns
  · intro out _
    exact Checked.returns_ok _

end Safety

section Layout

variable {order : ByteOrder}

/-- A field that stands where it is read. -/
theorem field_append {front part rest : Bytes} {offset width : Nat} (starts : front.length = offset)
    (sized : part.length = width) : field order (front ++ (part ++ rest)) offset width =
      order.read part := by
  subst starts sized
  rw [field, List.drop_left, List.take_left]

/-- The first field of a record. -/
theorem field_start {part rest : Bytes} {width : Nat} (sized : part.length = width) :
    field order (part ++ rest) 0 width = order.read part :=
  field_append List.length_nil sized

/-- An attribute: the flags of its type, the type and the data. -/
structure Attr where
  flags : Fin 4
  type : Fin (2 ^ 14)
  data : Bytes
  fits : nlattrSize + data.length < 2 ^ 16

def Attr.isDst (attr : Attr) : Bool := attr.type.val = ndaDst

def Attr.isLladdr (attr : Attr) : Bool := attr.type.val = ndaLladdr

def Attr.head (order : ByteOrder) (attr : Attr) : Bytes :=
  order.write 2 (nlattrSize + attr.data.length) ++
    order.write 2 (attr.flags.val * 2 ^ 14 + attr.type.val)

def Attr.record (order : ByteOrder) (attr : Attr) : Bytes := attr.head order ++ attr.data

section Attrs

variable (attr : Attr)

/-- The header of an attribute has four bytes. -/
@[simp] theorem Attr.head_length : (attr.head order).length = nlattrSize := by
  simp [head]

/-- An attribute is its header and its data. -/
theorem Attr.record_length : (attr.record order).length = nlattrSize + attr.data.length := by
  rw [record, List.length_append, head_length]

/-- An attribute has the length its header says. -/
theorem Attr.record_sized : (nlattrLayout order).Sized (attr.record order) := by
  apply TlvLayout.sized_append attr.head_length
  change field order (attr.head order) 0 2 = nlattrSize + attr.data.length
  rw [head, field_start (by simp), ByteOrder.read_write attr.fits]

/-- The type of an attribute is read without its flags. -/
theorem Attr.nlaType_record : nlaType order (attr.record order) = attr.type.val := by
  have flags := attr.flags.isLt
  have type := attr.type.isLt
  have small : attr.flags.val * 2 ^ 14 + attr.type.val < 256 ^ 2 := by omega
  rw [nlaType, record, head, List.append_assoc, field_append (by simp) (by simp),
    ByteOrder.read_write small]
  change _ &&& (2 ^ 14 - 1) = _
  rw [Nat.and_two_pow_sub_one_eq_mod]
  omega

/-- What follows the header is the data. -/
theorem Attr.sliceFrom_record : sliceFrom (attr.record order) nlattrSize = .ok attr.data := by
  rw [record, ← @head_length order attr, sliceFrom_append]

end Attrs

/-- An attribute with its padding. -/
structure PaddedAttr where
  attr : Attr
  pad : Bytes
  filled : nlattrSize + attr.data.length + pad.length = nlmsgAlign (nlattrSize + attr.data.length)

def PaddedAttr.padded (order : ByteOrder) (padded : PaddedAttr) : (nlattrLayout order).Padded where
  record := padded.attr.record order
  pad := padded.pad
  sized := padded.attr.record_sized
  filled := by
    rw [padded.attr.record_length]
    exact padded.filled

/-- The attributes of a message. The padding of the last one may be left out. -/
structure AttrList where
  front : List PaddedAttr
  last : Option Attr

def AttrList.all (attrs : AttrList) : List Attr :=
  attrs.front.map PaddedAttr.attr ++ attrs.last.toList

def AttrList.bytes (order : ByteOrder) (attrs : AttrList) : Bytes :=
  (attrs.front.map (PaddedAttr.padded order)).flatMap TlvLayout.Padded.bytes ++
    attrs.last.toList.flatMap (Attr.record order)

/-- An address of a family. -/
def ipOf (family : UInt8) (bytes : Bytes) : Option IpAddr :=
  if family = afInet then
    if sized : bytes.length = 4 then some (.v4 ⟨bytes, sized⟩) else none
  else if family = afInet6 then
    if sized : bytes.length = 16 then some (.v6 ⟨bytes, sized⟩) else none
  else none

def macOf (bytes : Bytes) : Option Mac :=
  if sized : bytes.length = 6 then some ⟨bytes, sized⟩ else none

/-- A neighbour as the kernel describes it. What is beside the family and the state of its fixed
part is not read. -/
structure Neighbour where
  family : UInt8
  ifindex : Octets 7
  state : UInt16
  flags : Octets 2
  attrs : AttrList
  one_dst : (attrs.all.filter Attr.isDst).length = 1
  one_lladdr : (attrs.all.filter Attr.isLladdr).length ≤ 1

namespace Neighbour

def ndmsg (order : ByteOrder) (neighbour : Neighbour) : Bytes :=
  [neighbour.family] ++ (neighbour.ifindex.val ++
    (order.write 2 neighbour.state.toNat ++ neighbour.flags.val))

def body (order : ByteOrder) (neighbour : Neighbour) : Bytes :=
  neighbour.ndmsg order ++ neighbour.attrs.bytes order

/-- The address and the link address of a neighbour that is resolved. -/
def usable (neighbour : Neighbour) : Option (IpAddr × Mac) :=
  if neighbour.state.toNat &&& nudValid = 0 then none
  else do
    let ip ← (neighbour.attrs.all.find? Attr.isDst).bind fun attr => ipOf neighbour.family attr.data
    let mac ← (neighbour.attrs.all.find? Attr.isLladdr).bind fun attr => macOf attr.data
    pure (ip, mac)

end Neighbour

/-- What a message has around its body: the rest of its header, and a length that fits. -/
structure Frame (body : Bytes) where
  header : Octets 10
  fits : nlmsghdrSize + body.length < 2 ^ 32

def Frame.head (order : ByteOrder) (type : UInt16) {body : Bytes} (frame : Frame body) : Bytes :=
  order.write 4 (nlmsghdrSize + body.length) ++ (order.write 2 type.toNat ++ frame.header.val)

def Frame.record (order : ByteOrder) (type : UInt16) {body : Bytes} (frame : Frame body) : Bytes :=
  frame.head order type ++ body

section Frames

variable {type : UInt16} {body : Bytes} (frame : Frame body)

/-- The header of a message has sixteen bytes. -/
@[simp] theorem Frame.head_length : (frame.head order type).length = nlmsghdrSize := by
  simp [head, frame.header.2]

/-- A message is its header and its body. -/
theorem Frame.record_length : (frame.record order type).length = nlmsghdrSize + body.length := by
  rw [record, List.length_append, head_length]

/-- A message has the length its header says. -/
theorem Frame.record_sized : (nlmsgLayout order).Sized (frame.record order type) := by
  apply TlvLayout.sized_append frame.head_length
  change field order (frame.head order type) 0 4 = nlmsghdrSize + body.length
  rw [head, field_start (by simp), ByteOrder.read_write frame.fits]

/-- The type of a message is read back. -/
theorem Frame.nlmsgType_record : nlmsgType order (frame.record order type) = type.toNat := by
  have small : type.toNat < 256 ^ 2 := type.toNat_lt
  rw [nlmsgType, record, head, List.append_assoc, List.append_assoc,
    field_append (by simp) (by simp), ByteOrder.read_write small]

end Frames

end Layout

section Attributes

variable {order : ByteOrder} {family : UInt8} {found : Found} {attr : Attr}

/-- The address that an attribute gives. -/
def Attr.dstOf (family : UInt8) (attr : Attr) : Option IpAddr :=
  if attr.isDst then ipOf family attr.data else none

def Attr.lladdrOf (attr : Attr) : Option Mac := if attr.isLladdr then macOf attr.data else none

/-- What is found after one more attribute. -/
def Found.note (family : UInt8) (found : Found) (attr : Attr) : Found :=
  ⟨(attr.dstOf family).or found.dstIp, attr.lladdrOf.or found.lladdr⟩

/-- Four bytes read one by one are the address. -/
theorem ipv4Octets_byteAt {bytes : Bytes} (sized : bytes.length = 4) :
    ipv4Octets (byteAt bytes 0) (byteAt bytes 1) (byteAt bytes 2) (byteAt bytes 3) =
      ⟨bytes, sized⟩ := by
  match bytes, sized with
  | [a, b, c, d], _ => rfl

/-- Visiting an attribute notes it. -/
theorem visitAttr_record :
    visitAttr order family found (attr.record order) = .ok (found.note family attr, none) := by
  rw [visitAttr, attr.sliceFrom_record, Checked.ok_bind, attr.nlaType_record]
  split_ifs with v4 v6 link
  · obtain ⟨type, rfl, sized⟩ := v4
    rw [readByte_of_lt (by omega), readByte_of_lt (by omega), readByte_of_lt (by omega),
      readByte_of_lt (by omega)]
    simp only [Checked.ok_bind, ipv4Octets_byteAt sized]
    simp [Found.note, Attr.dstOf, Attr.lladdrOf, Attr.isDst, Attr.isLladdr, type, ndaDst, ndaLladdr,
      ipOf, sized]
  · obtain ⟨type, rfl, sized⟩ := v6
    rw [toOctets_of_length sized]
    simp [Found.note, Attr.dstOf, Attr.lladdrOf, Attr.isDst, Attr.isLladdr, type, ndaDst, ndaLladdr,
      ipOf, afInet, afInet6, sized]
  · obtain ⟨type, sized⟩ := link
    rw [toOctets_of_length sized]
    simp [Found.note, Attr.dstOf, Attr.lladdrOf, Attr.isDst, Attr.isLladdr, type, ndaDst, ndaLladdr,
      macOf, sized]
  · have noDst : attr.dstOf family = none := by
      simp only [Attr.dstOf, Attr.isDst, ipOf, decide_eq_true_eq]
      split_ifs with type inet sized inet6 sized6
      · exact absurd ⟨type, inet, sized⟩ v4
      · rfl
      · exact absurd ⟨type, inet6, sized6⟩ v6
      · rfl
      · rfl
      · rfl
    have noLladdr : attr.lladdrOf = none := by
      simp only [Attr.lladdrOf, Attr.isLladdr, macOf, decide_eq_true_eq]
      split_ifs with type sized
      · exact absurd ⟨type, sized⟩ link
      · rfl
      · rfl
    simp [Found.note, noDst, noLladdr]

/-- Of several attributes of a kind, the last usable one counts. -/
theorem foldl_note (attrs : List Attr) :
    attrs.foldl (Found.note family) found =
      ⟨(attrs.filterMap (Attr.dstOf family)).getLast?.or found.dstIp,
        (attrs.filterMap Attr.lladdrOf).getLast?.or found.lladdr⟩ := by
  induction attrs using List.reverseRecOn with
  | nil => rfl
  | append_singleton attrs attr ih =>
    rw [List.foldl_append, List.foldl_cons, List.foldl_nil, ih, Found.note]
    simp only [List.filterMap_append, List.getLast?_append]
    cases dst : attr.dstOf family <;> cases lladdr : attr.lladdrOf <;> simp [dst, lladdr]

/-- Visiting all attributes notes them in order. -/
theorem visitAll_attrs (attrs : List Attr) :
    TlvLayout.visitAll (visitAttr order family) (attrs.map (Attr.record order)) found =
      .ok (attrs.foldl (Found.note family) found, none) := by
  induction attrs generalizing found with
  | nil => rfl
  | cons attr attrs ih =>
    rw [List.map_cons, TlvLayout.visitAll, visitAttr_record, Checked.ok_bind]
    exact ih

/-- The loop over the attributes notes all of them. -/
theorem walk_attrs (front : Bytes) (attrs : AttrList) :
    (nlattrLayout order).walk (visitAttr order family) (front ++ attrs.bytes order) front.length
      found = .ok (attrs.all.foldl (Found.note family) found, none) := by
  have records : (attrs.front.map (PaddedAttr.padded order)).map TlvLayout.Padded.record =
      (attrs.front.map PaddedAttr.attr).map (Attr.record order) := by
    rw [List.map_map, List.map_map]
    rfl
  rw [AttrList.bytes, TlvLayout.walk_padded, records, visitAll_attrs, Checked.ok_bind,
    TlvLayout.proceed, ← List.append_assoc, AttrList.all, List.foldl_append]
  cases attrs.last with
  | none =>
    apply TlvLayout.walk_of_short
    simp only [Option.toList_none, List.flatMap_nil, List.append_nil]
    exact Nat.lt_add_of_pos_right (nlattrLayout order).header_pos
  | some last =>
    simp only [Option.toList_some, List.flatMap_singleton, List.foldl_cons, List.foldl_nil]
    rw [TlvLayout.walk_last last.record_sized, visitAttr_record]

end Attributes

section Records

variable {order : ByteOrder} {neighbour : Neighbour} {table : Table}

/-- Of the one attribute that is selected, a reading of all of them finds its own. -/
theorem getLast_filterMap_of_le_one {β : Type} {attrs : List Attr} {selects : Attr → Bool}
    {reading : Attr → Option β} (atMost : (attrs.filter selects).length ≤ 1) :
    (attrs.filterMap fun attr => if selects attr then reading attr else none).getLast? =
      (attrs.find? selects).bind reading := by
  rw [← List.filterMap_filter, ← List.head?_filter]
  cases shape : attrs.filter selects with
  | nil => rfl
  | cons attr rest =>
    rw [shape, List.length_cons] at atMost
    obtain rfl : rest = [] := List.length_eq_zero_iff.mp (by omega)
    cases reading : reading attr <;> simp [reading]

/-- What is found in the attributes of a neighbour. -/
theorem foldl_note_attrs :
    neighbour.attrs.all.foldl (Found.note neighbour.family) ⟨none, none⟩ =
      ⟨(neighbour.attrs.all.find? Attr.isDst).bind fun attr => ipOf neighbour.family attr.data,
        (neighbour.attrs.all.find? Attr.isLladdr).bind fun attr => macOf attr.data⟩ := by
  rw [foldl_note, Option.or_none, Option.or_none]
  congr 1
  · exact getLast_filterMap_of_le_one neighbour.one_dst.le
  · exact getLast_filterMap_of_le_one neighbour.one_lladdr

/-- The fixed part of a message has twelve bytes. -/
theorem ndmsg_length : (neighbour.ndmsg order).length = ndmsgSize := by
  simp [Neighbour.ndmsg, neighbour.ifindex.2, neighbour.flags.2]

/-- The state is read back from it. -/
theorem ndmsg_state : field order (neighbour.ndmsg order) 8 2 = neighbour.state.toNat := by
  have small : neighbour.state.toNat < 256 ^ 2 := neighbour.state.toNat_lt
  rw [Neighbour.ndmsg, ← List.append_assoc, field_append (by simp [neighbour.ifindex.2]) (by simp),
    ByteOrder.read_write small]

/-- So is the family. -/
theorem ndmsg_family : readByte (neighbour.ndmsg order) 0 = .ok neighbour.family :=
  readByte_append [] neighbour.family _

/-- Other families have no address here. -/
theorem ipOf_eq_none {family : UInt8} {bytes : Bytes}
    (foreign : family ≠ afInet ∧ family ≠ afInet6) : ipOf family bytes = none := by
  rw [ipOf, if_neg foreign.1, if_neg foreign.2]

/-- A neighbour with an address and a MAC is entered, and no other. -/
theorem enter_eq_insertAll (ip : Option IpAddr) (mac : Option Mac) :
    Found.enter ⟨ip, mac⟩ table =
      insertAll (ip.bind fun ip => mac.bind fun mac => some (ip, mac)).toList table := by
  cases ip <;> cases mac <;> rfl

/-- A neighbour message enters what is usable of it. -/
theorem parseNeighMsg_record (frame : Frame (neighbour.body order)) {type : UInt16} :
    parseNeighMsg order (frame.record order type) table =
      .ok (insertAll neighbour.usable.toList table) := by
  have headLength : (frame.head order type).length = nlmsgAlign nlmsghdrSize := frame.head_length
  have split : frame.record order type =
      frame.head order type ++ (neighbour.ndmsg order ++ neighbour.attrs.bytes order) := rfl
  have long : ¬ (frame.record order type).length < nlmsgAlign nlmsghdrSize + ndmsgSize := by
    rw [split, List.length_append, List.length_append, headLength, ndmsg_length]
    omega
  have ndm : slice (frame.record order type) (nlmsgAlign nlmsghdrSize)
      (nlmsgAlign nlmsghdrSize + ndmsgSize) = .ok (neighbour.ndmsg order) := by
    rw [split, ← headLength, ← @ndmsg_length order neighbour, slice_append]
  have start : nlmsgAlign nlmsghdrSize + nlmsgAlign ndmsgSize =
      (frame.head order type ++ neighbour.ndmsg order).length := by
    rw [List.length_append, headLength, ndmsg_length]
    rfl
  rw [parseNeighMsg, if_neg long, ndm, Checked.ok_bind, ndmsg_state, Neighbour.usable]
  split_ifs with unresolved
  · rfl
  · rw [ndmsg_family, Checked.ok_bind]
    split_ifs with foreign
    · simp only [ipOf_eq_none foreign, Option.bind_fun_none, Option.bind_eq_bind, Option.bind_none]
      rfl
    · rw [split, ← List.append_assoc, start, walk_attrs, foldl_note_attrs, Checked.ok_bind,
        enter_eq_insertAll]
      rfl

end Records

section Dumps

/-- The bytes that fill up a message. -/
abbrev Padding (len : Nat) := {pad : Bytes // len + pad.length = nlmsgAlign len}

/-- A message of a dump, other than its last one. -/
inductive DumpMessage (order : ByteOrder) where
  | neighbour (neighbour : Neighbour) (frame : Frame (neighbour.body order))
    (pad : Padding (nlmsghdrSize + (neighbour.body order).length))
  | other (type : UInt16) (skipped : type.toNat ∉ [nlmsgError, nlmsgDone, rtmNewneigh])
    (body : Bytes) (frame : Frame body) (pad : Padding (nlmsghdrSize + body.length))

/-- A dump: messages, the one that ends it, and whatever is behind that. -/
structure Dump (order : ByteOrder) where
  messages : List (DumpMessage order)
  doneBody : Bytes
  doneFrame : Frame doneBody
  trailing : Bytes

variable {order : ByteOrder}

def DumpMessage.padded : DumpMessage order → (nlmsgLayout order).Padded
  | neighbour _ frame pad =>
    ⟨frame.record order (UInt16.ofNat rtmNewneigh), pad.val, frame.record_sized,
      by rw [frame.record_length]; exact pad.2⟩
  | other type _ _ frame pad =>
    ⟨frame.record order type, pad.val, frame.record_sized, by rw [frame.record_length]; exact pad.2⟩

def DumpMessage.usable : DumpMessage order → Option (IpAddr × Mac)
  | neighbour record _ _ => record.usable
  | other .. => none

def Dump.bytes (dump : Dump order) : Bytes :=
  (dump.messages.map DumpMessage.padded).flatMap TlvLayout.Padded.bytes ++
    (dump.doneFrame.record order (UInt16.ofNat nlmsgDone) ++ dump.trailing)

/-- The usable records of a dump, in its order. -/
def Dump.usable (dump : Dump order) : List (IpAddr × Mac) :=
  dump.messages.filterMap DumpMessage.usable

variable {table : Table}

/-- Visiting a message enters its neighbour if it is usable. -/
theorem visitMessage_padded (message : DumpMessage order) :
    visitMessage order table message.padded.record =
      .ok (insertAll message.usable.toList table, none) := by
  cases message with
  | neighbour record frame pad =>
    rw [visitMessage, DumpMessage.padded, frame.nlmsgType_record, if_neg (by decide),
      if_neg (by decide), if_pos (by decide), parseNeighMsg_record]
    rfl
  | other type skipped body frame pad =>
    simp only [List.mem_cons, List.not_mem_nil, or_false, not_or] at skipped
    rw [visitMessage, DumpMessage.padded, frame.nlmsgType_record, if_neg skipped.2.1,
      if_neg skipped.1, if_neg skipped.2.2]
    rfl

/-- Visiting all messages enters the usable neighbours in order. -/
theorem visitAll_messages (messages : List (DumpMessage order)) :
    TlvLayout.visitAll (visitMessage order)
      ((messages.map DumpMessage.padded).map TlvLayout.Padded.record) table =
      .ok (insertAll (messages.filterMap DumpMessage.usable) table, none) := by
  induction messages generalizing table with
  | nil => rfl
  | cons message messages ih =>
    have joined : insertAll ((message :: messages).filterMap DumpMessage.usable) table =
        insertAll (messages.filterMap DumpMessage.usable)
          (insertAll message.usable.toList table) := by
      rw [List.filterMap_cons]
      cases message.usable <;> rfl
    rw [List.map_cons, List.map_cons, TlvLayout.visitAll, visitMessage_padded, Checked.ok_bind,
      joined]
    exact ih

/-- The end of the dump is recognised, and the table kept. -/
theorem visitMessage_done {body : Bytes} (frame : Frame body) :
    visitMessage order table (frame.record order (UInt16.ofNat nlmsgDone)) =
      .ok (table, some .done) := by
  rw [visitMessage, frame.nlmsgType_record, if_pos (by decide)]
  rfl

/-- The loop over the messages enters the usable records of a dump and ends at its last message. -/
theorem processChunk_dump (dump : Dump order) :
    processChunk order dump.bytes table = .ok (insertAll dump.usable table, .done) := by
  have walked := @TlvLayout.walk_padded _ _ (nlmsgLayout order) (visitMessage order) []
    (dump.doneFrame.record order (UInt16.ofNat nlmsgDone) ++ dump.trailing) table
    (dump.messages.map DumpMessage.padded)
  rw [List.nil_append, List.nil_append, List.length_nil, visitAll_messages, Checked.ok_bind,
    TlvLayout.proceed, TlvLayout.walk_record dump.doneFrame.record_sized, visitMessage_done,
    Checked.ok_bind] at walked
  rw [processChunk, Dump.bytes, walked]
  rfl

/-- Every buffer is read inside its bounds and to an end. A dump is read to its last message, and
gives every address the link address of its last usable record, and no address without one. -/
theorem dump_read_exactly (order : ByteOrder) :
    (∀ buf table, (processChunk order buf table).Returns ∧
      (parseNeighMsg order buf table).Returns) ∧
    ∀ dump : Dump order, ∃ table,
      processChunk order dump.bytes (fun _ => none) = .ok (table, .done) ∧
        ∀ addr, table addr = (writtenFor addr dump.usable).getLast? := by
  refine ⟨fun buf table => ⟨processChunk_returns, parseNeighMsg_returns⟩, ?_⟩
  intro dump
  refine ⟨_, processChunk_dump dump, ?_⟩
  intro addr
  rw [insertAll_apply, Option.or_none]

/-- One reachable neighbour, with a flag on the type of its address, and the end of the dump. -/
def sampleChunk : Bytes :=
  [46, 0, 0, 0, 28, 0, 0, 0, 0, 0, 0, 0, 0, 0, 0, 0, 2, 0, 0, 0, 1, 0, 0, 0, 2, 0, 0, 0,
    8, 0, 1, 0x80, 10, 0, 0, 1, 10, 0, 2, 0, 1, 2, 3, 4, 5, 6, 0, 0,
    16, 0, 0, 0, 3, 0, 0, 0, 0, 0, 0, 0, 0, 0, 0, 0]

/-- The neighbour in it: 10.0.0.1 is at 01:02:03:04:05:06. -/
def sampleNeighbour : Neighbour where
  family := afInet
  ifindex := ⟨[0, 0, 0, 1, 0, 0, 0], rfl⟩
  state := 2
  flags := ⟨[0, 0], rfl⟩
  attrs :=
    ⟨[⟨⟨2, 1, (ipv4Octets 10 0 0 1).val, by decide⟩, [], rfl⟩],
      some ⟨0, 2, (macOctets 1 2 3 4 5 6).val, by decide⟩⟩
  one_dst := by decide
  one_lladdr := by decide

/-- The chunk as a dump of that neighbour. -/
def sampleDump : Dump .little where
  messages := [.neighbour sampleNeighbour ⟨⟨List.replicate 10 0, rfl⟩, by decide⟩ ⟨[0, 0], rfl⟩]
  doneBody := []
  doneFrame := ⟨⟨List.replicate 10 0, rfl⟩, by decide⟩
  trailing := []

/-- The sample's bytes are a dump, and its one neighbour is found. -/
theorem sample_dump_read : sampleDump.bytes = sampleChunk ∧
    ∃ table, processChunk .little sampleChunk (fun _ => none) = .ok (table, .done) ∧
      table (.v4 (ipv4Octets 10 0 0 1)) = some (macOctets 1 2 3 4 5 6) ∧
      table (.v4 (ipv4Octets 10 0 0 2)) = none := by
  have bytes : sampleDump.bytes = sampleChunk := by decide +kernel
  obtain ⟨table, read, found⟩ := (dump_read_exactly .little).2 sampleDump
  rw [bytes] at read
  refine ⟨bytes, table, read, ?_, ?_⟩
  · rw [found]
    decide +kernel
  · rw [found]
    decide +kernel

end Dumps

end Neigh

end Pesigitg
