import Pesigitg.Base.Feistel
import Pesigitg.Common.Net

/-!
# The four-pass CID cipher

The router's decryptor and the backend's encryptor run the same pass over a
buffer holding `server_id || nonce`, in opposite orders. `fourPassRound_eq`
identifies a pass over such a buffer with a pass of a Feistel network on the
two fields; `decryptFourPass_encryptFourPass` is then the network's inversion.
A pass copies one field into a 16-byte block and masks the other with one, so a
field longer than a block panics: `fourPassRound_nonce_le`.
-/

namespace Pesigitg

open Base

/-- One pass. Even passes encrypt the right field (nonce) and mask the left one
(server id); odd passes encrypt the left field and mask the right one. -/
def fourPassRound (encrypt : Block → Block) (sidLen nonceLen i : Nat) (buf : Bytes) :
    Checked Bytes :=
  let block := List.replicate 16 0
  if i % 2 = 0 then do
    let right ← slice buf sidLen (sidLen + nonceLen)
    let block ← copyInto block 0 nonceLen right
    let first ← readByte block 0
    let block ← writeByte block 0 (first ^^^ UInt8.ofNat i)
    let ga ← toOctets 16 block
    xorInto (encrypt ga).val 0 sidLen buf
  else do
    let left ← slice buf 0 sidLen
    let block ← copyInto block 0 sidLen left
    let first ← readByte block 0
    let block ← writeByte block 0 (first ^^^ UInt8.ofNat i)
    let ga ← toOctets 16 block
    xorInto (encrypt ga).val sidLen nonceLen buf

/-- `encrypt_four_pass`: passes 0, 1, 2, 3. -/
def encryptFourPass (encrypt : Block → Block) (sidLen nonceLen : Nat) (buf : Bytes) :
    Checked Bytes := do
  let buf ← fourPassRound encrypt sidLen nonceLen 0 buf
  let buf ← fourPassRound encrypt sidLen nonceLen 1 buf
  let buf ← fourPassRound encrypt sidLen nonceLen 2 buf
  fourPassRound encrypt sidLen nonceLen 3 buf

/-- `decrypt_four_pass`: passes 3, 2, 1, 0, each using the forward cipher. -/
def decryptFourPass (encrypt : Block → Block) (sidLen nonceLen : Nat) (buf : Bytes) :
    Checked Bytes := do
  let buf ← fourPassRound encrypt sidLen nonceLen 3 buf
  let buf ← fourPassRound encrypt sidLen nonceLen 2 buf
  let buf ← fourPassRound encrypt sidLen nonceLen 1 buf
  fourPassRound encrypt sidLen nonceLen 0 buf

/-- The block a pass encrypts: a field padded with zeros, its first byte marked
with the pass number. -/
def passBlock {count : Nat} (i : Nat) (field : Octets count) (short : count ≤ 16) : Block :=
  let padded := field.val ++ List.replicate (16 - count) 0
  ⟨padded.set 0 (byteAt padded 0 ^^^ UInt8.ofNat i), by simp [padded, field.property]; omega⟩

section Network

variable (encrypt : Block → Block) {sidLen nonceLen : Nat}

/-- The Feistel network the two directions run. -/
def cidNetwork (sidShort : sidLen ≤ 16) (nonceShort : nonceLen ≤ 16) :
    FeistelNetwork (Octets sidLen) (Octets nonceLen) Block where
  maskLeft mask field := ⟨xorBytes field.val mask.val, by
    rw [xorBytes_length (by rw [field.property, mask.property]; exact sidShort), field.property]⟩
  maskRight mask field := ⟨xorBytes field.val mask.val, by
    rw [xorBytes_length (by rw [field.property, mask.property]; exact nonceShort),
      field.property]⟩
  fromLeft i field := encrypt (passBlock i field sidShort)
  fromRight i field := encrypt (passBlock i field nonceShort)
  maskLeft_involutive mask field := by
    apply Subtype.ext
    exact xorBytes_cancel (by rw [field.property, mask.property]; exact sidShort)
  maskRight_involutive mask field := by
    apply Subtype.ext
    exact xorBytes_cancel (by rw [field.property, mask.property]; exact nonceShort)

/-- A buffer holding the two fields and whatever follows them. -/
def cidBuffer (state : Octets sidLen × Octets nonceLen) (rest : Bytes) : Bytes :=
  state.1.val ++ state.2.val ++ rest

/-- The buffer is the id, the nonce and what follows. -/
theorem cidBuffer_length (state : Octets sidLen × Octets nonceLen) (rest : Bytes) :
    (cidBuffer state rest).length = sidLen + nonceLen + rest.length := by
  rw [cidBuffer, List.length_append, List.length_append, state.1.property, state.2.property]

variable {encrypt}

/-- Filling and marking the scratch block of a pass never fails for a field of at
most sixteen bytes. -/
theorem fill_block {count : Nat} (i : Nat) (field : Octets count) (short : count ≤ 16) :
    (do
      let block ← copyInto (List.replicate 16 0) 0 count field.val
      let first ← readByte block 0
      let block ← writeByte block 0 (first ^^^ UInt8.ofNat i)
      toOctets 16 block) = .ok (passBlock i field short) := by
  have copied : copyInto (List.replicate 16 0) 0 count field.val =
      .ok (field.val ++ List.replicate (16 - count) 0) := by
    rw [copyInto_eq_ok_iff]
    refine ⟨Nat.zero_le _, by simpa using short, by simpa using field.property, ?_⟩
    rw [List.drop_replicate, List.take_zero, List.nil_append]
  have inside : 0 < (field.val ++ List.replicate (16 - count) (0 : UInt8)).length := by
    simp [field.property]
    omega
  rw [copied, Checked.ok_bind, readByte_of_lt inside, Checked.ok_bind, writeByte_of_lt inside,
    Checked.ok_bind]
  exact toOctets_of_length (passBlock i field short).property

/-- A pass over a buffer is the network's pass on the two fields it starts with;
the bytes after them are not touched. -/
theorem fourPassRound_eq (sidShort : sidLen ≤ 16) (nonceShort : nonceLen ≤ 16) (i : Nat)
    (state : Octets sidLen × Octets nonceLen) (rest : Bytes) :
    fourPassRound encrypt sidLen nonceLen i (cidBuffer state rest) =
      .ok (cidBuffer ((cidNetwork encrypt sidShort nonceShort).pass i state) rest) := by
  obtain ⟨⟨left, leftLength⟩, ⟨right, rightLength⟩⟩ := state
  by_cases even : i % 2 = 0
  · have field : slice (left ++ right ++ rest) sidLen (sidLen + nonceLen) = .ok right := by
      rw [slice_eq_ok_iff]
      refine ⟨Nat.le_add_right _ _, by simp [leftLength, rightLength], ?_⟩
      rw [List.append_assoc, List.take_append, List.drop_append]
      simp [leftLength, rightLength]
    have filled := fill_block i ⟨right, rightLength⟩ nonceShort
    have covered : left.length ≤
        (encrypt (passBlock i ⟨right, rightLength⟩ nonceShort)).val.length := by
      rw [leftLength, (encrypt _).property]
      exact sidShort
    have masked := xorInto_append [] left (right ++ rest) covered
    simp only [List.nil_append, List.length_nil, leftLength] at masked
    simp only [fourPassRound, cidBuffer, even, if_true, field, Checked.ok_bind]
    simp only [← bind_assoc] at filled ⊢
    rw [filled, Checked.ok_bind, List.append_assoc, masked]
    simp [FeistelNetwork.pass, cidNetwork, even]
  · have field : slice (left ++ right ++ rest) 0 sidLen = .ok left := by
      rw [slice_eq_ok_iff]
      refine ⟨Nat.zero_le _, by simp [leftLength], ?_⟩
      rw [List.append_assoc, List.take_append, List.take_of_length_le (Nat.le_of_eq leftLength)]
      simp [leftLength]
    have filled := fill_block i ⟨left, leftLength⟩ sidShort
    have covered : right.length ≤
        (encrypt (passBlock i ⟨left, leftLength⟩ sidShort)).val.length := by
      rw [rightLength, (encrypt _).property]
      exact nonceShort
    have masked := xorInto_append left right rest covered
    simp only [leftLength, rightLength] at masked
    simp only [fourPassRound, cidBuffer, even, if_false, field, Checked.ok_bind]
    simp only [← bind_assoc] at filled ⊢
    rw [filled, Checked.ok_bind, masked]
    simp [FeistelNetwork.pass, cidNetwork, even]

/-- Encrypting is four passes of the network on the id and the nonce. -/
theorem encryptFourPass_eq (sidShort : sidLen ≤ 16) (nonceShort : nonceLen ≤ 16)
    (state : Octets sidLen × Octets nonceLen) (rest : Bytes) :
    encryptFourPass encrypt sidLen nonceLen (cidBuffer state rest) =
      .ok (cidBuffer ((cidNetwork encrypt sidShort nonceShort).encipher 4 state) rest) := by
  simp only [encryptFourPass, fourPassRound_eq sidShort nonceShort, Checked.ok_bind,
    FeistelNetwork.encipher]

/-- Decrypting is the four passes undone. -/
theorem decryptFourPass_eq (sidShort : sidLen ≤ 16) (nonceShort : nonceLen ≤ 16)
    (state : Octets sidLen × Octets nonceLen) (rest : Bytes) :
    decryptFourPass encrypt sidLen nonceLen (cidBuffer state rest) =
      .ok (cidBuffer ((cidNetwork encrypt sidShort nonceShort).decipher 4 state) rest) := by
  simp only [decryptFourPass, fourPassRound_eq sidShort nonceShort, Checked.ok_bind,
    FeistelNetwork.decipher]

/-- Decryption undoes encryption: the masked fields do not depend on what follows
them, and they decrypt to the fields they came from. -/
theorem decryptFourPass_encryptFourPass (encrypt : Block → Block) (sidShort : sidLen ≤ 16)
    (nonceShort : nonceLen ≤ 16) (state : Octets sidLen × Octets nonceLen) :
    ∃ masked : Octets sidLen × Octets nonceLen, ∀ rest,
      encryptFourPass encrypt sidLen nonceLen (cidBuffer state rest) =
        .ok (cidBuffer masked rest) ∧
      decryptFourPass encrypt sidLen nonceLen (cidBuffer masked rest) =
        .ok (cidBuffer state rest) := by
  refine ⟨(cidNetwork encrypt sidShort nonceShort).encipher 4 state, ?_⟩
  intro rest
  refine ⟨encryptFourPass_eq sidShort nonceShort state rest, ?_⟩
  rw [decryptFourPass_eq sidShort nonceShort, FeistelNetwork.decipher_encipher]

/-- Every buffer long enough for the two fields is one of the form the passes
are described on. -/
theorem exists_cidBuffer {buf : Bytes} (long : sidLen + nonceLen ≤ buf.length) :
    ∃ (state : Octets sidLen × Octets nonceLen) (rest : Bytes), buf = cidBuffer state rest := by
  refine ⟨⟨⟨buf.take sidLen, by simp; omega⟩, ⟨(buf.drop sidLen).take nonceLen, by simp; omega⟩⟩,
    buf.drop (sidLen + nonceLen), ?_⟩
  simp only [cidBuffer, ← List.drop_drop]
  rw [List.append_assoc, List.take_append_drop, List.take_append_drop]

/-- What follows the id and the nonce is not touched. -/
theorem drop_cidBuffer (state : Octets sidLen × Octets nonceLen) (rest : Bytes) :
    (cidBuffer state rest).drop (sidLen + nonceLen) = rest := by
  apply List.drop_left'
  rw [List.length_append, state.1.property, state.2.property]

/-- On a CID buffer of nineteen bytes each direction restores what the other was given, and
neither touches the bytes behind the two fields. -/
theorem fourPass_mutually_inverse (encrypt : Block → Block) (sidShort : sidLen ≤ 16)
    (nonceShort : nonceLen ≤ 16) (fits : sidLen + nonceLen ≤ 19) (buf : Octets 19) :
    (∃ masked : Octets 19, encryptFourPass encrypt sidLen nonceLen buf.val = .ok masked.val ∧
        masked.val.drop (sidLen + nonceLen) = buf.val.drop (sidLen + nonceLen) ∧
        decryptFourPass encrypt sidLen nonceLen masked.val = .ok buf.val) ∧
      ∃ clear : Octets 19, decryptFourPass encrypt sidLen nonceLen buf.val = .ok clear.val ∧
        clear.val.drop (sidLen + nonceLen) = buf.val.drop (sidLen + nonceLen) ∧
        encryptFourPass encrypt sidLen nonceLen clear.val = .ok buf.val := by
  obtain ⟨bytes, sized⟩ := buf
  obtain ⟨state, rest, rfl⟩ := exists_cidBuffer (fits.trans_eq sized.symm)
  rw [cidBuffer_length] at sized
  -- The fields pass through the network; only the tail `rest` is common to all three buffers.
  have length (fields : Octets sidLen × Octets nonceLen) : (cidBuffer fields rest).length = 19 := by
    rw [cidBuffer_length, sized]
  constructor
  · refine ⟨⟨_, length ((cidNetwork encrypt sidShort nonceShort).encipher 4 state)⟩,
      encryptFourPass_eq sidShort nonceShort state rest, ?_, ?_⟩
    · rw [drop_cidBuffer, drop_cidBuffer]
    · rw [decryptFourPass_eq sidShort nonceShort, FeistelNetwork.decipher_encipher]
  · refine ⟨⟨_, length ((cidNetwork encrypt sidShort nonceShort).decipher 4 state)⟩,
      decryptFourPass_eq sidShort nonceShort state rest, ?_, ?_⟩
    · rw [drop_cidBuffer, drop_cidBuffer]
    · rw [encryptFourPass_eq sidShort nonceShort, FeistelNetwork.encipher_decipher]

/-- A payload of three and four bytes in a buffer of zeros. -/
def samplePayload : Octets 19 :=
  ⟨[0xde, 0xad, 0xbe, 0x01, 0x02, 0x03, 0x04, 0, 0, 0, 0, 0, 0, 0, 0, 0, 0, 0, 0], rfl⟩

/-- The sample's payload is given back. -/
theorem samplePayload_restored :
    ∃ masked : Octets 19, encryptFourPass (fun block => block) 3 4 samplePayload.val = .ok masked.val ∧
      masked.val.drop 7 = samplePayload.val.drop 7 ∧
      decryptFourPass (fun block => block) 3 4 masked.val = .ok samplePayload.val :=
  (fourPass_mutually_inverse (fun block => block) (by decide) (by decide) (by decide)
    samplePayload).1

/-- A masked range is never longer than its mask. -/
theorem xorInto_returns {mask : Bytes} {base count : Nat} {buf : Bytes}
    (returns : (xorInto mask base count buf).Returns) : count ≤ mask.length := by
  cases count with
  | zero => exact Nat.zero_le _
  | succ count =>
    obtain ⟨result, returned⟩ := returns
    simp only [xorInto, Checked.bind_eq_ok_iff] at returned
    obtain ⟨-, -, current, -, key, read, -⟩ := returned
    exact (readByte_eq_ok_iff.mp read).1

/-- No pass gets through with a nonce longer than a block: an even pass cannot
copy it into one and an odd pass cannot mask it with one. -/
theorem fourPassRound_nonce_le {i : Nat} {buf : Bytes}
    (returns : (fourPassRound encrypt sidLen nonceLen i buf).Returns) : nonceLen ≤ 16 := by
  obtain ⟨result, returned⟩ := returns
  by_cases even : i % 2 = 0
  · simp only [fourPassRound, even, if_true, Checked.bind_eq_ok_iff] at returned
    obtain ⟨right, -, block, copied, -⟩ := returned
    have bounded := (copyInto_eq_ok_iff.mp copied).2.1
    simpa using bounded
  · simp only [fourPassRound, even, if_false, Checked.bind_eq_ok_iff] at returned
    obtain ⟨left, -, block, -, first, -, marked, -, ga, -, masked⟩ := returned
    have bounded := xorInto_returns ⟨result, masked⟩
    rwa [(encrypt ga).property] at bounded

/-- The decryptor returns exactly on nonces that fit a block. -/
theorem decryptFourPass_returns_iff (encrypt : Block → Block) (sidShort : sidLen ≤ 16) {buf : Bytes}
    (long : sidLen + nonceLen ≤ buf.length) :
    (decryptFourPass encrypt sidLen nonceLen buf).Returns ↔ nonceLen ≤ 16 := by
  constructor
  · rintro ⟨result, returned⟩
    simp only [decryptFourPass, Checked.bind_eq_ok_iff] at returned
    obtain ⟨first, pass, -⟩ := returned
    exact fourPassRound_nonce_le ⟨first, pass⟩
  · intro nonceShort
    obtain ⟨state, rest, rfl⟩ := exists_cidBuffer long
    rw [decryptFourPass_eq sidShort nonceShort]
    exact Checked.returns_ok _

/-- The encryptor returns exactly on nonces that fit a block. -/
theorem encryptFourPass_returns_iff (encrypt : Block → Block) (sidShort : sidLen ≤ 16) {buf : Bytes}
    (long : sidLen + nonceLen ≤ buf.length) :
    (encryptFourPass encrypt sidLen nonceLen buf).Returns ↔ nonceLen ≤ 16 := by
  constructor
  · rintro ⟨result, returned⟩
    simp only [encryptFourPass, Checked.bind_eq_ok_iff] at returned
    obtain ⟨first, pass, -⟩ := returned
    exact fourPassRound_nonce_le ⟨first, pass⟩
  · intro nonceShort
    obtain ⟨state, rest, rfl⟩ := exists_cidBuffer long
    rw [encryptFourPass_eq sidShort nonceShort]
    exact Checked.returns_ok _

end Network

end Pesigitg
