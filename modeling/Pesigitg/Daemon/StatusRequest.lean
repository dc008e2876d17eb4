import Pesigitg.Base.Json
import Pesigitg.Base.Utf8
import Pesigitg.Daemon.FileConfig

/-!
# Requests to the status socket

A connection is read until a newline has arrived, and answered by its first line. All that was
read is decoded before the line is taken out of it, so bytes behind the newline have a say if they
come with it.
-/

namespace Pesigitg

open Base

namespace StatusRequest

def maxRequestBytes : Nat := 256

def newline : UInt8 := 10

/-- The responses `handle_connection` selects from. -/
inductive Response where
  | endpoints
  | health
  | version
  | stats
  | config
  | unknownEndpoint
  | requestTooLong
deriving DecidableEq, Repr

/-- The documents that the endpoints build. -/
structure Views where
  health : Json
  version : Json
  stats : Json
  config : Json

/-- What is written for a response. -/
def Response.body (views : Views) : Response → Json
  | endpoints =>
    .object [("endpoints",
      .array [.string "/health", .string "/version", .string "/stats", .string "/config"])]
  | health => views.health
  | version => views.version
  | stats => views.stats
  | config => views.config
  | unknownEndpoint => .object [("error", .string "unknown endpoint")]
  | requestTooLong => .object [("error", .string "request too long")]

def Response.ofRequest (text : String) : Response :=
  if text = "GET /" then endpoints
  else if text = "GET /health" then health
  else if text = "GET /version" then version
  else if text = "GET /stats" then stats
  else if text = "GET /config" then config
  else unknownEndpoint

/-- What comes after the last bytes of a client. -/
inductive ReadEnd where
  | eof
  | failed
deriving DecidableEq, Repr

inductive ReadOutcome where
  | request (bytes : Bytes)
  | tooLong
  | failed
deriving DecidableEq, Repr

/-- The loop of `handle_connection`, over what arrives for each of its reads. -/
def readLoop (ending : ReadEnd) (buf : Bytes) (reads : List Bytes) : ReadOutcome :=
  if buf.length = maxRequestBytes then .tooLong
  else
    match reads with
    | [] =>
      match ending with
      | .eof => .request buf
      | .failed => .failed
    | bytes :: rest =>
      let taken := bytes.take (maxRequestBytes - buf.length)
      if taken = [] then .request buf
      else if newline ∈ buf ++ taken then .request (buf ++ taken)
      -- A read that leaves bytes behind has filled the buffer, so that the next round ends here.
      else readLoop ending (buf ++ taken) rest

/-- The first line of a text, without the spaces around it. -/
def requestText (chars : List Char) : String :=
  String.ofList (trimPart (chars.takeWhile fun c => c ≠ '\n' && c ≠ '\r'))

/-- The response to what was read. Bytes that are not UTF-8 count as an empty text. -/
def respond (buf : Bytes) : Response := .ofRequest (requestText ((Utf8.decode buf).getD []))

/-- `handle_connection`: the response it writes, if it writes one. -/
def handleConnection (ending : ReadEnd) (reads : List Bytes) : Option Response :=
  match readLoop ending [] reads with
  | .request buf => some (respond buf)
  | .tooLong => some .requestTooLong
  | .failed => none

/-- What is written to a client, if something is. -/
def written (views : Views) (ending : ReadEnd) (reads : List Bytes) : Option Json :=
  (handleConnection ending reads).map (Response.body views)

/-- A way to deliver a request: reads that are not empty and make it up. -/
structure Delivery (request : Bytes) where
  reads : List Bytes
  nonempty : ∀ bytes ∈ reads, bytes ≠ []
  whole : reads.flatten = request

/-- The requests that have an answer of their own. -/
def knownRequests : List String :=
  ["GET /", "GET /health", "GET /version", "GET /stats", "GET /config"]

/-- A line that asks for an endpoint. -/
def AsksEndpoint (line : Bytes) : Prop :=
  ∃ chars, Utf8.decode line = some chars ∧ requestText chars ∈ knownRequests

/-- The bytes before the first newline of what the buffer can hold. -/
def requestLine (request : Bytes) : Bytes :=
  (request.take maxRequestBytes).takeWhile (· ≠ newline)

/-- The bytes behind that newline, as far as the buffer can hold them. -/
def behindLine (request : Bytes) : Bytes :=
  ((request.take maxRequestBytes).dropWhile (· ≠ newline)).drop 1

section Reading

variable {ending : ReadEnd} {buf bytes taken request : Bytes} {reads rest : List Bytes}

/-- A full buffer without a newline is a request that is too long. -/
theorem readLoop_full (full : buf.length = maxRequestBytes) :
    readLoop ending buf reads = .tooLong := by
  rw [readLoop.eq_def, if_pos full]

/-- One round with room in the buffer. -/
theorem readLoop_cons (room : buf.length ≠ maxRequestBytes)
    (cut : bytes.take (maxRequestBytes - buf.length) = taken) (some : taken ≠ []) :
    readLoop ending buf (bytes :: rest) =
      if newline ∈ buf ++ taken then .request (buf ++ taken)
      else readLoop ending (buf ++ taken) rest := by
  rw [readLoop, if_neg room]
  simp only [cut, if_neg some]

/-- The loop fails only with the connection. -/
theorem readLoop_eof_ne_failed : readLoop .eof buf reads ≠ .failed := by
  induction reads generalizing buf with
  | nil =>
    rw [readLoop]
    split_ifs <;> exact ReadOutcome.noConfusion
  | cons bytes rest ih =>
    rw [readLoop]
    dsimp only
    split_ifs
    · exact ReadOutcome.noConfusion
    · exact ReadOutcome.noConfusion
    · exact ReadOutcome.noConfusion
    · exact ih

/-- A client that stops sending is answered. -/
theorem written_eof_isSome (views : Views) (reads : List Bytes) :
    (written views .eof reads).isSome := by
  rw [written, Option.isSome_map, handleConnection]
  split
  · rfl
  · rfl
  · next failed => exact absurd failed readLoop_eof_ne_failed

/-- A full buffer without a newline is all of the request that matters. -/
theorem readLoop_full_clear (full : buf.length = maxRequestBytes) (clear : newline ∉ buf)
    (front : request.take buf.length = buf) :
    newline ∉ request.take maxRequestBytes ∧ readLoop .eof buf reads =
      if maxRequestBytes ≤ request.length then .tooLong else .request request := by
  have long : maxRequestBytes ≤ request.length := by
    have sized := congrArg List.length front
    rw [List.length_take] at sized
    omega
  rw [← full, front, full, if_pos long]
  exact ⟨clear, readLoop_full full⟩

/-- What the loop makes of the bytes that are there in total: it stops somewhere behind a newline,
or there is none in reach and the outcome is fixed. -/
theorem readLoop_cases (small : buf.length ≤ maxRequestBytes) (clear : newline ∉ buf)
    (nonempty : ∀ bytes ∈ reads, bytes ≠ []) (whole : buf ++ reads.flatten = request) :
    (∃ count ≤ maxRequestBytes, newline ∈ request.take count ∧
      readLoop .eof buf reads = .request (request.take count)) ∨
    (newline ∉ request.take maxRequestBytes ∧ readLoop .eof buf reads =
      if maxRequestBytes ≤ request.length then .tooLong else .request request) := by
  induction reads generalizing buf with
  | nil =>
    right
    rw [List.flatten_nil, List.append_nil] at whole
    subst whole
    rw [List.take_of_length_le small]
    refine ⟨clear, ?_⟩
    by_cases full : buf.length = maxRequestBytes
    · simp [readLoop, full]
    · have room : ¬ maxRequestBytes ≤ buf.length := by omega
      simp [readLoop, full, room]
  | cons bytes rest ih =>
    by_cases full : buf.length = maxRequestBytes
    · right
      apply readLoop_full_clear full clear
      rw [← whole, List.take_left]
    · set taken := bytes.take (maxRequestBytes - buf.length) with takenEq
      have some : taken ≠ [] := by
        have given := nonempty bytes List.mem_cons_self
        simp only [takenEq, ne_eq, List.take_eq_nil_iff, not_or]
        exact ⟨by omega, given⟩
      have stays : (buf ++ taken).length ≤ maxRequestBytes := by
        simp only [takenEq, List.length_append, List.length_take]
        omega
      have front : request.take (buf ++ taken).length = buf ++ taken := by
        rw [← whole, List.flatten_cons,
          ← List.take_append_drop (maxRequestBytes - buf.length) bytes]
        simp only [← takenEq, List.append_assoc]
        rw [← List.append_assoc buf taken, List.take_left]
      rw [readLoop_cons full takenEq.symm some]
      by_cases found : newline ∈ buf ++ taken
      · left
        refine ⟨(buf ++ taken).length, stays, by rwa [front], ?_⟩
        rw [front, if_pos found]
      · rw [if_neg found]
        by_cases filled : (buf ++ taken).length = maxRequestBytes
        · exact .inr (readLoop_full_clear filled found front)
        · have all : taken = bytes := by
            apply List.take_of_length_le
            simp only [takenEq, List.length_append, List.length_take] at filled
            omega
          apply ih stays found (fun other member => nonempty other (List.mem_cons_of_mem _ member))
          rw [← whole, all, List.flatten_cons, List.append_assoc]

/-- A first read that has the newline ends the loop. -/
theorem readLoop_first {first : Bytes} (small : first.length ≤ maxRequestBytes)
    (found : newline ∈ first) : readLoop ending [] (first :: reads) = .request first := by
  have all : first.take (maxRequestBytes - ([] : Bytes).length) = first :=
    List.take_of_length_le small
  have some : first ≠ [] := List.ne_nil_of_mem found
  rw [readLoop_cons (by decide) all some, List.nil_append, if_pos found]

end Reading

section Answering

variable {line more : Bytes} {chars : List Char}

/-- A request is refused as unknown exactly if it names no endpoint. -/
theorem ofRequest_eq_unknownEndpoint_iff {text : String} :
    Response.ofRequest text = .unknownEndpoint ↔ text ∉ knownRequests := by
  unfold Response.ofRequest
  split_ifs <;> simp_all [knownRequests]

/-- The text of a line does not depend on what is behind it. -/
theorem requestText_append_newline (behind : List Char) :
    requestText (chars ++ '\n' :: behind) = requestText chars := by
  unfold requestText
  congr 2
  induction chars with
  | nil => rfl
  | cons c rest ih => simp only [List.cons_append, List.takeWhile_cons, ih]

/-- A newline is its own character. -/
theorem ascii_newline : Utf8.ascii newline = '\n' := by decide

/-- What is not text is no request. -/
theorem respond_of_decode_eq_none {buf : Bytes} (broken : Utf8.decode buf = none) :
    respond buf = .unknownEndpoint := by
  rw [respond, broken, ofRequest_eq_unknownEndpoint_iff]
  decide +kernel

/-- A request whose line is text is answered by that line, as long as what follows is text too. -/
theorem respond_of_line (read : Utf8.decode line = some chars) :
    respond (line ++ newline :: more) =
      if (Utf8.decode more).isSome then .ofRequest (requestText chars) else .unknownEndpoint := by
  have whole : Utf8.decode (line ++ newline :: more) =
      (Utf8.decode more).map fun behind => chars ++ '\n' :: behind := by
    rw [Utf8.decode_append read, Utf8.decode_cons_ascii (by decide), ascii_newline, Option.map_map]
    rfl
  cases readMore : Utf8.decode more with
  | none =>
    rw [readMore, Option.map_none] at whole
    rw [respond_of_decode_eq_none whole, if_neg (by simp)]
  | some behind =>
    rw [readMore, Option.map_some] at whole
    rw [respond, whole, Option.getD_some, requestText_append_newline, if_pos (by simp)]

/-- A line that asks for no endpoint is refused, whatever follows. -/
theorem respond_of_not_asksEndpoint (other : ¬ AsksEndpoint line) :
    respond (line ++ newline :: more) = .unknownEndpoint := by
  cases read : Utf8.decode line with
  | some chars =>
    have unknown : Response.ofRequest (requestText chars) = .unknownEndpoint :=
      ofRequest_eq_unknownEndpoint_iff.mpr fun known => other ⟨chars, read, known⟩
    rw [respond_of_line read, unknown, ite_self]
  | none =>
    cases whole : Utf8.decode (line ++ newline :: more) with
    | none => exact respond_of_decode_eq_none whole
    | some chars =>
      obtain ⟨before, -, readLine, -⟩ := Utf8.decode_cut (by decide) whole
      rw [read] at readLine
      cases readLine

/-- Behind a line that asks for an endpoint, the answers agree wherever the bytes are cut exactly
when all of them are small. -/
theorem respond_take_eq_iff (line rest : Bytes) :
    (∀ count count', respond (line ++ newline :: rest.take count) =
      respond (line ++ newline :: rest.take count')) ↔
    (AsksEndpoint line → ∀ byte ∈ rest, byte < 0x80) := by
  constructor
  · rintro same ⟨chars, read, known⟩
    apply Utf8.ascii_of_decode_take
    intro count
    by_contra broken
    have equal := same 0 count
    have empty : (Utf8.decode (rest.take 0)).isSome := rfl
    rw [respond_of_line read, respond_of_line read, if_pos empty, if_neg broken] at equal
    exact ofRequest_eq_unknownEndpoint_iff.mp equal known
  · intro small count count'
    by_cases asks : AsksEndpoint line
    · obtain ⟨chars, read, -⟩ := id asks
      have decodes (count : Nat) : (Utf8.decode (rest.take count)).isSome :=
        Utf8.decode_of_ascii fun byte member => small asks byte (List.mem_of_mem_take member)
      rw [respond_of_line read, respond_of_line read, if_pos (decodes count),
        if_pos (decodes count')]
    · rw [respond_of_not_asksEndpoint asks, respond_of_not_asksEndpoint asks]

end Answering

section Deliveries

variable {request : Bytes}

/-- The part of a request that counts is its line and what is behind it. -/
theorem take_eq_requestLine (found : newline ∈ request.take maxRequestBytes) :
    request.take maxRequestBytes = requestLine request ++ newline :: behindLine request := by
  unfold requestLine behindLine
  generalize request.take maxRequestBytes = bytes at found
  induction bytes with
  | nil => cases found
  | cons byte rest ih =>
    by_cases here : byte = newline
    · simp [here]
    · have later : newline ∈ rest := by
        obtain same | later := List.mem_cons.mp found
        · exact absurd same.symm here
        · exact later
      simpa [here] using ih later

/-- Without a newline nothing is behind the line. -/
theorem behindLine_eq_nil (absent : newline ∉ request.take maxRequestBytes) :
    behindLine request = [] := by
  have none : (request.take maxRequestBytes).dropWhile (· ≠ newline) = [] := by
    rw [List.dropWhile_eq_nil_iff]
    intro byte member
    exact decide_eq_true fun same => absent (same ▸ member)
  rw [behindLine, none, List.drop_nil]

/-- A request delivered in two reads, or in one when a part is empty. -/
def Delivery.cut (request : Bytes) (count : Nat) : Delivery request where
  reads := [request.take count, request.drop count].filter (· ≠ [])
  nonempty := by
    intro bytes member
    exact of_decide_eq_true (List.mem_filter.mp member).2
  whole := by
    rw [List.flatten_filter_ne_nil]
    simp

/-- A request in two pieces is read in two pieces, or one if the other is empty. -/
theorem Delivery.cut_reads (request : Bytes) (count : Nat) :
    (Delivery.cut request count).reads =
      [request.take count, request.drop count].filter (· ≠ []) := rfl

/-- The line ends at the first newline. -/
theorem newline_not_mem_requestLine : newline ∉ requestLine request := by
  intro member
  have other := List.mem_takeWhile_imp member
  simp at other

/-- A cut in reach that has the newline keeps the whole line. -/
theorem take_line_add (found : newline ∈ request.take maxRequestBytes) {count : Nat}
    (small : (requestLine request).length + 1 + count ≤ maxRequestBytes) :
    request.take ((requestLine request).length + 1 + count) =
      requestLine request ++ newline :: (behindLine request).take count := by
  rw [← Nat.min_eq_left small, ← List.take_take, take_eq_requestLine found, Nat.add_assoc,
    List.take_length_add_append, Nat.add_comm 1, List.take_succ_cons]

/-- Every delivery is answered by the line and some of what is behind it. -/
theorem exists_respond (found : newline ∈ request.take maxRequestBytes)
    (delivery : Delivery request) :
    ∃ count, handleConnection .eof delivery.reads =
      some (respond (requestLine request ++ newline :: (behindLine request).take count)) := by
  obtain ⟨count, small, inside, outcome⟩ | ⟨absent, -⟩ :=
    readLoop_cases (Nat.zero_le _) List.not_mem_nil delivery.nonempty delivery.whole
  · have past : (requestLine request).length + 1 ≤ count := by
      by_contra short
      have front : request.take count = (requestLine request).take count := by
        rw [← Nat.min_eq_left small, ← List.take_take, take_eq_requestLine found,
          List.take_append_of_le_length (by omega), Nat.min_eq_left small]
      rw [front] at inside
      exact newline_not_mem_requestLine (List.mem_of_mem_take inside)
    obtain ⟨more, rfl⟩ := Nat.exists_eq_add_of_le past
    refine ⟨more, ?_⟩
    simp only [handleConnection, outcome, take_line_add found small]
  · exact absurd found absent

/-- And every such answer is given to some delivery. -/
theorem exists_delivery (found : newline ∈ request.take maxRequestBytes) (count : Nat) :
    ∃ delivery : Delivery request, handleConnection .eof delivery.reads =
      some (respond (requestLine request ++ newline :: (behindLine request).take count)) := by
  set stop := (requestLine request).length + 1 + min count (behindLine request).length with stopEq
  have small : stop ≤ maxRequestBytes := by
    have sized := congrArg List.length (take_eq_requestLine found)
    rw [List.length_take, List.length_append, List.length_cons] at sized
    omega
  have front : request.take stop =
      requestLine request ++ newline :: (behindLine request).take count := by
    rw [stopEq, take_line_add found small, ← List.take_eq_take_min]
  have inside : newline ∈ request.take stop := by
    rw [front]
    exact List.mem_append_right _ List.mem_cons_self
  refine ⟨.cut request stop, ?_⟩
  have reads : (Delivery.cut request stop).reads =
      request.take stop :: [request.drop stop].filter (· ≠ []) := by
    rw [Delivery.cut_reads, List.filter_cons_of_pos]
    exact decide_eq_true (List.ne_nil_of_mem inside)
  have fits : (request.take stop).length ≤ maxRequestBytes :=
    (List.length_take_le ..).trans small
  rw [handleConnection, reads, readLoop_first fits inside, front]

/-- The response does not depend on how a request is delivered, unless its line asks for an endpoint
and bytes that are not ASCII stand behind the newline, in reach of the buffer. -/
theorem response_independent_iff (request : Bytes) :
    (∀ first second : Delivery request,
      handleConnection .eof first.reads = handleConnection .eof second.reads) ↔
    (AsksEndpoint (requestLine request) → ∀ byte ∈ behindLine request, byte < 0x80) := by
  by_cases found : newline ∈ request.take maxRequestBytes
  · rw [← respond_take_eq_iff]
    constructor
    · intro same count count'
      obtain ⟨first, answer⟩ := exists_delivery found count
      obtain ⟨second, answer'⟩ := exists_delivery found count'
      exact Option.some.inj (answer.symm.trans ((same first second).trans answer'))
    · intro same first second
      obtain ⟨count, answer⟩ := exists_respond found first
      obtain ⟨count', answer'⟩ := exists_respond found second
      rw [answer, answer', same count count']
  · have fixed (delivery : Delivery request) : readLoop .eof [] delivery.reads =
        if maxRequestBytes ≤ request.length then .tooLong else .request request := by
      obtain ⟨count, small, inside, -⟩ | ⟨-, outcome⟩ :=
        readLoop_cases (Nat.zero_le _) List.not_mem_nil delivery.nonempty delivery.whole
      · exact absurd (List.take_subset_take_left request small inside) found
      · exact outcome
    constructor
    · intro _ _ byte member
      rw [behindLine_eq_nil found] at member
      cases member
    · intro _ first second
      rw [handleConnection, handleConnection, fixed, fixed]

/-- The request `GET /`, with one more character behind the newline. -/
def accented : Bytes := [71, 69, 84, 32, 47, 10, 0xC3, 0xA9]

/-- It is answered when it comes as a whole, and not when the character is cut. -/
theorem accented_depends_on_reads :
    handleConnection .eof (Delivery.cut accented 8).reads = some .endpoints ∧
      handleConnection .eof (Delivery.cut accented 7).reads = some .unknownEndpoint := by
  decide +kernel

end Deliveries

end StatusRequest

end Pesigitg
