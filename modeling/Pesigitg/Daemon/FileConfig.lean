import Pesigitg.Common.Text

/-!
# The daemon config file

`FileConfig::from_file` reads `key = value` lines into a record that starts from the built-in
defaults, so the record alone does not tell a default from a value the file sets.
`FileSettings` keeps the two apart, and `fromFile_settings` relates the record to it.
-/

namespace Pesigitg

open Base

def defaultPort : UInt16 := 443

def defaultIntf : String := "eth0"

def defaultQueues : UInt32 := 1

def maxQueues : UInt32 := 256

def maxConfigSize : UInt64 := 1000000

section Numbers

/-- `std::num::ParseIntError`, as far as an unsigned type can raise it. -/
inductive ParseIntError where
  | empty
  | invalidDigit
  | posOverflow
deriving DecidableEq, Repr

/-- Accumulate decimal digits below a bound. -/
def decimalDigits (bound : Nat) : List Char → Nat → Except ParseIntError Nat
  | [], value => .ok value
  | c :: rest, value =>
    match toDigit 10 c with
    | none => .error .invalidDigit
    | some digit =>
      if value * 10 + digit < bound then decimalDigits bound rest (value * 10 + digit)
      else .error .posOverflow

/-- `str::parse` for the unsigned integers below a bound. A leading plus sign is accepted. -/
def parseUnsigned (bound : Nat) (chars : List Char) : Except ParseIntError Nat :=
  match chars with
  | [] => .error .empty
  | ['+'] => .error .invalidDigit
  | ['-'] => .error .invalidDigit
  | '+' :: digits => decimalDigits bound digits 0
  | digits => decimalDigits bound digits 0

/-- `str::parse::<u16>`. -/
def parseU16 (chars : List Char) : Except ParseIntError UInt16 :=
  (parseUnsigned (2 ^ 16) chars).map UInt16.ofNat

/-- `str::parse::<u32>`. -/
def parseU32 (chars : List Char) : Except ParseIntError UInt32 :=
  (parseUnsigned (2 ^ 32) chars).map UInt32.ofNat

/-- The value of a decimal digit. -/
theorem toDigit_of_isDigit {c : Char} (digit : c.isDigit) :
    toDigit 10 c = some (c.toNat - '0'.toNat) := by
  rw [Char.isDigit_iff_toNat] at digit
  have low : '0' ≤ c := by
    rw [Char.le_def, UInt32.le_iff_toNat_le]
    exact digit.1
  have high : c ≤ '9' := by
    rw [Char.le_def, UInt32.le_iff_toNat_le]
    exact digit.2
  have small : c.toNat - '0'.toNat < 10 :=
    Nat.sub_lt_right_of_lt_add digit.1 (Nat.lt_succ_of_le digit.2)
  simp only [toDigit, low, high, and_self, if_true, small]

/-- Digits are read as the number they write, as long as that is below the bound. -/
theorem decimalDigits_eq_ok {bound : Nat} {digits : List Char} {value : Nat}
    (digit : ∀ c ∈ digits, c.isDigit) (below : Nat.ofDigitChars 10 digits value < bound) :
    decimalDigits bound digits value = .ok (Nat.ofDigitChars 10 digits value) := by
  induction digits generalizing value with
  | nil => rfl
  | cons c rest ih =>
    rw [Nat.ofDigitChars_cons, Nat.mul_comm] at below ⊢
    -- Later digits only make the number larger.
    have sofar : value * 10 + (c.toNat - '0'.toNat) < bound := by
      refine lt_of_le_of_lt ?_ below
      rw [Nat.ofDigitChars_eq_ofDigitChars_zero]
      exact le_add_right (Nat.le_mul_of_pos_left _ (Nat.pow_pos (by decide)))
    rw [decimalDigits, toDigit_of_isDigit (digit c List.mem_cons_self)]
    simp only [sofar, if_true]
    exact ih (fun d member => digit d (List.mem_cons_of_mem _ member)) below

/-- Digits without a sign are read as they are. -/
theorem parseUnsigned_eq_decimalDigits {bound : Nat} {digits : List Char} (some : digits ≠ [])
    (digit : ∀ c ∈ digits, c.isDigit) :
    parseUnsigned bound digits = decimalDigits bound digits 0 := by
  unfold parseUnsigned
  split
  · contradiction
  · exact absurd (digit _ List.mem_cons_self) (by decide)
  · exact absurd (digit _ List.mem_cons_self) (by decide)
  · exact absurd (digit _ List.mem_cons_self) (by decide)
  · rfl

/-- What `Display` writes of a number, `str::parse` reads back. -/
theorem parseU32_toString (value : UInt32) : parseU32 (toString value).toList = .ok value := by
  have written : (toString value).toList = Nat.toDigits 10 value.toNat := Nat.toList_repr
  have digit : ∀ c ∈ Nat.toDigits 10 value.toNat, c.isDigit :=
    fun c member => Nat.isDigit_of_mem_toDigits (by decide) (by decide) member
  have below : Nat.ofDigitChars 10 (Nat.toDigits 10 value.toNat) 0 < 2 ^ 32 := by
    rw [Nat.ofDigitChars_ten_toDigits]
    exact value.toNat_lt
  rw [parseU32, written, parseUnsigned_eq_decimalDigits Nat.toDigits_ne_nil digit,
    decimalDigits_eq_ok digit below, Nat.ofDigitChars_ten_toDigits]
  simp only [Except.map, UInt32.ofNat_toNat]

end Numbers

section Lines

/-- `str::split_inclusive`: every piece keeps its separator. -/
def splitInclusive (separator : Char) : List Char → List (List Char)
  | [] => []
  | c :: rest =>
    if c = separator then [c] :: splitInclusive separator rest
    else
      match splitInclusive separator rest with
      | [] => [[c]]
      | piece :: pieces => (c :: piece) :: pieces

/-- Remove one line ending. -/
def stripLineEnding (line : List Char) : List Char :=
  match line.reverse with
  | '\n' :: '\r' :: front => front.reverse
  | '\n' :: front => front.reverse
  | _ => line

/-- `str::lines`. -/
def lines (text : String) : List (List Char) :=
  (splitInclusive '\n' text.toList).map stripLineEnding

/-- `str::split_once`. -/
def splitOnce (separator : Char) (chars : List Char) : Option (List Char × List Char) :=
  match chars.dropWhile (· ≠ separator) with
  | [] => none
  | _ :: value => some (chars.takeWhile (· ≠ separator), value)

/-- `str::trim` on a part of a line. -/
def trimPart (part : List Char) : List Char := trim (String.ofList part)

end Lines

/-- The keys a file may set. -/
inductive FileKey where
  | port
  | interface
  | queues
  | routeConfig
  | statusSocket
deriving DecidableEq, Repr

def FileKey.ofText (text : String) : Option FileKey :=
  if text = "port" then some .port
  else if text = "interface" then some .interface
  else if text = "queues" then some .queues
  else if text = "route_config" then some .routeConfig
  else if text = "status_socket" then some .statusSocket
  else none

/-- What a line sets. Comments, lines without a separator and unknown keys set nothing; the last
two are warned about. -/
def directive (line : List Char) : Option (FileKey × List Char) :=
  let line := trimPart line
  if line = [] ∨ line.head? = some '#' then none
  else do
    let (key, value) ← splitOnce '=' line
    let key ← FileKey.ofText (String.ofList (trimPart key))
    pure (key, trimPart value)

def directives (text : String) : List (FileKey × List Char) := (lines text).filterMap directive

structure FileConfig where
  ports : List UInt16
  interface : String
  queues : UInt32
  routeConfig : Option String
  statusSocket : Option String
deriving DecidableEq, Repr

inductive FileConfigError where
  | io (message : String)
  | parseInt (kind : ParseIntError)
  | bail (message : String)
deriving DecidableEq, Repr

/-- What `std::path` computes from a path, and how a byte count is displayed. -/
structure PathOps where
  isRelative : String → Bool
  parent : String → Option String
  join : String → String → String
  byteSize : UInt64 → String

/-- A file as the reader finds it: its size and its text. -/
structure ConfigFile where
  metadata : Except String UInt64
  content : Except String String

namespace FileConfig

def initial : FileConfig := ⟨[], defaultIntf, defaultQueues, none, none⟩

/-- One round of the loop over the lines, for a line that sets a key. -/
def applyDirective (paths : PathOps) (path : String) (config : FileConfig) :
    FileKey × List Char → Except FileConfigError FileConfig
  | (.port, value) =>
    match parseU16 value with
    | .error kind => .error (.parseInt kind)
    | .ok port => .ok { config with ports := config.ports ++ [port] }
  | (.interface, value) => .ok { config with interface := String.ofList value }
  | (.queues, value) =>
    match parseU32 value with
    | .error kind => .error (.parseInt kind)
    | .ok queues =>
      if queues = 0 ∨ maxQueues < queues then
        .error (.bail s!"queues must be between 1 and {maxQueues}")
      else .ok { config with queues := queues }
  | (.routeConfig, value) =>
    let target := String.ofList value
    .ok { config with
      routeConfig := some
        (if paths.isRelative target then paths.join ((paths.parent path).getD path) target
         else target) }
  | (.statusSocket, value) =>
    if value = [] then .ok config
    else .ok { config with statusSocket := some (String.ofList value) }

/-- `FileConfig::from_file`. -/
def fromFile (paths : PathOps) (path : String) (file : ConfigFile) :
    Except FileConfigError FileConfig :=
  match file.metadata with
  | .error message => .error (.io message)
  | .ok size =>
    if maxConfigSize < size then
      .error (.bail s!"config file exceeds {size} limit ({paths.byteSize size} bytes)")
    else
      match file.content with
      | .error message => .error (.io message)
      | .ok text => (directives text).foldlM (applyDirective paths path) initial

end FileConfig

/-- The settings a file makes, with nothing filled in. -/
@[ext] structure FileSettings where
  ports : List UInt16
  interface : Option String
  queues : Option UInt32
deriving DecidableEq, Repr

/-- The values given for a key, in the order of the file. -/
def valuesOf (key : FileKey) (entries : List (FileKey × List Char)) : List (List Char) :=
  entries.filterMap fun entry => if entry.1 = key then some entry.2 else none

/-- Every port counts; of the other keys the last line does. -/
def FileSettings.ofEntries (entries : List (FileKey × List Char)) : FileSettings where
  ports := (valuesOf .port entries).filterMap fun value => (parseU16 value).toOption
  interface := (valuesOf .interface entries).getLast?.map String.ofList
  queues := ((valuesOf .queues entries).filterMap fun value => (parseU32 value).toOption).getLast?

/-- The settings of a file that can be read. -/
def ConfigFile.settings (file : ConfigFile) : FileSettings :=
  match file.content with
  | .error _ => ⟨[], none, none⟩
  | .ok text => .ofEntries (directives text)

/-- A record that continues another one by some settings. -/
structure FileSettings.Continues (settings : FileSettings) (before after : FileConfig) : Prop where
  ports : after.ports = before.ports ++ settings.ports
  interface : after.interface = settings.interface.getD before.interface
  queues : after.queues = settings.queues.getD before.queues

/-- The queue count of a record can be bound. -/
def FileConfig.Bindable (config : FileConfig) : Prop :=
  config.queues ≠ 0 ∧ config.queues ≤ maxQueues

section Loop

variable {paths : PathOps} {path : String} {config middle after : FileConfig}
  {entry : FileKey × List Char} {entries : List (FileKey × List Char)}

/-- A line adds what it sets, and keeps the queue count in range. -/
theorem applyDirective_step
    (done : FileConfig.applyDirective paths path config entry = .ok after) :
    (FileSettings.ofEntries [entry]).Continues config after ∧
      (config.Bindable → after.Bindable) := by
  obtain ⟨key, value⟩ := entry
  cases key with
  | port =>
    simp only [FileConfig.applyDirective] at done
    split at done
    · cases done
    · next port read =>
      cases done
      refine ⟨?_, id⟩
      constructor <;> simp [FileSettings.ofEntries, valuesOf, read, Except.toOption]
  | interface =>
    cases done
    refine ⟨?_, id⟩
    constructor <;> simp [FileSettings.ofEntries, valuesOf]
  | queues =>
    simp only [FileConfig.applyDirective] at done
    split at done
    · cases done
    · next queues read =>
      split at done
      · cases done
      · next inRange =>
        cases done
        rw [not_or, UInt32.not_lt] at inRange
        refine ⟨?_, fun _ => inRange⟩
        constructor <;> simp [FileSettings.ofEntries, valuesOf, read, Except.toOption]
  | routeConfig =>
    cases done
    refine ⟨?_, id⟩
    constructor <;> simp [FileSettings.ofEntries, valuesOf]
  | statusSocket =>
    simp only [FileConfig.applyDirective] at done
    split at done
    · cases done
      refine ⟨?_, id⟩
      constructor <;> simp [FileSettings.ofEntries, valuesOf]
    · cases done
      refine ⟨?_, id⟩
      constructor <;> simp [FileSettings.ofEntries, valuesOf]

/-- Settings made by a first line and by the lines after it. -/
theorem FileSettings.ofEntries_cons :
    FileSettings.ofEntries (entry :: entries) =
      ⟨(ofEntries [entry]).ports ++ (ofEntries entries).ports,
        (ofEntries entries).interface.or (ofEntries [entry]).interface,
        (ofEntries entries).queues.or (ofEntries [entry]).queues⟩ := by
  have split (key : FileKey) :
      valuesOf key (entry :: entries) = valuesOf key [entry] ++ valuesOf key entries := by
    rw [valuesOf, ← List.singleton_append, List.filterMap_append]
    rfl
  ext1
  · simp only [ofEntries, split, List.filterMap_append]
  · simp only [ofEntries, split, List.getLast?_append, Option.map_or]
  · simp only [ofEntries, split, List.filterMap_append, List.getLast?_append]

/-- The settings of an entry and of those behind it add up. -/
theorem FileSettings.Continues.cons (first : (ofEntries [entry]).Continues config middle)
    (rest : (ofEntries entries).Continues middle after) :
    (ofEntries (entry :: entries)).Continues config after := by
  rw [ofEntries_cons]
  refine ⟨?_, ?_, ?_⟩
  · rw [rest.ports, first.ports, List.append_assoc]
  · rw [rest.interface, first.interface]
    cases (ofEntries entries).interface <;> rfl
  · rw [rest.queues, first.queues]
    cases (ofEntries entries).queues <;> rfl

/-- The loop over the lines collects the settings and keeps the queue count in range. -/
theorem foldlM_continues (bindable : config.Bindable)
    (done : entries.foldlM (FileConfig.applyDirective paths path) config = .ok after) :
    (FileSettings.ofEntries entries).Continues config after ∧ after.Bindable := by
  induction entries generalizing config with
  | nil =>
    cases done
    exact ⟨⟨by simp [FileSettings.ofEntries, valuesOf], rfl, rfl⟩, bindable⟩
  | cons entry entries ih =>
    rw [List.foldlM_cons] at done
    cases first : FileConfig.applyDirective paths path config entry with
    | error failure =>
      rw [first] at done
      cases done
    | ok middle =>
      rw [first] at done
      obtain ⟨sets, keeps⟩ := applyDirective_step first
      obtain ⟨continues, bound⟩ := ih (keeps bindable) done
      exact ⟨sets.cons continues, bound⟩

end Loop

/-- An accepted file: its settings, over the built-in defaults. -/
theorem fromFile_settings {paths : PathOps} {path : String} {file : ConfigFile}
    {config : FileConfig} (accepted : FileConfig.fromFile paths path file = .ok config) :
    config.ports = file.settings.ports ∧
      config.interface = file.settings.interface.getD defaultIntf ∧
      config.queues = file.settings.queues.getD defaultQueues ∧ config.Bindable := by
  unfold FileConfig.fromFile at accepted
  split at accepted
  · cases accepted
  · split at accepted
    · cases accepted
    · split at accepted
      · cases accepted
      · next text read =>
        have bindable : FileConfig.initial.Bindable := ⟨by decide, by decide⟩
        obtain ⟨continues, bound⟩ := foldlM_continues bindable accepted
        have settings : file.settings = .ofEntries (directives text) := by
          simp only [ConfigFile.settings, read]
        rw [settings]
        exact ⟨by simpa [FileConfig.initial] using continues.ports, continues.interface,
          continues.queues, bound⟩

end Pesigitg
