import Mathlib.Data.List.Induction
import Mathlib.Data.List.Pairwise
import Pesigitg.Base.Interleave

/-!
# Cells with one writer each

A writer updates a cell by a relaxed load and a separate relaxed store, without an atomic
read-modify-write. A cell is the list of the values it has had, so a relaxed load by another
thread is a read at any position that is not before one the thread has already seen there. The
writer of a cell sees its own latest store.

`outline` is what holds of every order of steps: no update is lost as long as only the owner of
a cell writes to it, and what a scanner reads of one cell never goes back.
-/

namespace Pesigitg.Base

/-- One value that a scan has read, and its position among the values of the cell. -/
structure Sight (Cell Value : Type) where
  cell : Cell
  index : Nat
  value : Value

/-- What a thread is doing. -/
inductive CellTask (Cell Value Update : Type) where
  | updating (todo : List (Cell × Update))
  | loaded (cell : Cell) (update : Update) (value : Value) (todo : List (Cell × Update))
  | scanning (rest : List Cell) (seen : List (Sight Cell Value))

/-- A thread with the positions up to which it has seen each cell. -/
structure CellUser (Cell Value Update : Type) where
  task : CellTask Cell Value Update
  view : Cell → Nat

/-- What a step did. -/
inductive CellEvent (Cell Value Update Request : Type) where
  | call (request : Request)
  | load (cell : Cell)
  | store (cell : Cell) (update : Update)
  | scan
  | read (sight : Sight Cell Value)
  | finish (seen : List (Sight Cell Value))

namespace CellTask

variable {Cell Value Update : Type}

/-- The updates that are still to be stored. -/
def todo : CellTask Cell Value Update → List (Cell × Update)
  | .updating todo => todo
  | .loaded cell update _ todo => (cell, update) :: todo
  | .scanning _ _ => []

/-- What the scan under way has read. -/
def seen : CellTask Cell Value Update → List (Sight Cell Value)
  | .scanning _ seen => seen
  | .updating _ | .loaded _ _ _ _ => []

end CellTask

section Cells

variable {Thread Cell Value Update Request : Type} [DecidableEq Cell]
variable (stored : Update → Value → Option Value) (asks : Request → List (Cell × Update))

/-- The values of a cell after one more update of its latest value. -/
def grow (values : List Value) (update : Update) : List Value :=
  match values.getLast?.bind (stored update) with
  | some next => values ++ [next]
  | none => values

/-- The values a cell has had after these updates. -/
def history (start : Value) (updates : List Update) : List Value :=
  updates.foldl (grow stored) [start]

/-- The value of a cell after these updates. -/
def settled (start : Value) (updates : List Update) : Value :=
  updates.foldl (fun value update => (stored update value).getD value) start

/-- The updates of a list that are for one cell. -/
def onCell (cell : Cell) (updates : List (Cell × Update)) : List Update :=
  (updates.filter fun update => update.1 = cell).map Prod.snd

/-- The updates of a cell that an event has stored. -/
def CellEvent.storedOn (cell : Cell) : CellEvent Cell Value Update Request → List Update
  | .store target update => onCell cell [(target, update)]
  | _ => []

/-- The updates of a cell that an event has asked for. -/
def CellEvent.askedOn (cell : Cell) : CellEvent Cell Value Update Request → List Update
  | .call request => onCell cell (asks request)
  | _ => []

/-- The scan that an event has finished. -/
def CellEvent.finished : CellEvent Cell Value Update Request → List (List (Sight Cell Value))
  | .finish seen => [seen]
  | _ => []

/-- The updates that have been stored in a cell, oldest first. -/
def updatesOn (cell : Cell) (log : List (Thread × CellEvent Cell Value Update Request)) :
    List Update :=
  log.flatMap fun step => step.2.storedOn cell

/-- The updates of a cell that have been asked for, oldest first. -/
def requestedOn (cell : Cell) (log : List (Thread × CellEvent Cell Value Update Request)) :
    List Update :=
  log.flatMap fun step => step.2.askedOn asks cell

/-- The scans a thread has finished, oldest first. -/
def scans [DecidableEq Thread] (thread : Thread)
    (log : List (Thread × CellEvent Cell Value Update Request)) : List (List (Sight Cell Value)) :=
  log.flatMap fun step => if step.1 = thread then step.2.finished else []

/-- One access. A scan reads the cells in the given order. -/
inductive CellStep (order : List Cell) :
    AtomicStep (CellUser Cell Value Update) (Cell → List Value)
      (CellEvent Cell Value Update Request) where
  | call {memory : Cell → List Value} {view : Cell → Nat} (request : Request) :
      CellStep order ⟨.updating [], view⟩ memory (.call request) ⟨.updating (asks request), view⟩
        memory
  | load {memory : Cell → List Value} {view : Cell → Nat} {cell : Cell} {update : Update}
      {todo : List (Cell × Update)} {value : Value} (latest : (memory cell).getLast? = some value) :
      CellStep order ⟨.updating ((cell, update) :: todo), view⟩ memory (.load cell)
        ⟨.loaded cell update value todo, view⟩ memory
  | store {memory : Cell → List Value} {view : Cell → Nat} {cell : Cell} {update : Update}
      {todo : List (Cell × Update)} {value next : Value}
      (writes : stored update value = some next) :
      CellStep order ⟨.loaded cell update value todo, view⟩ memory (.store cell update)
        ⟨.updating todo, view⟩ (Function.update memory cell (memory cell ++ [next]))
  | skip {memory : Cell → List Value} {view : Cell → Nat} {cell : Cell} {update : Update}
      {todo : List (Cell × Update)} {value : Value} (keeps : stored update value = none) :
      CellStep order ⟨.loaded cell update value todo, view⟩ memory (.store cell update)
        ⟨.updating todo, view⟩ memory
  | scan {memory : Cell → List Value} {view : Cell → Nat} :
      CellStep order ⟨.updating [], view⟩ memory .scan ⟨.scanning order [], view⟩ memory
  | read {memory : Cell → List Value} {view : Cell → Nat} {cell : Cell} {rest : List Cell}
      {seen : List (Sight Cell Value)} {index : Nat} {value : Value} (fresh : view cell ≤ index)
      (there : (memory cell)[index]? = some value) :
      CellStep order ⟨.scanning (cell :: rest) seen, view⟩ memory (.read ⟨cell, index, value⟩)
        ⟨.scanning rest (seen ++ [⟨cell, index, value⟩]), Function.update view cell index⟩ memory
  | finish {memory : Cell → List Value} {view : Cell → Nat} {seen : List (Sight Cell Value)} :
      CellStep order ⟨.scanning [] seen, view⟩ memory (.finish seen) ⟨.updating [], view⟩ memory

/-- Nobody is doing anything, nothing has been seen, and every cell has its first value. -/
def freshCells (initial : Cell → Value) :
    Machine Thread (CellUser Cell Value Update) (Cell → List Value) :=
  ⟨fun _ => ⟨.updating [], fun _ => 0⟩, fun cell => [initial cell]⟩

section Histories

variable {stored} {start : Value}

/-- One more update grows the history by at most its value. -/
theorem history_concat (updates : List Update) (update : Update) :
    history stored start (updates ++ [update]) =
      grow stored (history stored start updates) update := by
  rw [history, List.foldl_append]
  rfl

/-- The value after one more update, which may store nothing. -/
theorem settled_concat (updates : List Update) (update : Update) :
    settled stored start (updates ++ [update]) =
      (stored update (settled stored start updates)).getD (settled stored start updates) := by
  rw [settled, List.foldl_append]
  rfl

/-- An update that stores appends what it stored. -/
theorem grow_of_store {values : List Value} {update : Update} {value next : Value}
    (latest : values.getLast? = some value) (writes : stored update value = some next) :
    grow stored values update = values ++ [next] := by
  simp [grow, latest, writes]

/-- An update that stores nothing leaves the history alone. -/
theorem grow_of_skip {values : List Value} {update : Update} {value : Value}
    (latest : values.getLast? = some value) (keeps : stored update value = none) :
    grow stored values update = values := by
  simp [grow, latest, keeps]

/-- A history only ever grows at its end. -/
theorem prefix_grow (values : List Value) (update : Update) :
    values <+: grow stored values update := by
  unfold grow
  split
  · exact List.prefix_append _ _
  · exact List.prefix_rfl

/-- The latest value of a cell is the one its updates lead to. -/
theorem history_getLast (updates : List Update) :
    (history stored start updates).getLast? = some (settled stored start updates) := by
  induction updates using List.reverseRecOn with
  | nil => rfl
  | append_singleton updates update ih =>
    rw [history_concat, settled_concat]
    cases written : stored update (settled stored start updates) with
    | none =>
      rw [grow_of_skip ih written, ih]
      rfl
    | some next =>
      rw [grow_of_store ih written]
      simp

/-- Updates that only ever move a value up the order leave a rising history. -/
theorem history_pairwise {below : Value → Value → Prop} (refl : ∀ value, below value value)
    (trans : ∀ {first second third}, below first second → below second third → below first third)
    {updates : List Update}
    (rises : ∀ earlier update, earlier ++ [update] <+: updates → ∀ next,
      stored update (settled stored start earlier) = some next →
        below (settled stored start earlier) next) :
    (history stored start updates).Pairwise below ∧
      ∀ value ∈ history stored start updates, below value (settled stored start updates) := by
  induction updates using List.reverseRecOn with
  | nil =>
    refine ⟨List.pairwise_singleton _ _, ?_⟩
    intro value member
    cases List.mem_singleton.mp member
    exact refl start
  | append_singleton updates update ih =>
    obtain ⟨rising, bounded⟩ := ih fun earlier last before =>
      rises earlier last (before.trans (List.prefix_append _ _))
    have latest : (history stored start updates).getLast? = some (settled stored start updates) :=
      history_getLast updates
    rw [history_concat, settled_concat]
    cases written : stored update (settled stored start updates) with
    | none =>
      rw [grow_of_skip latest written]
      exact ⟨rising, bounded⟩
    | some next =>
      have up := rises updates update List.prefix_rfl next written
      rw [grow_of_store latest written, List.pairwise_append]
      refine ⟨⟨rising, List.pairwise_singleton _ _, ?_⟩, ?_⟩
      · intro value member last isLast
        cases List.mem_singleton.mp isLast
        exact trans (bounded value member) up
      · intro value member
        rcases List.mem_append.mp member with old | new
        · exact trans (bounded value old) up
        · cases List.mem_singleton.mp new
          exact refl next

end Histories

section Logs

variable {asks} {log : List (Thread × CellEvent Cell Value Update Request)} {thread : Thread}
  {event : CellEvent Cell Value Update Request} {cell : Cell}

/-- One more event adds its store to the updates of its cell. -/
theorem updatesOn_concat : updatesOn cell (log ++ [(thread, event)]) =
    updatesOn cell log ++ event.storedOn cell := by
  simp [updatesOn]

/-- One more event adds what it asks for to the requests on a cell. -/
theorem requestedOn_concat : requestedOn asks cell (log ++ [(thread, event)]) =
    requestedOn asks cell log ++ event.askedOn asks cell := by
  simp [requestedOn]

omit [DecidableEq Cell] in
/-- One more event adds a scan to those of its thread, if it finishes one. -/
theorem scans_concat [DecidableEq Thread] {other : Thread} :
    scans other (log ++ [(thread, event)]) =
      scans other log ++ if thread = other then event.finished else [] := by
  simp [scans]

/-- No updates, none on a cell. -/
@[simp] theorem onCell_nil : onCell cell ([] : List (Cell × Update)) = [] := rfl

/-- An update of the cell comes first on it. -/
theorem onCell_cons_self (update : Update) (updates : List (Cell × Update)) :
    onCell cell ((cell, update) :: updates) = update :: onCell cell updates := by
  simp [onCell]

/-- An update of another cell is not on it. -/
theorem onCell_cons_of_ne {target : Cell} (other : target ≠ cell) (update : Update)
    (updates : List (Cell × Update)) :
    onCell cell ((target, update) :: updates) = onCell cell updates := by
  simp [onCell, other]

/-- The first update on a cell can be split off. -/
theorem onCell_cons (target : Cell) (update : Update) (updates : List (Cell × Update)) :
    onCell cell ((target, update) :: updates) =
      onCell cell [(target, update)] ++ onCell cell updates := by
  by_cases same : target = cell
  · subst same
    rw [onCell_cons_self, onCell_cons_self]
    rfl
  · rw [onCell_cons_of_ne same, onCell_cons_of_ne same]
    rfl

/-- A cell whose updates lie elsewhere has none in the list. -/
theorem onCell_eq_nil {updates : List (Cell × Update)}
    (elsewhere : ∀ update ∈ updates, update.1 ≠ cell) : onCell cell updates = [] := by
  simpa [onCell] using elsewhere

end Logs

section Outline

variable {stored : Update → Value → Option Value} {asks : Request → List (Cell × Update)}
variable {owner : Cell → Thread} {order : List Cell} {initial : Cell → Value}
variable {log : List (Thread × CellEvent Cell Value Update Request)} {thread other : Thread}
variable {event : CellEvent Cell Value Update Request} {task : CellTask Cell Value Update}

/-- What one scan has of a cell is not before what an earlier one had. -/
def NotBefore (earlier later : List (Sight Cell Value)) : Prop :=
  ∀ first ∈ earlier, ∀ second ∈ later, first.cell = second.cell → first.index ≤ second.index

/-- The values a cell has had, by the log. -/
def historyOn (stored : Update → Value → Option Value) (initial : Cell → Value) (cell : Cell)
    (log : List (Thread × CellEvent Cell Value Update Request)) : List Value :=
  history stored (initial cell) (updatesOn cell log)

/-- What holds of a thread as a writer. -/
structure CellTask.Writes (stored : Update → Value → Option Value)
    (asks : Request → List (Cell × Update)) (owner : Cell → Thread)
    (initial : Cell → Value) (log : List (Thread × CellEvent Cell Value Update Request))
    (thread : Thread)
    (task : CellTask Cell Value Update) : Prop where
  /-- The updates left to do are those that have been asked for and not stored. -/
  pending : ∀ cell, owner cell = thread →
    updatesOn cell log ++ onCell cell task.todo = requestedOn asks cell log
  own : ∀ update ∈ task.todo, owner update.1 = thread
  /-- A loaded value is still the latest one. -/
  current : ∀ cell update value todo, task = .loaded cell update value todo →
    (historyOn stored initial cell log).getLast? = some value

/-- What holds of a thread as a reader. -/
structure CellUser.Reads [DecidableEq Thread] (stored : Update → Value → Option Value)
    (order : List Cell)
    (initial : Cell → Value) (log : List (Thread × CellEvent Cell Value Update Request))
    (thread : Thread)
    (user : CellUser Cell Value Update) : Prop where
  ordered : (scans thread log ++ [user.task.seen]).Pairwise NotBefore
  viewed : ∀ seen ∈ scans thread log ++ [user.task.seen], ∀ sight ∈ seen,
    sight.index ≤ user.view sight.cell
  placed : ∀ seen ∈ scans thread log ++ [user.task.seen], ∀ sight ∈ seen,
    (historyOn stored initial sight.cell log)[sight.index]? = some sight.value
  whole : ∀ seen ∈ scans thread log, seen.map Sight.cell = order
  underWay : ∀ rest seen, user.task = .scanning rest seen → seen.map Sight.cell ++ rest = order
  inside : ∀ cell, user.view cell < (historyOn stored initial cell log).length

section Growth

/-- A step extends the values of a cell. -/
theorem historyOn_grows (stored : Update → Value → Option Value) (initial : Cell → Value)
    (cell : Cell) (log : List (Thread × CellEvent Cell Value Update Request)) (thread : Thread)
    (event : CellEvent Cell Value Update Request) :
    historyOn stored initial cell log <+:
      historyOn stored initial cell (log ++ [(thread, event)]) := by
  rw [historyOn, historyOn, updatesOn_concat]
  cases event with
  | store target update =>
    by_cases same : target = cell
    · subst same
      simp only [CellEvent.storedOn, onCell_cons_self, onCell_nil, history_concat]
      exact prefix_grow _ _
    · simp only [CellEvent.storedOn, onCell_cons_of_ne same, onCell_nil, List.append_nil]
      exact List.prefix_rfl
  | _ => simp [CellEvent.storedOn]

/-- What has been read stays where it was read. -/
theorem placed_concat {sight : Sight Cell Value}
    (placed : (historyOn stored initial sight.cell log)[sight.index]? = some sight.value) :
    (historyOn stored initial sight.cell (log ++ [(thread, event)]))[sight.index]? =
      some sight.value := by
  obtain ⟨inside, -⟩ := List.getElem?_eq_some_iff.mp placed
  obtain ⟨later, longer⟩ := historyOn_grows stored initial sight.cell log thread event
  rw [← longer, List.getElem?_append_left inside]
  exact placed

/-- An event that stores nothing on a cell leaves its history alone. -/
theorem historyOn_concat_of_none {cell : Cell} (untouched : event.storedOn cell = []) :
    historyOn stored initial cell (log ++ [(thread, event)]) =
      historyOn stored initial cell log := by
  rw [historyOn, historyOn, updatesOn_concat, untouched, List.append_nil]

end Growth

namespace CellTask.Writes

/-- Steps that touch none of a writer's cells leave it alone. -/
theorem undisturbed (writes : task.Writes stored asks owner initial log thread)
    (apart : ∀ cell, owner cell = thread →
      event.storedOn cell = [] ∧ event.askedOn asks cell = []) :
    task.Writes stored asks owner initial (log ++ [(other, event)]) thread where
  pending := by
    intro cell owned
    rw [updatesOn_concat, requestedOn_concat, (apart cell owned).1, (apart cell owned).2,
      List.append_nil, List.append_nil]
    exact writes.pending cell owned
  own := writes.own
  current := by
    rintro cell update value todo rfl
    have owned : owner cell = thread := writes.own (cell, update) List.mem_cons_self
    rw [historyOn_concat_of_none (apart cell owned).1]
    exact writes.current cell update value todo rfl

/-- What a writer has asked for elsewhere does not matter. -/
theorem retask {next : CellTask Cell Value Update}
    (writes : task.Writes stored asks owner initial log thread) (same : next.todo = task.todo)
    (current : ∀ cell update value todo, next = .loaded cell update value todo →
      (historyOn stored initial cell log).getLast? = some value) :
    next.Writes stored asks owner initial log thread where
  pending := by
    intro cell owned
    rw [same]
    exact writes.pending cell owned
  own := by
    rw [same]
    exact writes.own
  current := current

/-- A call by the owner of the cells it asks for leaves exactly its updates to do. -/
theorem call {request : Request}
    (writes : (CellTask.updating []).Writes stored asks owner initial log thread)
    (owned : ∀ update ∈ asks request, owner update.1 = thread) :
    (CellTask.updating (asks request)).Writes stored asks owner initial
      (log ++ [(thread, .call request)]) thread where
  pending := by
    intro cell mine
    have before := writes.pending cell mine
    simp only [CellTask.todo, onCell_nil, List.append_nil] at before
    rw [updatesOn_concat, requestedOn_concat, before]
    simp [CellEvent.storedOn, CellEvent.askedOn, CellTask.todo]
  own := owned
  current := by
    rintro cell update value todo impossible
    cases impossible

/-- A store settles the update that its thread had loaded for. -/
theorem store {cell : Cell} {update : Update} {value : Value} {todo : List (Cell × Update)}
    (writes : (CellTask.loaded cell update value todo).Writes stored asks owner initial log
      thread) :
    (CellTask.updating todo).Writes stored asks owner initial
      (log ++ [(thread, .store cell update)]) thread where
  pending := by
    intro target mine
    have before := writes.pending target mine
    rw [CellTask.todo, onCell_cons, ← List.append_assoc] at before
    rw [updatesOn_concat, requestedOn_concat]
    simpa [CellEvent.storedOn, CellEvent.askedOn, CellTask.todo] using before
  own := fun update member => writes.own update (List.mem_cons_of_mem _ member)
  current := by
    rintro cell update value todo impossible
    cases impossible

end CellTask.Writes

namespace CellUser.Reads

variable [DecidableEq Thread] {user next : CellUser Cell Value Update}

/-- A step that finishes no scan of this thread. -/
theorem undisturbed (reads : user.Reads stored order initial log thread)
    (unfinished : other = thread → event.finished = []) :
    user.Reads stored order initial (log ++ [(other, event)]) thread := by
  have same : scans thread (log ++ [(other, event)]) = scans thread log := by
    rw [scans_concat]
    split
    · next isThread => rw [unfinished isThread, List.append_nil]
    · rw [List.append_nil]
  constructor
  · rw [same]
    exact reads.ordered
  · rw [same]
    exact reads.viewed
  · rw [same]
    exact fun seen member sight inside => placed_concat (reads.placed seen member sight inside)
  · rw [same]
    exact reads.whole
  · exact reads.underWay
  · exact fun cell => Nat.lt_of_lt_of_le (reads.inside cell)
      (historyOn_grows stored initial cell log other event).length_le

/-- A reader that has seen nothing more. -/
theorem retask (reads : user.Reads stored order initial log thread)
    (same : next.task.seen = user.task.seen) (view : next.view = user.view)
    (underWay : ∀ rest seen, next.task = .scanning rest seen →
      seen.map Sight.cell ++ rest = order) : next.Reads stored order initial log thread := by
  constructor
  · rw [same]
    exact reads.ordered
  · rw [same, view]
    exact reads.viewed
  · rw [same]
    exact reads.placed
  · exact reads.whole
  · exact underWay
  · rw [view]
    exact reads.inside

/-- Reading one more value. -/
theorem read {view : Cell → Nat} {cell : Cell} {rest : List Cell} {seen : List (Sight Cell Value)}
    {index : Nat} {value : Value}
    (reads : (⟨.scanning (cell :: rest) seen, view⟩ : CellUser Cell Value Update).Reads stored
      order initial log thread)
    (fresh : view cell ≤ index)
    (there : (historyOn stored initial cell log)[index]? = some value) :
    (⟨.scanning rest (seen ++ [⟨cell, index, value⟩]), Function.update view cell index⟩ :
      CellUser Cell Value Update).Reads stored order initial log thread := by
  obtain ⟨ordered, viewed, placed, whole, underWay, inRange⟩ := reads
  -- Every sight so far is in a finished scan or in this one, and the new one is the last.
  have cases_sight : ∀ {known : List (Sight Cell Value)} {sight : Sight Cell Value},
      known ∈ scans thread log ++ [seen ++ [⟨cell, index, value⟩]] → sight ∈ known →
      (∃ old ∈ scans thread log ++ [seen], sight ∈ old) ∨ sight = ⟨cell, index, value⟩ := by
    intro known sight member inside
    rcases List.mem_append.mp member with finished | last
    · exact .inl ⟨known, List.mem_append_left _ finished, inside⟩
    · cases List.mem_singleton.mp last
      rcases List.mem_append.mp inside with old | new
      · exact .inl ⟨seen, List.mem_append_right _ List.mem_cons_self, old⟩
      · exact .inr (List.mem_singleton.mp new)
  constructor
  · rw [List.pairwise_append] at ordered ⊢
    refine ⟨ordered.1, List.pairwise_singleton _ _, ?_⟩
    intro earlier finished later last first inEarlier second inLater same
    cases List.mem_singleton.mp last
    rcases List.mem_append.mp inLater with old | new
    · exact ordered.2.2 earlier finished seen List.mem_cons_self first inEarlier second old same
    · cases List.mem_singleton.mp new
      have seenTo := viewed earlier (List.mem_append_left _ finished) first inEarlier
      rw [same] at seenTo
      exact Nat.le_trans seenTo fresh
  · intro known member sight inside
    rcases cases_sight member inside with ⟨old, isOld, inOld⟩ | rfl
    · have seenTo := viewed old isOld sight inOld
      show sight.index ≤ Function.update view cell index sight.cell
      by_cases same : sight.cell = cell
      · rw [same] at seenTo ⊢
        rw [Function.update_self]
        exact Nat.le_trans seenTo fresh
      · rw [Function.update_of_ne same]
        exact seenTo
    · simp
  · intro known member sight inside
    rcases cases_sight member inside with ⟨old, isOld, inOld⟩ | rfl
    · exact placed old isOld sight inOld
    · exact there
  · exact whole
  · rintro rest' seen' ⟨⟩
    have before := underWay (cell :: rest) seen rfl
    simpa using before
  · intro target
    show Function.update view cell index target < _
    by_cases same : target = cell
    · subst same
      rw [Function.update_self]
      exact (List.getElem?_eq_some_iff.mp there).1
    · rw [Function.update_of_ne same]
      exact inRange target

/-- Handing over what a scan has read. -/
theorem finish {view : Cell → Nat} {seen : List (Sight Cell Value)}
    (reads : (⟨.scanning [] seen, view⟩ : CellUser Cell Value Update).Reads stored order
      initial log thread) :
    (⟨.updating [], view⟩ : CellUser Cell Value Update).Reads stored order initial
      (log ++ [(thread, .finish seen)]) thread := by
  obtain ⟨ordered, viewed, placed, whole, underWay, inRange⟩ := reads
  have grown : scans thread (log ++ [(thread, .finish seen)]) =
      scans thread log ++ [seen] := by
    rw [scans_concat, if_pos rfl]
    rfl
  -- The scan under way is now an empty one, which adds no sight.
  have cases_sight : ∀ {known : List (Sight Cell Value)} {sight : Sight Cell Value},
      known ∈ scans thread log ++ [seen] ++ [[]] → sight ∈ known →
      known ∈ scans thread log ++ [seen] := by
    intro known sight member inside
    rcases List.mem_append.mp member with old | last
    · exact old
    · cases List.mem_singleton.mp last
      cases inside
  constructor
  · rw [grown, List.pairwise_append]
    refine ⟨ordered, List.pairwise_singleton _ _, ?_⟩
    intro earlier _ later last first _ second inLater
    cases List.mem_singleton.mp last
    cases inLater
  · rw [grown]
    exact fun known member sight inside => viewed known (cases_sight member inside) sight inside
  · rw [grown]
    exact fun known member sight inside =>
      placed_concat (placed known (cases_sight member inside) sight inside)
  · rw [grown]
    intro known member
    rcases List.mem_append.mp member with old | last
    · exact whole known old
    · cases List.mem_singleton.mp last
      have complete := underWay [] seen rfl
      rwa [List.append_nil] at complete
  · rintro rest seen' impossible
    cases impossible
  · exact fun cell => Nat.lt_of_lt_of_le (inRange cell)
      (historyOn_grows stored initial cell log thread (.finish seen)).length_le

end CellUser.Reads

section Steps

variable {user next : CellUser Cell Value Update} {memory memory' : Cell → List Value}

/-- A step stores to and asks for cells of its own thread only. -/
theorem CellStep.apart (moved : CellStep stored asks order user memory event next memory')
    (writes : user.task.Writes stored asks owner initial log thread)
    (exclusive : ∀ request, event = .call request →
      ∀ update ∈ asks request, owner update.1 = thread)
    {cell : Cell} (foreign : owner cell ≠ thread) :
    event.storedOn cell = [] ∧ event.askedOn asks cell = [] := by
  have stored_elsewhere : ∀ {target : Cell} {update : Update} {value : Value}
      {todo : List (Cell × Update)}, user.task = .loaded target update value todo →
      onCell cell [(target, update)] = [] := by
    intro target update value todo standing
    have owned : owner target = thread :=
      writes.own (target, update) (by simp [standing, CellTask.todo])
    apply onCell_eq_nil
    rintro _ (_ | ⟨_, ⟨⟩⟩) rfl
    exact foreign owned
  cases moved with
  | call request =>
    refine ⟨rfl, onCell_eq_nil ?_⟩
    rintro update member rfl
    exact foreign (exclusive request rfl update member)
  | store written => exact ⟨stored_elsewhere rfl, rfl⟩
  | skip keeps => exact ⟨stored_elsewhere rfl, rfl⟩
  | load latest => exact ⟨rfl, rfl⟩
  | scan => exact ⟨rfl, rfl⟩
  | read fresh there => exact ⟨rfl, rfl⟩
  | finish => exact ⟨rfl, rfl⟩

/-- A step keeps the memory in step with the log. -/
theorem CellStep.memory_eq (moved : CellStep stored asks order user memory event next memory')
    (writes : user.task.Writes stored asks owner initial log thread)
    (stays : ∀ cell, memory cell = historyOn stored initial cell log) (cell : Cell) :
    memory' cell = historyOn stored initial cell (log ++ [(other, event)]) := by
  cases moved with
  | @store _ _ target update todo value written wrote =>
    have latest := writes.current target update value todo rfl
    by_cases same : cell = target
    · subst same
      rw [Function.update_self, stays, historyOn, historyOn, updatesOn_concat, CellEvent.storedOn,
        onCell_cons_self, onCell_nil, history_concat]
      exact (grow_of_store latest wrote).symm
    · rw [Function.update_of_ne same, stays, historyOn_concat_of_none]
      simp [CellEvent.storedOn, onCell_cons_of_ne (Ne.symm same)]
  | @skip _ _ target update todo value keeps =>
    have latest := writes.current target update value todo rfl
    by_cases same : cell = target
    · subst same
      rw [stays, historyOn, historyOn, updatesOn_concat, CellEvent.storedOn, onCell_cons_self,
        onCell_nil, history_concat]
      exact (grow_of_skip latest keeps).symm
    · rw [stays, historyOn_concat_of_none]
      simp [CellEvent.storedOn, onCell_cons_of_ne (Ne.symm same)]
  | call request => rw [stays, historyOn_concat_of_none rfl]
  | load latest => rw [stays, historyOn_concat_of_none rfl]
  | scan => rw [stays, historyOn_concat_of_none rfl]
  | read fresh there => rw [stays, historyOn_concat_of_none rfl]
  | finish => rw [stays, historyOn_concat_of_none rfl]

/-- A step keeps what holds of its thread as a writer. -/
theorem CellStep.writes (moved : CellStep stored asks order user memory event next memory')
    (writes : user.task.Writes stored asks owner initial log thread)
    (stays : ∀ cell, memory cell = historyOn stored initial cell log)
    (exclusive : ∀ request, event = .call request →
      ∀ update ∈ asks request, owner update.1 = thread) :
    next.task.Writes stored asks owner initial (log ++ [(thread, event)]) thread := by
  have quiet : (∀ cell, event.storedOn cell = [] ∧ event.askedOn asks cell = []) →
      user.task.Writes stored asks owner initial (log ++ [(thread, event)]) thread :=
    fun nothing => writes.undisturbed fun cell _ => nothing cell
  cases moved with
  | call request => exact writes.call (exclusive request rfl)
  | store written => exact writes.store
  | skip keeps => exact writes.store
  | @load _ _ cell update todo value latest =>
    refine (quiet fun _ => ⟨rfl, rfl⟩).retask rfl ?_
    rintro target update value todo ⟨⟩
    rw [historyOn_concat_of_none rfl, ← stays]
    exact latest
  | scan => exact (quiet fun _ => ⟨rfl, rfl⟩).retask rfl nofun
  | read fresh there => exact (quiet fun _ => ⟨rfl, rfl⟩).retask rfl nofun
  | finish => exact (quiet fun _ => ⟨rfl, rfl⟩).retask rfl nofun

/-- A step keeps what holds of its thread as a reader. -/
theorem CellStep.reads [DecidableEq Thread]
    (moved : CellStep stored asks order user memory event next memory')
    (reads : user.Reads stored order initial log thread)
    (stays : ∀ cell, memory cell = historyOn stored initial cell log) :
    next.Reads stored order initial (log ++ [(thread, event)]) thread := by
  cases moved with
  | call request => exact (reads.undisturbed fun _ => rfl).retask rfl rfl nofun
  | load latest => exact (reads.undisturbed fun _ => rfl).retask rfl rfl nofun
  | store written => exact (reads.undisturbed fun _ => rfl).retask rfl rfl nofun
  | skip keeps => exact (reads.undisturbed fun _ => rfl).retask rfl rfl nofun
  | scan =>
    refine (reads.undisturbed fun _ => rfl).retask rfl rfl ?_
    rintro rest seen ⟨⟩
    rfl
  | read fresh there =>
    rw [stays] at there
    exact (reads.read fresh there).undisturbed fun _ => rfl
  | finish => exact reads.finish

end Steps

omit [DecidableEq Cell] in
/-- Two lists of sights of the same cells, compared cell by cell. -/
theorem forall₂_of_cells {holds : Sight Cell Value → Sight Cell Value → Prop}
    {first second : List (Sight Cell Value)}
    (same : first.map Sight.cell = second.map Sight.cell)
    (each : ∀ left ∈ first, ∀ right ∈ second, left.cell = right.cell → holds left right) :
    List.Forall₂ holds first second := by
  induction first generalizing second with
  | nil =>
    rw [List.map_nil, eq_comm, List.map_eq_nil_iff] at same
    subst same
    exact .nil
  | cons left first ih =>
    cases second with
    | nil => simp at same
    | cons right second =>
      simp only [List.map_cons, List.cons.injEq] at same
      refine .cons (each left List.mem_cons_self right List.mem_cons_self same.1) (ih same.2 ?_)
      exact fun left' inLeft right' inRight =>
        each left' (List.mem_cons_of_mem _ inLeft) right' (List.mem_cons_of_mem _ inRight)

/-- Whatever the order of the steps, if threads only ask for updates of their own cells, then
every cell has had the values its stored updates give, every writer has stored all it was asked
for except what is still to do, and no reader sees a cell go back. -/
theorem Interleaving.cells [DecidableEq Thread] (owner : Cell → Thread)
    {allowed : Allowed Thread (CellUser Cell Value Update) (Cell → List Value)
      (CellEvent Cell Value Update Request)}
    (exclusive : ∀ log machine thread request, allowed log machine thread (.call request) →
      ∀ update ∈ asks request, owner update.1 = thread)
    {machine : Machine Thread (CellUser Cell Value Update) (Cell → List Value)}
    (run : Interleaving (CellStep stored asks order) allowed (freshCells initial) log machine) :
    (∀ cell, machine.shared cell = historyOn stored initial cell log) ∧
      ∀ thread, (machine.threads thread).task.Writes stored asks owner initial log thread ∧
        (machine.threads thread).Reads stored order initial log thread := by
  refine run.outline (fun log memory => ∀ cell, memory cell = historyOn stored initial cell log)
    (fun log thread user => user.task.Writes stored asks owner initial log thread ∧
      user.Reads stored order initial log thread) ?_ ?_
  · refine ⟨fun cell => rfl, fun thread => ⟨⟨?_, ?_, ?_⟩, ?_, ?_, ?_, ?_, ?_, ?_⟩⟩
    all_goals simp [freshCells, historyOn, history, updatesOn, requestedOn, scans, CellTask.todo,
      CellTask.seen]
  · intro log machine thread event next memory permitted stays holds moved
    obtain ⟨writes, reads⟩ := holds thread
    have own : ∀ request, event = .call request →
        ∀ update ∈ asks request, owner update.1 = thread := by
      rintro request rfl
      exact exclusive log machine thread request permitted
    refine ⟨moved.memory_eq writes stays,
      ⟨moved.writes writes stays own, moved.reads reads stays⟩, ?_⟩
    intro other distinct
    refine ⟨(holds other).1.undisturbed ?_, (holds other).2.undisturbed ?_⟩
    · rintro cell rfl
      exact moved.apart writes own distinct
    · intro same
      exact absurd same.symm distinct

section Alone

variable [DecidableEq Thread]
  {allowed : Allowed Thread (CellUser Cell Value Update) (Cell → List Value)
    (CellEvent Cell Value Update Request)}
  {start machine : Machine Thread (CellUser Cell Value Update) (Cell → List Value)}

/-- The latest value of a cell that has had one. -/
def latestSight (memory : Cell → List Value) (values : Cell → Value) (cell : Cell) :
    Sight Cell Value :=
  ⟨cell, (memory cell).length - 1, values cell⟩

/-- The reads of a thread that finds these values. -/
def readsOf (thread : Thread) (memory : Cell → List Value) (values : Cell → Value)
    (cells : List Cell) : List (Thread × CellEvent Cell Value Update Request) :=
  cells.map fun cell => (thread, .read (latestSight memory values cell))

omit [DecidableEq Cell] in
/-- Reading finishes no scan. -/
theorem scans_append_readsOf (memory : Cell → List Value) (values : Cell → Value)
    (cells : List Cell) :
    scans thread (log ++ readsOf thread memory values cells) = scans thread log := by
  rw [scans, List.flatMap_append, readsOf, List.flatMap_map]
  simp [scans, CellEvent.finished]

/-- A scanner that goes on by itself can read the latest value of every cell it has left. -/
theorem Interleaving.scan_alone {values : Cell → Value}
    (reading : ∀ log machine sight, allowed log machine thread (.read sight))
    {rest : List Cell} {seen : List (Sight Cell Value)} {view : Cell → Nat}
    (run : Interleaving (CellStep stored asks order) allowed start log machine)
    (standing : machine.threads thread = ⟨.scanning rest seen, view⟩)
    (latest : ∀ cell, (machine.shared cell).getLast? = some (values cell))
    (inside : ∀ cell, view cell < (machine.shared cell).length) :
    ∃ machine' view', Interleaving (CellStep stored asks order) allowed start
        (log ++ readsOf thread machine.shared values rest) machine' ∧
      machine'.shared = machine.shared ∧
      (∀ other, other ≠ thread → machine'.threads other = machine.threads other) ∧
      machine'.threads thread =
        ⟨.scanning [] (seen ++ rest.map (latestSight machine.shared values)), view'⟩ := by
  induction rest generalizing seen view log machine with
  | nil =>
    exact ⟨machine, view, by simpa [readsOf] using run, rfl, fun _ _ => rfl,
      by simpa using standing⟩
  | cons cell rest ih =>
    have there : (machine.shared cell)[(machine.shared cell).length - 1]? = some (values cell) := by
      rw [← List.getLast?_eq_getElem?]
      exact latest cell
    have fresh : view cell ≤ (machine.shared cell).length - 1 := Nat.le_sub_one_of_lt (inside cell)
    have step := run.advance thread standing (reading _ _ _) (.read fresh there)
    obtain ⟨machine', view', rerun, same, others, ended⟩ := ih step
      (Machine.move_threads_self _ _ _ _) latest (by
        intro target
        rw [Machine.move_shared]
        by_cases isCell : target = cell
        · subst isCell
          rw [Function.update_self]
          have := inside target
          omega
        · rw [Function.update_of_ne isCell]
          exact inside target)
    refine ⟨machine', view', ?_, same, ?_, ?_⟩
    · rw [List.append_assoc] at rerun
      exact rerun
    · intro other distinct
      rw [others other distinct, Machine.move_threads_of_ne _ _ _ _ distinct]
    · rw [ended, Machine.move_shared, List.append_assoc]
      rfl

end Alone

end Outline

end Cells

end Pesigitg.Base
