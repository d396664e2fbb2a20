import Courier.Memory.World
import Courier.Proofs.Memory.Answer
import Courier.Proofs.Program.Crew
import Courier.Status.Tracking

/-!
Workers that race for the rows of one status table, while other systems write it too. A worker
decides on a row that it has read before; `racing_transitions` says that its decision takes effect
only if it is still right.
-/

namespace Courier

open Memory Program

/-- What a worker does about its row. -/
inductive TableTask where
  /-- It moves the row on if it is due. -/
  | advance
  /-- It counts one more sent file. -/
  | countSent
  deriving DecidableEq, Repr

/-- The errand of a task. Only moving on tells the worker something about the row. -/
def TableTask.errand (tracker : Tracker) : TableTask → Errand (Option CollectionState)
  | advance => do return some (← tracker.advance)
  | countSent => do tracker.countSent; return none

/-- Workers on one table, with the tasks they are at. -/
structure Race where
  world : World
  crew : Crew Tracker Call.Answer (Except Failure (Option CollectionState))

/-- What happens in a race. -/
inductive Happening where
  | began (tracker : Tracker) (task : TableTask)
  | asked (tracker : Tracker) (turn : Turn Call.Answer)
  | waited (tracker : Tracker) (nanos : Nat)
  | ended (tracker : Tracker) (result : Except Failure (Option CollectionState))
  /-- Another system has written a row. -/
  | wrote (key : String × String) (row : Row)

/-- No counter of the row is below zero. -/
def Memory.Row.NonNegative (row : Row) : Prop :=
  0 ≤ row.exported.getD 0 ∧ 0 ≤ row.sent.getD 0

/-- No counter in the table is below zero. -/
def Memory.Table.NonNegative (table : Table) : Prop :=
  ∀ key row, find? table key = some row → row.NonNegative

/-- The steps of a race. Any worker may begin a task at any time, besides others of its own, and any
    of the tasks may go on. Other systems write rows by steps of their own. -/
inductive Race.Step : Race → Happening → Race → Prop
  | begin (race : Race) (tracker : Tracker) (task : TableTask) :
    Step race (.began tracker task)
      { race with crew := (tracker, (task.errand tracker).run) :: race.crew }
  | ask {race : Race} {tracker : Tracker} (call : Call)
    {crew : Crew Tracker Call.Answer (Except Failure (Option CollectionState))}
    (hmove : race.crew.Move tracker (some ⟨call, (race.world.answer call).1⟩) crew) :
    Step race (.asked tracker ⟨call, (race.world.answer call).1⟩)
      ⟨(race.world.answer call).2, crew⟩
  | wait {race : Race} {tracker : Tracker} (nanos : Nat)
    {crew : Crew Tracker Call.Answer (Except Failure (Option CollectionState))}
    (hmove : race.crew.Move tracker none crew) :
    Step race (.waited tracker nanos) ⟨race.world.pass nanos, crew⟩
  | finish (world : World) (tracker : Tracker) (result : Except Failure (Option CollectionState))
    (front back : Crew Tracker Call.Answer (Except Failure (Option CollectionState))) :
    Step ⟨world, front ++ (tracker, .done result) :: back⟩ (.ended tracker result)
      ⟨world, front ++ back⟩
  | write (race : Race) (key : String × String) (row : Row) (hrow : row.NonNegative) :
    Step race (.wrote key row) { race with world := race.world.setRow key.1 key.2 row }

namespace Tracker

/-- The key of a worker's own row. -/
def own (tracker : Tracker) : String × String := (tracker.correlationId, tracker.collection)

/-- The calls of a task: about the worker's own row only, and a transition only as a due row asks
    for. -/
inductive Asks (tracker : Tracker) : TableTask → Call → Prop
  | readRow : Asks tracker .advance (.readRow tracker.correlationId tracker.collection)
  | transition (expected : StatusRecord) (hdue : isDue expected) :
    Asks tracker .advance
      (.transition tracker.correlationId tracker.collection expected (target expected).1)
  | increment : Asks tracker .countSent (.increment tracker.correlationId tracker.collection)

theorem current_makes (tracker : Tracker) :
    Makes (tracker.Asks .advance) tracker.current.run :=
  (Call.makes_errand .readRow).andThen fun _ => .done _

theorem tryAdvance_makes (tracker : Tracker) :
    Makes (tracker.Asks .advance) tracker.tryAdvance.run := by
  unfold tryAdvance
  refine tracker.current_makes.andThen fun record => ?_
  by_cases hdue : isDue record
  · simp only [hdue, if_true]
    refine (Call.makes_errand (.transition record hdue)).andThen fun applied => ?_
    cases applied with
    | true => exact .done _
    | false => exact tracker.current_makes.andThen fun _ => .done _
  · simp only [hdue]
    exact .done _

theorem advance_makes (tracker : Tracker) : Makes (tracker.Asks .advance) tracker.advance.run :=
  tracker.tryAdvance_makes.retryIf

theorem countSent_makes (tracker : Tracker) :
    Makes (tracker.Asks .countSent) tracker.countSent.run :=
  (Makes.retryIf (Call.makes_errand .increment)).andThen fun _ => .done _

theorem task_makes (tracker : Tracker) (task : TableTask) :
    Makes (tracker.Asks task) (task.errand tracker).run := by
  cases task with
  | advance => exact tracker.advance_makes.andThen fun _ => .done _
  | countSent => exact tracker.countSent_makes.andThen fun _ => .done _

end Tracker

namespace Memory

/-- The row is due at this moment, and goes where its count of exported files says; its counters
    stay as they are. -/
inductive Row.MovesOn : Row → Row → Prop
  | sent (row : Row) (hstatus : row.status = .exported)
    (hdue : row.exported.getD 0 = row.sent.getD 0) (hsome : 0 < row.exported.getD 0) :
    MovesOn row { row with status := .sent }
  | received (row : Row) (hstatus : row.status = .exported)
    (hdue : row.exported.getD 0 = row.sent.getD 0) (hnone : row.exported.getD 0 = 0) :
    MovesOn row { row with status := .received }

theorem Row.MovesOn.of_agrees {row : Row} {expected : StatusRecord} (hrow : row.NonNegative)
    (hagrees : row.agrees expected) (hdue : Tracker.isDue expected) :
    row.MovesOn { row with status := (Tracker.target expected).1 } := by
  simp only [Row.agrees, Bool.and_eq_true, beq_iff_eq] at hagrees
  simp only [Tracker.isDue, Bool.and_eq_true, beq_iff_eq] at hdue
  obtain ⟨⟨hstatus, hexported⟩, hsent⟩ := hagrees
  have hcounts : row.exported.getD 0 = row.sent.getD 0 := by rw [hexported, hsent, hdue.2]
  by_cases hsome : 0 < expected.exported
  · simp only [Tracker.target, hsome, if_true]
    exact .sent row (hstatus.trans hdue.1) hcounts (hexported ▸ hsome)
  · simp only [Tracker.target, hsome, if_false]
    have hnonnegative := hrow.1
    exact .received row (hstatus.trans hdue.1) hcounts (by omega)

theorem Row.MovesOn.status_eq {row moved : Row} (h : row.MovesOn moved) :
    row.status = .exported := by
  cases h <;> assumption

theorem Row.MovesOn.status_ne {row moved : Row} (h : row.MovesOn moved) :
    moved.status ≠ .exported := by
  cases h <;> nofun

theorem Row.MovesOn.nonNegative {row moved : Row} (h : row.MovesOn moved) (hrow : row.NonNegative) :
    moved.NonNegative := by
  cases h <;> exact hrow

theorem Row.counted_nonNegative {row : Row} (h : row.NonNegative) : row.counted.NonNegative := by
  obtain ⟨hexported, hsent⟩ := h
  refine ⟨hexported, ?_⟩
  rw [Row.counted_sent]
  omega

theorem Table.NonNegative.insert {table : Table} (h : table.NonNegative) (key : String × String)
    {row : Row} (hrow : row.NonNegative) : Table.NonNegative (Memory.insert table key row) := by
  intro other found hfound
  by_cases hkey : other = key
  · subst hkey
    rw [find?_insert_self] at hfound
    cases hfound
    exact hrow
  · rw [find?_insert_of_ne _ _ hkey] at hfound
    exact h other found hfound

theorem Table.NonNegative.getD {table : Table} (h : table.NonNegative) (key : String × String) :
    ((find? table key).getD .empty).NonNegative := by
  cases hrow : find? table key with
  | none => exact ⟨Int.le_refl 0, Int.le_refl 0⟩
  | some row => exact h key row hrow

end Memory

/-- The call is a transition of the row that has taken effect. -/
def Turn.Moves (turn : Turn Call.Answer) (key : String × String) : Prop :=
  ∃ expected status, turn = ⟨.transition key.1 key.2 expected status, .ok true⟩

/-- What a call of a worker does to the table. -/
inductive Tracker.Effect (tracker : Tracker) (turn : Turn Call.Answer) (before after : Table) : Prop
  /-- It moves the worker's own row on. -/
  | moved {row moved : Row} (hturn : turn.Moves tracker.own)
    (hrow : find? before tracker.own = some row) (hmoves : row.MovesOn moved)
    (hafter : after = insert before tracker.own moved)
  /-- It counts a file on the worker's own row. -/
  | counted (hturn : turn.op = .increment tracker.correlationId tracker.collection)
    (hafter : after = insert before tracker.own ((find? before tracker.own).getD .empty).counted)
  /-- It leaves the table alone. -/
  | kept (hturn : ∀ key, ¬ turn.Moves key) (hafter : after = before)

theorem Tracker.Asks.effect {tracker : Tracker} {task : TableTask} {call : Call} {world : World}
    (h : tracker.Asks task call) (hinterloper : world.interloper = none)
    (hcounters : world.table.NonNegative) :
    tracker.Effect ⟨call, (world.answer call).1⟩ world.table (world.answer call).2.table := by
  cases h with
  | readRow =>
    refine .kept ?_ (World.answer_table_of_ne nofun nofun)
    rintro key ⟨expected, status, hturn⟩
    cases congrArg Turn.op hturn
  | increment =>
    obtain ⟨count, -, -, htable⟩ | ⟨failure, -, -, htable⟩ :=
      world.answer_increment tracker.correlationId tracker.collection
    · exact .counted rfl htable
    · refine .kept ?_ htable
      rintro key ⟨expected, status, hturn⟩
      cases congrArg Turn.op hturn
  | transition expected hdue =>
    obtain ⟨hanswer, row, hrow, hagrees, htable⟩ | ⟨hanswer, htable⟩ :=
      world.answer_transition tracker.correlationId tracker.collection expected
        (Tracker.target expected).1 hinterloper
    · rw [hanswer]
      exact .moved ⟨expected, _, rfl⟩ hrow (.of_agrees (hcounters _ _ hrow) hagrees hdue) htable
    · refine .kept ?_ htable
      rintro ⟨correlationId, collection⟩ ⟨other, status, hturn⟩
      cases congrArg Turn.op hturn
      exact hanswer (eq_of_heq (Turn.mk.inj hturn).2)

theorem Turn.Moves.unique {turn : Turn Call.Answer} {key key' : String × String}
    (h : turn.Moves key) (h' : turn.Moves key') : key = key' := by
  obtain ⟨correlationId, collection⟩ := key
  obtain ⟨correlationId', collection'⟩ := key'
  obtain ⟨expected, status, hturn⟩ := h
  obtain ⟨expected', status', hturn'⟩ := h'
  cases congrArg Turn.op (hturn.symm.trans hturn')
  rfl

/-- There is no row under the key that a worker could move on. -/
def Memory.Table.Closed (table : Table) (key : String × String) : Prop :=
  ∀ row, find? table key = some row → row.status ≠ .exported

namespace Tracker.Effect

variable {tracker : Tracker} {turn : Turn Call.Answer} {before after : Table}

theorem nonNegative (h : tracker.Effect turn before after) (hbefore : before.NonNegative) :
    after.NonNegative := by
  cases h with
  | moved _ hrow hmoves hafter =>
    exact hafter ▸ hbefore.insert _ (hmoves.nonNegative (hbefore _ _ hrow))
  | counted _ hafter =>
    exact hafter ▸ hbefore.insert _ (Row.counted_nonNegative (hbefore.getD _))
  | kept _ hafter => exact hafter ▸ hbefore

theorem find?_of_ne (h : tracker.Effect turn before after) {key : String × String}
    (hne : key ≠ tracker.own) : find? after key = find? before key := by
  cases h with
  | moved _ _ _ hafter => rw [hafter, find?_insert_of_ne _ _ hne]
  | counted _ hafter => rw [hafter, find?_insert_of_ne _ _ hne]
  | kept _ hafter => rw [hafter]

/-- A row that is not exported is only ever counted on. -/
theorem of_status_ne (h : tracker.Effect turn before after) {key : String × String} {row : Row}
    (hrow : find? before key = some row) (hstatus : row.status ≠ .exported) :
    find? after key = some row ∨
      turn.op = .increment key.1 key.2 ∧ find? after key = some row.counted := by
  by_cases hown : key = tracker.own
  · subst hown
    cases h with
    | moved _ hfound hmoves _ =>
      cases hrow.symm.trans hfound
      exact absurd hmoves.status_eq hstatus
    | counted hturn hafter =>
      refine .inr ⟨hturn, ?_⟩
      rw [hafter, find?_insert_self, hrow]
      rfl
    | kept _ hafter => exact .inl (hafter ▸ hrow)
  · exact .inl ((h.find?_of_ne hown).trans hrow)

theorem closed (h : tracker.Effect turn before after) {key : String × String}
    (hclosed : before.Closed key) : after.Closed key := by
  intro row hrow
  cases hbefore : find? before key with
  | some old =>
    have hstatus := hclosed old hbefore
    obtain hsame | ⟨-, hcounted⟩ := h.of_status_ne hbefore hstatus
    · cases hrow.symm.trans hsame
      exact hstatus
    · cases hrow.symm.trans hcounted
      exact hstatus
  | none =>
    by_cases hown : key = tracker.own
    · subst hown
      cases h with
      | moved _ hfound _ _ => cases hbefore.symm.trans hfound
      | counted _ hafter =>
        rw [hafter, find?_insert_self, hbefore] at hrow
        cases hrow
        nofun
      | kept _ hafter => cases hbefore.symm.trans (hafter ▸ hrow)
    · rw [h.find?_of_ne hown, hbefore] at hrow
      cases hrow

/-- A row that has been moved on was exported and is not so any more. -/
theorem closed_of_moves (h : tracker.Effect turn before after) {key : String × String}
    (hmoves : turn.Moves key) : ¬ before.Closed key ∧ after.Closed key := by
  cases h with
  | moved hown hrow hmoved hafter =>
    obtain rfl := hmoves.unique hown
    refine ⟨fun hclosed => hclosed _ hrow hmoved.status_eq, fun row hfound => ?_⟩
    · rw [hafter, find?_insert_self] at hfound
      cases hfound
      exact hmoved.status_ne
  | counted hturn _ =>
    obtain ⟨expected, status, rfl⟩ := hmoves
    cases hturn
  | kept hturn _ => exact absurd hmoves (hturn key)

end Tracker.Effect

namespace Race

section OnTask

variable {crew crew' : Crew Tracker Call.Answer (Except Failure (Option CollectionState))}
  {tracker : Tracker} {turn : Option (Turn Call.Answer)}

/-- Every task keeps to the calls of its worker. -/
def OnTask (crew : Crew Tracker Call.Answer (Except Failure (Option CollectionState))) : Prop :=
  ∀ entry ∈ crew, ∃ task, Makes (entry.1.Asks task) entry.2

theorem OnTask.begin (h : OnTask crew) (tracker : Tracker) (task : TableTask) :
    OnTask ((tracker, (task.errand tracker).run) :: crew) :=
  List.forall_mem_cons.2 ⟨⟨task, tracker.task_makes task⟩, h⟩

theorem OnTask.move (h : OnTask crew) (hmove : crew.Move tracker turn crew') : OnTask crew' := by
  obtain ⟨program, rest, hmember, hstep, hrest⟩ := hmove.exists_step
  obtain ⟨task, hmakes⟩ := h _ hmember
  intro entry hentry
  obtain rfl | hentry := hrest entry hentry
  · refine ⟨task, ?_⟩
    cases turn with
    | none => exact hmakes.step_wait hstep
    | some turn => exact (hmakes.step_ask hstep).2
  · exact h entry hentry

theorem OnTask.asks (h : OnTask crew) {turn : Turn Call.Answer}
    (hmove : crew.Move tracker (some turn) crew') :
    tracker ∈ crew.map Prod.fst ∧ ∃ task, tracker.Asks task turn.op := by
  obtain ⟨program, rest, hmember, hstep, -⟩ := hmove.exists_step
  obtain ⟨task, hmakes⟩ := h _ hmember
  exact ⟨List.mem_map.2 ⟨_, hmember, rfl⟩, task, (hmakes.step_ask hstep).1⟩

theorem OnTask.finish
    {front back : Crew Tracker Call.Answer (Except Failure (Option CollectionState))}
    {entry : Tracker × Program Call.Answer (Except Failure (Option CollectionState))}
    (h : OnTask (front ++ entry :: back)) : OnTask (front ++ back) := by
  intro other hother
  apply h other
  simp only [List.mem_append, List.mem_cons] at hother ⊢
  exact hother.imp_right .inr

end OnTask

/-- What holds all along a race: no row of the table has a counter below zero, nobody writes between
    a transition's check and its write, and every task keeps to the calls of its worker. -/
structure Sound (race : Race) : Prop where
  interloper : race.world.interloper = none
  counters : race.world.table.NonNegative
  makes : ∀ entry ∈ race.crew, ∃ task, Makes (entry.1.Asks task) entry.2

variable {race next : Race} {happening : Happening}

theorem Sound.effect (h : race.Sound) {tracker : Tracker} {turn : Turn Call.Answer}
    (hstep : Step race (.asked tracker turn) next) :
    tracker.Effect turn race.world.table next.world.table := by
  cases hstep with
  | ask call hmove =>
    obtain ⟨-, task, hasks⟩ := OnTask.asks h.makes hmove
    exact hasks.effect h.interloper h.counters

theorem Sound.step (hstep : Step race happening next) (h : race.Sound) : next.Sound := by
  cases hstep with
  | begin _ tracker task => exact ⟨h.interloper, h.counters, OnTask.begin h.makes tracker task⟩
  | ask call hmove =>
    obtain ⟨-, task, hasks⟩ := OnTask.asks h.makes hmove
    refine ⟨World.answer_interloper h.interloper, ?_, OnTask.move h.makes hmove⟩
    exact (hasks.effect h.interloper h.counters).nonNegative h.counters
  | wait nanos hmove => exact ⟨h.interloper, h.counters, OnTask.move h.makes hmove⟩
  | finish => exact ⟨h.interloper, h.counters, OnTask.finish h.makes⟩
  | write _ key row hrow => exact ⟨h.interloper, h.counters.insert key hrow, h.makes⟩

theorem Sound.path {happenings : List Happening} (hpath : Path Step race happenings next)
    (h : race.Sound) : next.Sound :=
  hpath.invariant h fun _ _ _ hstep h => h.step hstep

theorem Sound.closed (h : race.Sound) (hstep : Step race happening next) {key : String × String}
    (hclosed : race.world.table.Closed key)
    (hwrote : ∀ row, happening = .wrote key row → row.status ≠ .exported) :
    next.world.table.Closed key := by
  cases hstep with
  | begin | wait | finish => exact hclosed
  | ask call hmove => exact (h.effect (.ask call hmove)).closed hclosed
  | write _ other row hrow =>
    intro found hfound
    by_cases hkey : key = other
    · subst hkey
      rw [World.setRow, find?_insert_self] at hfound
      cases hfound
      exact hwrote row rfl
    · rw [World.setRow, find?_insert_of_ne _ _ hkey] at hfound
      exact hclosed found hfound

theorem Sound.closed_path {happenings : List Happening} (hpath : Path Step race happenings next)
    (h : race.Sound) {key : String × String} (hclosed : race.world.table.Closed key)
    (hwrote : ∀ row, .wrote key row ∈ happenings → row.status ≠ .exported) :
    next.world.table.Closed key := by
  induction hpath with
  | nil => exact hclosed
  | cons hstep _ ih =>
    refine ih (h.step hstep) (h.closed hstep hclosed fun row hrow => ?_) fun row hrow => ?_
    · exact hwrote row (by simp [hrow])
    · exact hwrote row (by simp [hrow])

end Race

/-- However workers race, with one another and with other systems that write counters and statuses,
    and whatever calls fail: a worker moves on no row but its own, and that only if the row is due
    at that very moment; a row that is not exported is left as it is, but for the files counted on
    it; and a row is moved on a second time only after another system has set it back. -/
theorem racing_transitions {start : World} {happenings : List Happening} {race : Race}
    (hcounters : start.table.NonNegative) (hinterloper : start.interloper = none)
    (hpath : Path Race.Step ⟨start, []⟩ happenings race) :
    (∀ tracker turn next, Race.Step race (.asked tracker turn) next →
      tracker.Effect turn race.world.table next.world.table ∧
      ∀ key row, find? race.world.table key = some row → row.status ≠ .exported →
        find? next.world.table key = some row ∨
          turn.op = .increment key.1 key.2 ∧ find? next.world.table key = some row.counted) ∧
    ∀ key front middle back tracker turn tracker' turn',
      happenings = front ++ .asked tracker turn :: (middle ++ .asked tracker' turn' :: back) →
      turn.Moves key → turn'.Moves key →
      ∃ row, .wrote key row ∈ middle ∧ row.status = .exported := by
  have hstart : Race.Sound ⟨start, []⟩ := ⟨hinterloper, hcounters, fun _ h => nomatch h⟩
  refine ⟨fun tracker turn next hstep => ?_, ?_⟩
  · have heffect := (hstart.path hpath).effect hstep
    exact ⟨heffect, fun key row hrow hstatus => heffect.of_status_ne hrow hstatus⟩
  · rintro key front middle back tracker turn tracker' turn' rfl hmoves hmoves'
    obtain ⟨first, hfront, hfirst⟩ := hpath.of_append
    cases hfirst with
    | cons hstep hrest =>
      obtain ⟨second, hmiddle, hsecond⟩ := hrest.of_append
      cases hsecond with
      | cons hstep' _ =>
        -- closed by the first transition, the row stays so unless it is written as exported
        have hfirst := hstart.path hfront
        have hnext := hfirst.step hstep
        obtain ⟨-, hafter⟩ := (hfirst.effect hstep).closed_of_moves hmoves
        obtain ⟨hbefore, -⟩ := ((hnext.path hmiddle).effect hstep').closed_of_moves hmoves'
        refine Classical.byContradiction fun hnone => ?_
        have hclosed := hnext.closed_path hmiddle hafter fun row hrow hstatus =>
          hnone ⟨row, hrow, hstatus⟩
        exact hbefore hclosed

namespace Sample

/-- A worker of a collection. -/
def tracker : Tracker := ⟨"id", "db.core.thing", .once⟩

/-- The row of a collection whose only file has been sent. -/
def due : Row := ⟨.exported, some 1, some 1⟩

/-- A table with that row. -/
def dueWorld : World := { World.empty with table := [(tracker.own, due)] }

end Sample

theorem racing_transitions_setBack :
    Sample.dueWorld.table.NonNegative ∧ Sample.dueWorld.interloper = none ∧
    ∃ front turn middle turn' back first next race,
      Path Race.Step ⟨Sample.dueWorld, []⟩ front first ∧
      Race.Step first (.asked Sample.tracker turn) next ∧
      Path Race.Step ⟨Sample.dueWorld, []⟩
        (front ++ .asked Sample.tracker turn :: (middle ++ .asked Sample.tracker turn' :: back))
        race ∧
      turn.Moves Sample.tracker.own ∧ turn'.Moves Sample.tracker.own ∧
      Sample.tracker.Effect turn first.world.table next.world.table ∧
      ∃ row, .wrote Sample.tracker.own row ∈ middle ∧ row.status = .exported := by
  have hdue : Sample.due.NonNegative := ⟨by decide, by decide⟩
  have hcounters : Sample.dueWorld.table.NonNegative := by
    intro key row hrow
    simp only [Sample.dueWorld, find?] at hrow
    split at hrow
    · cases hrow
      exact hdue
    · cases hrow
  -- two tasks of the worker read the row, the first moves it on, and it is set back for the second
  obtain ⟨front, first, hfront, turn, next, hstep, middle, turn', race, hrest, hmoves, hmoves'⟩ :
      ∃ front first, Path Race.Step ⟨Sample.dueWorld, []⟩ front first ∧
        ∃ turn next, Race.Step first (.asked Sample.tracker turn) next ∧
        ∃ middle turn' race,
          Path Race.Step next (middle ++ .asked Sample.tracker turn' :: []) race ∧
          turn.Moves Sample.tracker.own ∧ turn'.Moves Sample.tracker.own := by
    refine ⟨_, _, .cons (.begin _ Sample.tracker .advance) <|
        .cons (.begin _ Sample.tracker .advance) <|
        .cons (.ask (.readRow _ _) (.mk [] _ Sample.tracker (.ask _ _ _))) <|
        .cons (.ask (.readRow _ _) (.mk [_] _ Sample.tracker (.ask _ _ _))) <| .nil _, ?_⟩
    refine ⟨_, _, .ask (.transition _ _ _ _) (.mk [] _ Sample.tracker (.ask _ _ _)), ?_⟩
    refine ⟨[.wrote Sample.tracker.own Sample.due], _, _, .cons (.write _ _ _ hdue) <|
        .cons (.ask (.transition _ _ _ _) (.mk [_] _ Sample.tracker (.ask _ _ _))) <| .nil _, ?_⟩
    exact ⟨⟨_, _, rfl⟩, ⟨_, _, rfl⟩⟩
  have hpath := hfront.append (.cons hstep hrest)
  obtain ⟨heffect, -⟩ := (racing_transitions hcounters rfl hfront).1 _ _ _ hstep
  have hback := (racing_transitions hcounters rfl hpath).2 _ _ _ _ _ _ _ _ rfl hmoves hmoves'
  exact ⟨hcounters, rfl, front, turn, middle, turn', [], first, next, race, hfront, hstep, hpath,
    hmoves, hmoves', heffect, hback⟩

end Courier
