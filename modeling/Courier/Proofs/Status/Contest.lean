import Mathlib.Data.List.Nodup
import Courier.Proofs.Status.Racing

/-!
Workers that contend for one row. Each of them reads the row and moves it on if it is due, and
learns from that what has become of the collection; one that comes too late reads the row again.
`contenders_agree` says that they all learn the same.
-/

namespace Courier

open Memory Program

namespace Program

variable {Op ε α : Type} {Answer : Op → Type}

/-- An answer of the given kind is the last one: the program is over, and has not failed. -/
inductive StopsAfter (last : Turn Answer → Prop) : Program Answer (Except ε α) → Prop
  | done (result : Except ε α) : StopsAfter last (.done result)
  | ask {op : Op} {next : Answer op → Program Answer (Except ε α)}
    (hlast : ∀ answer, last ⟨op, answer⟩ → ∃ value, next answer = .done (.ok value))
    (hnext : ∀ answer, StopsAfter last (next answer)) : StopsAfter last (.ask op next)
  | wait (nanos : Nat) {next : Program Answer (Except ε α)} (hnext : StopsAfter last next) :
    StopsAfter last (.wait nanos next)
  | halt : StopsAfter last .halt

namespace StopsAfter

variable {last : Turn Answer → Prop}

theorem bind {program : Program Answer (Except ε α)}
    {f : Except ε α → Program Answer (Except ε α)} (h : StopsAfter last program)
    (hok : ∀ value, f (.ok value) = .done (.ok value))
    (herror : ∀ e, StopsAfter last (f (.error e))) :
    StopsAfter last (program.bind f) := by
  induction h with
  | done result =>
    cases result with
    | ok value =>
      rw [Program.bind, hok]
      exact .done _
    | error e => exact herror e
  | ask hlast _ ih =>
    refine .ask (fun answer h => ?_) ih
    obtain ⟨value, hvalue⟩ := hlast answer h
    exact ⟨value, by rw [hvalue, Program.bind, hok]⟩
  | wait nanos _ ih => exact .wait nanos ih
  | halt => exact .halt

theorem retryFrom {delay : Nat → Option Nat} {again : ε → Bool}
    {operation : Program Answer (Except ε α)} (h : StopsAfter last operation)
    (left attempt : Nat) : StopsAfter last (retryFrom delay again operation left attempt) := by
  induction left generalizing attempt with
  | zero => exact h
  | succ left ih =>
    refine StopsAfter.bind h (fun _ => rfl) fun e => ?_
    by_cases hagain : again e
    · simp only [hagain, if_true]
      cases delay attempt with
      | some nanos => exact .wait nanos (ih (attempt + 1))
      | none => exact .halt
    · simp only [hagain]
      exact .done _

theorem retryIf {policy : RetryPolicy} {again : ε → Bool}
    {operation : ExceptT ε (Program Answer) α} (h : StopsAfter last operation.run) :
    StopsAfter last (retryIf policy again operation).run :=
  StopsAfter.retryFrom h (policy.attempts - 1) 1

theorem step_wait {program rest : Program Answer (Except ε α)} (h : StopsAfter last program)
    (hstep : Program.Step program none rest) : StopsAfter last rest := by
  cases hstep with
  | wait =>
    cases h with
    | wait _ hnext => exact hnext

theorem step_ask {program rest : Program Answer (Except ε α)} {turn : Turn Answer}
    (h : StopsAfter last program) (hstep : Program.Step program (some turn) rest) :
    StopsAfter last rest ∧ (last turn → ∃ value, rest = .done (.ok value)) := by
  cases hstep with
  | ask op next answer =>
    cases h with
    | ask hlast hnext => exact ⟨hnext answer, hlast answer⟩

end StopsAfter

end Program

/-- The row with other counters. -/
def Memory.Row.withCounters (row : Row) (exported sent : Option Int) : Row :=
  { row with exported, sent }

/-- The status of a row. A row that is not there has none. -/
def Memory.Table.statusAt (table : Table) (key : String × String) : ExportStatus :=
  ((find? table key).getD .empty).status

theorem Memory.Table.status_record (table : Table) (key : String × String) :
    (((find? table key).map (Row.record · key.2)).getD .absent).status =
      table.statusAt key := by
  unfold statusAt
  cases find? table key <;> rfl

/-- Callers that move one row on, each under a number of its own, with what is left of their calls.
    What has come of a call stays with its number. -/
structure Contest where
  world : World
  crew : Crew Nat Call.Answer (Except Failure CollectionState)

namespace Contest

inductive Event where
  | began (caller : Nat)
  | asked (caller : Nat) (turn : Turn Call.Answer)
  | waited (caller : Nat) (nanos : Nat)
  /-- Somebody counts a sent file on the row, or tries to. -/
  | counted
  /-- Somebody writes the counters of the row. -/
  | wrote (exported sent : Option Int)

/-- The steps of a contest for a row. Nobody but the callers writes the status. -/
inductive Step (key : String × String) : Contest → Event → Contest → Prop
  | begin (contest : Contest) (tracker : Tracker) (hown : tracker.own = key) (caller : Nat)
    (hfresh : caller ∉ contest.crew.map Prod.fst) :
    Step key contest (.began caller)
      { contest with crew := (caller, tracker.advance.run) :: contest.crew }
  | ask {contest : Contest} {caller : Nat} (op : Call)
    {crew : Crew Nat Call.Answer (Except Failure CollectionState)}
    (hmove : contest.crew.Move caller (some ⟨op, (contest.world.answer op).1⟩) crew) :
    Step key contest (.asked caller ⟨op, (contest.world.answer op).1⟩)
      ⟨(contest.world.answer op).2, crew⟩
  | wait {contest : Contest} {caller : Nat} (nanos : Nat)
    {crew : Crew Nat Call.Answer (Except Failure CollectionState)}
    (hmove : contest.crew.Move caller none crew) :
    Step key contest (.waited caller nanos) ⟨contest.world.pass nanos, crew⟩
  | count (contest : Contest) :
    Step key contest .counted
      { contest with world := (contest.world.answer (.increment key.1 key.2)).2 }
  | write (contest : Contest) (exported sent : Option Int) :
    Step key contest (.wrote exported sent)
      { contest with
        world := contest.world.setRow key.1 key.2
          (((find? contest.world.table key).getD .empty).withCounters exported sent) }

/-- How far a caller has come. -/
inductive Place where
  /-- It is about to read the row. -/
  | reading
  /-- It has read a row that is due. -/
  | due (record : StatusRecord)
  /-- The row was not as it had read it any more. -/
  | beaten
  | decided (state : CollectionState)

namespace Place

/-- Where the row as it has been read leads. -/
def ofRecord (record : StatusRecord) : Place :=
  if Tracker.isDue record then due record else decided .inProgress

/-- Where the row leads that another worker may have moved. -/
def ofWinner (record : StatusRecord) : Place := decided (Tracker.stateOf record.status)

/-- The next call and where its answer leads; a failed call is the end of an attempt. -/
def rule (key : String × String) : Rule Call.Answer Place where
  allows
    | reading, op | beaten, op => op = .readRow key.1 key.2
    | due record, op =>
      Tracker.isDue record ∧ op = .transition key.1 key.2 record (Tracker.target record).1
    | decided _, _ => False
  after
    | reading, ⟨.readRow _ _, .ok record⟩ => ofRecord (record.getD .absent)
    | due record, ⟨.transition .., .ok applied⟩ =>
      bif applied then decided (Tracker.target record).2 else beaten
    | beaten, ⟨.readRow _ _, .ok record⟩ => ofWinner (record.getD .absent)
    | _, _ => reading

/-- What a caller has decided is what the row says. -/
def Fits (status : ExportStatus) : Place → Prop
  | decided .sent => status = .sent
  | decided .noFiles => status = .received
  | _ => True

theorem Fits.of_exported {place : Place} (h : place.Fits .exported) (status : ExportStatus) :
    place.Fits status := by
  cases place with
  | decided state =>
    cases state with
    | inProgress => trivial
    | _ => cases h
  | _ => trivial

theorem fits_ofRecord (record : StatusRecord) (status : ExportStatus) :
    (ofRecord record).Fits status := by
  unfold ofRecord
  split <;> trivial

theorem fits_ofWinner (record : StatusRecord) : (ofWinner record).Fits record.status := by
  unfold ofWinner
  cases record.status <;> trivial

theorem fits_target (record : StatusRecord) :
    (decided (Tracker.target record).2).Fits (Tracker.target record).1 := by
  unfold Tracker.target
  split <;> rfl

/-- Where a call leads: its value to a place, its failure to the next attempt. -/
def After {α : Type} (ok : α → Place) (place : Place) : Except Failure α → Prop
  | .ok value => place = ok value
  | .error _ => place = reading

theorem current_follows (tracker : Tracker) {place : Place} {ok : StatusRecord → Place}
    (hallowed : (rule tracker.own).allows place (.readRow tracker.correlationId tracker.collection))
    (hok : ∀ record, (rule tracker.own).after place
      ⟨.readRow tracker.correlationId tracker.collection, .ok record⟩ = ok (record.getD .absent))
    (herror : ∀ failure, (rule tracker.own).after place
      ⟨.readRow tracker.correlationId tracker.collection, .error failure⟩ = reading) :
    Follows (rule tracker.own) (After ok) tracker.current.run place := by
  refine .ask hallowed fun answer => ?_
  cases answer with
  | ok record => exact .done (hok record)
  | error failure => exact .done (herror failure)

theorem tryAdvance_follows (tracker : Tracker) :
    Follows (rule tracker.own) (After decided) tracker.tryAdvance.run reading := by
  unfold Tracker.tryAdvance
  refine Follows.andThen (After ofRecord) ?_ ?_ fun _ _ h => h
  · exact current_follows tracker rfl (fun _ => rfl) fun _ => rfl
  · rintro _ record rfl
    unfold ofRecord
    by_cases hdue : Tracker.isDue record
    · simp only [hdue, if_true]
      refine Follows.andThen (After fun applied =>
        bif applied then decided (Tracker.target record).2 else beaten) ?_ ?_ fun _ _ h => h
      · refine Call.follows_errand (.transition _ _ _ _) (And.intro hdue rfl) fun answer => ?_
        cases answer <;> rfl
      · rintro _ applied rfl
        cases applied with
        | true => exact .done rfl
        | false =>
          refine Follows.andThen (After ofWinner) ?_ ?_ fun _ _ h => h
          · exact current_follows tracker rfl (fun _ => rfl) fun _ => rfl
          · rintro _ winner rfl
            exact .done rfl
    · simp only [hdue]
      exact .done rfl

theorem advance_follows (tracker : Tracker) :
    Follows (rule tracker.own) (After decided) tracker.advance.run reading := by
  refine Follows.retryIf (· = reading) rfl ?_
  rintro _ rfl
  refine (tryAdvance_follows tracker).mono fun place result hresult => ⟨hresult, ?_⟩
  rintro e rfl -
  exact hresult

end Place

/-- A transition that has taken effect ends a call. -/
theorem advance_stopsAfter (tracker : Tracker) :
    StopsAfter (Turn.Moves · tracker.own) tracker.advance.run := by
  have hcurrent {α : Type} {f : StatusRecord → Errand α}
      (hf : ∀ record, StopsAfter (Turn.Moves · tracker.own) (f record).run) :
      StopsAfter (Turn.Moves · tracker.own) (tracker.current >>= f).run := by
    refine .ask (fun answer => ?_) fun answer => ?_
    · rintro ⟨expected, status, hturn⟩
      cases congrArg Turn.op hturn
    · cases answer with
      | ok record => exact hf _
      | error failure => exact .done _
  refine StopsAfter.retryIf ?_
  unfold Tracker.tryAdvance
  refine hcurrent fun record => ?_
  by_cases hdue : Tracker.isDue record
  · simp only [hdue, if_true]
    refine .ask (fun answer => ?_) fun answer => ?_
    · rintro ⟨expected, status, hturn⟩
      cases hturn
      exact ⟨_, rfl⟩
    · match answer with
      | .ok true => exact .done _
      | .ok false => exact hcurrent fun winner => .done _
      | .error failure => exact .done _
  · simp only [hdue]
    exact .done _

/-- What is read where the row is has the status of the row. -/
theorem statusAt_of_readRow {key : String × String} {world : World} {record : Option StatusRecord}
    (h : (world.answer (.readRow key.1 key.2)).1 = .ok record) :
    (record.getD .absent).status = world.table.statusAt key := by
  rw [World.answer_readRow key.1 key.2 record h]
  exact world.table.status_record key

/-- What the answer to a caller does to the status of the row, and what the caller makes of it. -/
theorem Place.answer {key : String × String} {place : Place} {op : Call} {world : World}
    (hallowed : (rule key).allows place op) (hinterloper : world.interloper = none) :
    ((rule key).after place ⟨op, (world.answer op).1⟩).Fits
        ((world.answer op).2.table.statusAt key) ∧
      ((world.answer op).2.table.statusAt key = world.table.statusAt key ∨
        world.table.statusAt key = .exported ∧ Turn.Moves ⟨op, (world.answer op).1⟩ key) := by
  have hread : (world.answer (.readRow key.1 key.2)).2.table = world.table :=
    World.answer_table_of_ne nofun nofun
  cases place with
  | reading =>
    obtain rfl := hallowed
    refine ⟨?_, .inl (by rw [hread])⟩
    cases (world.answer (.readRow key.1 key.2)).1 with
    | ok record => exact fits_ofRecord _ _
    | error failure => trivial
  | beaten =>
    obtain rfl := hallowed
    refine ⟨?_, .inl (by rw [hread])⟩
    rw [hread]
    cases hanswer : (world.answer (.readRow key.1 key.2)).1 with
    | ok record => exact statusAt_of_readRow hanswer ▸ fits_ofWinner _
    | error failure => trivial
  | due record =>
    obtain ⟨hdue, rfl⟩ := hallowed
    obtain ⟨hanswer, row, hrow, hagrees, htable⟩ | ⟨hanswer, htable⟩ :=
      world.answer_transition key.1 key.2 record (Tracker.target record).1 hinterloper
    · have hstatus : world.table.statusAt key = .exported := by
        simp only [Tracker.isDue, Row.agrees, Bool.and_eq_true, beq_iff_eq] at hdue hagrees
        rw [Table.statusAt, hrow]
        exact hagrees.1.1.trans hdue.1
      refine ⟨?_, .inr ⟨hstatus, record, _, by rw [hanswer]⟩⟩
      rw [hanswer, htable, Table.statusAt, find?_insert_self]
      exact fits_target record
    · refine ⟨?_, .inl (by rw [htable])⟩
      cases hgiven : (world.answer (.transition key.1 key.2 record _)).1 with
      | ok moved =>
        cases moved with
        | true => exact absurd hgiven hanswer
        | false => trivial
      | error failure => trivial
  | decided => cases hallowed

theorem Place.decided_of_moves {key : String × String} {place : Place} {turn : Turn Call.Answer}
    (hallowed : (rule key).allows place turn.op) (hmoves : turn.Moves key) :
    ∃ state, state ≠ .inProgress ∧ (rule key).after place turn = decided state := by
  obtain ⟨expected, status, rfl⟩ := hmoves
  cases place with
  | reading | beaten => cases hallowed
  | due record =>
    refine ⟨_, ?_, rfl⟩
    unfold Tracker.target
    split <;> nofun
  | decided => cases hallowed

/-- What holds all along a contest: every caller is at a place that fits the status of the row. -/
structure Sound (key : String × String) (contest : Contest) : Prop where
  interloper : contest.world.interloper = none
  nodup : (contest.crew.map Prod.fst).Nodup
  stops : ∀ entry ∈ contest.crew, StopsAfter (Turn.Moves · key) entry.2
  fits : ∀ entry ∈ contest.crew, ∃ place : Place, place.Fits (contest.world.table.statusAt key) ∧
    Follows (Place.rule key) (Place.After .decided) entry.2 place

variable {key : String × String} {contest next : Contest} {event : Event}

/-- The status of the row changes only by a transition of a caller, and only if it was exported. -/
theorem Sound.statusAt (h : contest.Sound key) (hstep : Step key contest event next) :
    next.world.table.statusAt key = contest.world.table.statusAt key ∨
      contest.world.table.statusAt key = .exported ∧
        ∃ caller turn, event = .asked caller turn ∧ turn.Moves key := by
  cases hstep with
  | begin | wait => exact .inl rfl
  | ask op hmove =>
    obtain ⟨program, rest, hmember, hstep, -⟩ := hmove.exists_step
    obtain ⟨place, -, hfollows⟩ := h.fits _ hmember
    obtain ⟨hallowed, -⟩ := hfollows.step_ask hstep
    obtain ⟨-, hsame | ⟨hexported, hmoves⟩⟩ := Place.answer hallowed h.interloper
    · exact .inl hsame
    · exact .inr ⟨hexported, _, _, rfl, hmoves⟩
  | count =>
    refine .inl ?_
    obtain ⟨count, -, -, htable⟩ | ⟨failure, -, -, htable⟩ :=
      contest.world.answer_increment key.1 key.2
    · rw [htable, Table.statusAt, find?_insert_self]
      rfl
    · rw [htable]
  | write exported sent =>
    refine .inl ?_
    rw [World.setRow, Table.statusAt, find?_insert_self]
    rfl

theorem Sound.step (hstep : Step key contest event next) (h : contest.Sound key) :
    next.Sound key := by
  -- a caller that has not moved stays at its place, which fits the row as it is now
  have hkept (entry) (hentry : entry ∈ contest.crew) : ∃ place : Place,
      place.Fits (next.world.table.statusAt key) ∧
        Follows (Place.rule key) (Place.After .decided) entry.2 place := by
    obtain ⟨place, hfits, hfollows⟩ := h.fits entry hentry
    obtain hsame | ⟨hexported, -⟩ := h.statusAt hstep
    · exact ⟨place, hsame ▸ hfits, hfollows⟩
    · exact ⟨place, (hexported ▸ hfits).of_exported _, hfollows⟩
  cases hstep with
  | begin tracker hown caller hfresh =>
    subst hown
    refine ⟨h.interloper, List.nodup_cons.2 ⟨hfresh, h.nodup⟩, ?_, ?_⟩
    · exact List.forall_mem_cons.2 ⟨advance_stopsAfter tracker, h.stops⟩
    · exact List.forall_mem_cons.2 ⟨⟨.reading, trivial, Place.advance_follows tracker⟩, h.fits⟩
  | ask op hmove =>
    obtain ⟨program, rest, hmember, hstep, hrest⟩ := hmove.exists_step
    refine ⟨World.answer_interloper h.interloper, hmove.members ▸ h.nodup, ?_, ?_⟩
    · intro entry hentry
      obtain rfl | hentry := hrest entry hentry
      · exact ((h.stops _ hmember).step_ask hstep).1
      · exact h.stops entry hentry
    · intro entry hentry
      obtain rfl | hentry := hrest entry hentry
      · obtain ⟨place, -, hfollows⟩ := h.fits _ hmember
        obtain ⟨hallowed, hnext⟩ := hfollows.step_ask hstep
        exact ⟨_, (Place.answer hallowed h.interloper).1, hnext⟩
      · exact hkept entry hentry
  | wait nanos hmove =>
    obtain ⟨program, rest, hmember, hstep, hrest⟩ := hmove.exists_step
    refine ⟨h.interloper, hmove.members ▸ h.nodup, ?_, ?_⟩
    · intro entry hentry
      obtain rfl | hentry := hrest entry hentry
      · exact (h.stops _ hmember).step_wait hstep
      · exact h.stops entry hentry
    · intro entry hentry
      obtain rfl | hentry := hrest entry hentry
      · obtain ⟨place, hfits, hfollows⟩ := h.fits _ hmember
        exact ⟨place, hfits, hfollows.step_wait hstep⟩
      · exact h.fits entry hentry
  | count => exact ⟨World.answer_interloper h.interloper, h.nodup, h.stops, hkept⟩
  | write => exact ⟨h.interloper, h.nodup, h.stops, hkept⟩

theorem Sound.path {events : List Event} (hpath : Path (Step key) contest events next)
    (h : contest.Sound key) : next.Sound key :=
  hpath.invariant h fun _ _ _ hstep h => h.step hstep

/-- What a caller has come to know is what the row says. -/
theorem Sound.state_iff (h : contest.Sound key) {caller : Nat} {state : CollectionState}
    (hentry : (caller, .done (.ok state)) ∈ contest.crew) (hstate : state ≠ .inProgress) :
    (state = .sent ↔ contest.world.table.statusAt key = .sent) ∧
      (state = .noFiles ↔ contest.world.table.statusAt key = .received) := by
  obtain ⟨place, hfits, hfollows⟩ := h.fits _ hentry
  cases hfollows with
  | done hplace =>
    obtain rfl : place = .decided state := hplace
    cases state with
    | sent =>
      have hstatus : contest.world.table.statusAt key = .sent := hfits
      exact ⟨iff_of_true rfl hstatus, iff_of_false nofun (hstatus ▸ nofun)⟩
    | noFiles =>
      have hstatus : contest.world.table.statusAt key = .received := hfits
      exact ⟨iff_of_false nofun (hstatus ▸ nofun), iff_of_true rfl hstatus⟩
    | inProgress => exact absurd rfl hstate

/-- The caller whose transition takes effect is done with it, and knows what it has done. -/
theorem Sound.mem_of_moves (h : contest.Sound key) {caller : Nat} {turn : Turn Call.Answer}
    (hstep : Step key contest (.asked caller turn) next) (hmoves : turn.Moves key) :
    ∃ state, state ≠ .inProgress ∧ (caller, .done (.ok state)) ∈ next.crew := by
  cases hstep with
  | ask op hmove =>
    obtain ⟨program, rest, hmember, hstep, hrest⟩ := hmove.exists_mem
    obtain ⟨value, rfl⟩ := ((h.stops _ hmember).step_ask hstep).2 hmoves
    obtain ⟨place, -, hfollows⟩ := h.fits _ hmember
    obtain ⟨hallowed, hnext⟩ := hfollows.step_ask hstep
    obtain ⟨state, hstate, hdecided⟩ := Place.decided_of_moves hallowed hmoves
    cases hnext with
    | done hplace =>
      cases hdecided.symm.trans hplace
      exact ⟨_, hstate, hrest⟩

/-- What has come of a call stays with its number. -/
theorem Step.mem_of_done (hstep : Step key contest event next) {caller : Nat}
    {result : Except Failure CollectionState} (hentry : (caller, .done result) ∈ contest.crew) :
    (caller, .done result) ∈ next.crew := by
  cases hstep with
  | begin => exact List.mem_cons_of_mem _ hentry
  | ask op hmove => exact hmove.mem_of_done hentry
  | wait nanos hmove => exact hmove.mem_of_done hentry
  | count | write => exact hentry

/-- There is one entry for each number. -/
theorem Sound.eq_of_mem (h : contest.Sound key) {caller : Nat}
    {program program' : Program Call.Answer (Except Failure CollectionState)}
    (hentry : (caller, program) ∈ contest.crew) (hentry' : (caller, program') ∈ contest.crew) :
    program = program' := by
  have hpair := List.inj_on_of_nodup_map h.nodup hentry hentry' rfl
  exact (Prod.mk.inj hpair).2

end Contest

/-- However many workers contend for a row, and however their calls interleave with one another,
    with countings and with writes of the counters, some of them failing: whoever comes to know that
    the collection is sent or had no files knows the same as all others, and what the row says; the
    status of the row changes only when the transition of a worker takes effect, and that worker is
    done then and knows of it. -/
theorem contenders_agree {key : String × String} {start : World} {events : List Contest.Event}
    {contest : Contest} (hinterloper : start.interloper = none)
    (hpath : Path (Contest.Step key) ⟨start, []⟩ events contest) :
    (∀ caller caller' state state', (caller, .done (.ok state)) ∈ contest.crew →
      (caller', .done (.ok state')) ∈ contest.crew → state ≠ .inProgress → state' ≠ .inProgress →
      state = state') ∧
    (∀ caller state, (caller, .done (.ok state)) ∈ contest.crew → state ≠ .inProgress →
      (state = .sent ↔ contest.world.table.statusAt key = .sent) ∧
      (state = .noFiles ↔ contest.world.table.statusAt key = .received)) ∧
    (∀ caller turn, .asked caller turn ∈ events → turn.Moves key →
      ∃ state, state ≠ .inProgress ∧
        ∀ program, (caller, program) ∈ contest.crew ↔ program = .done (.ok state)) ∧
    ∀ event next, Contest.Step key contest event next →
      next.world.table.statusAt key ≠ contest.world.table.statusAt key →
      ∃ caller turn, event = .asked caller turn ∧ turn.Moves key := by
  have hstart : Contest.Sound key ⟨start, []⟩ :=
    ⟨hinterloper, List.nodup_nil, List.forall_mem_nil _, List.forall_mem_nil _⟩
  have hsound := hstart.path hpath
  refine ⟨fun caller caller' state state' hentry hentry' hstate hstate' => ?_,
    fun caller state => hsound.state_iff, ?_, ?_⟩
  · have hsent := (hsound.state_iff hentry hstate).1.trans (hsound.state_iff hentry' hstate').1.symm
    have hnoFiles :=
      (hsound.state_iff hentry hstate).2.trans (hsound.state_iff hentry' hstate').2.symm
    cases state with
    | sent => exact (hsent.1 rfl).symm
    | noFiles => exact (hnoFiles.1 rfl).symm
    | inProgress => exact absurd rfl hstate
  · rintro caller turn hasked hmoves
    obtain ⟨front, back, before, after, -, hfront, hstep, hback⟩ := hpath.exists_step_of_mem hasked
    obtain ⟨state, hstate, hmember⟩ := (hstart.path hfront).mem_of_moves hstep hmoves
    have hlast : (caller, .done (.ok state)) ∈ contest.crew :=
      hback.invariant hmember fun _ _ _ hstep hentry => hstep.mem_of_done hentry
    refine ⟨state, hstate, fun program => ⟨fun hentry => hsound.eq_of_mem hentry hlast, ?_⟩⟩
    rintro rfl
    exact hlast
  · intro event next hstep hchanged
    obtain hsame | ⟨-, hmoves⟩ := hsound.statusAt hstep
    · exact absurd hsame hchanged
    · exact hmoves

theorem contenders_agree_two :
    Sample.dueWorld.interloper = none ∧
    ∃ events contest turn,
      Path (Contest.Step Sample.tracker.own) ⟨Sample.dueWorld, []⟩ events contest ∧
      (0, .done (.ok .sent)) ∈ contest.crew ∧ (1, .done (.ok .sent)) ∈ contest.crew ∧
      .asked 0 turn ∈ events ∧ turn.Moves Sample.tracker.own ∧
      contest.world.table.statusAt Sample.tracker.own = .sent := by
  -- both read the row, the first moves it on, and the second finds out
  obtain ⟨events, contest, turn, hpath, hfirst, hsecond, hasked, hmoves⟩ :
      ∃ events contest turn,
        Path (Contest.Step Sample.tracker.own) ⟨Sample.dueWorld, []⟩ events contest ∧
        (0, .done (.ok .sent)) ∈ contest.crew ∧ (1, .done (.ok .sent)) ∈ contest.crew ∧
        .asked 0 turn ∈ events ∧ turn.Moves Sample.tracker.own := by
    refine ⟨_, _, _, .cons (.begin _ Sample.tracker rfl 0 List.not_mem_nil) <|
        .cons (.begin _ Sample.tracker rfl 1 (by decide)) <|
        .cons (.ask (.readRow _ _) (.mk [] _ 1 (.ask _ _ _))) <|
        .cons (.ask (.readRow _ _) (.mk [_] _ 0 (.ask _ _ _))) <|
        .cons (.ask (.transition _ _ _ _) (.mk [_] _ 0 (.ask _ _ _))) <|
        .cons (.ask (.transition _ _ _ _) (.mk [] _ 1 (.ask _ _ _))) <|
        .cons (.ask (.readRow _ _) (.mk [] _ 1 (.ask _ _ _))) <| .nil _,
      .tail _ (.head _), .head _, .tail _ (.tail _ (.tail _ (.tail _ (.head _)))), _, _, rfl⟩
  obtain ⟨-, hknown, -, -⟩ := contenders_agree rfl hpath
  exact ⟨rfl, events, contest, turn, hpath, hfirst, hsecond, hasked, hmoves,
    (hknown 0 .sent hfirst nofun).1.1 rfl⟩

end Courier
