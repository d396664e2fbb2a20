import Courier.Proofs.Memory.Loss
import Courier.Proofs.Program.Trace
import Courier.Proofs.Run.Notice
import Courier.Proofs.Status.Racing

/-!
The completion of an export while workers go on. A worker moves on none but exported rows, and those
are neither delivered nor failed; so what the rows of a completed export say is not taken back.
-/

namespace Courier

open Memory Program

namespace Memory.Table

variable {table before middle after : Table} {correlationId : String} {key : String × String}

/-- No key is there twice. -/
def Distinct (table : Table) : Prop := (table.map Prod.fst).Nodup

/-- What the rows of an export say together. -/
def completion (table : Table) (correlationId : String) : Completion :=
  .ofStatuses ((table.records correlationId).map StatusRecord.status)

theorem mem_statuses_iff (h : table.Distinct) {status : ExportStatus} :
    status ∈ (table.records correlationId).map StatusRecord.status ↔
      ∃ collection row, find? table (correlationId, collection) = some row ∧
        row.status = status := by
  simp only [records, List.mem_map, List.mem_mergeSort, List.mem_filter, beq_iff_eq]
  constructor
  · rintro ⟨_, ⟨⟨⟨_, collection⟩, row⟩, ⟨hmem, rfl⟩, rfl⟩, rfl⟩
    exact ⟨collection, row, (find?_eq_some_iff_mem h).2 hmem, rfl⟩
  · rintro ⟨collection, row, hrow, rfl⟩
    exact ⟨_, ⟨_, ⟨(find?_eq_some_iff_mem h).1 hrow, rfl⟩, rfl⟩, rfl⟩

theorem completion_eq_successful_iff (h : table.Distinct) :
    table.completion correlationId = .successful ↔
      (∃ collection row, find? table (correlationId, collection) = some row) ∧
        ∀ collection row, find? table (correlationId, collection) = some row →
          row.status.isDelivered := by
  rw [completion, Completion.ofStatuses_eq_successful_iff]
  refine and_congr ?_ ?_
  · constructor
    · intro hne
      obtain ⟨status, hstatus⟩ := List.exists_mem_of_ne_nil _ hne
      obtain ⟨collection, row, hrow, -⟩ := (mem_statuses_iff h).1 hstatus
      exact ⟨collection, row, hrow⟩
    · rintro ⟨collection, row, hrow⟩
      exact List.ne_nil_of_mem ((mem_statuses_iff h).2 ⟨collection, row, hrow, rfl⟩)
  · constructor
    · intro hall collection row hrow
      exact hall _ ((mem_statuses_iff h).2 ⟨collection, row, hrow, rfl⟩)
    · intro hall status hstatus
      obtain ⟨collection, row, hrow, rfl⟩ := (mem_statuses_iff h).1 hstatus
      exact hall collection row hrow

theorem completion_eq_unsuccessful_iff (h : table.Distinct) :
    table.completion correlationId = .unsuccessful ↔
      ∃ collection row, find? table (correlationId, collection) = some row ∧
        row.status.isFailed := by
  rw [completion, Completion.ofStatuses_eq_unsuccessful_iff]
  constructor
  · rintro ⟨status, hstatus, hfailed⟩
    obtain ⟨collection, row, hrow, rfl⟩ := (mem_statuses_iff h).1 hstatus
    exact ⟨collection, row, hrow, hfailed⟩
  · rintro ⟨collection, row, hrow, hfailed⟩
    exact ⟨row.status, (mem_statuses_iff h).2 ⟨collection, row, hrow, rfl⟩, hfailed⟩

/-- No row of the export has gone, and each has the status it had, unless it was exported. -/
def Keeps (correlationId : String) (before after : Table) : Prop :=
  ∀ collection row, find? before (correlationId, collection) = some row →
    ∃ row', find? after (correlationId, collection) = some row' ∧
      (row.status ≠ .exported → row'.status = row.status)

/-- No row of the export has come. -/
def AddsNone (correlationId : String) (before after : Table) : Prop :=
  ∀ collection, find? before (correlationId, collection) = none →
    find? after (correlationId, collection) = none

/-- A row has been written anew. It has the status it had, unless it was exported. -/
def Reworked (key : String × String) (before after : Table) : Prop :=
  ∃ row, after = insert before key row ∧
    ∀ old, find? before key = some old → old.status ≠ .exported → row.status = old.status

theorem Keeps.refl (correlationId : String) (table : Table) : table.Keeps correlationId table :=
  fun _ row hrow => ⟨row, hrow, fun _ => rfl⟩

theorem Keeps.trans (hfirst : before.Keeps correlationId middle)
    (hsecond : middle.Keeps correlationId after) : before.Keeps correlationId after := by
  intro collection row hrow
  obtain ⟨row', hrow', hstatus⟩ := hfirst collection row hrow
  obtain ⟨row'', hrow'', hstatus'⟩ := hsecond collection row' hrow'
  refine ⟨row'', hrow'', fun hne => ?_⟩
  have hsame := hstatus hne
  exact (hstatus' (hsame ▸ hne)).trans hsame

theorem Keeps.isSome (h : before.Keeps correlationId after) (hkey : key.1 = correlationId)
    (hsome : (find? before key).isSome) : (find? after key).isSome := by
  obtain ⟨row, hrow⟩ := Option.isSome_iff_exists.1 hsome
  subst hkey
  obtain ⟨row', hrow', -⟩ := h key.2 row hrow
  exact Option.isSome_iff_exists.2 ⟨row', hrow'⟩

/-- The rows of other exports do not matter. -/
theorem keeps_insert_of_ne (hkey : key.1 ≠ correlationId) (row : Row) :
    table.Keeps correlationId (insert table key row) := by
  intro collection old hold
  refine ⟨old, ?_, fun _ => rfl⟩
  rwa [find?_insert_of_ne]
  rintro rfl
  exact hkey rfl

theorem Reworked.keeps (h : before.Reworked key after) (correlationId : String) :
    before.Keeps correlationId after := by
  obtain ⟨row, rfl, hstatus⟩ := h
  intro collection old hold
  by_cases hkey : (correlationId, collection) = key
  · subst hkey
    exact ⟨row, find?_insert_self _ _ _, hstatus old hold⟩
  · refine ⟨old, ?_, fun _ => rfl⟩
    rwa [find?_insert_of_ne _ _ hkey]

theorem addsNone_insert {row : Row}
    (h : key.1 = correlationId → (find? table key).isSome) :
    table.AddsNone correlationId (insert table key row) := by
  intro collection hnone
  rw [find?_insert_of_ne]
  · exact hnone
  · rintro rfl
    have hsome := h rfl
    rw [hnone] at hsome
    cases hsome

/-- A failed row stays failed. -/
theorem Keeps.unsuccessful (h : before.Keeps correlationId after) (hbefore : before.Distinct)
    (hafter : after.Distinct) (hcompletion : before.completion correlationId = .unsuccessful) :
    after.completion correlationId = .unsuccessful := by
  obtain ⟨collection, row, hrow, hfailed⟩ := (completion_eq_unsuccessful_iff hbefore).1 hcompletion
  obtain ⟨row', hrow', hstatus⟩ := h collection row hrow
  refine (completion_eq_unsuccessful_iff hafter).2 ⟨collection, row', hrow', ?_⟩
  rw [hstatus]
  · exact hfailed
  · intro hexported
    rw [hexported] at hfailed
    cases hfailed

/-- Delivered rows stay delivered. -/
theorem Keeps.successful (h : before.Keeps correlationId after) (hbefore : before.Distinct)
    (hafter : after.Distinct) (hnone : before.AddsNone correlationId after)
    (hcompletion : before.completion correlationId = .successful) :
    after.completion correlationId = .successful := by
  obtain ⟨⟨collection, row, hrow⟩, hall⟩ := (completion_eq_successful_iff hbefore).1 hcompletion
  refine (completion_eq_successful_iff hafter).2 ⟨?_, fun other later hlater => ?_⟩
  · obtain ⟨row', hrow', -⟩ := h collection row hrow
    exact ⟨collection, row', hrow'⟩
  · cases hfirst : find? before (correlationId, other) with
    | none =>
      rw [hnone other hfirst] at hlater
      cases hlater
    | some first =>
      have hdelivered := hall other first hfirst
      obtain ⟨row', hrow', hstatus⟩ := h other first hfirst
      cases hlater.symm.trans hrow'
      rw [hstatus]
      · exact hdelivered
      · intro hexported
        rw [hexported] at hdelivered
        cases hdelivered

end Memory.Table

/-- A tracker that has got the rows of its export, in any order, finds what they say together. -/
theorem Tracker.eq_completion_of_leads {tracker : Tracker} {turns : List (Turn Call.Answer)}
    {completion : Completion} (h : Leads tracker.completion.run turns (.done (.ok completion)))
    {correlationId : String} {table : Table} {records : List StatusRecord}
    (hrows : ⟨.rows correlationId, .ok records⟩ ∈ turns)
    (hperm : records.Perm (table.records correlationId)) :
    completion = table.completion correlationId := by
  obtain ⟨rest, hrest, hfails⟩ | ⟨front, back, answer, rfl, hfront, hback⟩ := Leads.of_andThen h
  · obtain ⟨failure, -, ⟨⟩⟩ := hfails _ rfl
  obtain ⟨rfl, hdone⟩ := hback.eq_of_done
  obtain ⟨failures, rfl⟩ := (Leads.of_retry hfront).2.2 _ rfl
  rw [List.append_nil] at hrows
  obtain hfailed | hlast := List.mem_append.1 hrows
  · obtain ⟨failure, -, hturn⟩ := List.mem_map.1 hfailed
    cases congrArg Turn.op hturn
    cases eq_of_heq (Turn.mk.inj hturn).2
  · have hturn := List.mem_singleton.1 hlast
    cases congrArg Turn.op hturn
    cases eq_of_heq (Turn.mk.inj hturn).2
    cases hdone
    exact Completion.ofStatuses_perm (hperm.map StatusRecord.status)

/-- A call of a worker leaves the table as it is, or reworks the worker's own row. -/
theorem Tracker.Asks.reworks {tracker : Tracker} {task : TableTask} {call : Call}
    (h : tracker.Asks task call) {world : World} (hinterloper : world.interloper = none)
    (fate : Fate) :
    (fate.settle call world).2.table = world.table ∨
      world.table.Reworked tracker.own (fate.settle call world).2.table := by
  obtain hrefused | hperformed := fate.settle_cases call world
  · exact .inl (congrArg World.table hrefused)
  rw [hperformed]
  cases h with
  | readRow => exact .inl (World.perform_table_of_ne nofun nofun)
  | increment =>
    refine .inr ⟨_, rfl, fun old hold _ => ?_⟩
    change find? world.table (tracker.correlationId, tracker.collection) = some old at hold
    rw [hold]
    rfl
  | transition expected hdue =>
    obtain ⟨-, row, hrow, hagrees, htable⟩ | ⟨-, htable⟩ :=
      world.perform_transition_cases tracker.correlationId tracker.collection expected
        (target expected).1 hinterloper
    · refine .inr ⟨_, htable, fun old hold hstatus => ?_⟩
      -- the row is as the worker has read it, and that was due
      cases hold.symm.trans hrow
      simp only [Row.agrees, Bool.and_eq_true, beq_iff_eq] at hagrees
      simp only [isDue, Bool.and_eq_true, beq_iff_eq] at hdue
      exact absurd (hagrees.1.1.trans hdue.1) hstatus
    · exact .inl htable

namespace Race

/-- The steps of a race in which calls fail, with or without effect, and other systems write what
    they like. -/
inductive Unsteady : Race → Happening → Race → Prop
  | begin (race : Race) (tracker : Tracker) (task : TableTask) :
    Unsteady race (.began tracker task)
      { race with crew := (tracker, (task.errand tracker).run) :: race.crew }
  | ask {race : Race} {tracker : Tracker} (call : Call) (fate : Fate)
    {crew : Crew Tracker Call.Answer (Except Failure (Option CollectionState))}
    (hmove : race.crew.Move tracker (some ⟨call, (fate.settle call race.world).1⟩) crew) :
    Unsteady race (.asked tracker ⟨call, (fate.settle call race.world).1⟩)
      ⟨(fate.settle call race.world).2, crew⟩
  | wait {race : Race} {tracker : Tracker} (nanos : Nat)
    {crew : Crew Tracker Call.Answer (Except Failure (Option CollectionState))}
    (hmove : race.crew.Move tracker none crew) :
    Unsteady race (.waited tracker nanos) ⟨race.world.pass nanos, crew⟩
  | finish (world : World) (tracker : Tracker) (result : Except Failure (Option CollectionState))
    (front back : Crew Tracker Call.Answer (Except Failure (Option CollectionState))) :
    Unsteady ⟨world, front ++ (tracker, .done result) :: back⟩ (.ended tracker result)
      ⟨world, front ++ back⟩
  | write (race : Race) (key : String × String) (row : Row) :
    Unsteady race (.wrote key row) { race with world := race.world.setRow key.1 key.2 row }

/-- What holds all along: no row is there twice, nobody writes between a transition's check and its
    write, and every task keeps to the calls of its worker. -/
structure Regular (race : Race) : Prop where
  interloper : race.world.interloper = none
  distinct : race.world.table.Distinct
  makes : OnTask race.crew

/-- The workers of an export that are under way, and those that begin later, have rows. -/
structure Manned (race : Race) (correlationId : String) (later : List Happening) : Prop where
  crew : ∀ tracker ∈ race.crew.map Prod.fst, tracker.correlationId = correlationId →
    (find? race.world.table tracker.own).isSome
  later : ∀ tracker task, .began tracker task ∈ later → tracker.correlationId = correlationId →
    (find? race.world.table tracker.own).isSome

variable {race next last : Race} {happening : Happening} {happenings : List Happening}
  {correlationId : String}

/-- What a step does to the table. -/
theorem Regular.table_cases (h : race.Regular) (hstep : Unsteady race happening next) :
    next.world.table = race.world.table ∨
    (∃ tracker ∈ race.crew.map Prod.fst,
      race.world.table.Reworked tracker.own next.world.table) ∨
    ∃ key row, happening = .wrote key row ∧
      next.world.table = insert race.world.table key row := by
  cases hstep with
  | begin | wait | finish => exact .inl rfl
  | @ask _ tracker call fate _ hmove =>
    obtain ⟨hmember, task, hasks⟩ := h.makes.asks hmove
    obtain hsame | hreworked := hasks.reworks h.interloper fate
    · exact .inl hsame
    · exact .inr (.inl ⟨tracker, hmember, hreworked⟩)
  | write _ key row => exact .inr (.inr ⟨key, row, rfl, rfl⟩)

theorem Regular.step (hstep : Unsteady race happening next) (h : race.Regular) : next.Regular := by
  have hdistinct : next.world.table.Distinct := by
    obtain hsame | ⟨tracker, -, row, hrow, -⟩ | ⟨key, row, -, hrow⟩ := h.table_cases hstep
    · exact hsame ▸ h.distinct
    · exact hrow ▸ nodup_keys_insert h.distinct _ _
    · exact hrow ▸ nodup_keys_insert h.distinct _ _
  cases hstep with
  | begin _ tracker task => exact ⟨h.interloper, hdistinct, h.makes.begin tracker task⟩
  | ask call fate hmove =>
    exact ⟨fate.settle_interloper call h.interloper, hdistinct, h.makes.move hmove⟩
  | wait nanos hmove => exact ⟨h.interloper, hdistinct, h.makes.move hmove⟩
  | finish => exact ⟨h.interloper, hdistinct, h.makes.finish⟩
  | write => exact ⟨h.interloper, hdistinct, h.makes⟩

/-- No step but a write of another system takes the status of a row back. -/
theorem Regular.keeps (h : race.Regular) (hstep : Unsteady race happening next)
    (hwrites : ∀ key row, happening = .wrote key row → key.1 ≠ correlationId) :
    race.world.table.Keeps correlationId next.world.table := by
  obtain hsame | ⟨tracker, -, hreworked⟩ | ⟨key, row, hwrote, hrow⟩ := h.table_cases hstep
  · exact hsame ▸ .refl _ _
  · exact hreworked.keeps correlationId
  · exact hrow ▸ Table.keeps_insert_of_ne (hwrites key row hwrote) row

/-- Workers that have rows add none. -/
theorem Regular.addsNone (h : race.Regular) (hstep : Unsteady race happening next)
    (hwrites : ∀ key row, happening = .wrote key row → key.1 ≠ correlationId)
    (hmanned : race.Manned correlationId happenings) :
    race.world.table.AddsNone correlationId next.world.table := by
  obtain hsame | ⟨tracker, hmember, row, hrow, -⟩ | ⟨key, row, hwrote, hrow⟩ := h.table_cases hstep
  · exact hsame ▸ fun _ => id
  · exact hrow ▸ Table.addsNone_insert (hmanned.crew tracker hmember)
  · exact hrow ▸ Table.addsNone_insert fun hkey => absurd hkey (hwrites key row hwrote)

theorem Manned.step (h : race.Manned correlationId (happening :: happenings))
    (hstep : Unsteady race happening next)
    (hkeeps : race.world.table.Keeps correlationId next.world.table) :
    next.Manned correlationId happenings := by
  have hhas (tracker : Tracker) (hown : tracker.correlationId = correlationId)
      (hsome : (find? race.world.table tracker.own).isSome) :
      (find? next.world.table tracker.own).isSome := hkeeps.isSome hown hsome
  refine ⟨fun tracker hmember hown => hhas tracker hown ?_, fun tracker task hbegan hown => ?_⟩
  · cases hstep with
    | begin _ other task =>
      obtain rfl | hmember := List.mem_cons.1 hmember
      · exact h.later _ task List.mem_cons_self hown
      · exact h.crew tracker hmember hown
    | ask call fate hmove => exact h.crew tracker (hmove.members ▸ hmember) hown
    | wait nanos hmove => exact h.crew tracker (hmove.members ▸ hmember) hown
    | finish world other result front back =>
      refine h.crew tracker ?_ hown
      simp only [List.map_append, List.map_cons, List.mem_append, List.mem_cons] at hmember ⊢
      exact hmember.imp_right .inr
    | write => exact h.crew tracker hmember hown
  · exact hhas tracker hown (h.later tracker task (List.mem_cons_of_mem _ hbegan) hown)

/-- What a whole race leaves of the rows of an export that no other system writes. -/
theorem Regular.path (hpath : Path Unsteady race happenings last) (h : race.Regular)
    (hwrites : ∀ key row, .wrote key row ∈ happenings → key.1 ≠ correlationId) :
    last.Regular ∧ race.world.table.Keeps correlationId last.world.table ∧
      (race.Manned correlationId happenings →
        race.world.table.AddsNone correlationId last.world.table) := by
  induction hpath with
  | nil => exact ⟨h, .refl _ _, fun _ _ => id⟩
  | @cons _ _ _ happening _ hstep _ ih =>
    have hfirst (key : String × String) (row : Row) (hwrote : happening = .wrote key row) :
        key.1 ≠ correlationId := hwrites key row (hwrote ▸ List.mem_cons_self)
    have hkeeps := h.keeps hstep hfirst
    obtain ⟨hlast, hrest, hnone⟩ := ih (h.step hstep) fun key row hwrote =>
      hwrites key row (List.mem_cons_of_mem _ hwrote)
    refine ⟨hlast, hkeeps.trans hrest, fun hmanned collection hfound => ?_⟩
    apply hnone (hmanned.step hstep hkeeps)
    exact h.addsNone hstep hfirst hmanned collection hfound

end Race

/-- However workers go on, with calls that fail with or without effect, and whatever they had
    decided before: once an export is completed unsuccessfully, it stays so, also if rows are added.
    If its workers have rows and no other system writes its rows, it stays as it has been completed.
    A tracker finds the same completion in whatever order it gets the rows. -/
theorem completion_never_regresses {start : World} {front back : List Happening}
    {middle last : Race} {correlationId : String} (hdistinct : start.table.Distinct)
    (hinterloper : start.interloper = none)
    (hfront : Path Race.Unsteady ⟨start, []⟩ front middle)
    (hback : Path Race.Unsteady middle back last)
    (hwrites : ∀ key row, .wrote key row ∈ back → key.1 ≠ correlationId) :
    (middle.world.table.completion correlationId = .unsuccessful →
      last.world.table.completion correlationId = .unsuccessful) ∧
    (middle.Manned correlationId back →
      middle.world.table.completion correlationId ≠ .notCompleted →
      last.world.table.completion correlationId = middle.world.table.completion correlationId) ∧
    ∀ (tracker : Tracker) (turns : List (Turn Call.Answer)) (completion : Completion)
        (records : List StatusRecord),
      Leads tracker.completion.run turns (.done (.ok completion)) →
      ⟨.rows correlationId, .ok records⟩ ∈ turns →
      records.Perm (middle.world.table.records correlationId) →
      completion = middle.world.table.completion correlationId := by
  have hstart : Race.Regular ⟨start, []⟩ := ⟨hinterloper, hdistinct, fun _ h => nomatch h⟩
  have hmiddle : middle.Regular := hfront.invariant hstart fun _ _ _ hstep h => h.step hstep
  obtain ⟨hlast, hkeeps, hnone⟩ := hmiddle.path hback hwrites
  have hunsuccessful := hkeeps.unsuccessful hmiddle.distinct hlast.distinct
  refine ⟨hunsuccessful, fun hmanned hcompleted => ?_,
    fun tracker turns completion records hleads hrows hperm => ?_⟩
  · cases hcompletion : middle.world.table.completion correlationId with
    | notCompleted => exact absurd hcompletion hcompleted
    | successful =>
      exact hkeeps.successful hmiddle.distinct hlast.distinct (hnone hmanned) hcompletion
    | unsuccessful => exact hunsuccessful hcompletion
  · exact tracker.eq_completion_of_leads hleads hrows hperm

/-- Two workers have read the row while it was due. The first one has moved it on, which completes
    the export, and the second one, which would do so too, comes too late. -/
theorem completion_never_regresses_lateWorker :
    Sample.dueWorld.table.Distinct ∧ Sample.dueWorld.interloper = none ∧
    ∃ front middle turn last, Path Race.Unsteady ⟨Sample.dueWorld, []⟩ front middle ∧
      Path Race.Unsteady middle [.asked Sample.tracker turn] last ∧
      turn.op = .transition "id" "db.core.thing" ⟨"db.core.thing", .exported, 1, 1⟩ .sent ∧
      middle.world.table.completion "id" = .successful ∧
      last.world.table.completion "id" = .successful := by
  have hdistinct : Sample.dueWorld.table.Distinct := List.pairwise_singleton _ _
  obtain ⟨front, middle, turn, last, hfront, hback, hturn, hcompletion, hmanned⟩ :
      ∃ front middle turn last, Path Race.Unsteady ⟨Sample.dueWorld, []⟩ front middle ∧
        Path Race.Unsteady middle [.asked Sample.tracker turn] last ∧
        turn.op = .transition "id" "db.core.thing" ⟨"db.core.thing", .exported, 1, 1⟩ .sent ∧
        middle.world.table.completion "id" = .successful ∧
        middle.Manned "id" [.asked Sample.tracker turn] := by
    refine ⟨_, _, _, _, .cons (.begin _ Sample.tracker .advance) <|
        .cons (.begin _ Sample.tracker .advance) <|
        .cons (.ask (.readRow _ _) .answered (.mk [] _ Sample.tracker (.ask _ _ _))) <|
        .cons (.ask (.readRow _ _) .answered (.mk [_] _ Sample.tracker (.ask _ _ _))) <|
        .cons (.ask (.transition _ _ _ _) .answered (.mk [] _ Sample.tracker (.ask _ _ _))) <|
        .nil _,
      .cons (.ask (.transition _ _ _ _) .answered (.mk [_] _ Sample.tracker (.ask _ _ _))) <|
        .nil _, rfl, ?_, ?_, ?_⟩
    · decide +kernel
    · decide +kernel
    · rintro tracker task hbegan
      cases List.mem_singleton.1 hbegan
  have hwrites (key : String × String) (row : Row)
      (hwrote : .wrote key row ∈ [Happening.asked Sample.tracker turn]) : key.1 ≠ "id" := by
    cases List.mem_singleton.1 hwrote
  have hstays := completion_never_regresses hdistinct rfl hfront hback hwrites
  refine ⟨hdistinct, rfl, front, middle, turn, last, hfront, hback, hturn, hcompletion, ?_⟩
  rw [hstays.2.1 hmanned, hcompletion]
  rw [hcompletion]
  nofun

end Courier
