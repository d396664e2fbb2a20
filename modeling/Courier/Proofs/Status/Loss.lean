import Courier.Proofs.Item.Account
import Courier.Proofs.Memory.Loss
import Courier.Proofs.Status.Contest
import Courier.Run.Closing

/-!
A worker whose calls to the status table fail although they have taken effect. It tries again what
it has done already: `countSent_adds_one_iff` says by how much a file is counted too often then, and
`advance_recognises_iff` that a worker does not recognise the row it has moved itself.
-/

namespace Courier

open Memory Program

/-- The number of sent files on a row. -/
def Memory.Table.sentAt (table : Table) (key : String × String) : Int :=
  ((find? table key).getD .empty).count

/-- The row that the call has moved on. -/
def Turn.moved? : Turn Call.Answer → Option (String × String)
  | ⟨.transition correlationId collection _ _, .ok true⟩ => some (correlationId, collection)
  | _ => none

theorem Turn.moves_iff {turn : Turn Call.Answer} {key : String × String} :
    turn.Moves key ↔ turn.moved? = some key := by
  constructor
  · rintro ⟨expected, status, rfl⟩
    rfl
  · unfold moved?
    split
    · rintro ⟨⟩
      exact ⟨_, _, rfl⟩
    · nofun

instance (turn : Turn Call.Answer) (key : String × String) : Decidable (turn.Moves key) :=
  decidable_of_iff _ Turn.moves_iff.symm

/-- The call is a transition of the row that has taken effect, heard of or not. -/
def Memory.Exchange.Moves (exchange : Exchange) (key : String × String) : Prop :=
  exchange.turn.Moves key ∧ exchange.fate.isPerformed

instance (exchange : Exchange) (key : String × String) : Decidable (exchange.Moves key) :=
  inferInstanceAs (Decidable (_ ∧ _))

/-- How many calls have taken effect without their callers knowing. -/
def Memory.Faltering.lost (state : Faltering) : Nat :=
  state.exchanges.countP (·.fate.isLost)

namespace Counting

/-- Increments of a row until one of them is answered. -/
def rule (key : String × String) : Rule Call.Answer Bool where
  allows counted op := counted = false ∧ op = .increment key.1 key.2
  after
    | _, ⟨.increment _ _, .ok _⟩ => true
    | counted, _ => counted

/-- The row is counted on by every call that takes effect, heard of or not, and no other row is
    touched. -/
structure Sound (key : String × String) (before : World) (counted : Bool) (state : Faltering) :
    Prop where
  others : ∀ other, other ≠ key → find? state.world.table other = find? before.table other
  sent : state.world.table.sentAt key = before.table.sentAt key + state.lost + counted.toNat
  increments : ∀ exchange ∈ state.exchanges, exchange.turn.op = .increment key.1 key.2

theorem countSent_follows (tracker : Tracker) :
    Follows (rule tracker.own) (fun counted result => counted = result.isOk)
      tracker.countSent.run false := by
  refine Follows.andThen (fun counted result => counted = result.isOk) ?_
    (fun _ _ h => .done h) fun _ _ h => h
  refine Follows.retryIf (· = false) rfl ?_
  rintro _ rfl
  refine Call.follows_errand (.increment _ _) ⟨rfl, rfl⟩ fun answer => ?_
  cases answer with
  | ok count => exact ⟨rfl, nofun⟩
  | error failure => exact ⟨rfl, fun _ _ _ => rfl⟩

theorem sentAt_perform (key : String × String) (world : World) :
    (world.perform (.increment key.1 key.2)).2.table.sentAt key = world.table.sentAt key + 1 := by
  rw [Table.sentAt, World.perform, World.setRow, find?_insert_self]
  rfl

/-- What becomes of an increment decides how much it counts, and whether that is heard of. -/
theorem sentAt_settle (key : String × String) (fate : Fate) (world : World) :
    (fate.settle (.increment key.1 key.2) world).2.table.sentAt key =
      world.table.sentAt key + fate.isLost.toNat + ((rule key).after false
        ⟨.increment key.1 key.2, (fate.settle (.increment key.1 key.2) world).1⟩).toNat := by
  have hperform := sentAt_perform key world
  cases fate with
  | answered => simpa [Fate.settle, Fate.isLost, rule, World.perform] using hperform
  | refused failure => simp [Fate.settle, Fate.isLost, rule]
  | lost failure => simpa [Fate.settle, Fate.isLost, rule] using hperform

theorem find?_settle_of_ne {key other : String × String} (fate : Fate) (world : World)
    (hne : other ≠ key) :
    find? (fate.settle (.increment key.1 key.2) world).2.table other = find? world.table other := by
  cases fate with
  | answered | lost => exact find?_insert_of_ne _ _ hne
  | refused => rfl

theorem Sound.answer {key : String × String} {before : World} {counted : Bool} {op : Call}
    {state : Faltering} (h : Sound key before counted state)
    (hallowed : (rule key).allows counted op) :
    Sound key before ((rule key).after counted ⟨op, (state.answer op).1⟩) (state.answer op).2 := by
  obtain ⟨rfl, rfl⟩ := hallowed
  obtain ⟨fate, hanswer, hworld, hexchanges⟩ := state.answer_cases (.increment key.1 key.2)
  refine ⟨fun other hne => ?_, ?_, ?_⟩
  · rw [hworld, find?_settle_of_ne fate _ hne]
    exact h.others other hne
  · have hlost : (state.answer (.increment key.1 key.2)).2.lost =
        state.lost + fate.isLost.toNat := by
      rw [Faltering.lost, hexchanges, List.countP_cons]
      cases fate <;> rfl
    have hsettled := sentAt_settle key fate state.world
    have hsent := h.sent
    rw [Bool.toNat_false] at hsent
    rw [hworld, hanswer, hlost, hsettled, hsent]
    omega
  · rw [hexchanges]
    exact List.forall_mem_cons.2 ⟨rfl, h.increments⟩

theorem Sound.run {tracker : Tracker} {world : World} {fates : List Fate}
    {result : Except Failure Unit}
    (hrun : (Faltering.run tracker.countSent (.start world fates)).1 = some result) :
    Sound tracker.own world result.isOk
      (Faltering.run tracker.countSent (.start world fates)).2 := by
  have hstart : Sound tracker.own world false (.start world fates) :=
    ⟨fun _ _ => rfl, by simp [Faltering.start, Faltering.lost], List.forall_mem_nil _⟩
  have hpass (counted : Bool) (state : Faltering) (nanos : Nat)
      (h : Sound tracker.own world counted state) :
      Sound tracker.own world counted (state.pass nanos) :=
    ⟨h.others, h.sent, h.increments⟩
  obtain ⟨counted, rfl, hsound⟩ := (countSent_follows tracker).run hstart
    (fun _ _ _ hallowed h => h.answer hallowed) hpass hrun
  exact hsound

end Counting

/-- Whichever calls fail, with or without effect: a sent file whose counting is reported as done has
    been counted once, and once more for every call that took effect without being answered. So it
    has been counted once exactly if no such answer got lost. -/
theorem Tracker.countSent_adds_one_iff (tracker : Tracker) (world : World) (fates : List Fate)
    (hok : (Faltering.run tracker.countSent (.start world fates)).1 = some (.ok ())) :
    let after := (Faltering.run tracker.countSent (.start world fates)).2
    (after.world.table.sentAt tracker.own = world.table.sentAt tracker.own + 1 ↔
      ∀ exchange ∈ after.exchanges, exchange.fate.isLost = false) ∧
    after.world.table.sentAt tracker.own = world.table.sentAt tracker.own + 1 + after.lost ∧
    (∀ exchange ∈ after.exchanges,
      exchange.turn.op = .increment tracker.correlationId tracker.collection) ∧
    ∀ other, other ≠ tracker.own → find? after.world.table other = find? world.table other := by
  intro after
  have hsound : Counting.Sound tracker.own world true after := Counting.Sound.run hok
  have hsent := hsound.sent
  rw [Bool.toNat_true] at hsent
  have hnone : after.lost = 0 ↔ ∀ exchange ∈ after.exchanges, exchange.fate.isLost = false := by
    simp [Faltering.lost, List.countP_eq_zero]
  refine ⟨?_, by omega, hsound.increments, hsound.others⟩
  rw [← hnone]
  omega

namespace Sample

/-- The worker of the sample run, which tries its calls twice. -/
def persistent : Tracker := .ofSettings settings

/-- The row of a collection that has no files. -/
def emptyRow : Row := ⟨.exported, some 0, none⟩

/-- A table with that row. -/
def emptyTable : World := { World.empty with table := [(tracker.own, emptyRow)] }

def timedOut : Failure := ⟨.statusTable, .reported "timed out"⟩

end Sample

theorem Tracker.countSent_adds_one_iff_refused :
    (Faltering.run Sample.persistent.countSent
      (.start Sample.dueWorld [.refused Sample.timedOut])).1 = some (.ok ()) ∧
    (Faltering.run Sample.persistent.countSent
      (.start Sample.dueWorld [.refused Sample.timedOut])).2.world.table.sentAt Sample.tracker.own =
        2 := by
  have hok : (Faltering.run Sample.persistent.countSent
      (.start Sample.dueWorld [.refused Sample.timedOut])).1 = some (.ok ()) := by
    decide +kernel
  obtain ⟨hone, -⟩ := Tracker.countSent_adds_one_iff _ _ _ hok
  exact ⟨hok, hone.2 (by decide +kernel)⟩

/-- A file is counted twice if the answer to the first attempt gets lost. -/
theorem Sample.exists_counted_twice :
    ∃ (tracker : Tracker) (world : World) (fates : List Fate),
      (Faltering.run tracker.countSent (.start world fates)).1 = some (.ok ()) ∧
      (Faltering.run tracker.countSent (.start world fates)).2.world.table.sentAt tracker.own =
        world.table.sentAt tracker.own + 2 :=
  ⟨persistent, dueWorld, [.lost timedOut], by decide +kernel, by decide +kernel⟩

namespace Recognition

/-- What a caller makes of a transition of its own that took effect: it has decided what the row
    says if it was answered, and else it does not come to know of it any more. -/
def Made (fate : Fate) (status : ExportStatus) (place : Contest.Place) : Prop :=
  (status = .sent ∨ status = .received) ∧
    (fate = .answered ∧ place = .decided (Tracker.stateOf status) ∨
      fate.isLost ∧ (place = .reading ∨ place = .decided .inProgress))

/-- Nobody else writes the table, and the caller is where its own transition has left it. -/
structure Sound (key : String × String) (place : Contest.Place) (state : Faltering) : Prop where
  interloper : state.world.interloper = none
  made : ∀ exchange ∈ state.exchanges, exchange.Moves key →
    Made exchange.fate (state.world.table.statusAt key) place

variable {key : String × String} {place : Contest.Place} {op : Call} {state : Faltering}

theorem stateOf_target (record : StatusRecord) :
    Tracker.stateOf (Tracker.target record).1 = (Tracker.target record).2 := by
  unfold Tracker.target
  split <;> rfl

theorem target_cases (record : StatusRecord) :
    (Tracker.target record).1 = .sent ∨ (Tracker.target record).1 = .received := by
  unfold Tracker.target
  split
  · exact .inl rfl
  · exact .inr rfl

/-- A row that is not exported any more is not due. -/
theorem after_reading_of_ne {world : World} (hstatus : world.table.statusAt key ≠ .exported) :
    (Contest.Place.rule key).after .reading
      ⟨.readRow key.1 key.2, (world.perform (.readRow key.1 key.2)).1⟩ = .decided .inProgress := by
  refine if_neg fun hdue => ?_
  rw [Tracker.isDue, Bool.and_eq_true, beq_iff_eq] at hdue
  exact hstatus ((world.table.status_record key).symm.trans hdue.1)

/-- After a transition has taken effect, its caller only reads the row and finds it not due. -/
theorem Made.settle {fate : Fate} {world : World}
    (h : Made fate (world.table.statusAt key) place)
    (hallowed : (Contest.Place.rule key).allows place op) (other : Fate) :
    op = .readRow key.1 key.2 ∧
      Made fate ((other.settle op world).2.table.statusAt key)
        ((Contest.Place.rule key).after place ⟨op, (other.settle op world).1⟩) := by
  obtain ⟨hstatus, ⟨-, rfl⟩ | ⟨hlost, rfl | rfl⟩⟩ := h
  · cases hallowed
  · obtain rfl := hallowed
    have htable : (other.settle (.readRow key.1 key.2) world).2.table = world.table := by
      cases other with
      | answered | lost => exact World.perform_table_of_ne nofun nofun
      | refused => rfl
    refine ⟨rfl, htable ▸ hstatus, .inr ⟨hlost, ?_⟩⟩
    cases other with
    | answered =>
      refine .inr (after_reading_of_ne ?_)
      obtain hstatus | hstatus := hstatus <;> rw [hstatus] <;> nofun
    | refused | lost => exact .inl rfl
  · cases hallowed

/-- A transition that takes effect tells its caller what it has made of the row, if it tells it
    anything. -/
theorem Made.of_moves {fate : Fate} {world : World} (hnone : world.interloper = none)
    (hallowed : (Contest.Place.rule key).allows place op)
    (hmoves : Turn.Moves ⟨op, (world.perform op).1⟩ key) (hperformed : fate.isPerformed) :
    Made fate ((fate.settle op world).2.table.statusAt key)
      ((Contest.Place.rule key).after place ⟨op, (fate.settle op world).1⟩) := by
  obtain ⟨expected, status, hturn⟩ := hmoves
  cases place with
  | reading | beaten =>
    obtain rfl := hallowed
    cases congrArg Turn.op hturn
  | decided => cases hallowed
  | due record =>
    obtain ⟨-, rfl⟩ := hallowed
    obtain ⟨hanswer, row, -, -, htable⟩ | ⟨hanswer, -⟩ :=
      world.perform_transition_cases key.1 key.2 record (Tracker.target record).1 hnone
    · have hstatus : (world.perform (.transition key.1 key.2 record
          (Tracker.target record).1)).2.table.statusAt key = (Tracker.target record).1 := by
        rw [htable, Table.statusAt, find?_insert_self]
        rfl
      cases fate with
      | answered =>
        rw [Fate.settle, hanswer, hstatus]
        refine ⟨target_cases record, .inl ⟨rfl, ?_⟩⟩
        rw [stateOf_target]
        rfl
      | refused => cases hperformed
      | lost failure =>
        rw [Fate.settle, hstatus]
        exact ⟨target_cases record, .inr ⟨rfl, .inl rfl⟩⟩
    · rw [hanswer] at hturn
      cases hturn

theorem Sound.answer (h : Sound key place state)
    (hallowed : (Contest.Place.rule key).allows place op) :
    Sound key ((Contest.Place.rule key).after place ⟨op, (state.answer op).1⟩)
      (state.answer op).2 := by
  obtain ⟨fate, hanswer, hworld, hexchanges⟩ := state.answer_cases op
  rw [hanswer]
  refine ⟨hworld ▸ fate.settle_interloper op h.interloper, ?_⟩
  rw [hworld, hexchanges]
  refine List.forall_mem_cons.2 ⟨?_, fun exchange hexchange hmoves => ?_⟩
  · rintro ⟨hmoves, hperformed⟩
    exact .of_moves h.interloper hallowed hmoves hperformed
  · exact ((h.made exchange hexchange hmoves).settle hallowed fate).2

theorem Sound.run {tracker : Tracker} {world : World} {fates : List Fate}
    (hnone : world.interloper = none) {state : CollectionState}
    (hrun : (Faltering.run tracker.advance (.start world fates)).1 = some (.ok state)) :
    Sound tracker.own (.decided state) (Faltering.run tracker.advance (.start world fates)).2 := by
  have hstart : Sound tracker.own .reading (.start world fates) :=
    ⟨hnone, List.forall_mem_nil _⟩
  have hpass (place : Contest.Place) (state : Faltering) (nanos : Nat)
      (h : Sound tracker.own place state) : Sound tracker.own place (state.pass nanos) :=
    ⟨h.interloper, h.made⟩
  obtain ⟨place, hplace, hsound⟩ := (Contest.Place.advance_follows tracker).run hstart
    (fun _ _ _ hallowed h => h.answer hallowed) hpass hrun
  obtain rfl : place = .decided state := hplace
  exact hsound

end Recognition

/-- Whichever calls fail, with or without effect, while nobody else writes the table: if a worker's
    transition has taken effect, the row is sent or received, and the worker knows which exactly if
    that transition has been answered. If the answer got lost, it takes the collection for one in
    progress. -/
theorem Tracker.advance_recognises_iff (tracker : Tracker) {world : World} (fates : List Fate)
    (hnone : world.interloper = none) {state : CollectionState}
    (hok : (Faltering.run tracker.advance (.start world fates)).1 = some (.ok state)) :
    let after := (Faltering.run tracker.advance (.start world fates)).2
    ∀ exchange ∈ after.exchanges, exchange.Moves tracker.own →
      let status := after.world.table.statusAt tracker.own
      (status = .sent ∨ status = .received) ∧
        (status = .sent ∧ state = .sent ∨ status = .received ∧ state = .noFiles ↔
          exchange.fate = .answered) ∧
        (exchange.fate.isLost → state = .inProgress) := by
  intro after exchange hexchange hmoves status
  have hsound : Recognition.Sound tracker.own (.decided state) after := .run hnone hok
  obtain ⟨hstatus, ⟨hanswered, hstate⟩ | ⟨hlost, hstate | hstate⟩⟩ :=
    hsound.made exchange hexchange hmoves
  · have hknown : state = Tracker.stateOf status := Contest.Place.decided.inj hstate
    refine ⟨hstatus, iff_of_true (hstatus.imp ?_ ?_) hanswered, fun hlost => ?_⟩
    · exact fun hsent => ⟨hsent, hknown.trans (congrArg Tracker.stateOf hsent)⟩
    · exact fun hreceived => ⟨hreceived, hknown.trans (congrArg Tracker.stateOf hreceived)⟩
    · rw [hanswered] at hlost
      cases hlost
  · cases hstate
  · obtain rfl : state = .inProgress := Contest.Place.decided.inj hstate
    refine ⟨hstatus, iff_of_false (fun hknown => ?_) fun hanswered => ?_, fun _ => rfl⟩
    · obtain ⟨-, hother⟩ | ⟨-, hother⟩ := hknown <;> cases hother
    · rw [hanswered] at hlost
      cases hlost

theorem Tracker.advance_recognises_iff_refused :
    Sample.emptyTable.interloper = none ∧
    (Faltering.run Sample.persistent.advance
      (.start Sample.emptyTable [.answered, .refused Sample.timedOut])).1 = some (.ok .noFiles) ∧
    ∃ exchange ∈ (Faltering.run Sample.persistent.advance
        (.start Sample.emptyTable [.answered, .refused Sample.timedOut])).2.exchanges,
      exchange.Moves Sample.tracker.own ∧ exchange.fate = .answered ∧
        (Faltering.run Sample.persistent.advance (.start
          Sample.emptyTable [.answered, .refused Sample.timedOut])).2.world.table.statusAt
            Sample.tracker.own = .received := by
  have hok : (Faltering.run Sample.persistent.advance
      (.start Sample.emptyTable [.answered, .refused Sample.timedOut])).1 =
        some (.ok .noFiles) := by
    decide +kernel
  obtain ⟨exchange, hexchange, hmoves, hanswered⟩ :
      ∃ exchange ∈ (Faltering.run Sample.persistent.advance
          (.start Sample.emptyTable [.answered, .refused Sample.timedOut])).2.exchanges,
        exchange.Moves Sample.tracker.own ∧ exchange.fate = .answered := by
    decide +kernel
  obtain ⟨-, hknown, -⟩ :=
    Tracker.advance_recognises_iff _ _ rfl hok exchange hexchange hmoves
  obtain ⟨-, hother⟩ | ⟨hreceived, -⟩ := hknown.2 hanswered
  · cases hother
  · exact ⟨rfl, hok, exchange, hexchange, hmoves, hanswered, hreceived⟩

/-- The answer to the transition of an empty collection gets lost: the row is received, the worker
    takes the collection for one in progress, and its run ends well without an announcement. -/
theorem Sample.exists_unrecognised :
    ∃ (settings : Settings) (world : World) (fates : List Fate),
      let tracker := Tracker.ofSettings settings
      let after := (Faltering.run tracker.advance (.start world fates)).2
      let closing := Closing.afterRun settings (.ok ⟨0, 0, 0, 0⟩)
      world.interloper = none ∧
      (Faltering.run tracker.advance (.start world fates)).1 = some (.ok .inProgress) ∧
      (∃ exchange ∈ after.exchanges, exchange.Moves tracker.own) ∧
      after.world.table.statusAt tracker.own = .received ∧
      (Faltering.run closing (.start world fates)).1 = some (.ok ()) ∧
      ∀ exchange ∈ (Faltering.run closing (.start world fates)).2.exchanges,
        kindOf exchange.turn.op ≠ .deliver :=
  ⟨settings, emptyTable, [.answered, .lost timedOut], rfl, by decide +kernel, by decide +kernel,
    by decide +kernel, by decide +kernel, by decide +kernel⟩

end Courier
