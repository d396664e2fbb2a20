import Courier.Proofs.Export.Topic
import Courier.Proofs.Run.Reprocessing
import Courier.Proofs.Run.Restart

/-!
Runs over one collection at the same time. Every run looks for the marker of an object before it
delivers it, but between the look and the marker another run may do the same; both of them count the
object. So the number of sent files is that of the countings, and a collection may be moved on
although an object of it has never been accepted.
-/

namespace Courier

open Memory Program

/-- The collaborators, and the runs that are in progress. -/
structure Fleet where
  world : World
  runs : List (Settings × Stage)

/-- The steps of a fleet. A run may begin at any time, and any run may go on. -/
inductive Fleet.Step (admits : Settings → Prop) : Fleet → Option Asked → Fleet → Prop
  | begin (fleet : Fleet) (settings : Settings) (hadmits : admits settings) :
    Step admits fleet none { fleet with runs := (settings, .first settings) :: fleet.runs }
  | go {world world' : World} {settings : Settings} {stage stage' : Stage} {label : Option Asked}
    (front back : List (Settings × Stage))
    (hgoes : Stage.Goes settings (world, stage) label (world', stage')) :
    Step admits ⟨world, front ++ (settings, stage) :: back⟩ label
      ⟨world', front ++ (settings, stage') :: back⟩
  | finish (world : World) (settings : Settings) (result : Except Failure Summary)
    (front back : List (Settings × Stage)) :
    Step admits ⟨world, front ++ (settings, .ended result) :: back⟩ none ⟨world, front ++ back⟩

/-- The ingestion side has accepted the object. -/
def Item.Phase.IsDelivered : Item.Phase → Prop
  | .accepted | .marked _ | .counted => True
  | _ => False

namespace Fleet

/-- What the countings of a collection rest on: an object that has been counted has been accepted,
    and one that has been accepted belongs to the collection and has a name with a topic. -/
structure Stock (base : Settings) (start : World) (asked : List (Option Asked)) (world : World) :
    Prop where
  undisturbed : world.interloper = none
  encrypted : world.encrypted = start.encrypted
  row : base.Counts start (countedKeys asked).length world
  counted : ∀ key ∈ countedKeys asked, key ∈ acceptedKeys asked
  accepted : ∀ key ∈ acceptedKeys asked,
    key ∈ base.todo start ∧ (Topic.ofFileName? (plainName (fileName key))).isSome

/-- What holds of the work on an object: it belongs to the collection, and has been accepted if the
    work is past that. -/
def LaneSound (base settings : Settings) (start : World) (asked : List (Option Asked))
    (lane : String × Program Call.Answer (Except Failure ItemOutcome)) : Prop :=
  lane.1 ∈ base.todo start ∧ ∃ phase,
    Follows (Item.rule settings lane.1) (Item.Ends settings) lane.2 phase ∧
      (phase.IsDelivered → lane.1 ∈ acceptedKeys asked)

/-- What holds of a run at any stage. -/
def RunSound (base settings : Settings) (start : World) (asked : List (Option Asked)) :
    Stage → Prop
  | .listing program => ∃ place, Follows (listRule settings) ListEnds program place ∧
    ∀ keys, place = some keys → (candidates keys).Perm (base.todo start)
  | .working shift => ∀ lane ∈ shift.crew ++ shift.queue, LaneSound base settings start asked lane
  | .closing _ program => Makes (Closing.Asks settings) program
  | .ended _ => True

/-- What holds of a fleet whose runs send one collection. -/
structure Sound (base : Settings) (start : World) (asked : List (Option Asked)) (fleet : Fleet) :
    Prop where
  stock : Stock base start asked fleet.world
  runs : ∀ run ∈ fleet.runs, base.Continues run.1 ∧ RunSound base run.1 start asked run.2

section Steps

variable {base settings : Settings} {start world world' : World} {asked : List (Option Asked)}

theorem Stock.of_opens (hopens : base.Opens start) : Stock base start [] start where
  undisturbed := hopens.undisturbed
  encrypted := rfl
  row := hopens.counts
  counted := nofun
  accepted := nofun

theorem LaneSound.mono {lane : String × Program Call.Answer (Except Failure ItemOutcome)}
    (h : LaneSound base settings start asked lane) (labels : List (Option Asked)) :
    LaneSound base settings start (asked ++ labels) lane := by
  obtain ⟨hkey, phase, hfollows, hdelivered⟩ := h
  exact ⟨hkey, phase, hfollows, fun hphase => mem_keysAsked_append (hdelivered hphase) labels⟩

/-- What other runs do does not concern a run. -/
theorem RunSound.mono {stage : Stage} (h : RunSound base settings start asked stage)
    (labels : List (Option Asked)) : RunSound base settings start (asked ++ labels) stage := by
  cases stage with
  | listing program => exact h
  | working shift => exact fun lane hlane => (h lane hlane).mono labels
  | closing run program => exact h
  | ended result => trivial

/-- Work that has not begun yet is sound. -/
theorem laneSound_task (hcontinues : base.Continues settings) {key : String}
    (hkey : key ∈ base.todo start) :
    LaneSound base settings start asked (key, (Item.process settings key).run) := by
  refine ⟨hkey, _, Item.process_follows settings key, fun hphase => ?_⟩
  rw [Item.firstPhase, hcontinues.reprocess] at hphase
  exact hphase.elim

/-- A step that counts nothing and leaves the counters of the row alone. -/
theorem Stock.keep {labels : List (Option Asked)} (h : Stock base start asked world)
    (hundisturbed : world'.interloper = none) (hencrypted : world'.encrypted = world.encrypted)
    (hrow : base.Counts start (countedKeys asked).length world')
    (hcounted : countedKeys labels = [])
    (haccepted : ∀ key ∈ acceptedKeys labels,
      key ∈ base.todo start ∧ (Topic.ofFileName? (plainName (fileName key))).isSome) :
    Stock base start (asked ++ labels) world' := by
  have hkeep : countedKeys (asked ++ labels) = countedKeys asked :=
    keysAsked_append_of_eq_nil hcounted
  refine ⟨hundisturbed, hencrypted.trans h.encrypted, hkeep ▸ hrow, fun key hkey => ?_,
    fun key hkey => ?_⟩
  · exact mem_keysAsked_append (h.counted key (hkeep ▸ hkey)) labels
  · rw [acceptedKeys, keysAsked_append] at hkey
    obtain hbefore | hnew := List.mem_append.1 hkey
    · exact h.accepted key hbefore
    · exact haccepted key hnew

theorem Stock.silent (h : Stock base start asked world) (nanos : Nat) :
    Stock base start (asked ++ [none]) (world.pass nanos) :=
  h.keep h.undisturbed rfl h.row rfl nofun

/-- A call that is made for no object. -/
theorem Stock.anonymous (h : Stock base start asked world) (turn : Turn Call.Answer)
    (hundisturbed : world'.interloper = none) (hobjects : world'.objects = world.objects)
    (hrow : base.Counts start (countedKeys asked).length world') :
    Stock base start (asked ++ [some ⟨none, turn⟩]) world' := by
  refine h.keep hundisturbed (encrypted_of_objects hobjects) hrow (keysAsked_anonymous _ turn) ?_
  unfold acceptedKeys
  rw [keysAsked_anonymous]
  nofun

/-- A call that is made for an object and leaves the table alone. -/
theorem Stock.item (h : Stock base start asked world) {key : String} {turn : Turn Call.Answer}
    (hundisturbed : world'.interloper = none) (hencrypted : world'.encrypted = world.encrypted)
    (htable : world'.table = world.table) (hcounted : turn.isCounted = false)
    (haccepted : turn.isAccepted →
      key ∈ base.todo start ∧ (Topic.ofFileName? (plainName (fileName key))).isSome) :
    Stock base start (asked ++ [some ⟨some key, turn⟩]) world' := by
  refine h.keep hundisturbed hencrypted (Settings.Counts.of_table h.row htable) ?_ ?_
  · rw [countedKeys, keysAsked_key, hcounted]
    rfl
  · intro other hother
    rw [acceptedKeys, keysAsked_key] at hother
    split at hother
    · next hturn =>
      obtain rfl := List.mem_singleton.1 hother
      exact haccepted hturn
    · cases hother

/-- An object that has been accepted is counted. -/
theorem Stock.count (h : Stock base start asked world) {key : String} {count : Int}
    (hundisturbed : world'.interloper = none) (hobjects : world'.objects = world.objects)
    (htable : world'.table =
      Memory.insert world.table base.own ((find? world.table base.own).getD .empty).counted)
    (hkey : key ∈ acceptedKeys asked) :
    Stock base start (asked ++ [some ⟨some key, ⟨Item.countCall settings, .ok count⟩⟩]) world' := by
  have hcounted : countedKeys (asked ++ [some ⟨some key, ⟨Item.countCall settings, .ok count⟩⟩]) =
      countedKeys asked ++ [key] := keysAsked_append _ _ _
  have haccepted : acceptedKeys (asked ++ [some ⟨some key, ⟨Item.countCall settings, .ok count⟩⟩]) =
      acceptedKeys asked := keysAsked_append_of_eq_nil rfl
  refine ⟨hundisturbed, (encrypted_of_objects hobjects).trans h.encrypted, ?_,
    fun other hother => ?_, haccepted ▸ h.accepted⟩
  · rw [hcounted, List.length_append, List.length_singleton]
    exact Settings.Counts.count h.row htable
  · rw [hcounted] at hother
    rw [haccepted]
    obtain hbefore | hlast := List.mem_append.1 hother
    · exact h.counted other hbefore
    · exact List.mem_singleton.1 hlast ▸ hkey

/-- An object under delivery has a name with a topic. -/
theorem isSome_of_delivering {key : String} {call : Call}
    (hcall : Item.Delivering settings key call) :
    (Topic.ofFileName? (plainName (fileName key))).isSome := by
  have hresolve (topic : Topic) (htopic : Topic.resolve settings.handling.blockedTopics
      (plainName (fileName key)) = .ok topic) :
      (Topic.ofFileName? (plainName (fileName key))).isSome :=
    Option.isSome_of_eq_some (Topic.resolve_eq_ok_iff.1 htopic).1
  cases hcall with
  | get topic htopic | unwrap topic htopic | deliver topic htopic => exact hresolve topic htopic

/-- Whatever call comes next in the work on an object, the countings stay sound, and so does the
    work. -/
theorem Stock.turn (h : Stock base start asked world) (hcontinues : base.Continues settings)
    {key : String} (hkey : key ∈ base.todo start) {phase : Item.Phase} {call : Call}
    (hallowed : (Item.rule settings key).allows phase call)
    (hdelivered : phase.IsDelivered → key ∈ acceptedKeys asked) :
    Stock base start (asked ++ [some ⟨some key, ⟨call, (world.answer call).1⟩⟩])
        (world.answer call).2 ∧
      (((Item.rule settings key).after phase ⟨call, (world.answer call).1⟩).IsDelivered →
        key ∈ acceptedKeys (asked ++ [some ⟨some key, ⟨call, (world.answer call).1⟩⟩])) := by
  have hundisturbed : (world.answer call).2.interloper = none :=
    World.answer_interloper h.undisturbed
  cases phase with
  | unchecked =>
    obtain rfl := hallowed
    refine ⟨h.item hundisturbed (encrypted_of_objects (World.answer_objects_of_ne nofun))
      (World.answer_table_of_ne nofun nofun) rfl nofun, ?_⟩
    match (world.answer (.contains (Item.markerKey settings key))).1 with
    | .ok true | .ok false | .error _ => exact nofun
  | cleared =>
    have hobjects : (world.answer call).2.objects = world.objects := by
      cases hallowed <;> exact World.answer_objects_of_ne nofun
    have htable : (world.answer call).2.table = world.table := by
      cases hallowed <;> exact World.answer_table_of_ne nofun nofun
    refine ⟨h.item hundisturbed (encrypted_of_objects hobjects) htable
      (by cases hallowed <;> rfl) fun _ => ⟨hkey, isSome_of_delivering hallowed⟩, ?_⟩
    cases hallowed with
    | get | unwrap => exact fun h => h.elim
    | deliver topic htopic body =>
      generalize (FileHeaders.ofFile (fileName key) topic).pairs settings.run = headers
      cases hresult : (world.answer (.deliver headers body)).1 with
      | error e => exact fun h => h.elim
      | ok =>
        intro _
        obtain ⟨-, bytes, hbytes⟩ := (World.answer_deliver headers body).1 hresult
        exact mem_acceptedKeys_of_deliver asked key hbytes
  | accepted =>
    obtain rfl := hallowed
    refine ⟨h.item hundisturbed ?_ (World.answer_table_of_ne nofun nofun) rfl nofun,
      fun _ => mem_keysAsked_append (hdelivered trivial) _⟩
    obtain ⟨-, -, hobjects⟩ | ⟨failure, -, -, hobjects⟩ := Item.answer_markerPut settings key world
    · exact encrypted_of_marker hobjects
    · exact encrypted_of_objects hobjects
  | marked failures =>
    obtain rfl := hallowed
    refine ⟨?_, fun _ => mem_keysAsked_append (hdelivered trivial) _⟩
    have hobjects : (world.answer (Item.countCall settings)).2.objects = world.objects :=
      World.answer_objects_of_ne nofun
    obtain ⟨count, hresult, -, htable⟩ | ⟨failure, hresult, -, htable⟩ :=
      Item.answer_countCall settings world
    · have hown : (settings.run.correlationId, settings.run.topicName) = base.own := hcontinues.own
      rw [hown] at htable
      rw [hresult]
      exact h.count hundisturbed hobjects htable (hdelivered trivial)
    · rw [hresult]
      exact h.item hundisturbed (encrypted_of_objects hobjects) htable rfl nofun
  | skipping | counted => exact hallowed.elim

/-- A call of a run keeps the countings sound, and the run goes on as it should. -/
theorem RunSound.ask {key? : Option String} {call : Call} {stage stage' : Stage}
    (hstock : Stock base start asked world) (hcontinues : base.Continues settings)
    (h : RunSound base settings start asked stage)
    (hstep : stage.Step settings (some ⟨key?, ⟨call, (world.answer call).1⟩⟩) stage') :
    Stock base start (asked ++ [some ⟨key?, ⟨call, (world.answer call).1⟩⟩])
        (world.answer call).2 ∧
      RunSound base settings start
        (asked ++ [some ⟨key?, ⟨call, (world.answer call).1⟩⟩]) stage' := by
  obtain ⟨program, rest, rfl, rfl, rfl, hturn⟩ | ⟨key, crew, crew', queue, tally, rfl, rfl, rfl,
    hmove⟩ | ⟨run, program, rest, rfl, rfl, rfl, hturn⟩ := hstep.ask_cases
  · obtain ⟨place, hfollows, hplace⟩ := h
    obtain ⟨rfl, hrest⟩ := hfollows.step_ask hturn
    refine ⟨?_, _, hrest, fun keys hkeys => hcontinues.listed hstock.encrypted hkeys⟩
    exact hstock.anonymous _ (World.answer_interloper hstock.undisturbed)
      (World.answer_objects_of_ne nofun)
      (Settings.Counts.of_table hstock.row (World.answer_table_of_ne nofun nofun))
  · obtain ⟨program, rest, hmember, hturn, hcrew⟩ := hmove.exists_step
    obtain ⟨hkey, phase, hfollows, hdelivered⟩ := h _ (List.mem_append_left _ hmember)
    obtain ⟨hallowed, hrest⟩ := hfollows.step_ask hturn
    obtain ⟨hstock', hdelivered'⟩ := hstock.turn hcontinues hkey hallowed hdelivered
    refine ⟨hstock', fun lane hlane => ?_⟩
    obtain hlane | hqueue := List.mem_append.1 hlane
    · obtain rfl | hbefore := hcrew lane hlane
      · exact ⟨hkey, _, hrest, hdelivered'⟩
      · exact (h lane (List.mem_append_left _ hbefore)).mono _
    · exact (h lane (List.mem_append_right _ hqueue)).mono _
  · obtain ⟨hcall, hrest⟩ := Makes.step_ask h hturn
    refine ⟨hstock.anonymous _ (World.answer_interloper hstock.undisturbed)
      (hcall.objects_eq world) (Settings.Counts.keep hstock.row fun row hrow => ?_), hrest⟩
    rw [← hcontinues.own] at hrow ⊢
    exact hcall.exists_row hstock.undisturbed hrow

/-- A step without a call leads a run on as it should. -/
theorem RunSound.silent {stage stage' : Stage} (hcontinues : base.Continues settings)
    (h : RunSound base settings start asked stage) (hstep : stage.Step settings none stage') :
    RunSound base settings start asked stage' := by
  obtain ⟨program, rest, rfl, rfl, hturn⟩ | ⟨keys, rfl, rfl⟩ |
    ⟨key, crew, crew', queue, tally, rfl, rfl, hmove⟩ |
    ⟨front, back, queue, key, outcome, tally, tally', rfl, rfl⟩ | ⟨run, rfl⟩ |
    ⟨run, program, rest, rfl, rfl, hturn⟩ | ⟨result, rfl⟩ := hstep.silent_cases
  · obtain ⟨place, hfollows, hplace⟩ := h
    exact ⟨place, hfollows.step_wait hturn, hplace⟩
  · obtain ⟨place, hfollows, hplace⟩ := h
    intro lane hlane
    rw [Shift.start, List.take_append_drop] at hlane
    obtain ⟨key, hkey, rfl⟩ := List.mem_map.1 hlane
    cases hfollows with
    | done hends => exact laneSound_task hcontinues ((hplace keys (hends keys rfl)).subset hkey)
  · obtain ⟨program, rest, hmember, hturn, hcrew⟩ := hmove.exists_step
    obtain ⟨hkey, phase, hfollows, hdelivered⟩ := h _ (List.mem_append_left _ hmember)
    intro lane hlane
    obtain hlane | hqueue := List.mem_append.1 hlane
    · obtain rfl | hbefore := hcrew lane hlane
      · exact ⟨hkey, phase, hfollows.step_wait hturn, hdelivered⟩
      · exact h lane (List.mem_append_left _ hbefore)
    · exact h lane (List.mem_append_right _ hqueue)
  · intro lane hlane
    refine h lane ?_
    rw [List.append_assoc (front ++ back), List.take_append_drop] at hlane
    simp only [List.mem_append, List.mem_cons] at hlane ⊢
    tauto
  · exact Closing.afterRun_makes settings run
  · exact Makes.step_wait h hturn
  · trivial

theorem Sound.step {fleet next : Fleet} {label : Option Asked}
    (h : Sound base start asked fleet) (hstep : Step base.Continues fleet label next) :
    Sound base start (asked ++ [label]) next := by
  cases hstep with
  | begin _ settings hadmits =>
    refine ⟨h.stock.silent 0, List.forall_mem_cons.2 ⟨⟨hadmits, ?_⟩, fun run hrun => ?_⟩⟩
    · exact ⟨none, list_follows settings, nofun⟩
    · exact (h.runs run hrun).imp_right (RunSound.mono · _)
  | @go world world' settings stage stage' _ front back hgoes =>
    obtain ⟨hcontinues, hrun⟩ := h.runs (settings, stage) (by simp)
    obtain ⟨hstock', hrun'⟩ : Stock base start (asked ++ [label]) world' ∧
        RunSound base settings start (asked ++ [label]) stage' := by
      cases hgoes with
      | ask nanos key? call hstage =>
        have hstock : Stock base start asked (world.pass nanos) :=
          ⟨h.stock.undisturbed, h.stock.encrypted, h.stock.row, h.stock.counted, h.stock.accepted⟩
        exact RunSound.ask hstock hcontinues hrun hstage
      | silent nanos hstage =>
        exact ⟨h.stock.silent nanos, (hrun.silent hcontinues hstage).mono _⟩
    refine ⟨hstock', fun run hmember => ?_⟩
    -- the other runs are where they were
    have hcases : run = (settings, stage') ∨ run ∈ front ++ (settings, stage) :: back := by
      simp only [List.mem_append, List.mem_cons] at hmember ⊢
      tauto
    obtain rfl | hother := hcases
    · exact ⟨hcontinues, hrun'⟩
    · exact (h.runs run hother).imp_right (RunSound.mono · _)
  | finish world settings result front back =>
    refine ⟨h.stock.silent 0, fun run hrun => ?_⟩
    refine (h.runs run ?_).imp_right (RunSound.mono · _)
    simp only [List.mem_append, List.mem_cons] at hrun ⊢
    exact hrun.imp_right .inr

theorem Sound.path {fleet next : Fleet} {labels : List (Option Asked)}
    (h : Sound base start asked fleet) (hpath : Path (Step base.Continues) fleet labels next) :
    Sound base start (asked ++ labels) next := by
  induction hpath generalizing asked with
  | nil => exact (List.append_nil asked).symm ▸ h
  | @cons _ _ _ label labels hstep _ ih =>
    rw [List.append_cons]
    exact ih (h.step hstep)

/-- The countings of a collection that has been opened, in every state reached from there. -/
theorem Stock.of_path {fleet : Fleet} {labels : List (Option Asked)} (hopens : base.Opens start)
    (hpath : Path (Step base.Continues) ⟨start, []⟩ labels fleet) :
    Stock base start labels fleet.world := by
  have hstart : Sound base start [] ⟨start, []⟩ := ⟨.of_opens hopens, List.forall_mem_nil _⟩
  exact (hstart.path hpath).stock

end Steps

/-- While the others stand still, a run may do whatever it may do on its own. -/
theorem path_of_goes (admits : Settings → Prop) {settings : Settings} {first last : World × Stage}
    {labels : List (Option Asked)} (front back : List (Settings × Stage))
    (h : Path (Stage.Goes settings) first labels last) :
    Path (Step admits) ⟨first.1, front ++ (settings, first.2) :: back⟩ labels
      ⟨last.1, front ++ (settings, last.2) :: back⟩ := by
  induction h with
  | nil => exact .nil _
  | cons hstep _ ih => exact .cons (.go front back hstep) ih

/-- A whole run may begin and end while the others stand still. -/
theorem exists_path_of_resending {base : Settings} {start last : World}
    {run : Settings × List (Option Asked)} (h : Resending base start run last)
    (hreprocess : run.1.run.reprocess = false) (runs : List (Settings × Stage)) :
    ∃ labels, Path (Step base.Continues) ⟨start, runs⟩ labels ⟨last, runs⟩ := by
  cases h with
  | @run settings _ _ _ _ _ _ _ hresends hsends hcloses =>
    have hcontinues : base.Continues settings :=
      ⟨hresends.correlationId, hresends.topicName, hresends.storage, hreprocess⟩
    have hgoes := (hsends.mono fun _ _ _ hsends => hsends.2).append hcloses
    exact ⟨_, .cons (.begin _ settings hcontinues)
      ((path_of_goes _ [] runs hgoes).append (.cons (.finish _ _ _ [] runs) (.nil _)))⟩

end Fleet

/-- However runs over a collection overlap: the number of sent files is that of the countings, and
    every object that has been counted has been accepted. It is the number of different objects that
    have been counted just if none has been counted twice; and then the collection is not sent
    before all of its objects have been accepted. -/
theorem overlapping_runs_count {base : Settings} {start : World} (hopens : base.Opens start)
    {labels : List (Option Asked)} {fleet : Fleet}
    (hpath : Path (Fleet.Step base.Continues) ⟨start, []⟩ labels fleet) :
    ∃ row, find? fleet.world.table base.own = some row ∧
      row.sent.getD 0 = (countedKeys labels).length ∧
      (∀ key ∈ countedKeys labels, key ∈ base.todo start ∧ key ∈ acceptedKeys labels) ∧
      (row.sent.getD 0 = (countedKeys labels).dedup.length ↔ (countedKeys labels).Nodup) ∧
      (row.status = .sent → (base.todo start).length ≤ (countedKeys labels).length) ∧
      (row.status = .sent → (countedKeys labels).Nodup →
        ∀ key ∈ base.todo start, key ∈ acceptedKeys labels) := by
  have hstock := Fleet.Stock.of_path hopens hpath
  have hmembers (key) (hkey : key ∈ countedKeys labels) : key ∈ base.todo start :=
    (hstock.accepted key (hstock.counted key hkey)).1
  obtain ⟨row, hrow, hsent, hdistinct, henough, hall⟩ := hstock.row.of_members hmembers
  exact ⟨row, hrow, hsent, fun key hkey => ⟨hmembers key hkey, hstock.counted key hkey⟩, hdistinct,
    henough, fun hstatus honce key hkey => hstock.counted key (hall hstatus honce key hkey)⟩

namespace Sample

/-- What is left of the work on the first object once it has been found to have no marker. -/
def unmarked : Program Call.Answer (Except Failure ItemOutcome) :=
  match (Item.process lenient key).run with
  | .ask (.contains _) next => next (.ok false)
  | program => program

/-- A run has listed the objects and looked for the marker of the first one. -/
def lookedUp : World :=
  ((pairWorld.answer (.list lenient.storage.folder)).2.answer
    (.contains (Item.markerKey lenient key))).2

/-- Another run has delivered the first object since then, and rejected the other one. -/
def overtaken : World := pairSent lenient lookedUp

/-- The run has delivered the first object as well. -/
def deliveredTwice : World := (unmarked.run World.answer World.pass overtaken).2

theorem continues_lenient : lenient.Continues lenient := ⟨rfl, rfl, rfl, rfl⟩

theorem exists_path_lookedUp :
    ∃ labels, Path (Stage.Goes lenient) (pairWorld, .first lenient) labels
      (lookedUp, .working ⟨[(key, unmarked)], [(garbage, (Item.process lenient garbage).run)],
        .start 2⟩) := by
  obtain ⟨labels, hlisted⟩ := faultFree_pairWorld.exists_path_listed lenient
  rw [todo_pairWorld] at hlisted
  have hmove : Crew.Move [(key, (Item.process lenient key).run)] key
      (some ⟨.contains (Item.markerKey lenient key), .ok false⟩) [(key, unmarked)] :=
    .mk [] [] key (.ask _ _ _)
  have hstep : Stage.Step lenient
      (.working ⟨[(key, (Item.process lenient key).run)],
        [(garbage, (Item.process lenient garbage).run)], .start 2⟩)
      (some ⟨some key, ⟨.contains (Item.markerKey lenient key), .ok false⟩⟩)
      (.working ⟨[(key, unmarked)], [(garbage, (Item.process lenient garbage).run)],
        .start 2⟩) :=
    .work (.move hmove)
  have hanswer : ((pairWorld.answer (.list lenient.storage.folder)).2.answer
      (.contains (Item.markerKey lenient key))).1 = .ok false := by
    rw [(faultFree_pairWorld.answer _).result]
    have hnone : (find? (pairWorld.answer (.list lenient.storage.folder)).2.objects
        (Item.markerKey lenient key)).isSome = false := by decide +kernel
    exact congrArg Except.ok hnone
  rw [← hanswer] at hstep
  have hlook : Stage.Goes lenient ((pairWorld.answer (.list lenient.storage.folder)).2, _) _
      (lookedUp, _) := .ask 0 (some key) (.contains (Item.markerKey lenient key)) hstep
  exact ⟨_, (hlisted.mono fun _ _ _ hsends => hsends.2).append (.cons hlook (.nil _))⟩

/-- Both runs look for the marker of the first object before one of them writes it. They both count
    it, and the collection is sent although the other object has never been accepted. -/
theorem exists_sent_early :
    lenient.Opens pairWorld ∧ pairWorld.FaultFree ∧
    ∃ labels fleet, Path (Fleet.Step lenient.Continues) ⟨pairWorld, []⟩ labels fleet ∧
      find? fleet.world.table lenient.own = some ⟨.sent, some 2, some 2⟩ ∧
      garbage ∈ lenient.todo pairWorld ∧ garbage ∉ acceptedKeys labels := by
  have hfree : lookedUp.FaultFree := (faultFree_pairWorld.answer _).answer _
  obtain ⟨looking, hlooking⟩ := exists_path_lookedUp
  have htodo : lenient.todo lookedUp = [key, garbage] :=
    (lenient.todo_of_sorted (by decide +kernel)).trans (by decide +kernel)
  obtain ⟨other, hother⟩ := exists_resending ⟨rfl, rfl, rfl⟩ rfl hfree htodo (by decide +kernel)
    (by decide +kernel) (by decide +kernel)
  obtain ⟨overtaking, hovertaking⟩ := Fleet.exists_path_of_resending hother rfl
    [(lenient, .working ⟨[(key, unmarked)], [(garbage, (Item.process lenient garbage).run)],
        .start 2⟩)]
  have hdelivered : (unmarked.run World.answer World.pass overtaken).1 = some (.ok .delivered) := by
    decide +kernel
  have hrejected : (World.run (Item.process lenient garbage) deliveredTwice).1 =
      some (.ok (.rejected mismatch)) := by
    decide +kernel
  obtain ⟨front, back, hfront, hback⟩ := exists_path_of_lanes rfl hdelivered hrejected
  have hclosed : (World.run (Closing.afterRun lenient (.ok ⟨2, 0, 1, 1⟩))
      (World.run (Item.process lenient garbage) deliveredTwice).2).1 = some (.ok ()) := by
    decide +kernel
  obtain ⟨closing, hclosing⟩ := Stage.exists_path_of_closing _ hclosed
  have hrest := (((hfront.append hback).mono fun _ _ _ hsends => hsends.2).append hclosing)
  have hpath := Path.cons (.begin ⟨pairWorld, []⟩ lenient continues_lenient)
    ((Fleet.path_of_goes _ [] [] hlooking).append
      (hovertaking.append (Fleet.path_of_goes _ [] [] hrest)))
  have hmem : garbage ∈ lenient.todo pairWorld := by
    rw [todo_pairWorld]
    exact List.mem_pair.2 (.inr rfl)
  refine ⟨opens_pairWorld, faultFree_pairWorld, _, _, hpath, by decide +kernel, hmem, fun h => ?_⟩
  -- its name tells no topic, so it is never delivered
  have htopic := ((Fleet.Stock.of_path opens_pairWorld hpath).accepted garbage h).2
  revert htopic
  decide +kernel

end Sample

/-- The only object of a collection is delivered. -/
theorem Sample.exists_path_one :
    ∃ labels last, Path (Stage.Goes settings) (world, .first settings) labels
        (last, .ended (.ok ⟨1, 0, 1, 0⟩)) ∧
      find? last.table settings.own = some ⟨.sent, some 1, some 1⟩ := by
  have hfree : world.FaultFree := fun _ _ h => nomatch h
  obtain ⟨listing, hlisting⟩ := hfree.exists_path_listed settings
  rw [todo_of_objects rfl] at hlisting
  have hdelivered : (World.run (Item.process settings key)
      (world.answer (.list settings.storage.folder)).2).1 = some (.ok .delivered) := by
    decide +kernel
  obtain ⟨sending, hsending⟩ :=
    Stage.exists_path_of_lane settings [] [] [] key (.start 1) hdelivered
  have hclosed : (World.run (Closing.afterRun settings (.ok ⟨1, 0, 1, 0⟩))
      (World.run (Item.process settings key)
        (world.answer (.list settings.storage.folder)).2).2).1 = some (.ok ()) := by
    decide +kernel
  obtain ⟨closing, hclosing⟩ := Stage.exists_path_of_closing _ hclosed
  have hworked := (hlisting.append hsending).append <| .cons
    ⟨trivial, .silent 0 (.work (.settle [] [] [] key _ rfl))⟩ <| .cons
    ⟨trivial, .silent 0 (.worked (.finish _))⟩ (.nil _)
  exact ⟨_, _, (hworked.mono fun _ _ _ hsends => hsends.2).append hclosing, by decide +kernel⟩

theorem overlapping_runs_count_one :
    Sample.settings.Opens Sample.world ∧
    ∃ labels fleet row,
      Path (Fleet.Step Sample.settings.Continues) ⟨Sample.world, []⟩ labels fleet ∧
      find? fleet.world.table Sample.settings.own = some row ∧ row.status = .sent ∧
      (countedKeys labels).Nodup ∧
      ∀ key ∈ Sample.settings.todo Sample.world, key ∈ acceptedKeys labels := by
  have hopens := Sample.opens rfl rfl rfl
  obtain ⟨labels, last, hgoes, hone⟩ := Sample.exists_path_one
  have hpath := Path.cons (.begin ⟨Sample.world, []⟩ _ Sample.continues)
    (Fleet.path_of_goes _ [] [] hgoes)
  obtain ⟨row, hrow, hsent, -, -, -, hall⟩ := overlapping_runs_count hopens hpath
  cases hone.symm.trans hrow
  obtain ⟨key, hkey⟩ := List.length_eq_one_iff.1 (Int.natCast_inj.1 hsent.symm)
  have honce := hkey ▸ List.nodup_singleton key
  exact ⟨hopens, _, _, _, hpath, hrow, rfl, honce, hall rfl honce⟩

end Courier
