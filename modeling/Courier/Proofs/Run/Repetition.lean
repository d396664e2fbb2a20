import Courier.Proofs.Run.Order
import Courier.Proofs.Run.Restart

/-!
Running again. Whatever fails in a run that succeeds, each of its objects has a marker in the end or
has been rejected, and the objects that are sent are as they were. So the next run only looks for the
markers of those that have one; and if nothing failed in the first run, the rest is rejected again,
for the same reason.
-/

namespace Courier

open Memory Program

namespace Item

/-- The marker of the object has been found or written. -/
def Phase.isMarked : Phase → Bool
  | .skipping | .marked _ | .counted => true
  | _ => false

/-- The object has neither been found to have a marker nor been accepted. -/
def Phase.isOpen : Phase → Bool
  | .unchecked | .cleared => true
  | _ => false

theorem Phase.isOpen_of_next {phase : Phase} {turn : Turn Call.Answer}
    (h : (phase.next turn).isOpen) : phase.isOpen := by
  unfold next at h
  split at h <;> first | rfl | exact h

end Item

/-- What stays while objects are sent: markers, the objects themselves and the keys to them. -/
structure Settings.Remains (settings : Settings) (start world : World) : Prop where
  marked : ∀ key, settings.hasMarker start key → settings.hasMarker world key
  encrypted : world.encrypted = start.encrypted
  objects : ∀ key, Text.endsWith encryptedEnding key →
    find? world.objects key = find? start.objects key
  dataKeys : world.dataKeys = start.dataKeys
  faultFree : start.FaultFree → world.FaultFree

namespace Settings.Remains

variable {settings : Settings} {start world : World}

theorem refl (settings : Settings) (world : World) : settings.Remains world world :=
  ⟨fun _ => id, rfl, fun _ _ => rfl, rfl, id⟩

theorem pass (h : settings.Remains start world) (nanos : Nat) :
    settings.Remains start (world.pass nanos) :=
  ⟨h.marked, h.encrypted, h.objects, h.dataKeys, h.faultFree⟩

theorem answer {call : Call} (h : settings.Remains start world)
    (hobjects : (world.answer call).2.objects = world.objects ∨
      ∃ key object, (world.answer call).2.objects =
        insert world.objects (Item.markerKey settings key) object) :
    settings.Remains start (world.answer call).2 where
  marked key hkey := World.answer_find?_isSome call (h.marked key hkey)
  encrypted := by
    obtain hsame | ⟨key, object, hinsert⟩ := hobjects
    · exact (encrypted_of_objects hsame).trans h.encrypted
    · exact (encrypted_of_marker hinsert).trans h.encrypted
  objects key hkey := by
    obtain hsame | ⟨other, object, hinsert⟩ := hobjects
    · rw [hsame]
      exact h.objects key hkey
    · have hne : key ≠ Item.markerKey settings other := by
        rintro rfl
        rw [not_endsWith_markerKey] at hkey
        cases hkey
      rw [hinsert, find?_insert_of_ne _ _ hne]
      exact h.objects key hkey
  dataKeys := World.answer_dataKeys.trans h.dataKeys
  faultFree hfree := (h.faultFree hfree).answer call

end Settings.Remains

/-- An object that a run is done with has its marker, or it has been rejected; without faults that
    has been its fate from the start. -/
def Settings.Disposed (settings : Settings) (start world : World) (key : String)
    (outcome : ItemOutcome) : Prop :=
  settings.hasMarker world key ∨ (∃ reason, outcome = .rejected reason) ∧
    (start.FaultFree → settings.fate start key = some (.ok outcome))

/-- The work on an object has come to a phase, and what that tells of the object: an object that had
    its marker at the start is only looked for, and without faults the fate of an object does not
    change before it is accepted or found to have a marker. -/
structure Settings.Traced (settings : Settings) (start world : World) (key : String)
    (program : Program Call.Answer (Except Failure ItemOutcome)) (phase : Item.Phase) : Prop where
  follows : Follows (Item.rule settings key) (Item.Ends settings) program phase
  marked : phase.isMarked → settings.hasMarker world key
  skips : settings.hasMarker start key → phase = .unchecked ∨ phase = .skipping
  fated : start.FaultFree → phase.isOpen →
    Blind Item.Alike program ∧ verdict start.told program = settings.fate start key

namespace Settings.Traced

variable {settings : Settings} {start world world' : World} {key : String}
  {program rest : Program Call.Answer (Except Failure ItemOutcome)} {phase : Item.Phase}

theorem of_process (hoff : settings.run.reprocess = false) (start world : World) (key : String) :
    settings.Traced start world key (Item.process settings key).run .unchecked where
  follows := by
    have hfollows := Item.process_follows settings key
    rwa [Item.firstPhase, hoff] at hfollows
  marked := nofun
  skips _ := .inl rfl
  fated _ _ := ⟨Item.process_blind settings key, rfl⟩

/-- The other members of a shift leave the marker of the object where it is. -/
theorem keep (h : settings.Traced start world key program phase)
    (hmarked : settings.hasMarker world key → settings.hasMarker world' key) :
    settings.Traced start world' key program phase :=
  ⟨h.follows, fun hphase => hmarked (h.marked hphase), h.skips, h.fated⟩

theorem wait (h : settings.Traced start world key program phase)
    (hstep : program.Step none rest) : settings.Traced start world key rest phase where
  follows := h.follows.step_wait hstep
  marked := h.marked
  skips := h.skips
  fated hfree hopen := by
    obtain ⟨hblind, hverdict⟩ := h.fated hfree hopen
    have hwait : Blind Item.Alike rest ∧ verdict start.told rest = verdict start.told program ∧
      program.script start.told = rest.script start.told := hblind.step_wait hstep
    exact ⟨hwait.1, hwait.2.1.trans hverdict⟩

/-- An object that had its marker at the start is looked for, and nothing else. -/
theorem eq_contains {call : Call} (h : settings.Traced start world key program phase)
    (hmarker : settings.hasMarker start key) (hallowed : (Item.rule settings key).allows phase call) :
    call = .contains (Item.markerKey settings key) := by
  obtain rfl | rfl := h.skips hmarker
  · exact hallowed
  · exact hallowed.elim

/-- The marker is there once it has been found or written. -/
theorem marked_next {call : Call} (h : settings.Traced start world key program phase)
    (hallowed : (Item.rule settings key).allows phase call)
    (hnext : (phase.next ⟨call, (world.answer call).1⟩).isMarked) :
    settings.hasMarker (world.answer call).2 key := by
  cases phase with
  | unchecked =>
    cases hallowed
    refine World.answer_find?_isSome _ ?_
    generalize hanswer : (world.answer (.contains (Item.markerKey settings key))).1 = answer
      at hnext
    cases answer with
    | error failure => cases hnext
    | ok found =>
      cases found with
      | true => exact (World.answer_contains _ _ hanswer).symm
      | false => cases hnext
  | cleared =>
    cases hallowed with
    | get | unwrap => cases hnext
    | deliver topic htopic body =>
      generalize (world.answer (.deliver _ body)).1 = answer at hnext
      cases answer <;> cases hnext
  | accepted =>
    cases hallowed
    obtain ⟨-, -, hobjects⟩ | ⟨failure, hfailed, -⟩ := Item.answer_markerPut settings key world
    · rw [Settings.hasMarker, hobjects, find?_insert_self]
      rfl
    · rw [hfailed] at hnext
      cases hnext
  | marked failures => exact World.answer_find?_isSome _ (h.marked rfl)
  | skipping | counted => exact hallowed.elim

/-- An object that had its marker at the start still has it when it is looked for. -/
theorem skips_next {call : Call} (h : settings.Traced start world key program phase)
    (hremains : settings.Remains start world)
    (hallowed : (Item.rule settings key).allows phase call)
    (hmarker : settings.hasMarker start key) :
    phase.next ⟨call, (world.answer call).1⟩ = .unchecked ∨
      phase.next ⟨call, (world.answer call).1⟩ = .skipping := by
  obtain rfl | rfl := h.skips hmarker
  · cases hallowed
    generalize hanswer : (world.answer (.contains (Item.markerKey settings key))).1 = answer
    cases answer with
    | error failure => exact .inl rfl
    | ok found =>
      obtain rfl : found = true :=
        (World.answer_contains _ _ hanswer).trans (hremains.marked key hmarker)
      exact .inr rfl
  · exact hallowed.elim

/-- As long as the object is neither found to have a marker nor accepted, it is told what it would
    have been told at the start. -/
theorem alike_next {call : Call} (hremains : settings.Remains start world)
    (hencrypted : Text.endsWith encryptedEnding key) (hfree : start.FaultFree)
    (hallowed : (Item.rule settings key).allows phase call)
    (hnext : (phase.next ⟨call, (world.answer call).1⟩).isOpen) :
    Item.Alike call (world.answer call).1 (start.told call) := by
  have hworld := hremains.faultFree hfree
  refine alike_answer hworld (hremains.objects key hencrypted) hremains.dataKeys
    (Item.asks_of_allows hallowed) ?_
  rintro rfl
  cases phase with
  | unchecked =>
    have hfound : settings.hasMarker world key = false := by
      rw [hworld.result, World.perform] at hnext
      cases hmarker : settings.hasMarker world key with
      | false => rfl
      | true =>
        rw [Settings.hasMarker] at hmarker
        rw [hmarker] at hnext
        cases hnext
    have hstart : settings.hasMarker start key = false :=
      Bool.eq_false_iff.2 fun hmarker => by simp [hremains.marked key hmarker] at hfound
    rw [hfound, hstart]
  | cleared | accepted | marked => cases hallowed
  | skipping | counted => exact hallowed.elim

theorem ask {call : Call} (h : settings.Traced start world key program phase)
    (hremains : settings.Remains start world) (hencrypted : Text.endsWith encryptedEnding key)
    (hstep : program.Step (some ⟨call, (world.answer call).1⟩) rest) :
    (Item.rule settings key).allows phase call ∧
      settings.Traced start (world.answer call).2 key rest
        (phase.next ⟨call, (world.answer call).1⟩) := by
  obtain ⟨hallowed, hrest⟩ := h.follows.step_ask hstep
  refine ⟨hallowed, hrest, h.marked_next hallowed, h.skips_next hremains hallowed,
    fun hfree hopen => ?_⟩
  obtain ⟨hblind, hverdict⟩ := h.fated hfree (Item.Phase.isOpen_of_next hopen)
  have hask := hblind.step_ask hstep (alike_next hremains hencrypted hfree hallowed hopen)
  exact ⟨hask.1, hask.2.1.trans hverdict⟩

/-- What an outcome tells of the object. -/
theorem disposed {outcome : ItemOutcome}
    (h : settings.Traced start world key (.done (.ok outcome)) phase) :
    settings.Disposed start world key outcome := by
  have hfollows := h.follows
  cases hfollows with
  | done hends =>
    cases phase with
    | skipping | counted => exact .inl (h.marked rfl)
    | cleared =>
      obtain ⟨reason, hreason, -⟩ | ⟨failure, hfailure, -⟩ := hends
      · cases hreason
        exact .inr ⟨⟨reason, rfl⟩, fun hfree => (h.fated hfree rfl).2.symm⟩
      · cases hfailure
    | unchecked | accepted =>
      obtain ⟨failure, hfailure⟩ := hends
      cases hfailure
    | marked failures =>
      obtain ⟨-, failure, hfailure⟩ := hends
      cases hfailure

end Settings.Traced

/-- What holds of a run that works on its objects, whatever fails. -/
structure ShiftTraced (settings : Settings) (start : World) (settled : List (String × ItemOutcome))
    (world : World) (shift : Shift String Call.Answer (Except Failure ItemOutcome) Summary) :
    Prop where
  remains : settings.Remains start world
  tallies : Tallies settings.handling.skipLimit (settings.todo start) settled shift
  lanes : ∀ lane ∈ shift.crew ++ shift.queue, ∃ phase,
    settings.Traced start world lane.1 lane.2 phase
  settled : ∀ entry ∈ settled, settings.Disposed start world entry.1 entry.2

/-- What holds of a run at any stage up to its closing. -/
def StageTraced (settings : Settings) (start world : World) : Stage → Prop
  | .listing program => settings.Remains start world ∧
    ∃ place, Follows (listRule settings) ListEnds program place ∧
      ∀ keys, place = some keys → (candidates keys).Perm (settings.todo start)
  | .working shift => ∃ settled, ShiftTraced settings start settled world shift
  | .closing (.ok summary) _ => ∃ settled, ShiftTraced settings start settled world ⟨[], [], summary⟩
  | _ => True

namespace ShiftTraced

variable {settings : Settings} {start world : World} {settled : List (String × ItemOutcome)}
  {front back queue : Lanes} {key : String} {tally : Summary}
  {program rest : Program Call.Answer (Except Failure ItemOutcome)}

theorem ofKeys {keys : List String} (hoff : settings.run.reprocess = false)
    (hremains : settings.Remains start world) (hkeys : keys.Perm (settings.todo start)) :
    ShiftTraced settings start [] world
      (.start settings.handling.workers (.start keys.length) (tasks settings keys)) where
  remains := hremains
  tallies := (Tallies.start settings keys _).of_perm hkeys
  lanes lane hlane := by
    rw [Shift.start, List.take_append_drop] at hlane
    obtain ⟨key, -, rfl⟩ := List.mem_map.1 hlane
    exact ⟨_, .of_process hoff start world key⟩
  settled _ hentry := absurd hentry List.not_mem_nil

theorem ask {call : Call}
    (h : ShiftTraced settings start settled world ⟨front ++ (key, program) :: back, queue, tally⟩)
    (hstep : program.Step (some ⟨call, (world.answer call).1⟩) rest) :
    (settings.hasMarker start key → call = .contains (Item.markerKey settings key)) ∧
      ShiftTraced settings start settled (world.answer call).2
        ⟨front ++ (key, rest) :: back, queue, tally⟩ := by
  have hlane : (key, program) ∈ front ++ (key, program) :: back ++ queue :=
    mem_lanes_iff.2 (.inl rfl)
  obtain ⟨phase, htraced⟩ := h.lanes _ hlane
  obtain ⟨hallowed, hrest⟩ :=
    htraced.ask h.remains (endsWith_of_mem_todo (h.tallies.mem_keys hlane)) hstep
  have hobjects := (Item.asks_of_allows hallowed).objects_cases world
  have hmarked (other : String) (hmarker : settings.hasMarker world other) :
      settings.hasMarker (world.answer call).2 other := World.answer_find?_isSome call hmarker
  refine ⟨fun hmarker => htraced.eq_contains hmarker hallowed, ?_, ?_, ?_, ?_⟩
  · exact h.remains.answer (hobjects.imp_right fun ⟨_, object, hinsert⟩ => ⟨key, object, hinsert⟩)
  · exact h.tallies.move (.mk front back key hstep)
  · intro lane hlane
    obtain rfl | hother := mem_lanes_iff.1 hlane
    · exact ⟨_, hrest⟩
    · obtain ⟨phase, hbefore⟩ := h.lanes lane (mem_lanes_iff.2 (.inr hother))
      exact ⟨phase, hbefore.keep (hmarked lane.1)⟩
  · exact fun entry hentry => (h.settled entry hentry).imp_left (hmarked entry.1)

theorem wait
    (h : ShiftTraced settings start settled world ⟨front ++ (key, program) :: back, queue, tally⟩)
    (hstep : program.Step none rest) :
    ShiftTraced settings start settled world ⟨front ++ (key, rest) :: back, queue, tally⟩ := by
  refine ⟨h.remains, h.tallies.move (.mk front back key hstep), fun lane hlane => ?_, h.settled⟩
  obtain rfl | hother := mem_lanes_iff.1 hlane
  · obtain ⟨phase, hbefore⟩ := h.lanes (key, program) (mem_lanes_iff.2 (.inl rfl))
    exact ⟨phase, hbefore.wait hstep⟩
  · exact h.lanes lane (mem_lanes_iff.2 (.inr hother))

theorem settle {result : Except Failure ItemOutcome} {tally' : Summary}
    (h : ShiftTraced settings start settled world
      ⟨front ++ (key, .done result) :: back, queue, tally⟩)
    (hmore : Summary.add settings.handling.skipLimit tally result = .more tally') :
    ∃ settled', ShiftTraced settings start settled' world
      ⟨front ++ back ++ queue.take 1, queue.drop 1, tally'⟩ := by
  obtain ⟨outcome, rfl, htallies⟩ := h.tallies.settle hmore
  refine ⟨_, h.remains, htallies, fun lane hlane => ?_, fun entry hentry => ?_⟩
  · rw [lanes_taken] at hlane
    exact h.lanes lane (mem_lanes_iff.2 (.inr hlane))
  · obtain rfl | hentry := List.mem_cons.1 hentry
    · obtain ⟨phase, htraced⟩ := h.lanes (key, .done (.ok outcome)) (mem_lanes_iff.2 (.inl rfl))
      exact htraced.disposed
    · exact h.settled entry hentry

theorem pass {shift : Shift String Call.Answer (Except Failure ItemOutcome) Summary}
    (h : ShiftTraced settings start settled world shift) (nanos : Nat) :
    ShiftTraced settings start settled (world.pass nanos) shift where
  remains := h.remains.pass nanos
  tallies := h.tallies
  lanes lane hlane := by
    obtain ⟨phase, htraced⟩ := h.lanes lane hlane
    exact ⟨phase, htraced.keep id⟩
  settled := h.settled

end ShiftTraced

namespace StageTraced

variable {settings : Settings} {start world : World}

theorem first (settings : Settings) (start : World) :
    StageTraced settings start start (.first settings) :=
  ⟨.refl settings start, none, list_follows settings, nofun⟩

theorem pass {stage : Stage} (h : StageTraced settings start world stage) (nanos : Nat) :
    StageTraced settings start (world.pass nanos) stage := by
  cases stage with
  | listing program => exact ⟨h.1.pass nanos, h.2⟩
  | working shift =>
    obtain ⟨settled, htraced⟩ := h
    exact ⟨settled, htraced.pass nanos⟩
  | closing run program =>
    cases run with
    | error failure => trivial
    | ok summary =>
      obtain ⟨settled, htraced⟩ := h
      exact ⟨settled, htraced.pass nanos⟩
  | ended result => trivial

/-- A call keeps what holds of the run; of an object that had its marker at the start, only the
    marker is looked for. -/
theorem ask {stage stage' : Stage} {key? : Option String} {call : Call}
    (h : StageTraced settings start world stage)
    (hstep : stage.Step settings (some ⟨key?, ⟨call, (world.answer call).1⟩⟩) stage')
    (hsending : stage.IsSending) :
    StageTraced settings start (world.answer call).2 stage' ∧
      ∀ key, key? = some key → settings.hasMarker start key →
        call = .contains (Item.markerKey settings key) := by
  obtain ⟨program, rest, rfl, rfl, rfl, hturn⟩ | ⟨key, crew, crew', queue, tally, rfl, rfl, rfl,
    hmove⟩ | ⟨run, program, rest, rfl, -⟩ := hstep.ask_cases
  · obtain ⟨hremains, place, hfollows, hplace⟩ := h
    obtain ⟨rfl, hrest⟩ := hfollows.step_ask hturn
    refine ⟨⟨hremains.answer (.inl (World.answer_objects_of_ne nofun)), _, hrest,
      fun keys hkeys => ?_⟩, nofun⟩
    generalize hanswer : (world.answer (.list settings.storage.folder)).1 = answer at hkeys
    cases answer with
    | error failure => cases hkeys
    | ok listed =>
      cases hkeys
      rw [World.answer_list _ _ hanswer]
      exact settings.todo_perm_of_encrypted hremains.encrypted
  · obtain ⟨settled, htraced⟩ := h
    generalize hturn : some (Turn.mk call (world.answer call).1) = turn at hmove
    cases hmove with
    | mk front back member hprogram =>
      subst hturn
      obtain ⟨hquiet, hnext⟩ := htraced.ask hprogram
      refine ⟨⟨settled, hnext⟩, ?_⟩
      rintro _ ⟨⟩
      exact hquiet
  · exact hsending.elim

/-- A step without a call keeps it as well. -/
theorem silent {stage stage' : Stage} (hoff : settings.run.reprocess = false)
    (h : StageTraced settings start world stage) (hstep : stage.Step settings none stage')
    (hsending : stage.IsSending) : StageTraced settings start world stage' := by
  generalize hlabel : none = label at hstep
  cases hstep with
  | list hprogram =>
    obtain rfl := Option.map_eq_none_iff.1 hlabel.symm
    obtain ⟨hremains, place, hfollows, hplace⟩ := h
    exact ⟨hremains, place, hfollows.step_wait hprogram, hplace⟩
  | listed keys =>
    obtain ⟨hremains, place, hfollows, hplace⟩ := h
    cases hfollows with
    | done hends => exact ⟨[], .ofKeys hoff hremains (hplace keys (hends keys rfl))⟩
  | unlisted failure => trivial
  | work hshift =>
    obtain rfl := Option.map_eq_none_iff.1 hlabel.symm
    obtain ⟨settled, htraced⟩ := h
    generalize hturn : none = turn at hshift
    cases hshift with
    | move hmove =>
      obtain rfl := Option.map_eq_none_iff.1 hturn.symm
      cases hmove with
      | mk front back member hprogram => exact ⟨settled, htraced.wait hprogram⟩
    | settle front back queue key result hmore => exact htraced.settle hmore
  | worked hshift =>
    obtain ⟨settled, htraced⟩ := h
    generalize none = turn at hshift
    cases hshift with
    | stop front back queue key result hstop =>
      obtain ⟨failure, rfl⟩ := Summary.error_of_add_eq_stop hstop
      trivial
    | finish tally => exact ⟨settled, htraced⟩
  | close | closed => exact hsending.elim

/-- Every step up to the closing keeps what holds of the run. -/
theorem next {state next : World × Stage} {label : Option Asked}
    (hoff : settings.run.reprocess = false) (h : StageTraced settings start state.1 state.2)
    (hstep : Stage.Sends settings state label next) :
    StageTraced settings start next.1 next.2 ∧
      ∀ ask key, label = some ask → ask.key? = some key → settings.hasMarker start key →
        ask.turn.op = .contains (Item.markerKey settings key) := by
  obtain ⟨hsending, hgoes⟩ := hstep
  cases hgoes with
  | ask nanos key? call hstep =>
    obtain ⟨hnext, hquiet⟩ := (h.pass nanos).ask hstep hsending
    refine ⟨hnext, ?_⟩
    rintro _ key ⟨⟩
    exact hquiet key
  | silent nanos hstep =>
    exact ⟨(h.pass nanos).silent hoff hstep hsending, fun _ _ hlabel => nomatch hlabel⟩

theorem path {last : World × Stage} {labels : List (Option Asked)}
    (hoff : settings.run.reprocess = false)
    (hpath : Path (Stage.Sends settings) (start, .first settings) labels last) :
    StageTraced settings start last.1 last.2 := by
  let holds (state : World × Stage) : Prop := StageTraced settings start state.1 state.2
  have hfirst : holds (start, .first settings) := first settings start
  have hstep (state : World × Stage) (label : Option Asked) (next : World × Stage)
      (hsends : Stage.Sends settings state label next) (hstate : holds state) : holds next :=
    (StageTraced.next hoff hstate hsends).1
  exact hpath.invariant hfirst hstep

/-- An object that had its marker at the start of a run is looked for, and nothing else. -/
theorem quiet {last : World × Stage} {labels : List (Option Asked)}
    (hoff : settings.run.reprocess = false)
    (hpath : Path (Stage.Sends settings) (start, .first settings) labels last) {ask : Asked}
    (hask : some ask ∈ labels) {key : String} (hkey : ask.key? = some key)
    (hmarker : settings.hasMarker start key) :
    ask.turn.op = .contains (Item.markerKey settings key) := by
  obtain ⟨front, back, state, next, -, hfront, hstep, -⟩ := hpath.exists_step_of_mem hask
  have hnext := StageTraced.next hoff (path hoff hfront) hstep
  exact hnext.2 ask key rfl hkey hmarker

end StageTraced

namespace Memory.World

/-- Objects and rows are as before, and no call has written anything or gone to the ingestion
    side. -/
structure Untouched (before after : World) : Prop where
  objects : ∀ key, find? after.objects key = find? before.objects key
  table : ∀ id, find? after.table id = find? before.table id
  calls : ∀ event ∈ before.eventsSince after,
    kindOf event.call ≠ .deliver ∧ (kindOf event.call).writes = false

/-- Calls that neither write anything nor go to the ingestion side. -/
theorem Reflects.untouched {start world : World} {calls : List Call} (h : start.Reflects calls world)
    (hquiet : ∀ call ∈ calls, kindOf call ≠ .deliver ∧ (kindOf call).writes = false) :
    start.Untouched world where
  objects key := h.unwritten key fun call hcall hplace => by
    have hwrites := (hquiet call hcall).2
    cases call with
    | put => cases hwrites
    | _ => cases hplace
  table id := by
    have hcount : calls.countP (countedRow? · = some id) = 0 := by
      refine List.countP_eq_zero.2 fun call hcall hrow => ?_
      have hwrites := (hquiet call hcall).2
      have hrow := of_decide_eq_true hrow
      cases call with
      | increment => cases hwrites
      | _ => cases hrow
    rw [h.rows, hcount, Function.iterate_zero, id_eq]
  calls event hevent := by
    rw [eventsSince_eq h.events] at hevent
    obtain ⟨call, hcall, rfl⟩ := List.mem_map.1 hevent
    exact hquiet call hcall

end Memory.World

section Again

variable {settings : Settings} {start after again : World} {settled : List (String × ItemOutcome)}
  {summary : Summary}

theorem hasMarker_of_path {state last : World × Stage} {labels : List (Option Asked)} {key : String}
    (hpath : Path (Stage.Sends settings) state labels last)
    (hmarker : settings.hasMarker state.1 key) : settings.hasMarker last.1 key := by
  let holds (state : World × Stage) : Prop := settings.hasMarker state.1 key
  have hfirst : holds state := hmarker
  refine hpath.invariant hfirst fun state label next hstep hstate => ?_
  obtain ⟨-, hgoes⟩ := hstep
  cases hgoes with
  | ask nanos key? call => exact World.answer_find?_isSome call hstate
  | silent => exact hstate

/-- On its way a run comes to an outcome for an object. -/
def Stage.Settles (settings : Settings) (first : World × Stage) (labels : List (Option Asked))
    (last : World × Stage) (key : String) (outcome : ItemOutcome) : Prop :=
  ∃ front back world crew queue tally, labels = front ++ back ∧
    Path (Sends settings) first front (world, .working ⟨crew, queue, tally⟩) ∧
    Path (Sends settings) (world, .working ⟨crew, queue, tally⟩) back last ∧
    (key, .done (.ok outcome)) ∈ crew

/-- An object that a run has skipped or delivered has its marker from then on. -/
theorem hasMarker_of_settles (hoff : settings.run.reprocess = false)
    {labels : List (Option Asked)} {last : World × Stage} {key : String} {outcome : ItemOutcome}
    (h : Stage.Settles settings (start, .first settings) labels last key outcome)
    (houtcome : outcome = .skipped ∨ outcome = .delivered) : settings.hasMarker last.1 key := by
  obtain ⟨front, back, world, crew, queue, tally, -, hfront, hback, hlane⟩ := h
  obtain ⟨settled, htraced⟩ := StageTraced.path hoff hfront
  obtain ⟨phase, hphase⟩ := htraced.lanes _ (List.mem_append_left queue hlane)
  obtain hmarker | ⟨⟨reason, rfl⟩, -⟩ := hphase.disposed
  · exact hasMarker_of_path hback hmarker
  · obtain hne | hne := houtcome <;> cases hne

theorem ShiftTraced.resume {shift : Shift String Call.Answer (Except Failure ItemOutcome) Summary}
    (h : ShiftTraced settings start settled after shift) (hobjects : again.objects = after.objects)
    (hkeys : again.dataKeys = after.dataKeys) (hfree : again.FaultFree) :
    ShiftTraced settings start settled again shift := by
  have hmarker (key : String) : settings.hasMarker after key → settings.hasMarker again key := by
    rw [hasMarker_of_objects settings hobjects]
    exact id
  refine ⟨⟨fun key hkey => hmarker key (h.remains.marked key hkey), ?_, fun key hkey => ?_, ?_,
    fun _ => hfree⟩, h.tallies, fun lane hlane => ?_, fun entry hentry => ?_⟩
  · exact (encrypted_of_objects hobjects).trans h.remains.encrypted
  · rw [hobjects]
    exact h.remains.objects key hkey
  · exact hkeys.trans h.remains.dataKeys
  · obtain ⟨phase, htraced⟩ := h.lanes lane hlane
    exact ⟨phase, htraced.keep (hmarker lane.1)⟩
  · exact (h.settled entry hentry).imp_left (hmarker entry.1)

/-- Without faults the fate of an object that a run is done with is to be skipped, or to be rejected
    as it has been before. -/
theorem Settings.Disposed.exists_fate {key : String} {outcome : ItemOutcome}
    (h : settings.Disposed start again key outcome) (hoff : settings.run.reprocess = false)
    (hremains : settings.Remains start again) (hfree : start.FaultFree)
    (hencrypted : Text.endsWith encryptedEnding key) :
    ∃ outcome', settings.fate again key = some (.ok outcome') ∧ outcome' ≠ .delivered ∧
      (outcome'.isRejected → outcome.isRejected) := by
  by_cases hmarker : settings.hasMarker again key
  · exact ⟨.skipped, Item.verdict_of_marker hoff hmarker, nofun, nofun⟩
  · obtain ⟨⟨reason, rfl⟩, hfate⟩ := h.resolve_left hmarker
    refine ⟨.rejected reason, Eq.trans ?_ (hfate hfree), nofun, fun _ => rfl⟩
    have hagain := hremains.faultFree hfree
    refine (Item.process_blind settings key).verdict_congr (Item.process_makes settings key)
      fun call hcall => ?_
    have halike := alike_answer hagain (hremains.objects key hencrypted) hremains.dataKeys hcall
      fun _ => ?_
    · rwa [hagain.result] at halike
    · have hstart : ¬ settings.hasMarker start key := mt (hremains.marked key) hmarker
      rw [Bool.eq_false_iff.2 hmarker, Bool.eq_false_iff.2 hstart]

/-- What a run without faults comes to after one that has succeeded: the rejected objects are still
    within the budget, and nothing is left to be delivered. -/
theorem ShiftTraced.viable_again (h : ShiftTraced settings start settled again ⟨[], [], summary⟩)
    (hoff : settings.run.reprocess = false) (hfree : start.FaultFree) :
    settings.Viable again ∧ (settings.forecast again).listed = summary.listed ∧
      (settings.forecast again).delivered = 0 ∧
      ∀ entry ∈ settings.script again,
        kindOf entry.2 ≠ .deliver ∧ (kindOf entry.2).writes = false := by
  have htodo := settings.todo_perm_of_encrypted h.remains.encrypted
  have hperm := h.tallies.perm_of_nil.trans htodo.symm
  have hfate (entry : String × ItemOutcome) (hentry : entry ∈ settled) : ∃ outcome,
      settings.fate again entry.1 = some (.ok outcome) ∧ outcome ≠ .delivered ∧
        (outcome.isRejected → entry.2.isRejected) := by
    have hmem : entry.1 ∈ settings.todo again := hperm.subset (List.mem_map_of_mem hentry)
    exact (h.settled entry hentry).exists_fate hoff h.remains hfree (endsWith_of_mem_todo hmem)
  have hkey (key : String) (hkey : key ∈ settings.todo again) : ∃ outcome,
      settings.fate again key = some (.ok outcome) ∧ outcome ≠ .delivered := by
    obtain ⟨entry, hentry, rfl⟩ := List.mem_map.1 (hperm.symm.subset hkey)
    obtain ⟨outcome, houtcome, hne, -⟩ := hfate entry hentry
    exact ⟨outcome, houtcome, hne⟩
  obtain rfl : summary = _ := h.tallies.tally
  refine ⟨⟨fun key hmem => ?_, ?_⟩, htodo.length_eq, ?_, fun entry hentry => ?_⟩
  · obtain ⟨outcome, houtcome, -⟩ := hkey key hmem
    exact ⟨outcome, houtcome⟩
  · -- an object that is rejected now has been rejected before
    have hcount : (settings.forecast again).rejected =
        settled.countP (settings.fated again ItemOutcome.isRejected ∘ Prod.fst) :=
      (hperm.symm.countP_eq _).trans List.countP_map
    refine Nat.le_trans (Nat.le_of_eq hcount) (Nat.le_trans ?_ h.tallies.budget)
    rw [List.countP_map]
    refine List.countP_mono_left fun entry hentry hrejected => ?_
    obtain ⟨outcome, houtcome, -, hbefore⟩ := hfate entry hentry
    simp only [Function.comp_apply, Settings.fated, houtcome] at hrejected
    exact hbefore hrejected
  · refine List.countP_eq_zero.2 fun key hmem hdelivered => ?_
    obtain ⟨outcome, houtcome, hne⟩ := hkey key hmem
    simp only [Settings.fated, houtcome, decide_eq_true_eq] at hdelivered
    exact hne hdelivered
  · obtain ⟨hmem, hcall⟩ := exists_of_mem_script hentry
    obtain ⟨outcome, houtcome, hne⟩ := hkey entry.1 hmem
    exact ⟨Item.ne_deliver_of_ne_delivered houtcome hne entry.2 hcall,
      Item.unwritten_of_ne_delivered houtcome hne entry.2 hcall⟩

end Again

/-- Running again after a run that has succeeded, whatever failed in it: of the objects that it has
    skipped or delivered only the markers are looked for. If nothing failed in it and nothing fails
    now, the run succeeds with any number of workers, whichever of them goes on at any moment; it
    lists as many objects, delivers none and leaves all objects and rows as they are. -/
theorem rerun_touches_nothing {settings : Settings} (hoff : settings.run.reprocess = false)
    {start after again : World} {labels : List (Option Asked)} {summary : Summary}
    (hrun : Path (Stage.Sends settings) (start, .first settings) labels
      (after, .ofRun settings (.ok summary)))
    (hobjects : again.objects = after.objects) (hkeys : again.dataKeys = after.dataKeys)
    (workers : Nat) :
    (∀ key outcome, outcome = .skipped ∨ outcome = .delivered →
      Stage.Settles settings (start, .first settings) labels
        (after, .ofRun settings (.ok summary)) key outcome →
      ∀ labels' last, Path (Stage.Sends (settings.withWorkers workers))
          (again, .first (settings.withWorkers workers)) labels' last →
        ∀ ask, some ask ∈ labels' → ask.key? = some key →
          ask.turn.op = .contains (Item.markerKey settings key)) ∧
    (start.FaultFree → again.FaultFree →
      (∃ summary' after', World.run (sendAll (settings.withWorkers workers)) again =
          (some (.ok summary'), after') ∧
        summary'.listed = summary.listed ∧ summary'.delivered = 0 ∧ again.Untouched after') ∧
      Inevitable (Stage.Sends (settings.withWorkers workers))
        (fun state => ∃ summary', state.2 = .ofRun (settings.withWorkers workers) (.ok summary') ∧
          summary'.listed = summary.listed ∧ summary'.delivered = 0 ∧ again.Untouched state.1)
        (again, .first (settings.withWorkers workers))) := by
  refine ⟨fun key outcome houtcome hsettles labels' last hpath ask hask hkey => ?_,
    fun hfree hagain => ?_⟩
  · have hmarker := hasMarker_of_settles hoff hsettles houtcome
    rw [← hasMarker_of_objects settings hobjects] at hmarker
    have hoff' : (settings.withWorkers workers).run.reprocess = false := hoff
    exact StageTraced.quiet hoff' hpath hask hkey hmarker
  · obtain ⟨settled, htraced⟩ := StageTraced.path hoff hrun
    obtain ⟨hviable, hlisted, hdelivered, hquiet⟩ :=
      (htraced.resume hobjects hkeys hagain).viable_again hoff hfree
    have hviable' : (settings.withWorkers workers).Viable again :=
      Settings.viable_withWorkers.2 hviable
    have hseparate : (settings.withWorkers workers).Separate again := .inr fun entry hentry hput => by
      have hwrites := (hquiet entry hentry).2
      rw [hput] at hwrites
      cases hwrites
    have huntouched {calls : List (String × Call)} {world : World}
        (h : (settings.withWorkers workers).Completed again calls world) :
        again.Untouched world := by
      refine h.reflects.untouched fun call hcall => ?_
      obtain rfl | hcall := List.mem_cons.1 hcall
      · exact ⟨nofun, rfl⟩
      · obtain ⟨entry, hentry, rfl⟩ := List.mem_map.1 hcall
        exact hquiet entry (h.script.subset hentry)
    constructor
    · obtain ⟨after', calls, hrun', hcompleted⟩ := run_of_viable hagain hseparate hviable'
      exact ⟨_, after', hrun', hlisted, hdelivered, huntouched hcompleted⟩
    · refine (inevitable_of_viable hagain hseparate hviable').mono fun state hstate => ?_
      obtain ⟨hresult, calls, hcompleted⟩ := hstate
      exact ⟨_, hresult, hlisted, hdelivered, huntouched hcompleted⟩

namespace Sample

/-- One object of the run has been delivered, and then the other one has been rejected. -/
theorem exists_path_settles :
    ∃ labels, Path (Stage.Sends lenient) (pairWorld, .first lenient) labels
        (bothDone lenient pairWorld, .ofRun lenient (.ok ⟨2, 0, 1, 1⟩)) ∧
      Stage.Settles lenient (pairWorld, .first lenient) labels
        (bothDone lenient pairWorld, .ofRun lenient (.ok ⟨2, 0, 1, 1⟩)) key .delivered := by
  have hdelivered : (World.run (Item.process lenient key)
      (pairWorld.answer (.list lenient.storage.folder)).2).1 = some (.ok .delivered) := by
    decide +kernel
  have hrejected : (World.run (Item.process lenient garbage) (firstDone lenient pairWorld)).1 =
      some (.ok (.rejected mismatch)) := by
    decide +kernel
  obtain ⟨front, back, hfront, hback⟩ :=
    exists_path_pair rfl faultFree_pairWorld todo_pairWorld hdelivered hrejected
  exact ⟨_, hfront.append hback, front, back, _, _, _, _, rfl, hfront, hback,
    List.mem_singleton_self _⟩

end Sample

theorem rerun_touches_nothing_pairWorld :
    Sample.lenient.run.reprocess = false ∧
    ∃ labels after again, Path (Stage.Sends Sample.lenient)
        (Sample.pairWorld, .first Sample.lenient) labels
        (after, .ofRun Sample.lenient (.ok ⟨2, 0, 1, 1⟩)) ∧
      again.objects = after.objects ∧ again.dataKeys = after.dataKeys ∧
      Sample.pairWorld.FaultFree ∧ again.FaultFree ∧
      Stage.Settles Sample.lenient (Sample.pairWorld, .first Sample.lenient) labels
        (after, .ofRun Sample.lenient (.ok ⟨2, 0, 1, 1⟩)) Sample.key .delivered ∧
      (∀ labels' last, Path (Stage.Sends (Sample.lenient.withWorkers 2))
          (again, .first (Sample.lenient.withWorkers 2)) labels' last →
        ∀ ask, some ask ∈ labels' → ask.key? = some Sample.key →
          ask.turn.op = .contains (Item.markerKey Sample.lenient Sample.key)) ∧
      ∃ summary' after', World.run (sendAll (Sample.lenient.withWorkers 2)) again =
          (some (.ok summary'), after') ∧
        summary'.listed = 2 ∧ summary'.delivered = 0 ∧ again.Untouched after' := by
  obtain ⟨labels, hpath, hsettles⟩ := Sample.exists_path_settles
  generalize Sample.bothDone Sample.lenient Sample.pairWorld = after at hpath hsettles
  have hcalmed := after.faultFree_calmed
  have hobjects : after.calmed.objects = after.objects := rfl
  have hkeys : after.calmed.dataKeys = after.dataKeys := rfl
  obtain ⟨hquiet, hsame⟩ := rerun_touches_nothing rfl hpath hobjects hkeys 2
  exact ⟨rfl, labels, after, after.calmed, hpath, rfl, rfl, Sample.faultFree_pairWorld, hcalmed,
    hsettles, hquiet Sample.key .delivered (.inr rfl) hsettles,
    (hsame Sample.faultFree_pairWorld hcalmed).1⟩

end Courier
