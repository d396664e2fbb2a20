import Courier.Proofs.Item.Verdict
import Courier.Proofs.Memory.Effect
import Courier.Proofs.Run.Ledger
import Courier.Proofs.Run.Tally

/-!
Runs without faults. If the work on one object does not touch the marker of another, each object has
the fate that it would have alone, from the start of the run on, in whatever order the members of the
shift go on: their calls are those of the scripts, and a run succeeds just if its objects have
outcomes within the budget.
-/

namespace Courier

open Memory Program

/-- What becomes of an object by itself. -/
def Settings.fate (settings : Settings) (start : World) (key : String) :
    Option (Except Failure ItemOutcome) :=
  verdict start.told (Item.process settings key).run

/-- The calls that programs would make by themselves, each with the object it is made for. -/
def scripts (start : World) (lanes : Lanes) : List (String × Call) :=
  lanes.flatMap fun lane => (lane.2.script start.told).map (lane.1, ·)

/-- All calls for the objects of a run. -/
def Settings.script (settings : Settings) (start : World) : List (String × Call) :=
  scripts start (tasks settings (settings.todo start))

/-- The work on one object does not touch the marker of another: they have different markers, or no
    marker is written. -/
def Settings.Separate (settings : Settings) (start : World) : Prop :=
  ((settings.todo start).map (Item.markerKey settings)).Nodup ∨
    ∀ entry ∈ settings.script start, kindOf entry.2 ≠ .put

/-- The work on an object is what is left of its script. -/
structure OnScript (settings : Settings) (start world : World)
    (lane : String × Program Call.Answer (Except Failure ItemOutcome)) : Prop where
  blind : Blind Item.Alike lane.2
  phase : ∃ phase, Follows (Item.rule settings lane.1) (Item.Ends settings) lane.2 phase ∧
    (phase = .unchecked → settings.hasMarker world lane.1 = settings.hasMarker start lane.1)
  verdict : verdict start.told lane.2 = settings.fate start lane.1

/-- What holds of a run without faults while it works on its objects: the calls that have been made
    and those that are left make up the script of the run. -/
structure Steady (settings : Settings) (start : World) (calls : List (String × Call))
    (settled : List (String × ItemOutcome)) (world : World)
    (shift : Shift String Call.Answer (Except Failure ItemOutcome) Summary) : Prop where
  tallies : Tallies settings.handling.skipLimit (settings.todo start) settled shift
  reflects : start.Reflects (.list settings.storage.folder :: calls.map Prod.snd) world
  lanes : ∀ lane ∈ shift.crew ++ shift.queue, OnScript settings start world lane
  script : (calls ++ scripts start (shift.crew ++ shift.queue)).Perm (settings.script start)
  settled : ∀ entry ∈ settled, settings.fate start entry.1 = some (.ok entry.2)

namespace Item

/-- Only an object whose marker has not been looked for is in the first phase. -/
theorem Phase.eq_unchecked_of_next {phase : Phase} {turn : Turn Call.Answer}
    (h : phase.next turn = .unchecked) : phase = .unchecked := by
  unfold Phase.next at h
  split at h <;> first | rfl | exact h | cases h

end Item

section Lanes

variable {settings : Settings} {start world world' : World} {key : String}

theorem endsWith_of_mem_todo (h : key ∈ settings.todo start) :
    Text.endsWith encryptedEnding key := by
  rw [Settings.todo, candidates] at h
  exact (List.mem_filter.1 h).2

/-- A call for an object is told what it would have been told at the start of the run. -/
theorem alike_answer {call : Call} (hfree : world.FaultFree)
    (hobject : find? world.objects key = find? start.objects key)
    (hkeys : world.dataKeys = start.dataKeys) (hcall : Item.Asks settings key call)
    (hmarker : call = .contains (Item.markerKey settings key) →
      settings.hasMarker world key = settings.hasMarker start key) :
    Item.Alike call (world.answer call).1 (start.told call) := by
  rw [hfree.result, World.told]
  cases hcall with
  | contains => exact .inl (congrArg Except.ok (hmarker rfl))
  | delivering hdelivering =>
    refine .inl ?_
    cases hdelivering with
    | get =>
      rw [World.perform, World.perform, hobject]
      split <;> rfl
    | unwrap =>
      rw [World.perform, World.perform, hkeys]
      split <;> rfl
    | deliver =>
      rw [World.perform, World.perform]
      split <;> rfl
  | put => exact .inl rfl
  | count => exact .inr ⟨rfl, rfl, rfl⟩

namespace OnScript

theorem of_process (settings : Settings) (start : World) (key : String) :
    OnScript settings start start (key, (Item.process settings key).run) :=
  ⟨Item.process_blind settings key, ⟨_, Item.process_follows settings key, fun _ => rfl⟩, rfl⟩

/-- The work on an object does not depend on anything but its marker. -/
theorem congr {lane : String × Program Call.Answer (Except Failure ItemOutcome)}
    (h : OnScript settings start world lane)
    (hmarker : settings.hasMarker world' lane.1 = settings.hasMarker world lane.1) :
    OnScript settings start world' lane := by
  obtain ⟨phase, hfollows, hsight⟩ := h.phase
  exact ⟨h.blind, ⟨phase, hfollows, fun hphase => hmarker.trans (hsight hphase)⟩, h.verdict⟩

/-- The next call for an object is the next one of its script. -/
theorem ask {program rest : Program Call.Answer (Except Failure ItemOutcome)} {call : Call}
    (h : OnScript settings start world (key, program)) (hfree : world.FaultFree)
    (hobject : find? world.objects key = find? start.objects key)
    (hkeys : world.dataKeys = start.dataKeys)
    (hstep : program.Step (some ⟨call, (world.answer call).1⟩) rest) :
    Item.Asks settings key call ∧ OnScript settings start (world.answer call).2 (key, rest) ∧
      program.script start.told = call :: rest.script start.told := by
  obtain ⟨phase, hfollows, hsight⟩ := h.phase
  obtain ⟨hallowed, hrest⟩ := hfollows.step_ask hstep
  have hasks := Item.asks_of_allows hallowed
  have hcontains (hphase : phase = .unchecked) : call = .contains (Item.markerKey settings key) := by
    subst hphase
    exact hallowed
  have hunchecked (hcall : call = .contains (Item.markerKey settings key)) :
      phase = .unchecked := by
    subst hcall
    cases phase with
    | unchecked => rfl
    | cleared => cases hallowed
    | accepted | marked => cases hallowed
    | skipping | counted => exact hallowed.elim
  have htold := alike_answer hfree hobject hkeys hasks fun hcall => hsight (hunchecked hcall)
  obtain ⟨hblind, hverdict, hscript⟩ := h.blind.step_ask hstep htold
  refine ⟨hasks, ⟨hblind, ⟨_, hrest, fun hphase => ?_⟩, hverdict.trans h.verdict⟩, hscript⟩
  have hbefore := Item.Phase.eq_unchecked_of_next hphase
  have hobjects : (world.answer (.contains (Item.markerKey settings key))).2.objects =
      world.objects := World.answer_objects_of_ne nofun
  rw [← hsight hbefore, hcontains hbefore]
  exact hasMarker_of_objects settings hobjects key

theorem wait {program rest : Program Call.Answer (Except Failure ItemOutcome)}
    (h : OnScript settings start world (key, program)) (hstep : program.Step none rest) :
    OnScript settings start world (key, rest) ∧
      program.script start.told = rest.script start.told := by
  obtain ⟨phase, hfollows, hsight⟩ := h.phase
  obtain ⟨hblind, hverdict, hscript⟩ := h.blind.step_wait hstep
  exact ⟨⟨hblind, ⟨phase, hfollows.step_wait hstep, hsight⟩, hverdict.trans h.verdict⟩, hscript⟩

end OnScript

end Lanes

section Scripts

variable {settings : Settings} {start world : World} {calls : List (String × Call)}
  {settled : List (String × ItemOutcome)}

/-- The script of one lane, and those of the others. -/
theorem scripts_perm (start : World) (front back queue : Lanes) (key : String)
    (program : Program Call.Answer (Except Failure ItemOutcome)) :
    (scripts start (front ++ (key, program) :: back ++ queue)).Perm
      ((program.script start.told).map (key, ·) ++ scripts start (front ++ back ++ queue)) :=
  (lanes_perm front back queue (key, program)).flatMap_right _

/-- A call of the script of a run is in the script of one of its objects. -/
theorem exists_of_mem_script {entry : String × Call} (h : entry ∈ settings.script start) :
    entry.1 ∈ settings.todo start ∧
      entry.2 ∈ (Item.process settings entry.1).run.script start.told := by
  obtain ⟨lane, hlane, hentry⟩ := List.mem_flatMap.1 h
  obtain ⟨key, hkey, rfl⟩ := List.mem_map.1 hlane
  obtain ⟨call, hcall, rfl⟩ := List.mem_map.1 hentry
  exact ⟨hkey, hcall⟩

theorem asks_of_mem_script {entry : String × Call} (h : entry ∈ settings.script start) :
    entry.1 ∈ settings.todo start ∧ Item.Asks settings entry.1 entry.2 := by
  obtain ⟨hkey, hcall⟩ := exists_of_mem_script h
  exact ⟨hkey, (Item.process_makes settings entry.1).script entry.2 hcall⟩

theorem eq_markerPut_of_place {key place : String} {call : Call}
    (h : Item.Asks settings key call) (hplace : place? call = some place) :
    call = Item.markerPut settings key ∧ place = Item.markerKey settings key := by
  obtain rfl | rfl | hquiet := h.writes_cases
  · exact ⟨rfl, (Option.some.inj hplace).symm⟩
  · cases hplace
  · cases call with
    | put => cases hquiet
    | _ => cases hplace

/-- Only the calls for one object write its marker. -/
theorem Settings.Separate.eq_of_place (hseparate : settings.Separate start) {entry : String × Call}
    (hentry : entry ∈ settings.script start) {key : String} (hkey : key ∈ settings.todo start)
    (hplace : place? entry.2 = some (Item.markerKey settings key)) : entry.1 = key := by
  obtain ⟨hmem, hasks⟩ := asks_of_mem_script hentry
  obtain ⟨hput, hmarker⟩ := eq_markerPut_of_place hasks hplace
  obtain hnodup | hnone := hseparate
  · exact List.inj_on_of_nodup_map hnodup hmem hkey hmarker.symm
  · exact absurd (congrArg kindOf hput) (hnone entry hentry)

end Scripts

namespace Steady

variable {settings : Settings} {start world : World} {calls : List (String × Call)}
  {settled : List (String × ItemOutcome)}
  {shift : Shift String Call.Answer (Except Failure ItemOutcome) Summary}

theorem mem_script (h : Steady settings start calls settled world shift) {entry : String × Call}
    (hentry : entry ∈ calls ∨ entry ∈ scripts start (shift.crew ++ shift.queue)) :
    entry ∈ settings.script start := h.script.subset (List.mem_append.2 hentry)

/-- The objects that are sent stay as they were. -/
theorem find?_eq (h : Steady settings start calls settled world shift) {key : String}
    (hkey : key ∈ settings.todo start) : find? world.objects key = find? start.objects key := by
  refine h.reflects.unwritten key fun call hcall hplace => ?_
  obtain rfl | hcall := List.mem_cons.1 hcall
  · cases hplace
  · obtain ⟨entry, hentry, rfl⟩ := List.mem_map.1 hcall
    obtain ⟨-, rfl⟩ := eq_markerPut_of_place (asks_of_mem_script (h.mem_script (.inl hentry))).2
      hplace
    have hmarker := not_endsWith_markerKey settings entry.1
    rw [endsWith_of_mem_todo hkey] at hmarker
    cases hmarker

/-- The calls made for an object are reflected by the collaborators. -/
theorem reflects_answer (h : Steady settings start calls settled world shift)
    (hseparate : settings.Separate start) {key : String} {call : Call}
    (hasks : Item.Asks settings key call) (hkey : key ∈ settings.todo start) :
    start.Reflects (.list settings.storage.folder :: (calls ++ [(key, call)]).map Prod.snd)
      (world.answer call).2 := by
  rw [List.map_append, List.map_singleton, ← List.cons_append]
  obtain rfl | rfl | hquiet := hasks.writes_cases
  · refine h.reflects.answer_put _ _ _ _ fun other hother hplace => ?_
    obtain rfl | hother := List.mem_cons.1 hother
    · cases hplace
    · obtain ⟨entry, hentry, rfl⟩ := List.mem_map.1 hother
      have hmem := h.mem_script (.inl hentry)
      rw [← hseparate.eq_of_place hmem hkey hplace]
      exact (eq_markerPut_of_place (asks_of_mem_script hmem).2 hplace).1
  · exact h.reflects.answer_increment _ _
  · exact h.reflects.answer_quiet hquiet

section Steps

variable {front back queue : Lanes} {key : String} {tally : Summary}
  {program rest : Program Call.Answer (Except Failure ItemOutcome)}

/-- The other objects of a run do not share the marker of an object that writes one. -/
theorem hasMarker_other (h : Steady settings start calls settled world
      ⟨front ++ (key, program) :: back, queue, tally⟩)
    (hseparate : settings.Separate start) {call : Call} (hasks : Item.Asks settings key call)
    (hcall : (key, call) ∈ settings.script start)
    {lane : String × Program Call.Answer (Except Failure ItemOutcome)}
    (hlane : lane ∈ front ++ back ++ queue) :
    settings.hasMarker (world.answer call).2 lane.1 = settings.hasMarker world lane.1 := by
  have hapart (hput : call = Item.markerPut settings key) :
      Item.markerKey settings lane.1 ≠ Item.markerKey settings key := by
    obtain hnodup | hnone := hseparate
    · have hmarkers := (h.tallies.perm_cons.map (Item.markerKey settings)).symm.nodup hnodup
      rw [List.map_cons, List.map_append] at hmarkers
      intro heq
      refine (List.nodup_cons.1 hmarkers).1 (List.mem_append_right _ ?_)
      exact heq ▸ List.mem_map_of_mem (List.mem_map_of_mem hlane)
    · exact absurd (congrArg kindOf hput) (hnone _ hcall)
  rw [Settings.hasMarker, Settings.hasMarker]
  obtain hsame | ⟨hput, object, hinsert⟩ := hasks.objects_cases world
  · rw [hsame]
  · rw [hinsert, find?_insert_of_ne _ _ (hapart hput)]

/-- A member of the shift makes the next call of its script. -/
theorem ask (h : Steady settings start calls settled world
      ⟨front ++ (key, program) :: back, queue, tally⟩)
    (hseparate : settings.Separate start) {call : Call}
    (hstep : program.Step (some ⟨call, (world.answer call).1⟩) rest) :
    Steady settings start (calls ++ [(key, call)]) settled (world.answer call).2
      ⟨front ++ (key, rest) :: back, queue, tally⟩ := by
  have hlane : (key, program) ∈ front ++ (key, program) :: back ++ queue :=
    mem_lanes_iff.2 (.inl rfl)
  have hkey := h.tallies.mem_keys hlane
  obtain ⟨hasks, hrest, hscript⟩ := (h.lanes _ hlane).ask h.reflects.faultFree (h.find?_eq hkey)
    h.reflects.dataKeys hstep
  have hleft := scripts_perm start front back queue key program
  rw [hscript] at hleft
  have hcall : (key, call) ∈ settings.script start :=
    h.mem_script (.inr (hleft.symm.subset List.mem_cons_self))
  refine ⟨h.tallies.move (.mk front back key hstep), h.reflects_answer hseparate hasks hkey, ?_, ?_,
    h.settled⟩
  · intro lane hlane
    obtain rfl | hother := mem_lanes_iff.1 hlane
    · exact hrest
    · exact (h.lanes lane (mem_lanes_iff.2 (.inr hother))).congr
        (h.hasMarker_other hseparate hasks hcall hother)
  · refine List.Perm.trans ?_ h.script
    rw [List.append_assoc calls]
    refine List.Perm.append_left calls ?_
    exact ((scripts_perm start front back queue key rest).append_left _).trans hleft.symm

/-- A member of the shift has waited. -/
theorem wait (h : Steady settings start calls settled world
      ⟨front ++ (key, program) :: back, queue, tally⟩) (hstep : program.Step none rest) :
    Steady settings start calls settled world ⟨front ++ (key, rest) :: back, queue, tally⟩ := by
  have hlane : (key, program) ∈ front ++ (key, program) :: back ++ queue :=
    mem_lanes_iff.2 (.inl rfl)
  obtain ⟨hrest, hscript⟩ := (h.lanes _ hlane).wait hstep
  refine ⟨h.tallies.move (.mk front back key hstep), h.reflects, ?_, ?_, h.settled⟩
  · intro lane hlane
    obtain rfl | hother := mem_lanes_iff.1 hlane
    · exact hrest
    · exact h.lanes lane (mem_lanes_iff.2 (.inr hother))
  · refine List.Perm.trans (List.Perm.append_left calls ?_) h.script
    have hleft := scripts_perm start front back queue key program
    rw [hscript] at hleft
    exact (scripts_perm start front back queue key rest).trans hleft.symm

/-- An outcome is added up, and the next object is taken up. -/
theorem settle {result : Except Failure ItemOutcome} {tally' : Summary}
    (h : Steady settings start calls settled world
      ⟨front ++ (key, .done result) :: back, queue, tally⟩)
    (hmore : Summary.add settings.handling.skipLimit tally result = .more tally') :
    ∃ outcome, result = .ok outcome ∧
      Steady settings start calls ((key, outcome) :: settled) world
        ⟨front ++ back ++ queue.take 1, queue.drop 1, tally'⟩ := by
  obtain ⟨outcome, rfl, htallies⟩ := h.tallies.settle hmore
  refine ⟨outcome, rfl, htallies, h.reflects, ?_, ?_, ?_⟩
  · intro lane hlane
    rw [lanes_taken] at hlane
    exact h.lanes lane (mem_lanes_iff.2 (.inr hlane))
  · rw [lanes_taken]
    refine List.Perm.trans (List.Perm.append_left calls ?_) h.script
    exact (scripts_perm start front back queue key (.done (.ok outcome))).symm
  · intro entry hentry
    obtain rfl | hentry := List.mem_cons.1 hentry
    · exact (h.lanes _ (mem_lanes_iff.2 (.inl rfl))).verdict.symm
    · exact h.settled entry hentry

theorem pass (h : Steady settings start calls settled world shift) (nanos : Nat) :
    Steady settings start calls settled (world.pass nanos) shift :=
  ⟨h.tallies, h.reflects.pass nanos, fun lane hlane => (h.lanes lane hlane).congr rfl, h.script,
    h.settled⟩

end Steps

end Steady

end Courier
