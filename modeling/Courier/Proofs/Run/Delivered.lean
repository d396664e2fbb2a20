import Courier.Proofs.Run.Forecast

/-!
What a run without faults delivers. An object that is delivered passes each milestone of its work
once, and any other object passes none: the objects that are accepted, those whose marker is written
and those that are counted are the same.
-/

namespace Courier

open Memory Program

/-- The objects for which a milestone has been passed, in order. -/
def keysPast (stone : Nat) (calls : List (String × Call)) : List String :=
  (calls.filter fun entry => Item.milestone entry.2 = stone).map Prod.fst

/-- The objects that a run without faults delivers. -/
def Settings.deliverable (settings : Settings) (start : World) : List String :=
  (settings.todo start).filter (settings.fated start (· = .delivered))

section Keys

variable {stone : Nat}

theorem keysPast_append (front back : List (String × Call)) :
    keysPast stone (front ++ back) = keysPast stone front ++ keysPast stone back := by
  rw [keysPast, List.filter_append, List.map_append, ← keysPast, ← keysPast]

theorem keysPast_perm {calls calls' : List (String × Call)} (h : calls.Perm calls') :
    (keysPast stone calls).Perm (keysPast stone calls') := (h.filter _).map _

theorem mem_keysPast {calls : List (String × Call)} {key : String} :
    key ∈ keysPast stone calls ↔ ∃ call, (key, call) ∈ calls ∧ Item.milestone call = stone := by
  simp [keysPast]

/-- One object passes a milestone as often as its script does. -/
theorem keysPast_map (key : String) (calls : List Call) :
    keysPast stone (calls.map (key, ·)) =
      List.replicate (calls.countP (Item.milestone · = stone)) key := by
  rw [keysPast, List.filter_map, List.map_map, List.countP_eq_length_filter]
  exact List.map_const'

end Keys

section Scripts

variable {settings : Settings} {start world : World} {stone : Nat}

theorem keysPast_tasks (hfirst : 1 ≤ stone) (hlast : stone ≤ 3) {keys : List String}
    (houtcomes : ∀ key ∈ keys, ∃ outcome, settings.fate start key = some (.ok outcome)) :
    keysPast stone (scripts start (tasks settings keys)) =
      keys.filter (settings.fated start (· = .delivered)) := by
  induction keys with
  | nil => rfl
  | cons key keys ih =>
    obtain ⟨outcome, houtcome⟩ := houtcomes key List.mem_cons_self
    have hscripts : scripts start (tasks settings (key :: keys)) =
        ((Item.process settings key).run.script start.told).map (key, ·) ++
          scripts start (tasks settings keys) := rfl
    have hfated : settings.fated start (· = .delivered) key = decide (outcome = .delivered) := by
      rw [Settings.fated, houtcome]
    rw [hscripts, keysPast_append, keysPast_map, Item.countP_milestone houtcome hfirst hlast,
      ih fun other hother => houtcomes other (List.mem_cons_of_mem _ hother)]
    by_cases hdelivered : outcome = .delivered
    · rw [List.filter_cons_of_pos (hfated.trans (decide_eq_true hdelivered)), if_pos hdelivered]
      rfl
    · rw [List.filter_cons_of_neg (by simp [hfated, hdelivered]), if_neg hdelivered]
      rfl

/-- The objects that pass a milestone are those that are delivered. -/
theorem keysPast_script (hviable : settings.Viable start) (hfirst : 1 ≤ stone)
    (hlast : stone ≤ 3) : keysPast stone (settings.script start) = settings.deliverable start :=
  keysPast_tasks hfirst hlast hviable.outcomes

/-- An object with a marker is delivered only if all objects are sent again. -/
theorem not_mem_deliverable {key : String} (hoff : settings.run.reprocess = false)
    (hmarker : settings.hasMarker start key) : key ∉ settings.deliverable start := by
  intro hkey
  have hfated := (List.mem_filter.1 hkey).2
  have hfate : settings.fate start key = some (.ok .skipped) :=
    Item.verdict_of_marker hoff hmarker
  rw [Settings.fated, hfate] at hfated
  cases hfated

end Scripts

namespace Settings.Completed

variable {settings : Settings} {start world : World} {calls : List (String × Call)}

theorem keysPast_perm (h : settings.Completed start calls world) (hviable : settings.Viable start)
    {stone : Nat} (hfirst : 1 ≤ stone) (hlast : stone ≤ 3) :
    (keysPast stone calls).Perm (settings.deliverable start) := by
  rw [← keysPast_script hviable hfirst hlast]
  exact Courier.keysPast_perm h.script

/-- The objects to be sent are the same. -/
theorem encrypted_eq (h : settings.Completed start calls world) :
    world.encrypted = start.encrypted := by
  refine h.reflects.keys (Text.endsWith encryptedEnding) fun call hcall place hplace => ?_
  obtain rfl | hcall := List.mem_cons.1 hcall
  · cases hplace
  · obtain ⟨entry, hentry, rfl⟩ := List.mem_map.1 hcall
    obtain ⟨-, hasks⟩ := asks_of_mem_script (h.script.subset hentry)
    obtain ⟨-, rfl⟩ := eq_markerPut_of_place hasks hplace
    exact not_endsWith_markerKey settings entry.1

/-- The objects with a marker are those from before and those that have been delivered. -/
theorem hasMarker_iff (h : settings.Completed start calls world) (hviable : settings.Viable start)
    (hseparate : settings.Separate start) {key : String} (hkey : key ∈ settings.todo start) :
    settings.hasMarker world key ↔
      settings.hasMarker start key ∨ key ∈ settings.deliverable start := by
  have hstone : key ∈ settings.deliverable start ↔
      ∃ call, (key, call) ∈ settings.script start ∧ Item.milestone call = 2 := by
    rw [← keysPast_script hviable (by decide : 1 ≤ 2) (by decide), mem_keysPast]
  by_cases hdelivered : key ∈ settings.deliverable start
  · refine iff_of_true ?_ (.inr hdelivered)
    obtain ⟨call, hcall, htwo⟩ := hstone.1 hdelivered
    have hmem : call ∈ Call.list settings.storage.folder :: calls.map Prod.snd :=
      List.mem_cons_of_mem _ (List.mem_map.2 ⟨_, h.script.symm.subset hcall, rfl⟩)
    have hasks : Item.Asks settings key call := (asks_of_mem_script hcall).2
    obtain rfl | rfl | hquiet := hasks.writes_cases
    · rw [Settings.hasMarker, h.reflects.written _ _ _ _ hmem]
      rfl
    · cases htwo
    · have hless := Item.milestone_le_one hquiet
      omega
  · rw [or_iff_left hdelivered, Settings.hasMarker, h.reflects.unwritten, Settings.hasMarker]
    intro call hcall hplace
    obtain rfl | hcall := List.mem_cons.1 hcall
    · cases hplace
    · obtain ⟨entry, hentry, rfl⟩ := List.mem_map.1 hcall
      have hmem := h.script.subset hentry
      obtain rfl := hseparate.eq_of_place hmem hkey hplace
      obtain ⟨hput, -⟩ := eq_markerPut_of_place (asks_of_mem_script hmem).2 hplace
      exact hdelivered (hstone.2 ⟨entry.2, hmem, hput ▸ rfl⟩)

/-- Each delivered object has been counted once. -/
theorem row_eq (h : settings.Completed start calls world) (hviable : settings.Viable start) :
    find? world.table settings.own =
      oneMore^[(settings.deliverable start).length] (find? start.table settings.own) := by
  have hcounted (entry : String × Call) (hentry : entry ∈ calls) :
      countedRow? entry.2 = some settings.own ↔ Item.milestone entry.2 = 3 := by
    obtain ⟨key, call⟩ := entry
    have hasks : Item.Asks settings key call := (asks_of_mem_script (h.script.subset hentry)).2
    obtain rfl | rfl | hquiet := hasks.writes_cases
    · exact iff_of_false nofun nofun
    · exact iff_of_true rfl rfl
    · have hless := Item.milestone_le_one hquiet
      refine iff_of_false (fun hrow => ?_) (by dsimp only; omega)
      cases call with
      | increment => cases hquiet
      | _ => cases hrow
  have hcount : (Call.list settings.storage.folder :: calls.map Prod.snd).countP
      (countedRow? · = some settings.own) = (settings.deliverable start).length := by
    rw [← (h.keysPast_perm hviable (by decide : 1 ≤ 3) (by decide)).length_eq, keysPast,
      List.length_map, ← List.countP_eq_length_filter, List.countP_cons_of_neg (by simp [countedRow?]),
      List.countP_map]
    refine List.countP_congr fun entry hentry => ?_
    simp only [Function.comp_apply, decide_eq_true_eq]
    exact hcounted entry hentry
  rw [h.reflects.rows, hcount]

end Settings.Completed

/-- Without faults just the readable deliveries are accepted. -/
theorem isAccepted_answer {world : World} (hfree : world.FaultFree) (call : Call) :
    Turn.isAccepted ⟨call, (world.answer call).1⟩ = decide (Item.milestone call = 1) := by
  cases call with
  | deliver headers body =>
    rw [hfree.result, World.perform, Item.milestone]
    cases hbytes : body.bytes with
    | ok bytes =>
      simp only [Turn.isAccepted, hbytes]
      rfl
    | error fault => rfl
  | _ => rfl

/-- So the objects that have been accepted are those for which the first milestone has been
    passed. -/
theorem acceptedKeys_eq_keysPast {settings : Settings} {state last : World × Stage}
    {labels : List (Option Asked)} (hpath : Path (Stage.Goes settings) state labels last)
    (hfree : state.1.FaultFree) : acceptedKeys labels = keysPast 1 (labels.filterMap callOf) := by
  induction hpath with
  | nil => rfl
  | @cons _ _ _ label labels hstep _ ih =>
    cases hstep with
    | silent nanos => exact ih hfree
    | @ask world _ _ nanos key? call =>
      have hcalmed : (world.pass nanos).FaultFree := hfree
      have hrest := ih (hcalmed.answer call)
      have haccepted := isAccepted_answer hcalmed call
      rw [acceptedKeys, ← List.singleton_append, keysAsked_append, ← acceptedKeys, hrest,
        List.filterMap_append, keysPast_append]
      congr 1
      cases key? with
      | none => exact keysAsked_anonymous _ _
      | some key =>
        rw [acceptedKeys, keysAsked_key, haccepted]
        by_cases hstone : Item.milestone call = 1 <;> simp [keysPast, callOf, hstone]

end Courier
