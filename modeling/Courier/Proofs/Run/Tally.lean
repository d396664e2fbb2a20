import Courier.Proofs.Run.Stage

/-!
What a shift has added up. The summary of a run is a count of outcomes, so it does not depend on
their order; and at every moment an object of the run has an outcome or is in a lane or in the queue.
-/

namespace Courier

def ItemOutcome.isRejected : ItemOutcome → Bool
  | .rejected _ => true
  | _ => false

@[simp]
theorem ItemOutcome.isRejected_skipped : ItemOutcome.skipped.isRejected = false := rfl

@[simp]
theorem ItemOutcome.isRejected_delivered : ItemOutcome.delivered.isRejected = false := rfl

@[simp]
theorem ItemOutcome.isRejected_rejected (reason : Failure) :
    (ItemOutcome.rejected reason).isRejected = true := rfl

namespace Summary

/-- The summary of some outcomes, whatever their order. -/
def ofOutcomes (listed : Nat) (outcomes : List ItemOutcome) : Summary where
  listed := listed
  skipped := outcomes.countP (· = .skipped)
  delivered := outcomes.countP (· = .delivered)
  rejected := outcomes.countP ItemOutcome.isRejected

variable {limit listed : Nat} {outcomes : List ItemOutcome}

/-- An outcome within the budget is added up. -/
theorem add_ofOutcomes {outcome : ItemOutcome}
    (hbudget : (outcome :: outcomes).countP ItemOutcome.isRejected ≤ limit) :
    add limit (ofOutcomes listed outcomes) (.ok outcome) =
      .more (ofOutcomes listed (outcome :: outcomes)) := by
  cases outcome with
  | skipped | delivered => simp [add, ofOutcomes]
  | rejected reason =>
    rw [List.countP_cons_of_pos rfl] at hbudget
    have hnot : ¬ limit < (ofOutcomes listed outcomes).rejected + 1 := Nat.not_lt.2 hbudget
    simp only [add]
    rw [if_neg hnot]
    simp [ofOutcomes, List.countP_cons]

theorem ofOutcomes_concat (outcome : ItemOutcome) :
    ofOutcomes listed (outcomes ++ [outcome]) = ofOutcomes listed (outcome :: outcomes) := by
  simp [ofOutcomes, List.countP_append, List.countP_cons]

/-- Every outcome has been counted once. -/
theorem sum_ofOutcomes :
    (ofOutcomes listed outcomes).skipped + (ofOutcomes listed outcomes).delivered +
      (ofOutcomes listed outcomes).rejected = outcomes.length := by
  induction outcomes with
  | nil => rfl
  | cons outcome outcomes ih =>
    simp only [ofOutcomes, List.countP_cons, List.length_cons] at ih ⊢
    cases outcome <;> simp <;> omega

/-- The work goes on only after an outcome within the budget. -/
theorem of_add_eq_more {result : Except Failure ItemOutcome} {tally : Summary}
    (hbudget : outcomes.countP ItemOutcome.isRejected ≤ limit)
    (h : add limit (ofOutcomes listed outcomes) result = .more tally) :
    ∃ outcome, result = .ok outcome ∧ tally = ofOutcomes listed (outcome :: outcomes) ∧
      (outcome :: outcomes).countP ItemOutcome.isRejected ≤ limit := by
  have hkeep (outcome : ItemOutcome)
      (hless : (outcome :: outcomes).countP ItemOutcome.isRejected ≤ limit)
      (hadd : add limit (ofOutcomes listed outcomes) (.ok outcome) = .more tally) :
      tally = ofOutcomes listed (outcome :: outcomes) := by
    rw [add_ofOutcomes hless] at hadd
    exact (Tallied.more.inj hadd).symm
  cases result with
  | error failure => cases h
  | ok outcome =>
    cases outcome with
    | skipped | delivered => exact ⟨_, rfl, hkeep _ hbudget h, hbudget⟩
    | rejected reason =>
      have hless : (ItemOutcome.rejected reason :: outcomes).countP ItemOutcome.isRejected ≤
          limit := by
        rw [List.countP_cons_of_pos rfl]
        refine Nat.not_lt.1 fun hover => ?_
        have hstop : limit < (ofOutcomes listed outcomes).rejected + 1 := hover
        simp only [add] at h
        rw [if_pos hstop] at h
        cases h
      exact ⟨_, rfl, hkeep _ hless h, hless⟩

/-- What ends the work early is a failure. -/
theorem error_of_add_eq_stop {tally : Summary} {result : Except Failure ItemOutcome}
    {run : Except Failure Summary} (h : add limit tally result = .stop run) :
    ∃ failure, run = .error failure := by
  cases result with
  | error failure =>
    cases h
    exact ⟨failure, rfl⟩
  | ok outcome =>
    cases outcome with
    | skipped | delivered => cases h
    | rejected reason =>
      simp only [add] at h
      split at h
      · cases h
        exact ⟨_, rfl⟩
      · cases h

end Summary

/-- The members of a shift at work on the objects of a run. -/
abbrev Lanes : Type := Crew String Call.Answer (Except Failure ItemOutcome)

/-- One lane, and the other lanes with the queue. -/
theorem lanes_perm (front back queue : Lanes)
    (lane : String × Program Call.Answer (Except Failure ItemOutcome)) :
    (front ++ lane :: back ++ queue).Perm (lane :: (front ++ back ++ queue)) := by
  rw [List.append_assoc, List.cons_append, List.append_assoc]
  exact List.perm_middle

theorem mem_lanes_iff {front back queue : Lanes}
    {lane other : String × Program Call.Answer (Except Failure ItemOutcome)} :
    other ∈ front ++ lane :: back ++ queue ↔ other = lane ∨ other ∈ front ++ back ++ queue := by
  rw [(lanes_perm front back queue lane).mem_iff, List.mem_cons]

/-- The next object of the queue is taken up, and none is lost. -/
theorem lanes_taken (front back queue : Lanes) :
    front ++ back ++ queue.take 1 ++ queue.drop 1 = front ++ back ++ queue := by
  rw [List.append_assoc (front ++ back), List.take_append_drop]

/-- Every object of a run has an outcome, which has been added up, or is still to be done; and no
    lane is idle while objects wait. -/
structure Tallies (limit : Nat) (keys : List String) (settled : List (String × ItemOutcome))
    (shift : Shift String Call.Answer (Except Failure ItemOutcome) Summary) : Prop where
  members : (settled.map Prod.fst ++ (shift.crew ++ shift.queue).map Prod.fst).Perm keys
  tally : shift.tally = .ofOutcomes keys.length (settled.map Prod.snd)
  budget : (settled.map Prod.snd).countP ItemOutcome.isRejected ≤ limit
  busy : shift.crew = [] → shift.queue = []

namespace Tallies

variable {limit : Nat} {keys : List String} {settled : List (String × ItemOutcome)}

theorem start (settings : Settings) (keys : List String) (width : Nat) :
    Tallies limit keys [] (.start width (.start keys.length) (tasks settings keys)) where
  members := by
    rw [Shift.start, List.take_append_drop, keys_tasks]
    exact .refl _
  tally := rfl
  budget := Nat.zero_le _
  busy hcrew := by
    have hpositive : max width 1 ≠ 0 := by omega
    obtain hzero | hnil := List.take_eq_nil_iff.1 hcrew
    · exact absurd hzero hpositive
    · simp [Shift.start, hnil]

theorem mem_keys {shift : Shift String Call.Answer (Except Failure ItemOutcome) Summary}
    (h : Tallies limit keys settled shift)
    {lane : String × Program Call.Answer (Except Failure ItemOutcome)}
    (hlane : lane ∈ shift.crew ++ shift.queue) : lane.1 ∈ keys :=
  h.members.subset (List.mem_append_right _ (List.mem_map_of_mem hlane))

/-- The order of the objects does not matter. -/
theorem of_perm {keys' : List String}
    {shift : Shift String Call.Answer (Except Failure ItemOutcome) Summary}
    (h : Tallies limit keys settled shift) (hkeys : keys.Perm keys') :
    Tallies limit keys' settled shift :=
  ⟨h.members.trans hkeys, hkeys.length_eq ▸ h.tally, h.budget, h.busy⟩

theorem move {crew crew' queue : Lanes} {tally : Summary} {key : String}
    {turn : Option (Turn Call.Answer)} (h : Tallies limit keys settled ⟨crew, queue, tally⟩)
    (hmove : crew.Move key turn crew') : Tallies limit keys settled ⟨crew', queue, tally⟩ where
  members := by
    rw [List.map_append, hmove.members, ← List.map_append]
    exact h.members
  tally := h.tally
  budget := h.budget
  busy hcrew := by
    cases hmove with
    | mk => simp at hcrew

/-- The object in one lane, and the other objects of the run. -/
theorem perm_cons {front back queue : Lanes} {tally : Summary} {key : String}
    {program : Program Call.Answer (Except Failure ItemOutcome)}
    (h : Tallies limit keys settled ⟨front ++ (key, program) :: back, queue, tally⟩) :
    (key :: (settled.map Prod.fst ++ (front ++ back ++ queue).map Prod.fst)).Perm keys := by
  have hlanes := (lanes_perm front back queue (key, program)).map Prod.fst
  exact (List.perm_middle.symm.trans (hlanes.symm.append_left _)).trans h.members

/-- An outcome is added up, and the next object is taken up. -/
theorem settle {front back queue : Lanes} {tally tally' : Summary} {key : String}
    {result : Except Failure ItemOutcome}
    (h : Tallies limit keys settled ⟨front ++ (key, .done result) :: back, queue, tally⟩)
    (hmore : Summary.add limit tally result = .more tally') :
    ∃ outcome, result = .ok outcome ∧ Tallies limit keys ((key, outcome) :: settled)
      ⟨front ++ back ++ queue.take 1, queue.drop 1, tally'⟩ := by
  obtain rfl : tally = _ := h.tally
  obtain ⟨outcome, rfl, rfl, hbudget⟩ := Summary.of_add_eq_more h.budget hmore
  refine ⟨outcome, rfl, ?_, rfl, hbudget, fun hcrew => ?_⟩
  · rw [lanes_taken]
    exact h.perm_cons
  · obtain ⟨-, htake⟩ := List.append_eq_nil_iff.1 hcrew
    cases queue with
    | nil => rfl
    | cons => cases htake

theorem perm_of_nil {tally : Summary} (h : Tallies limit keys settled ⟨[], [], tally⟩) :
    (settled.map Prod.fst).Perm keys := by
  have hkeys := h.members
  rwa [List.append_nil, List.map_nil, List.append_nil] at hkeys

end Tallies

end Courier
