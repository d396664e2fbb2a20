import Mathlib.Data.List.ReduceOption
import Courier.Proofs.Item.Reason
import Courier.Proofs.Program.Trace
import Courier.Proofs.Run.Tally

/-!
The rounds of a run. However its members interleave and whatever the collaborators answer, a run
visits the objects it has to send: every object has one visit, and every call for an object belongs
to one. A single worker visits them one after another, in order.
-/

namespace Courier

open Program

/-- The object has been rejected. -/
def rejects : Except Failure ItemOutcome → Bool
  | .ok outcome => outcome.isRejected
  | .error _ => false

/-- The work on one object as far as it has come: its calls with their answers, and what is left. -/
structure Visit where
  key : String
  turns : List (Turn Call.Answer)
  rest : Program Call.Answer (Except Failure ItemOutcome)

namespace Visit

/-- No call has been made yet. -/
def unstarted (settings : Settings) (key : String) : Visit :=
  ⟨key, [], (Item.process settings key).run⟩

/-- The calls and what is left are those of the work on the object. -/
def IsGenuine (settings : Settings) (visit : Visit) : Prop :=
  Leads (Item.process settings visit.key).run visit.turns visit.rest

def lane (visit : Visit) : String × Program Call.Answer (Except Failure ItemOutcome) :=
  (visit.key, visit.rest)

def calls (visit : Visit) : List (String × Turn Call.Answer) := visit.turns.map (visit.key, ·)

/-- What the visit has come to, if it is over. -/
def result? (visit : Visit) : Option (Except Failure ItemOutcome) :=
  match visit.rest with
  | .done result => some result
  | _ => none

/-- The visit is over, and the object has been rejected. -/
def isRejected (visit : Visit) : Bool := visit.result?.any rejects

/-- The visit once it has gone on. -/
def after (visit : Visit) (turn : Option (Turn Call.Answer))
    (rest : Program Call.Answer (Except Failure ItemOutcome)) : Visit :=
  ⟨visit.key, visit.turns ++ turn.toList, rest⟩

theorem isGenuine_unstarted (settings : Settings) (key : String) :
    (unstarted settings key).IsGenuine settings := .here _

theorem IsGenuine.after {settings : Settings} {visit : Visit} {turn : Option (Turn Call.Answer)}
    {rest : Program Call.Answer (Except Failure ItemOutcome)} (h : visit.IsGenuine settings)
    (hstep : visit.rest.Step turn rest) : (visit.after turn rest).IsGenuine settings :=
  Leads.step h hstep

theorem calls_after (visit : Visit) (turn : Option (Turn Call.Answer))
    (rest : Program Call.Answer (Except Failure ItemOutcome)) :
    (visit.after turn rest).calls = visit.calls ++ turn.toList.map (visit.key, ·) :=
  List.map_append

/-- An object is rejected for good. -/
theorem IsGenuine.exists_reason {settings : Settings} {visit : Visit}
    (h : visit.IsGenuine settings) (hrejected : visit.isRejected) : ∃ reason : Failure,
      visit.rest = .done (.ok (.rejected reason)) ∧ reason.isPermanent := by
  obtain ⟨key, turns, rest⟩ := visit
  cases rest with
  | ask | wait | halt => cases hrejected
  | done result =>
    cases result with
    | error => cases hrejected
    | ok outcome =>
      cases outcome with
      | skipped | delivered => cases hrejected
      | rejected reason => exact ⟨reason, rfl, Item.isPermanent_of_process h⟩

/-- One of the lanes, as one of the visits. -/
theorem exists_of_lane {visits : List Visit} {front back : Lanes} {key : String}
    {program : Program Call.Answer (Except Failure ItemOutcome)}
    (h : visits.map lane = front ++ (key, program) :: back) :
    ∃ before visit after, visits = before ++ visit :: after ∧ before.map lane = front ∧
      after.map lane = back ∧ visit.key = key ∧ visit.rest = program := by
  obtain ⟨before, others, rfl, hfront, hothers⟩ := List.map_eq_append_iff.1 h
  obtain ⟨visit, after, rfl, hlane, hback⟩ := List.map_eq_cons_iff.1 hothers
  exact ⟨before, visit, after, rfl, hfront, hback, congrArg Prod.fst hlane,
    congrArg Prod.snd hlane⟩

end Visit

/-- The call as one for an object, if it is. -/
def Asked.keyed? : Asked → Option (String × Turn Call.Answer)
  | ⟨some key, turn⟩ => some (key, turn)
  | ⟨none, _⟩ => none

/-- What a run has been told about its folder. -/
def Asked.listing? : Asked → Option (List String)
  | ⟨none, ⟨.list _, .ok keys⟩⟩ => some keys
  | _ => none

/-- The calls that have been made for objects, in order. -/
def keyedCalls (asked : List (Option Asked)) : List (String × Turn Call.Answer) :=
  asked.reduceOption.filterMap Asked.keyed?

def listings (asked : List (Option Asked)) : List (List String) :=
  asked.reduceOption.filterMap Asked.listing?

section Asked

variable (asked : List (Option Asked))

theorem keyedCalls_silent : keyedCalls (asked ++ [none]) = keyedCalls asked := by
  simp [keyedCalls, List.reduceOption_append]

theorem listings_silent : listings (asked ++ [none]) = listings asked := by
  simp [listings, List.reduceOption_append]

theorem keyedCalls_keyed (key : String) (turn : Option (Turn Call.Answer)) :
    keyedCalls (asked ++ [turn.map (Asked.mk (some key))]) =
      keyedCalls asked ++ turn.toList.map (key, ·) := by
  cases turn <;> simp [keyedCalls, List.reduceOption_append, Asked.keyed?]

theorem listings_keyed (key : String) (turn : Option (Turn Call.Answer)) :
    listings (asked ++ [turn.map (Asked.mk (some key))]) = listings asked := by
  cases turn <;> simp [listings, List.reduceOption_append, Asked.listing?]

end Asked

/-- The rounds of a run over the objects with the given keys: the visits whose outcome has been
    collected, those under way, and those to come. Every object has one visit, and every call for an
    object belongs to one. A single worker goes from object to object in the order of the keys. -/
structure Rounds (settings : Settings) (keys : List String) (asked : List (Option Asked))
    (collected opened waiting : List Visit) : Prop where
  genuine : ∀ visit ∈ collected ++ opened ++ waiting, visit.IsGenuine settings
  untouched : ∀ visit ∈ waiting, visit.turns = []
  members : keys.Perm ((collected ++ opened ++ waiting).map Visit.key)
  calls : (keyedCalls asked).Perm ((collected ++ opened ++ waiting).flatMap Visit.calls)
  inOrder : settings.handling.workers ≤ 1 → opened.length ≤ 1 ∧
    keys = (collected ++ opened ++ waiting).map Visit.key ∧
    keyedCalls asked = (collected ++ opened ++ waiting).flatMap Visit.calls

namespace Rounds

variable {settings : Settings} {keys : List String} {asked : List (Option Asked)}
  {collected front back waiting : List Visit} {visit : Visit}

theorem start (settings : Settings) (keys : List String) (h : keyedCalls asked = []) :
    Rounds settings keys asked []
      ((keys.map (Visit.unstarted settings)).take (max settings.handling.workers 1))
      ((keys.map (Visit.unstarted settings)).drop (max settings.handling.workers 1)) := by
  have hunstarted (visit : Visit) (hvisit : visit ∈ keys.map (Visit.unstarted settings)) :
      visit.IsGenuine settings ∧ visit.turns = [] := by
    obtain ⟨key, -, rfl⟩ := List.mem_map.1 hvisit
    exact ⟨Visit.isGenuine_unstarted settings key, rfl⟩
  have hkeys : (keys.map (Visit.unstarted settings)).map Visit.key = keys := by
    rw [List.map_map]
    exact List.map_id' keys
  have hcalls : (keys.map (Visit.unstarted settings)).flatMap Visit.calls = [] := by
    refine List.flatMap_eq_nil_iff.2 fun visit hvisit => ?_
    rw [Visit.calls, (hunstarted visit hvisit).2, List.map_nil]
  have hwidth : ((keys.map (Visit.unstarted settings)).take
      (max settings.handling.workers 1)).length ≤ max settings.handling.workers 1 :=
    List.length_take_le _ _
  refine ⟨?_, fun visit hvisit => (hunstarted visit (List.mem_of_mem_drop hvisit)).2, ?_, ?_,
    fun hsingle => ⟨by omega, ?_⟩⟩
  all_goals rw [List.nil_append, List.take_append_drop]
  · exact fun visit hvisit => (hunstarted visit hvisit).1
  · rw [hkeys]
  · rw [hcalls, h]
  · rw [hkeys, hcalls, h]
    exact ⟨rfl, rfl⟩

theorem silent (h : Rounds settings keys asked collected front waiting) :
    Rounds settings keys (asked ++ [none]) collected front waiting := by
  refine ⟨h.genuine, h.untouched, h.members, ?_, ?_⟩
  · rw [keyedCalls_silent]
    exact h.calls
  · rw [keyedCalls_silent]
    exact h.inOrder

/-- An object that waits has had no call. -/
theorem calls_waiting (h : Rounds settings keys asked collected front waiting) :
    waiting.flatMap Visit.calls = [] := by
  refine List.flatMap_eq_nil_iff.2 fun visit hvisit => ?_
  rw [Visit.calls, h.untouched visit hvisit, List.map_nil]

/-- A single worker has no visit under way but one. -/
theorem eq_nil_of_single (hsingle : settings.handling.workers ≤ 1)
    (h : Rounds settings keys asked collected (front ++ visit :: back) waiting) :
    front = [] ∧ back = [] := by
  obtain ⟨hlength, -⟩ := h.inOrder hsingle
  rw [List.length_append, List.length_cons] at hlength
  exact ⟨List.eq_nil_of_length_eq_zero (by omega), List.eq_nil_of_length_eq_zero (by omega)⟩

/-- One visit goes on. -/
theorem move {turn : Option (Turn Call.Answer)}
    {rest : Program Call.Answer (Except Failure ItemOutcome)}
    (h : Rounds settings keys asked collected (front ++ visit :: back) waiting)
    (hstep : visit.rest.Step turn rest) :
    Rounds settings keys (asked ++ [turn.map (Asked.mk (some visit.key))]) collected
      (front ++ visit.after turn rest :: back) waiting := by
  have hkeys : (collected ++ (front ++ visit.after turn rest :: back) ++ waiting).map Visit.key =
      (collected ++ (front ++ visit :: back) ++ waiting).map Visit.key := by
    simp [Visit.after]
  have hwaiting := h.calls_waiting
  refine ⟨?_, h.untouched, hkeys ▸ h.members, ?_, fun hsingle => ?_⟩
  · have hgenuine := h.genuine
    simp only [List.forall_mem_append, List.forall_mem_cons] at hgenuine ⊢
    obtain ⟨⟨hcollected, hfront, hvisit, hback⟩, hwaiting⟩ := hgenuine
    exact ⟨⟨hcollected, hfront, hvisit.after hstep, hback⟩, hwaiting⟩
  · -- The call stands last of all calls, and in the visit last of its own.
    rw [keyedCalls_keyed]
    refine (h.calls.append_right _).trans ?_
    simp only [List.flatMap_append, List.flatMap_cons, hwaiting, Visit.calls_after,
      List.append_nil, List.append_assoc]
    exact ((List.perm_append_comm.append_left _).append_left _).append_left _
  · obtain ⟨rfl, rfl⟩ := h.eq_nil_of_single hsingle
    obtain ⟨hlength, hmembers, hbefore⟩ := h.inOrder hsingle
    refine ⟨hlength, hmembers.trans hkeys.symm, ?_⟩
    rw [keyedCalls_keyed, hbefore]
    simp only [List.nil_append, List.flatMap_append, List.flatMap_singleton, hwaiting,
      Visit.calls_after, List.append_nil, List.append_assoc]

/-- The outcome of a visit is collected. -/
theorem collect (h : Rounds settings keys asked collected (front ++ visit :: back) waiting) :
    Rounds settings keys asked (collected ++ [visit]) (front ++ back) waiting := by
  have hperm : (collected ++ (front ++ visit :: back) ++ waiting).Perm
      (collected ++ [visit] ++ (front ++ back) ++ waiting) := by
    simp only [List.append_assoc]
    exact List.perm_middle.append_left _
  refine ⟨fun other hother => h.genuine other (hperm.mem_iff.2 hother), h.untouched,
    h.members.trans (hperm.map _), h.calls.trans (hperm.flatMap_right _), fun hsingle => ?_⟩
  obtain ⟨rfl, rfl⟩ := h.eq_nil_of_single hsingle
  obtain ⟨-, hmembers, hcalls⟩ := h.inOrder hsingle
  have hsame : collected ++ ([] ++ [visit]) ++ waiting =
      collected ++ [visit] ++ ([] ++ []) ++ waiting := by
    simp
  rw [← hsame]
  exact ⟨Nat.zero_le 1, hmembers, hcalls⟩

/-- The outcome of a visit is collected, and the next one begins. -/
theorem settle (h : Rounds settings keys asked collected (front ++ visit :: back) waiting) :
    Rounds settings keys asked (collected ++ [visit]) (front ++ back ++ waiting.take 1)
      (waiting.drop 1) := by
  have hall : collected ++ [visit] ++ (front ++ back ++ waiting.take 1) ++ waiting.drop 1 =
      collected ++ [visit] ++ (front ++ back) ++ waiting := by
    rw [← List.append_assoc (collected ++ [visit]), List.append_assoc _ (waiting.take 1),
      List.take_append_drop]
  obtain ⟨hgenuine, huntouched, hmembers, hcalls, hinOrder⟩ := h.collect
  refine ⟨hall ▸ hgenuine, fun other hother => huntouched other (List.mem_of_mem_drop hother),
    hall ▸ hmembers, hall ▸ hcalls, fun hsingle => ⟨?_, hall ▸ (hinOrder hsingle).2⟩⟩
  obtain ⟨rfl, rfl⟩ := h.eq_nil_of_single hsingle
  exact List.length_take_le 1 waiting

/-- An answer in a visit has been given to the run. -/
theorem exists_asked (h : Rounds settings keys asked collected front waiting)
    (hvisit : visit ∈ collected ++ front ++ waiting) {turn : Turn Call.Answer}
    (hturn : turn ∈ visit.turns) : ∃ ask ∈ asked.reduceOption, ask.turn = turn := by
  have hcall : (visit.key, turn) ∈ keyedCalls asked :=
    h.calls.mem_iff.2 (List.mem_flatMap.2 ⟨visit, hvisit, List.mem_map_of_mem hturn⟩)
  obtain ⟨⟨key?, turn'⟩, hask, hkeyed⟩ := List.mem_filterMap.1 hcall
  refine ⟨_, hask, ?_⟩
  cases key? with
  | none => cases hkeyed
  | some key => exact congrArg Prod.snd (Option.some.inj hkeyed)

end Rounds

/-- The objects have been visited in the order of their keys, one after another: all calls for them
    belong to these visits, and none to those that wait. -/
structure OneByOne (keys : List String) (asked : List (Option Asked))
    (visits waiting : List Visit) : Prop where
  keys : keys = visits.map Visit.key ++ waiting.map Visit.key
  calls : keyedCalls asked = visits.flatMap Visit.calls

theorem Rounds.oneByOne {settings : Settings} {keys : List String} {asked : List (Option Asked)}
    {visits waiting : List Visit} (h : Rounds settings keys asked visits [] waiting)
    (hsingle : settings.handling.workers ≤ 1) : OneByOne keys asked visits waiting := by
  obtain ⟨-, hkeys, hcalls⟩ := h.inOrder hsingle
  refine ⟨?_, ?_⟩
  · rw [hkeys, List.append_nil, List.map_append]
  · rw [hcalls, List.append_nil, List.flatMap_append, h.calls_waiting, List.append_nil]

end Courier
