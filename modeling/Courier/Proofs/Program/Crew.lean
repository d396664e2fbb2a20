import Courier.Program.Pool
import Courier.Proofs.Program.Rule

/-!
Programs that run side by side. Every member of a crew works on a program of its own, and the steps
of the members interleave in any order. A shift is a crew of bounded size that works off a queue and
adds up the values. What happens to a system is a path of labelled steps, and a goal is inevitable if
every such path leads to it.
-/

namespace Courier

/-- Steps one after another, with their labels in order. -/
inductive Path {σ τ : Type} (step : σ → τ → σ → Prop) : σ → List τ → σ → Prop
  | nil (state : σ) : Path step state [] state
  | cons {state next last : σ} {label : τ} {labels : List τ} (hstep : step state label next)
    (hrest : Path step next labels last) : Path step state (label :: labels) last

namespace Path

variable {σ τ : Type} {step : σ → τ → σ → Prop}

theorem append {first middle last : σ} {front back : List τ} (hfront : Path step first front middle)
    (hback : Path step middle back last) : Path step first (front ++ back) last := by
  induction hfront with
  | nil => exact hback
  | cons hstep _ ih => exact .cons hstep (ih hback)

theorem of_append {first last : σ} {front back : List τ}
    (h : Path step first (front ++ back) last) :
    ∃ middle, Path step first front middle ∧ Path step middle back last := by
  induction front generalizing first with
  | nil => exact ⟨first, .nil first, h⟩
  | cons label front ih =>
    cases h with
    | cons hstep hrest =>
      obtain ⟨middle, hfront, hback⟩ := ih hrest
      exact ⟨middle, .cons hstep hfront, hback⟩

/-- Every label of a path is that of a step on the way. -/
theorem exists_step_of_mem {first last : σ} {label : τ} {labels : List τ}
    (h : Path step first labels last) (hlabel : label ∈ labels) :
    ∃ front back state next, labels = front ++ label :: back ∧ Path step first front state ∧
      step state label next ∧ Path step next back last := by
  obtain ⟨front, back, rfl⟩ := List.append_of_mem hlabel
  obtain ⟨state, hfront, hrest⟩ := h.of_append
  cases hrest with
  | cons hstep hback => exact ⟨front, back, state, _, rfl, hfront, hstep, hback⟩

/-- What every step keeps holds at the end if it holds at the start. -/
theorem invariant {holds : σ → Prop} {first last : σ} {labels : List τ}
    (h : Path step first labels last) (hstart : holds first)
    (hstep : ∀ state label next, step state label next → holds state → holds next) :
    holds last := by
  induction h with
  | nil => exact hstart
  | cons hfirst _ ih => exact ih (hstep _ _ _ hfirst hstart)

theorem mono {step' : σ → τ → σ → Prop} {first last : σ} {labels : List τ}
    (h : Path step first labels last)
    (hstep : ∀ state label next, step state label next → step' state label next) :
    Path step' first labels last := by
  induction h with
  | nil => exact .nil _
  | cons hfirst _ ih => exact .cons (hstep _ _ _ hfirst) ih

end Path

/-- However the steps are chosen, the system comes to a goal: it is there, or it can go on, and
    comes to a goal from wherever it goes. -/
inductive Inevitable {σ τ : Type} (step : σ → τ → σ → Prop) (goal : σ → Prop) : σ → Prop
  | reached {state : σ} (hgoal : goal state) : Inevitable step goal state
  | ahead {state : σ} (hopen : ∃ label next, step state label next)
    (hnext : ∀ label next, step state label next → Inevitable step goal next) :
    Inevitable step goal state

namespace Inevitable

variable {σ τ : Type} {step : σ → τ → σ → Prop} {goal : σ → Prop}

/-- A system that can always go on, and comes closer to a goal with every step, comes there. -/
theorem of_wellFounded {closer : σ → σ → Prop} (hcloser : WellFounded closer) {holds : σ → Prop}
    (hopen : ∀ state, holds state → ∃ label next, step state label next)
    (hstep : ∀ state label next, holds state → step state label next →
      goal next ∨ holds next ∧ closer next state) {state : σ} (h : holds state) :
    Inevitable step goal state := by
  induction state using hcloser.induction with
  | _ state ih =>
    refine .ahead (hopen state h) fun label next hnext => ?_
    obtain hgoal | ⟨hholds, hless⟩ := hstep state label next h hnext
    · exact .reached hgoal
    · exact ih next hless hholds

theorem mono {goal' : σ → Prop} {state : σ} (h : Inevitable step goal state)
    (hgoal : ∀ state, goal state → goal' state) : Inevitable step goal' state := by
  induction h with
  | reached h => exact .reached (hgoal _ h)
  | ahead hopen _ ih => exact .ahead hopen ih

end Inevitable

/-- A step of a program leaves less of it. -/
theorem Program.Step.child {Op α : Type} {Answer : Op → Type} {program rest : Program Answer α}
    {turn : Option (Turn Answer)} (h : program.Step turn rest) : Program.Child rest program := by
  cases h with
  | ask => exact .ask _ _ _
  | wait => exact .wait _ _

/-- Programs under way, each with the member that works on it. -/
abbrev Crew {Op : Type} (κ : Type) (Answer : Op → Type) (α : Type) : Type :=
  List (κ × Program Answer α)

namespace Crew

variable {Op : Type} {Answer : Op → Type} {κ α : Type}

/-- One member takes a step of its program; the others stay where they are. -/
inductive Move : Crew κ Answer α → κ → Option (Turn Answer) → Crew κ Answer α → Prop
  | mk (front back : Crew κ Answer α) (member : κ) {program rest : Program Answer α}
    {turn : Option (Turn Answer)} (hstep : program.Step turn rest) :
    Move (front ++ (member, program) :: back) member turn (front ++ (member, rest) :: back)

namespace Move

variable {crew crew' : Crew κ Answer α} {member : κ} {turn : Option (Turn Answer)}

theorem members (h : Move crew member turn crew') :
    crew'.map Prod.fst = crew.map Prod.fst := by
  cases h with
  | mk front back member hstep => simp

/-- The member that moves, and what the crew consists of afterwards. -/
theorem exists_step (h : Move crew member turn crew') :
    ∃ program rest, (member, program) ∈ crew ∧ program.Step turn rest ∧
      ∀ entry ∈ crew', entry = (member, rest) ∨ entry ∈ crew := by
  cases h with
  | mk front back member hstep =>
    refine ⟨_, _, by simp, hstep, fun entry hentry => ?_⟩
    simp only [List.mem_append, List.mem_cons] at hentry ⊢
    obtain hfront | rfl | hback := hentry
    · exact .inr (.inl hfront)
    · exact .inl rfl
    · exact .inr (.inr (.inr hback))

/-- What is left of the program of the member that moves is there afterwards. -/
theorem exists_mem (h : Move crew member turn crew') :
    ∃ program rest, (member, program) ∈ crew ∧ program.Step turn rest ∧ (member, rest) ∈ crew' := by
  cases h with
  | mk front back member hstep => exact ⟨_, _, by simp, hstep, by simp⟩

/-- A program that is done does not move. -/
theorem mem_of_done (h : Move crew member turn crew') {other : κ} {value : α}
    (hentry : (other, .done value) ∈ crew) : (other, .done value) ∈ crew' := by
  cases h with
  | mk front back member hstep =>
    simp only [List.mem_append, List.mem_cons, Prod.mk.injEq] at hentry ⊢
    obtain hfront | ⟨-, rfl⟩ | hback := hentry
    · exact .inl hfront
    · cases hstep
    · exact .inr (.inr hback)

/-- In a crew without doubles, the others are exactly those with another name. -/
theorem exists_step_of_nodup (h : Move crew member turn crew')
    (hnodup : (crew.map Prod.fst).Nodup) :
    ∃ program rest, (member, program) ∈ crew ∧ program.Step turn rest ∧
      ∀ entry ∈ crew', entry = (member, rest) ∨ entry ∈ crew ∧ entry.1 ≠ member := by
  cases h with
  | mk front back member hstep =>
    refine ⟨_, _, by simp, hstep, fun entry hentry => ?_⟩
    have hother (other : κ × Program Answer α) (hother : other ∈ front ++ back) :
        other.1 ≠ member := by
      have hmiddle := (List.perm_middle.map Prod.fst).nodup hnodup
      rintro rfl
      exact (List.nodup_cons.1 hmiddle).1 (List.mem_map.2 ⟨other, hother, rfl⟩)
    simp only [List.mem_append, List.mem_cons] at hentry hother ⊢
    obtain hfront | rfl | hback := hentry
    · exact .inr ⟨.inl hfront, hother _ (.inl hfront)⟩
    · exact .inl rfl
    · exact .inr ⟨.inr (.inr hback), hother _ (.inr hback)⟩

end Move

end Crew

/-- A crew at work: its members, the programs nobody has taken up yet, and the values so far. -/
structure Shift {Op : Type} (κ : Type) (Answer : Op → Type) (α σ : Type) : Type where
  crew : Crew κ Answer α
  queue : Crew κ Answer α
  tally : σ

namespace Shift

variable {Op : Type} {Answer : Op → Type} {κ α σ ρ : Type}

/-- The shift that works on programs in a number of lanes, at least one. -/
def start (width : Nat) (tally : σ) (programs : Crew κ Answer α) : Shift κ Answer α σ :=
  ⟨programs.take (max width 1), programs.drop (max width 1), tally⟩

/-- The steps of a shift: a member of the crew goes on, or a value is added up and the next program
    taken up. The shift is over when the tally says so, or when all programs are done. -/
inductive Step (step : σ → α → Tallied σ ρ) (finish : σ → ρ) :
    Shift κ Answer α σ → Option (κ × Turn Answer) → Shift κ Answer α σ ⊕ ρ → Prop
  | move {crew crew' queue : Crew κ Answer α} {tally : σ} {member : κ} {turn : Option (Turn Answer)}
    (hmove : crew.Move member turn crew') :
    Step step finish ⟨crew, queue, tally⟩ (turn.map (member, ·)) (.inl ⟨crew', queue, tally⟩)
  | settle (front back queue : Crew κ Answer α) (member : κ) (value : α) {tally tally' : σ}
    (hmore : step tally value = .more tally') :
    Step step finish ⟨front ++ (member, .done value) :: back, queue, tally⟩ none
      (.inl ⟨front ++ back ++ queue.take 1, queue.drop 1, tally'⟩)
  | stop (front back queue : Crew κ Answer α) (member : κ) (value : α) {tally : σ} {result : ρ}
    (hstop : step tally value = .stop result) :
    Step step finish ⟨front ++ (member, .done value) :: back, queue, tally⟩ none (.inr result)
  | finish (tally : σ) : Step step finish ⟨[], [], tally⟩ none (.inr (finish tally))

end Shift

end Courier
