import Courier.Program.Basic

/-!
Running several programs at the same time. Each works in a lane. The lane that is due first goes on
until it waits or ends; of two that are due at once, the one that has waited longer. A lane that
ends hands its value to a tally, which may end the whole run, and then takes up the next program.
The run is one program again, whose waits are the times in which every lane waits.
-/

namespace Courier

namespace Program

variable {Op : Type} {Answer : Op → Type} {α β : Type}

/-- One step of a program leads from the second to the first. -/
inductive Child : Program Answer α → Program Answer α → Prop
  | ask (op : Op) (next : Answer op → Program Answer α) (answer : Answer op) :
    Child (next answer) (.ask op next)
  | wait (nanos : Nat) (next : Program Answer α) : Child next (.wait nanos next)

/-- Every program ends, whatever the answers are. -/
theorem wellFounded_child : WellFounded (@Child Op Answer α) := by
  refine ⟨fun program => ?_⟩
  induction program with
  | done value => exact ⟨_, fun _ h => nomatch h⟩
  | ask op next ih => exact ⟨_, fun _ h => by cases h with | ask _ _ answer => exact ih answer⟩
  | wait nanos next ih => exact ⟨_, fun _ h => by cases h; exact ih⟩
  | halt => exact ⟨_, fun _ h => nomatch h⟩

end Program

/-- The second list becomes the first, but for the order, by dropping one of its members or by
    putting a smaller one in its place. -/
inductive Lessens {γ : Type} (smaller : γ → γ → Prop) (after before : List γ) : Prop
  | drop (x : γ) (rest : List γ) (hbefore : before.Perm (x :: rest)) (hafter : after.Perm rest)
  | replace (x y : γ) (rest : List γ) (hsmaller : smaller y x) (hbefore : before.Perm (x :: rest))
    (hafter : after.Perm (y :: rest))

namespace Lessens

variable {γ : Type} {smaller : γ → γ → Prop}

theorem of_perm {after before before' : List γ} (h : Lessens smaller after before)
    (hperm : before.Perm before') : Lessens smaller after before' := by
  cases h with
  | drop x rest hbefore hafter => exact .drop x rest (hperm.symm.trans hbefore) hafter
  | replace x y rest hsmaller hbefore hafter =>
    exact .replace x y rest hsmaller (hperm.symm.trans hbefore) hafter

theorem acc_of_perm {xs ys : List γ} (hacc : Acc (Lessens smaller) xs) (hperm : xs.Perm ys) :
    Acc (Lessens smaller) ys :=
  ⟨_, fun _ h => hacc.inv (h.of_perm hperm.symm)⟩

/-- What is reached from `x :: xs` lacks `x`, has something smaller in its place, or keeps it and is
    reached from `xs`. -/
theorem of_cons {after : List γ} {x : γ} {xs : List γ} (h : Lessens smaller after (x :: xs)) :
    after.Perm xs ∨ (∃ y, smaller y x ∧ after.Perm (y :: xs)) ∨
      ∃ others, Lessens smaller others xs ∧ after.Perm (x :: others) := by
  have split : ∀ {z rest}, (x :: xs).Perm (z :: rest) →
      (z = x ∧ rest.Perm xs) ∨ ∃ others, xs.Perm (z :: others) ∧ rest.Perm (x :: others) := by
    intro z rest hperm
    rcases List.mem_cons.1 (hperm.mem_iff.2 List.mem_cons_self) with rfl | hmem
    · exact .inl ⟨rfl, hperm.cons_inv.symm⟩
    · obtain ⟨front, back, rfl⟩ := List.append_of_mem hmem
      have hmiddle : (front ++ z :: back).Perm (z :: (front ++ back)) := List.perm_middle
      refine .inr ⟨front ++ back, hmiddle, ?_⟩
      exact (hperm.symm.trans ((hmiddle.cons x).trans (.swap z x _))).cons_inv
  cases h with
  | drop z rest hbefore hafter =>
    rcases split hbefore with ⟨rfl, hrest⟩ | ⟨others, hxs, hrest⟩
    · exact .inl (hafter.trans hrest)
    · exact .inr (.inr ⟨others, .drop z others hxs (.refl _), hafter.trans hrest⟩)
  | replace z y rest hsmaller hbefore hafter =>
    rcases split hbefore with ⟨rfl, hrest⟩ | ⟨others, hxs, hrest⟩
    · exact .inr (.inl ⟨y, hsmaller, hafter.trans (hrest.cons y)⟩)
    · refine .inr (.inr ⟨y :: others, .replace z y others hsmaller hxs (.refl _), ?_⟩)
      exact (hafter.trans (hrest.cons y)).trans (.swap x y others)

theorem acc_cons {x : γ} (hx : Acc smaller x) :
    ∀ {xs : List γ}, Acc (Lessens smaller) xs → Acc (Lessens smaller) (x :: xs) := by
  induction hx with
  | intro x _ ihx =>
    intro xs hxs
    induction hxs with
    | intro xs hxs ihxs =>
      refine ⟨_, fun after h => ?_⟩
      rcases h.of_cons with hperm | ⟨y, hy, hperm⟩ | ⟨others, hothers, hperm⟩
      · exact acc_of_perm ⟨_, hxs⟩ hperm.symm
      · exact acc_of_perm (ihx y hy ⟨_, hxs⟩) hperm.symm
      · exact acc_of_perm (ihxs others hothers) hperm.symm

/-- A list of members that cannot become smaller for ever cannot be lessened for ever. -/
theorem wellFounded (hsmaller : WellFounded smaller) : WellFounded (Lessens smaller) := by
  refine ⟨fun xs => ?_⟩
  induction xs with
  | nil =>
    refine ⟨_, fun _ h => ?_⟩
    cases h with
    | drop x rest hbefore _ => exact absurd hbefore.length_eq (by simp)
    | replace x y rest _ hbefore _ => exact absurd hbefore.length_eq (by simp)
  | cons x xs ih => exact acc_cons (hsmaller.apply x) ih

end Lessens

/-- A program that goes on after some time. -/
structure Lane {Op : Type} (Answer : Op → Type) (α : Type) : Type where
  program : Program Answer α
  /-- The time until it goes on. -/
  due : Nat

/-- What a tally makes of a value: it goes on, or ends the run. -/
inductive Tallied (σ ρ : Type) where
  | more (state : σ)
  | stop (result : ρ)

namespace Pool

variable {Op : Type} {Answer : Op → Type} {α σ ρ : Type}

/-- The lane that is due first, the earliest of its kind, and the lanes without it. -/
def earliest (lane : Lane Answer α) : List (Lane Answer α) → Lane Answer α × List (Lane Answer α)
  | [] => (lane, [])
  | other :: rest =>
    let (first, others) := earliest other rest
    if first.due < lane.due then (first, lane :: others) else (lane, other :: rest)

theorem earliest_perm (lane : Lane Answer α) (lanes : List (Lane Answer α)) :
    ((earliest lane lanes).1 :: (earliest lane lanes).2).Perm (lane :: lanes) := by
  induction lanes generalizing lane with
  | nil => exact .refl _
  | cons other rest ih =>
    simp only [earliest]
    split
    · exact (List.Perm.swap _ _ _).trans ((ih other).cons lane)
    · exact .refl _

def after (nanos : Nat) (lanes : List (Lane Answer α)) : List (Lane Answer α) :=
  lanes.map fun lane => { lane with due := lane.due - nanos }

/-- The lane that goes on next, and the others at that time. -/
def next? : List (Lane Answer α) → Option (Lane Answer α × List (Lane Answer α))
  | [] => none
  | lane :: rest =>
    let (first, others) := earliest lane rest
    some (first, after first.due others)

theorem programs_perm_of_next? {lanes others : List (Lane Answer α)} {first : Lane Answer α}
    (h : next? lanes = some (first, others)) :
    (first.program :: others.map Lane.program).Perm (lanes.map Lane.program) := by
  cases lanes with
  | nil => simp [next?] at h
  | cons lane rest =>
    simp only [next?, Option.some.injEq, Prod.mk.injEq] at h
    obtain ⟨rfl, rfl⟩ := h
    have := (earliest_perm lane rest).map Lane.program
    simpa [after, Function.comp_def] using this

/-- A run of several programs between two steps. -/
structure State {Op : Type} (Answer : Op → Type) (α σ : Type) : Type where
  /-- The program that goes on now. -/
  current : Program Answer α
  /-- The lanes that wait, the one that has waited longest in front. -/
  lanes : List (Lane Answer α)
  /-- The programs that no lane has taken up yet. -/
  queue : List (Program Answer α)
  tally : σ

/-- The programs that are not over. -/
def State.unfinished (state : State Answer α σ) : List (Program Answer α) :=
  state.current :: (state.lanes.map Lane.program ++ state.queue)

instance : WellFoundedRelation (State Answer α σ) where
  rel := InvImage (Lessens Program.Child) State.unfinished
  wf := InvImage.wf _ (Lessens.wellFounded Program.wellFounded_child)

def lanesOf (programs : List (Program Answer α)) : List (Lane Answer α) :=
  programs.map fun program => ⟨program, 0⟩

/-- Lets time pass, if there is any to pass. -/
def pause (nanos : Nat) (program : Program Answer ρ) : Program Answer ρ :=
  if nanos = 0 then program else .wait nanos program

set_option linter.unusedVariables false in
/-- The rest of a run. -/
def runFrom (step : σ → α → Tallied σ ρ) (finish : σ → ρ) (state : State Answer α σ) :
    Program Answer ρ :=
  match hcurrent : state.current with
  | .ask op next => .ask op fun answer => runFrom step finish { state with current := next answer }
  | .wait nanos next =>
    match hnext : next? (state.lanes ++ [⟨next, nanos⟩]) with
    | none => .halt
    | some (first, others) =>
      .wait first.due (runFrom step finish { state with current := first.program, lanes := others })
  | .halt => .halt
  | .done value =>
    match step state.tally value with
    | .stop result => .done result
    | .more tally =>
      match hnext : next? (state.lanes ++ lanesOf (state.queue.take 1)) with
      | none => .done (finish tally)
      | some (first, others) =>
        pause first.due (runFrom step finish ⟨first.program, others, state.queue.drop 1, tally⟩)
termination_by state
decreasing_by
  · refine .replace _ _ (state.lanes.map Lane.program ++ state.queue) (.ask op next answer) ?_
      (.refl _)
    simp [State.unfinished, hcurrent]
  · refine .replace _ _ (state.lanes.map Lane.program ++ state.queue) (.wait nanos next) ?_ ?_
    · simp [State.unfinished, hcurrent]
    · have := (programs_perm_of_next? hnext).append_right state.queue
      refine this.trans ?_
      simp
  · refine .drop (.done value) (state.lanes.map Lane.program ++ state.queue) ?_ ?_
    · simp [State.unfinished, hcurrent]
    · have := (programs_perm_of_next? hnext).append_right (state.queue.drop 1)
      refine this.trans ?_
      simp [lanesOf, Function.comp_def, -List.drop_one]

end Pool

/-- Runs programs in a number of lanes, adding up their values. -/
def pool {Op : Type} {Answer : Op → Type} {α σ ρ : Type} (width : Nat) (step : σ → α → Tallied σ ρ)
    (finish : σ → ρ) (start : σ) (programs : List (Program Answer α)) : Program Answer ρ :=
  match programs with
  | [] => .done (finish start)
  | first :: rest =>
    Pool.runFrom step finish
      ⟨first, Pool.lanesOf (rest.take (width - 1)), rest.drop (width - 1), start⟩

end Courier
