import Courier.Proofs.Program.Crew

/-!
Schedules. A pool runs its programs by the clock, as one program; `pool_schedule` says that it is
one of the orders in which a shift may work on them, so whatever is true of every order is true of
the pool.
-/

namespace Courier

variable {Op : Type} {Answer : Op → Type} {κ α σ ρ ω : Type} {step : σ → α → Tallied σ ρ}
  {finish : σ → ρ}

/-- The program does what a shift may do: it asks what a member asks, and goes on with that member's
    program; meanwhile the shift may take steps without a question, and time may pass. -/
inductive Schedule (step : σ → α → Tallied σ ρ) (finish : σ → ρ) :
    Program Answer ρ → Shift κ Answer α σ → Prop
  | ask {op : Op} {next : Answer op → Program Answer ρ} {next' : Answer op → Program Answer α}
    (front back queue : Crew κ Answer α) (member : κ) {tally : σ}
    (hnext : ∀ answer,
      Schedule step finish (next answer) ⟨front ++ (member, next' answer) :: back, queue, tally⟩) :
    Schedule step finish (.ask op next) ⟨front ++ (member, .ask op next') :: back, queue, tally⟩
  | pass {nanos : Nat} {program : Program Answer ρ} {shift : Shift κ Answer α σ}
    (hnext : Schedule step finish program shift) : Schedule step finish (.wait nanos program) shift
  | silent {program : Program Answer ρ} {shift shift' : Shift κ Answer α σ}
    (hstep : shift.Step step finish none (.inl shift'))
    (hnext : Schedule step finish program shift') :
    Schedule step finish program shift
  | ended {shift : Shift κ Answer α σ} {result : ρ}
    (hstep : shift.Step step finish none (.inr result)) : Schedule step finish (.done result) shift
  | halt (front back queue : Crew κ Answer α) (member : κ) {tally : σ} :
    Schedule step finish .halt ⟨front ++ (member, .halt) :: back, queue, tally⟩

section RunFrom

variable (step finish) (lanes : List (Lane Answer α)) (queue : List (Program Answer α)) (tally : σ)

theorem runFrom_ask (op : Op) (next : Answer op → Program Answer α) :
    Pool.runFrom step finish ⟨.ask op next, lanes, queue, tally⟩ =
      .ask op fun answer => Pool.runFrom step finish ⟨next answer, lanes, queue, tally⟩ := by
  rw [Pool.runFrom.eq_def]

theorem runFrom_wait {nanos : Nat} {next : Program Answer α} {first : Lane Answer α}
    {others : List (Lane Answer α)}
    (h : Pool.next? (lanes ++ [⟨next, nanos⟩]) = some (first, others)) :
    Pool.runFrom step finish ⟨.wait nanos next, lanes, queue, tally⟩ =
      .wait first.due (Pool.runFrom step finish ⟨first.program, others, queue, tally⟩) := by
  rw [Pool.runFrom.eq_def]
  simp only
  split
  · rename_i hnone
    cases hnone.symm.trans h
  · rename_i hsome
    cases hsome.symm.trans h
    rfl

theorem runFrom_halt :
    Pool.runFrom step finish ⟨.halt, lanes, queue, tally⟩ = (.halt : Program Answer ρ) := by
  rw [Pool.runFrom.eq_def]

theorem runFrom_stop {value : α} {result : ρ} (h : step tally value = .stop result) :
    Pool.runFrom step finish ⟨.done value, lanes, queue, tally⟩ =
      (.done result : Program Answer ρ) := by
  rw [Pool.runFrom.eq_def]
  simp only [h]

theorem runFrom_finish {value : α} {tally' : σ} (h : step tally value = .more tally')
    (hnext : Pool.next? (lanes ++ Pool.lanesOf (queue.take 1)) = none) :
    Pool.runFrom step finish ⟨.done value, lanes, queue, tally⟩ = .done (finish tally') := by
  rw [Pool.runFrom.eq_def]
  simp only [h]
  split
  · rfl
  · rename_i hsome
    cases hsome.symm.trans hnext

theorem runFrom_more {value : α} {tally' : σ} (h : step tally value = .more tally')
    {first : Lane Answer α} {others : List (Lane Answer α)}
    (hnext : Pool.next? (lanes ++ Pool.lanesOf (queue.take 1)) = some (first, others)) :
    Pool.runFrom step finish ⟨.done value, lanes, queue, tally⟩ =
      Pool.pause first.due
        (Pool.runFrom step finish ⟨first.program, others, queue.drop 1, tally'⟩) := by
  rw [Pool.runFrom.eq_def]
  simp only [h]
  split
  · rename_i hnone
    cases hnone.symm.trans hnext
  · rename_i hsome
    cases hsome.symm.trans hnext
    rfl

end RunFrom

theorem Pool.eq_nil_of_next?_eq_none {lanes : List (Lane Answer α)} (h : Pool.next? lanes = none) :
    lanes = [] := by
  cases lanes with
  | nil => rfl
  | cons lane rest => cases h

theorem Schedule.pause {program : Program Answer ρ} {shift : Shift κ Answer α σ}
    (h : Schedule step finish program shift) (nanos : Nat) :
    Schedule step finish (Pool.pause nanos program) shift := by
  unfold Pool.pause
  split
  · exact h
  · exact .pass h

namespace Crew

theorem exists_of_perm {crew : Crew κ Answer α} {program : Program Answer α}
    {others : List (Program Answer α)} (h : (crew.map Prod.snd).Perm (program :: others)) :
    ∃ front member back, crew = front ++ (member, program) :: back ∧
      ((front ++ back).map Prod.snd).Perm others := by
  obtain ⟨entry, hentry, rfl⟩ := List.mem_map.1 (h.mem_iff.2 List.mem_cons_self)
  obtain ⟨front, back, rfl⟩ := List.append_of_mem hentry
  have hmiddle : (front ++ entry :: back).Perm (entry :: (front ++ back)) := List.perm_middle
  exact ⟨front, entry.1, back, rfl, ((hmiddle.map Prod.snd).symm.trans h).cons_inv⟩

theorem perm_of_split {front back : Crew κ Answer α} {others : List (Program Answer α)}
    (h : ((front ++ back).map Prod.snd).Perm others) (member : κ) (program : Program Answer α) :
    ((front ++ (member, program) :: back).map Prod.snd).Perm (program :: others) := by
  have hmiddle : (front ++ (member, program) :: back).Perm ((member, program) :: (front ++ back)) :=
    List.perm_middle
  exact (hmiddle.map Prod.snd).trans (h.cons program)

end Crew

/-- A run by the clock works on what the shift works on. -/
inductive Pool.State.Matches : Pool.State Answer α σ → Shift κ Answer α σ → Prop
  | mk (front back queue : Crew κ Answer α) (member : κ) (current : Program Answer α)
    (lanes : List (Lane Answer α)) (tally : σ)
    (hlanes : ((front ++ back).map Prod.snd).Perm (lanes.map Lane.program)) :
    Matches ⟨current, lanes, queue.map Prod.snd, tally⟩
      ⟨front ++ (member, current) :: back, queue, tally⟩

theorem Pool.State.Matches.of_perm {crew queue : Crew κ Answer α} {current : Program Answer α}
    {lanes : List (Lane Answer α)} {tally : σ}
    (h : (crew.map Prod.snd).Perm (current :: lanes.map Lane.program)) :
    Matches ⟨current, lanes, queue.map Prod.snd, tally⟩ ⟨crew, queue, tally⟩ := by
  obtain ⟨front, member, back, rfl, hlanes⟩ := Crew.exists_of_perm h
  exact .mk front back queue member current lanes tally hlanes

theorem runFrom_schedule (state : Pool.State Answer α σ) {shift : Shift κ Answer α σ}
    (h : state.Matches shift) : Schedule step finish (Pool.runFrom step finish state) shift := by
  induction state using Pool.runFrom.induct step generalizing shift with
  | case1 state op next hcurrent ih =>
    obtain ⟨front, back, queue, member, current, lanes, tally, hlanes⟩ := h
    obtain rfl : current = .ask op next := hcurrent
    rw [runFrom_ask]
    exact .ask front back queue member fun answer => ih answer (.mk _ _ _ _ _ _ _ hlanes)
  | case2 state nanos next hcurrent hnext =>
    simpa using Pool.eq_nil_of_next?_eq_none hnext
  | case3 state nanos next hcurrent first others hnext ih =>
    obtain ⟨front, back, queue, member, current, lanes, tally, hlanes⟩ := h
    obtain rfl : current = .wait nanos next := hcurrent
    rw [runFrom_wait step finish _ _ _ hnext]
    refine .silent (.move (.mk front back member (.wait nanos next))) (.pass (ih (.of_perm ?_)))
    have hnew : (next :: lanes.map Lane.program).Perm
        ((lanes ++ [Lane.mk next nanos]).map Lane.program) := by
      simpa using (List.perm_append_singleton next (lanes.map Lane.program)).symm
    exact (Crew.perm_of_split hlanes member next).trans
      (hnew.trans (Pool.programs_perm_of_next? hnext).symm)
  | case4 state hcurrent =>
    obtain ⟨front, back, queue, member, current, lanes, tally, hlanes⟩ := h
    obtain rfl : current = .halt := hcurrent
    rw [runFrom_halt]
    exact .halt front back queue member
  | case5 state value hcurrent result hstop =>
    obtain ⟨front, back, queue, member, current, lanes, tally, hlanes⟩ := h
    obtain rfl : current = .done value := hcurrent
    rw [runFrom_stop step finish _ _ _ hstop]
    exact .ended (.stop front back queue member value hstop)
  | case6 state value hcurrent tally' hmore hnext =>
    obtain ⟨front, back, queue, member, current, lanes, tally, hlanes⟩ := h
    obtain rfl : current = .done value := hcurrent
    rw [runFrom_finish step finish _ _ _ hmore hnext]
    refine .silent (.settle front back queue member value hmore) (.ended ?_)
    obtain ⟨rfl, hqueue⟩ := List.append_eq_nil_iff.1 (Pool.eq_nil_of_next?_eq_none hnext)
    obtain rfl : queue = [] := by simpa [Pool.lanesOf] using hqueue
    obtain ⟨rfl, rfl⟩ : front = [] ∧ back = [] := by simpa using hlanes
    exact .finish tally'
  | case7 state value hcurrent tally' hmore first others hnext ih =>
    obtain ⟨front, back, queue, member, current, lanes, tally, hlanes⟩ := h
    obtain rfl : current = .done value := hcurrent
    rw [runFrom_more step finish _ _ _ hmore hnext]
    refine .silent (.settle front back queue member value hmore) (Schedule.pause ?_ first.due)
    have htaken : (queue.take 1).map Prod.snd =
        (Pool.lanesOf ((queue.map Prod.snd).take 1)).map Lane.program := by
      simp [Pool.lanesOf, Function.comp_def, List.map_take]
    have hnew : ((front ++ back ++ queue.take 1).map Prod.snd).Perm
        ((lanes ++ Pool.lanesOf ((queue.map Prod.snd).take 1)).map Lane.program) := by
      rw [List.map_append, htaken, List.map_append (f := Lane.program)]
      exact hlanes.append_right _
    have hmatches : Pool.State.Matches ⟨first.program, others, (queue.map Prod.snd).drop 1, tally'⟩
        ⟨front ++ back ++ queue.take 1, queue.drop 1, tally'⟩ := by
      rw [← List.map_drop]
      exact .of_perm (hnew.trans (Pool.programs_perm_of_next? hnext).symm)
    exact ih hmatches

/-- The pool is one of the orders in which a shift may work on the programs. -/
theorem pool_schedule (step : σ → α → Tallied σ ρ) (finish : σ → ρ) (width : Nat) (start : σ)
    (programs : Crew κ Answer α) :
    Schedule step finish (pool width step finish start (programs.map Prod.snd))
      (Shift.start width start programs) := by
  cases programs with
  | nil =>
    simp only [List.map_nil, pool, Shift.start, List.take_nil, List.drop_nil]
    exact .ended (.finish start)
  | cons first rest =>
    have hwidth : max width 1 = width - 1 + 1 := by omega
    simp only [List.map_cons, pool, Shift.start, hwidth, List.take_succ_cons, List.drop_succ_cons,
      ← List.map_take, ← List.map_drop]
    refine runFrom_schedule _ (.of_perm ?_)
    simp [Pool.lanesOf, Function.comp_def]

end Courier
