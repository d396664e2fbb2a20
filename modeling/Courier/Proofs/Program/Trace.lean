import Courier.Proofs.Program.Rule

/-!
The way of a program. `Leads` says through which turns a program has come, whatever the answers in
them were, and what is left of it. A program made of parts takes the ways of its parts one after
another, and an operation that is tried again the ways of its attempts.
-/

namespace Courier.Program

variable {Op : Type} {Answer : Op → Type} {α β ε σ ω : Type}

/-- The program asks the questions of the turns in order, and comes with the answers in them to what
    is left. -/
inductive Leads : Program Answer α → List (Turn Answer) → Program Answer α → Prop
  | here (program : Program Answer α) : Leads program [] program
  | ask {op : Op} {next : Answer op → Program Answer α} {turns : List (Turn Answer)}
    {rest : Program Answer α} (answer : Answer op) (hnext : Leads (next answer) turns rest) :
    Leads (.ask op next) (⟨op, answer⟩ :: turns) rest
  | wait {nanos : Nat} {next : Program Answer α} {turns : List (Turn Answer)}
    {rest : Program Answer α} (hnext : Leads next turns rest) : Leads (.wait nanos next) turns rest

/-- The ways of the attempts at an operation so far: those that have failed, each time in a way
    worth another attempt, and the last one. -/
structure Attempts (again : ε → Bool) (operation : Program Answer (Except ε α)) (left : Nat)
    (failed : List (List (Turn Answer))) (last : List (Turn Answer))
    (rest : Program Answer (Except ε α)) : Prop where
  length_le : failed.length ≤ left
  again : ∀ turns ∈ failed, ∃ e, again e ∧ Leads operation turns (.done (.error e))
  last : Leads operation last rest

/-- Without a failed attempt the operation itself is under way. -/
theorem Attempts.first {again : ε → Bool} {operation rest : Program Answer (Except ε α)} {left : Nat}
    {turns : List (Turn Answer)} (h : Leads operation turns rest) :
    Attempts again operation left [] turns rest :=
  ⟨Nat.zero_le left, fun _ hturns => absurd hturns List.not_mem_nil, h⟩

/-- The turns of a run. -/
def turns (answer : (op : Op) → ω → Answer op × ω) (pass : Nat → ω → ω) :
    Program Answer α → ω → List (Turn Answer)
  | done _, _ => []
  | ask op next, state =>
    let (given, state) := answer op state
    ⟨op, given⟩ :: turns answer pass (next given) state
  | wait nanos next, state => turns answer pass next (pass nanos state)
  | halt, _ => []

namespace Leads

theorem eq_of_done {value : α} {turns : List (Turn Answer)} {rest : Program Answer α}
    (h : Leads (.done value) turns rest) : turns = [] ∧ rest = .done value := by
  cases h
  exact ⟨rfl, rfl⟩

theorem of_question {op : Op} {turns : List (Turn Answer)} {rest : Program Answer (Answer op)}
    (h : Leads (question op) turns rest) :
    (turns = [] ∧ rest = question op) ∨ ∃ answer, turns = [⟨op, answer⟩] ∧ rest = .done answer := by
  cases h with
  | here => exact .inl ⟨rfl, rfl⟩
  | ask answer hnext =>
    obtain ⟨rfl, rfl⟩ := hnext.eq_of_done
    exact .inr ⟨answer, rfl, rfl⟩

theorem of_answer (op : Op) (answer : Answer op) :
    Leads (question op) [⟨op, answer⟩] (.done answer) := .ask answer (.here _)

/-- One more step. -/
theorem step {program middle rest : Program Answer α} {turns : List (Turn Answer)}
    {turn : Option (Turn Answer)} (h : Leads program turns middle) (hstep : middle.Step turn rest) :
    Leads program (turns ++ turn.toList) rest := by
  induction h with
  | here =>
    cases hstep with
    | ask op next answer => exact .ask answer (.here _)
    | wait nanos next => exact .wait (.here _)
  | ask answer _ ih => exact .ask answer (ih hstep)
  | wait _ ih => exact .wait (ih hstep)

/-- A run has come through its turns, and to its end if it has a value. -/
theorem of_run (answer : (op : Op) → ω → Answer op × ω) (pass : Nat → ω → ω)
    (program : Program Answer α) (state : ω) :
    ∃ rest, Leads program (program.turns answer pass state) rest ∧
      ∀ value, (program.run answer pass state).1 = some value → rest = .done value := by
  induction program generalizing state with
  | done value => exact ⟨_, .here _, fun _ h => congrArg Program.done (Option.some.inj h)⟩
  | ask op next ih =>
    obtain ⟨rest, hrest, hvalue⟩ := ih (answer op state).1 (answer op state).2
    exact ⟨rest, .ask _ hrest, hvalue⟩
  | wait nanos next ih =>
    obtain ⟨rest, hrest, hvalue⟩ := ih (pass nanos state)
    exact ⟨rest, .wait hrest, hvalue⟩
  | halt => exact ⟨.halt, .here _, fun _ h => nomatch h⟩

/-- A program with a second part is still in the first one, or has come through it. -/
theorem of_bind {program : Program Answer β} {f : β → Program Answer α}
    {turns : List (Turn Answer)} {rest : Program Answer α}
    (h : Leads (program.bind f) turns rest) :
    (∃ rest', Leads program turns rest' ∧ ∀ value, rest ≠ .done value) ∨
    ∃ front back value, turns = front ++ back ∧ Leads program front (.done value) ∧
      Leads (f value) back rest := by
  induction program generalizing turns with
  | done value => exact .inr ⟨[], turns, value, rfl, .here _, h⟩
  | ask op next ih =>
    cases h with
    | here => exact .inl ⟨_, .here _, nofun⟩
    | ask answer hnext =>
      obtain ⟨rest', hrest, hopen⟩ | ⟨front, back, value, rfl, hfront, hback⟩ := ih answer hnext
      · exact .inl ⟨rest', .ask answer hrest, hopen⟩
      · exact .inr ⟨_, back, value, rfl, .ask answer hfront, hback⟩
  | wait nanos next ih =>
    cases h with
    | here => exact .inl ⟨_, .here _, nofun⟩
    | wait hnext =>
      obtain ⟨rest', hrest, hopen⟩ | ⟨front, back, value, rfl, hfront, hback⟩ := ih hnext
      · exact .inl ⟨rest', .wait hrest, hopen⟩
      · exact .inr ⟨front, back, value, rfl, .wait hfront, hback⟩
  | halt =>
    cases h
    exact .inl ⟨.halt, .here _, nofun⟩

theorem bind {program : Program Answer β} {f : β → Program Answer α}
    {front back : List (Turn Answer)} {value : β} {rest : Program Answer α}
    (hfront : Leads program front (.done value)) (hback : Leads (f value) back rest) :
    Leads (program.bind f) (front ++ back) rest := by
  generalize hend : Program.done value = middle at hfront
  induction hfront with
  | here =>
    subst hend
    exact hback
  | ask answer _ ih => exact .ask answer (ih hend)
  | wait _ ih => exact .wait (ih hend)

section Fallible

/-- The second part starts after a value; a failure ends the whole. -/
theorem of_andThen {first : ExceptT ε (Program Answer) β} {f : β → ExceptT ε (Program Answer) α}
    {turns : List (Turn Answer)} {rest : Program Answer (Except ε α)}
    (h : Leads (first >>= f).run turns rest) :
    (∃ rest', Leads first.run turns rest' ∧
      ∀ result, rest = .done result → ∃ e, rest' = .done (.error e) ∧ result = .error e) ∨
    ∃ front back value, turns = front ++ back ∧ Leads first.run front (.done (.ok value)) ∧
      Leads (f value).run back rest := by
  obtain ⟨rest', hrest, hopen⟩ | ⟨front, back, result, rfl, hfront, hback⟩ :=
    of_bind (f := ExceptT.bindCont f) h
  · exact .inl ⟨rest', hrest, fun result hdone => absurd hdone (hopen result)⟩
  · cases result with
    | ok value => exact .inr ⟨front, back, value, rfl, hfront, hback⟩
    | error e =>
      obtain ⟨rfl, rfl⟩ := hback.eq_of_done
      rw [List.append_nil]
      refine .inl ⟨_, hfront, ?_⟩
      rintro _ ⟨⟩
      exact ⟨e, rfl, rfl⟩

/-- What is known without a question either is a failure or goes on to the second part. -/
theorem of_known {result : Except ε β} {f : β → ExceptT ε (Program Answer) α}
    {turns : List (Turn Answer)} {rest : Program Answer (Except ε α)}
    (h : Leads (ExceptT.mk (pure result) >>= f).run turns rest) :
    (turns = [] ∧ ∃ e, result = .error e) ∨
      ∃ value, result = .ok value ∧ Leads (f value).run turns rest := by
  cases result with
  | error e =>
    have hdone : Leads (done (.error e)) turns rest := h
    exact .inl ⟨hdone.eq_of_done.1, e, rfl⟩
  | ok value => exact .inr ⟨value, rfl, h⟩

/-- The handler starts after a failure; a value ends the whole. -/
theorem of_orElse {first : ExceptT ε (Program Answer) α}
    {handle : ε → ExceptT ε (Program Answer) α} {turns : List (Turn Answer)}
    {rest : Program Answer (Except ε α)} (h : Leads (tryCatch first handle).run turns rest) :
    (∃ rest', Leads first.run turns rest' ∧
      ∀ result, rest = .done result → ∃ value, rest' = .done (.ok value) ∧ result = .ok value) ∨
    ∃ front back e, turns = front ++ back ∧ Leads first.run front (.done (.error e)) ∧
      Leads (handle e).run back rest := by
  obtain ⟨rest', hrest, hopen⟩ | ⟨front, back, result, rfl, hfront, hback⟩ := of_bind h
  · exact .inl ⟨rest', hrest, fun result hdone => absurd hdone (hopen result)⟩
  · cases result with
    | ok value =>
      obtain ⟨rfl, rfl⟩ := hback.eq_of_done
      rw [List.append_nil]
      refine .inl ⟨_, hfront, ?_⟩
      rintro _ ⟨⟩
      exact ⟨value, rfl, rfl⟩
    | error e => exact .inr ⟨front, back, e, rfl, hfront, hback⟩

/-- The way of an operation that is tried again is made of its attempts. -/
theorem of_retryFrom {delay : Nat → Option Nat} {again : ε → Bool}
    {operation : Program Answer (Except ε α)} {left attempt : Nat} {turns : List (Turn Answer)}
    {rest : Program Answer (Except ε α)}
    (h : Leads (retryFrom delay again operation left attempt) turns rest) :
    ∃ failed last rest', turns = failed.flatten ++ last ∧
      Attempts again operation left failed last rest' ∧
      ∀ result, rest = .done result → rest' = .done result := by
  induction left generalizing attempt turns with
  | zero => exact ⟨[], turns, rest, rfl, .first h, fun _ => id⟩
  | succ left ih =>
    obtain ⟨rest', hrest, hopen⟩ | ⟨front, back, result, rfl, hfront, hback⟩ := of_bind h
    · exact ⟨[], turns, rest', rfl, .first hrest, fun result hdone => absurd hdone (hopen result)⟩
    -- If no attempt follows, the one that is over is the last one.
    have hlast (hnil : back = []) (hresult : ∀ value, rest = .done value → result = value) :
        ∃ failed last rest', front ++ back = failed.flatten ++ last ∧
          Attempts again operation (left + 1) failed last rest' ∧
          ∀ result, rest = .done result → rest' = .done result :=
      ⟨[], front, _, by rw [hnil, List.append_nil]; rfl, .first hfront,
        fun value hdone => congrArg Program.done (hresult value hdone)⟩
    cases result with
    | ok value =>
      obtain ⟨hnil, rfl⟩ := hback.eq_of_done
      exact hlast hnil fun _ => Program.done.inj
    | error e =>
      cases hagain : again e with
      | false =>
        simp only [hagain] at hback
        obtain ⟨hnil, rfl⟩ := hback.eq_of_done
        exact hlast hnil fun _ => Program.done.inj
      | true =>
        simp only [hagain, if_true] at hback
        cases hdelay : delay attempt with
        | none =>
          rw [hdelay] at hback
          cases hback
          exact hlast rfl fun _ hdone => by cases hdone
        | some nanos =>
          rw [hdelay] at hback
          cases hback with
          | here => exact hlast rfl fun _ hdone => by cases hdone
          | wait hnext =>
            obtain ⟨failed, last, rest', rfl, hattempts, hresult⟩ := ih hnext
            refine ⟨front :: failed, last, rest', by simp,
              ⟨Nat.succ_le_succ hattempts.length_le, ?_, hattempts.last⟩, hresult⟩
            rintro _ (_ | ⟨_, hmem⟩)
            · exact ⟨e, hagain, hfront⟩
            · exact hattempts.again _ hmem

/-- Attempts that fail and are worth another one, as long as some are left, and then one that gives
    a value. -/
theorem retryFrom_ok {delay : Nat → Option Nat} {again : ε → Bool}
    {operation : Program Answer (Except ε α)} {failed : List (List (Turn Answer))}
    {last : List (Turn Answer)} {value : α} {left attempt : Nat}
    (hagain : ∀ turns ∈ failed, ∃ e, again e ∧ Leads operation turns (.done (.error e)))
    (hlast : Leads operation last (.done (.ok value))) (hleft : failed.length ≤ left)
    (hdelays : ∀ n, attempt ≤ n → n < attempt + left → (delay n).isSome) :
    Leads (retryFrom delay again operation left attempt) (failed.flatten ++ last)
      (.done (.ok value)) := by
  induction failed generalizing left attempt with
  | nil =>
    cases left with
    | zero => exact hlast
    | succ left =>
      rw [List.flatten_nil, List.nil_append, ← List.append_nil last]
      exact hlast.bind (.here _)
  | cons front failed ih =>
    obtain ⟨left, rfl⟩ := Nat.exists_eq_succ_of_ne_zero (Nat.ne_of_gt
      (Nat.lt_of_lt_of_le (Nat.zero_lt_succ _) hleft))
    obtain ⟨⟨e, hworth, hfront⟩, hrest⟩ := List.forall_mem_cons.1 hagain
    obtain ⟨nanos, hnanos⟩ := Option.isSome_iff_exists.1 (hdelays attempt (by omega) (by omega))
    rw [List.flatten_cons, List.append_assoc]
    refine hfront.bind ?_
    simp only [hworth, if_true, hnanos]
    apply wait
    apply ih hrest (Nat.le_of_succ_le_succ hleft)
    intro n hfirst hn
    exact hdelays n (by omega) (by omega)

end Fallible

end Leads

/-- Where the way of a program has come to, the program follows the rule from the place to which the
    turns lead. -/
theorem Follows.leads {rule : Rule Answer σ} {ends : σ → α → Prop}
    {program rest : Program Answer α} {turns : List (Turn Answer)} {place : σ}
    (h : Follows rule ends program place) (hleads : Leads program turns rest) :
    Follows rule ends rest (turns.foldl rule.after place) := by
  induction hleads generalizing place with
  | here => exact h
  | ask answer _ ih => exact ih (h.step_ask (.ask _ _ answer)).2
  | wait _ ih => exact ih (h.step_wait (.wait _ _))

theorem Makes.leads {allowed : Op → Prop} {program rest : Program Answer α}
    {turns : List (Turn Answer)} (h : Makes allowed program) (hleads : Leads program turns rest) :
    ∀ turn ∈ turns, allowed turn.op := by
  induction hleads with
  | here => exact nofun
  | ask answer _ ih =>
    obtain ⟨hallowed, hrest⟩ := h.step_ask (.ask _ _ answer)
    rintro _ (_ | ⟨_, hmem⟩)
    · exact hallowed
    · exact ih hrest _ hmem
  | wait _ ih => exact ih (h.step_wait (.wait _ _))

section Calls

variable {call : Call} {turns : List (Turn Call.Answer)}

/-- The attempts at a call that have failed, one turn each. -/
theorem exists_failures {failed : List (List (Turn Call.Answer))}
    (h : ∀ turns ∈ failed, ∃ failure, Leads call.errand.run turns (.done (.error failure))) :
    ∃ failures : List Failure, failures.length = failed.length ∧
      failed.flatten = failures.map fun failure => ⟨call, .error failure⟩ := by
  induction failed with
  | nil => exact ⟨[], rfl, rfl⟩
  | cons turns failed ih =>
    obtain ⟨⟨failure, hleads⟩, hrest⟩ := List.forall_mem_cons.1 h
    obtain ⟨-, ⟨⟩⟩ | ⟨answer, rfl, hanswer⟩ := Leads.of_question hleads
    obtain rfl := done.inj hanswer
    obtain ⟨failures, hlength, hflatten⟩ := ih hrest
    refine ⟨failure :: failures, congrArg Nat.succ hlength, ?_⟩
    rw [List.flatten_cons, hflatten, List.map_cons]
    rfl

/-- A call that is tried again makes no other calls, and not more often than its policy says. It
    ends with the last answer, and the answers before are failures. -/
theorem Leads.of_retry {policy : RetryPolicy}
    {rest : Program Call.Answer (Except Failure call.Value)}
    (h : Leads (retry policy call.errand).run turns rest) :
    (∀ turn ∈ turns, turn.op = call) ∧ turns.length ≤ policy.attempts ∧
      ∀ result, rest = .done result → ∃ failures : List Failure,
        turns = failures.map (fun failure => ⟨call, .error failure⟩) ++ [⟨call, result⟩] := by
  have hmakes : Makes (· = call) (retry policy call.errand).run :=
    .retryIf (Call.makes_errand rfl)
  refine ⟨hmakes.leads h, ?_⟩
  obtain ⟨failed, last, rest', rfl, hattempts, hresult⟩ := Leads.of_retryFrom h
  obtain ⟨failures, hlength, hfailed⟩ := exists_failures fun turns hturns =>
    let ⟨failure, _, hleads⟩ := hattempts.again turns hturns
    ⟨failure, hleads⟩
  have hleft := hattempts.length_le
  have hpositive : 1 ≤ policy.attempts := Nat.le_max_right _ _
  rw [hfailed, List.length_append, List.length_map]
  obtain ⟨rfl, rfl⟩ | ⟨answer, rfl, rfl⟩ := Leads.of_question hattempts.last
  · refine ⟨by rw [List.length_nil]; omega, fun result hdone => ?_⟩
    cases hresult _ hdone
  · refine ⟨by rw [List.length_singleton]; omega, fun result hdone => ?_⟩
    obtain rfl := done.inj (hresult _ hdone)
    exact ⟨failures, rfl⟩

end Calls

end Courier.Program
