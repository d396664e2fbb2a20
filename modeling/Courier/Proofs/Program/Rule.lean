import Courier.Call

/-!
Rules that programs follow. A rule is an automaton that reads a program's questions with their
answers: at every place it says which questions may come next, and every answer leads it to another
place. A program follows a rule if, whatever the answers are, all its questions are allowed where
they are asked and every value it ends with fits the place at which it ends.
-/

namespace Courier

/-- A question that has been asked, with the answer to it. -/
structure Turn {Op : Type} (Answer : Op → Type) : Type where
  op : Op
  answer : Answer op

/-- An automaton that reads questions and answers. -/
structure Rule {Op : Type} (Answer : Op → Type) (σ : Type) : Type where
  /-- The questions that may be asked at a place. -/
  allows : σ → Op → Prop
  /-- The place to which a question and its answer lead. -/
  after : σ → Turn Answer → σ

/-- The rule that allows some questions, at any time and in any order. -/
def Rule.only {Op : Type} {Answer : Op → Type} (allowed : Op → Prop) : Rule Answer Unit where
  allows _ op := allowed op
  after _ _ := ()

namespace Program

variable {Op : Type} {Answer : Op → Type} {σ α β ε ω : Type}

/-- One step of a program: it gets an answer, or it has waited. -/
inductive Step : Program Answer α → Option (Turn Answer) → Program Answer α → Prop
  | ask (op : Op) (next : Answer op → Program Answer α) (answer : Answer op) :
    Step (.ask op next) (some ⟨op, answer⟩) (next answer)
  | wait (nanos : Nat) (next : Program Answer α) : Step (.wait nanos next) none next

/-- The program follows the rule from a place on, and `ends` holds wherever it ends. -/
inductive Follows (rule : Rule Answer σ) (ends : σ → α → Prop) : Program Answer α → σ → Prop
  | done {value : α} {place : σ} (hends : ends place value) : Follows rule ends (.done value) place
  | ask {op : Op} {next : Answer op → Program Answer α} {place : σ}
    (hallowed : rule.allows place op)
    (hnext : ∀ answer, Follows rule ends (next answer) (rule.after place ⟨op, answer⟩)) :
    Follows rule ends (.ask op next) place
  | wait {nanos : Nat} {next : Program Answer α} {place : σ}
    (hnext : Follows rule ends next place) :
    Follows rule ends (.wait nanos next) place
  | halt {place : σ} : Follows rule ends .halt place

/-- The program ends with a value, whatever the answers are. -/
inductive Completes : Program Answer α → Prop
  | done {value : α} : Completes (.done value)
  | ask {op : Op} {next : Answer op → Program Answer α}
    (hnext : ∀ answer, Completes (next answer)) :
    Completes (.ask op next)
  | wait {nanos : Nat} {next : Program Answer α} (hnext : Completes next) :
    Completes (.wait nanos next)

/-- A program goes on with the value of its first part, and halts if that halts. -/
theorem run_bind (answer : (op : Op) → ω → Answer op × ω) (pass : Nat → ω → ω)
    (program : Program Answer α) (f : α → Program Answer β) (state : ω) :
    (program.bind f).run answer pass state =
      match program.run answer pass state with
      | (some value, after) => (f value).run answer pass after
      | (none, after) => (none, after) := by
  induction program generalizing state with
  | done value => rfl
  | ask op next ih => exact ih _ _
  | wait nanos next ih => exact ih _
  | halt => rfl

/-- The first failure ends the whole. -/
theorem run_andThen (answer : (op : Op) → ω → Answer op × ω) (pass : Nat → ω → ω)
    (first : ExceptT ε (Program Answer) β) (f : β → ExceptT ε (Program Answer) α) (state : ω) :
    (first >>= f).run.run answer pass state =
      match first.run.run answer pass state with
      | (some (.ok value), after) => (f value).run.run answer pass after
      | (some (.error e), after) => (some (.error e), after)
      | (none, after) => (none, after) := by
  refine (run_bind answer pass first.run (ExceptT.bindCont f) state).trans ?_
  rcases first.run.run answer pass state with ⟨_ | _ | _, after⟩ <;> rfl

/-- A second part that asks nothing leaves the state as it is. -/
theorem snd_run_bind (answer : (op : Op) → ω → Answer op × ω) (pass : Nat → ω → ω)
    (program : Program Answer α) {f : α → Program Answer β}
    (hf : ∀ value, ∃ result, f value = .done result) (state : ω) :
    ((program.bind f).run answer pass state).2 = (program.run answer pass state).2 := by
  rw [run_bind]
  split
  · next value after hrun =>
    obtain ⟨result, hresult⟩ := hf value
    rw [hresult, hrun]
    rfl
  · next after hrun => rw [hrun]

theorem run_bind_of_eq {answer : (op : Op) → ω → Answer op × ω} {pass : Nat → ω → ω}
    {program : Program Answer α} {f : α → Program Answer β} {state after : ω} {value : α}
    (h : program.run answer pass state = (some value, after)) :
    (program.bind f).run answer pass state = (f value).run answer pass after := by
  rw [run_bind, h]

/-- A program with a second part has a value only if its first part has, and then ends as the second
    part does from there on. -/
theorem exists_run_of_bind {answer : (op : Op) → ω → Answer op × ω} {pass : Nat → ω → ω}
    {program : Program Answer α} {f : α → Program Answer β} {state : ω} {result : β}
    (h : ((program.bind f).run answer pass state).1 = some result) :
    ∃ value, (program.run answer pass state).1 = some value ∧
      (program.bind f).run answer pass state =
        (f value).run answer pass (program.run answer pass state).2 := by
  have hrun := run_bind answer pass program f state
  split at hrun
  · next value after hfirst => exact ⟨value, by rw [hfirst], by rw [hrun, hfirst]⟩
  · rw [hrun] at h
    cases h

namespace Follows

variable {rule : Rule Answer σ} {ends : σ → α → Prop}

theorem question {op : Op} {ends : σ → Answer op → Prop} {place : σ}
    (hallowed : rule.allows place op)
    (hends : ∀ answer, ends (rule.after place ⟨op, answer⟩) answer) :
    Follows rule ends (question op) place :=
  .ask hallowed fun answer => .done (hends answer)

theorem mono {ends' : σ → α → Prop} {program : Program Answer α} {place : σ}
    (h : Follows rule ends program place)
    (hends : ∀ place value, ends place value → ends' place value) :
    Follows rule ends' program place := by
  induction h with
  | done hvalue => exact .done (hends _ _ hvalue)
  | ask hallowed _ ih => exact .ask hallowed ih
  | wait _ ih => exact .wait ih
  | halt => exact .halt

/-- A rule that leads to the same places and allows at least as much is followed as well. -/
theorem weaken {rule' : Rule Answer σ} {program : Program Answer α} {place : σ}
    (h : Follows rule ends program place)
    (hallows : ∀ place op, rule.allows place op → rule'.allows place op)
    (hafter : ∀ place turn, rule'.after place turn = rule.after place turn) :
    Follows rule' ends program place := by
  induction h with
  | done hvalue => exact .done hvalue
  | ask hallowed _ ih => exact .ask (hallows _ _ hallowed) fun answer => hafter _ _ ▸ ih answer
  | wait _ ih => exact .wait ih
  | halt => exact .halt

theorem bind {middle : σ → β → Prop} {program : Program Answer β} {f : β → Program Answer α}
    {place : σ} (h : Follows rule middle program place)
    (hf : ∀ place value, middle place value → Follows rule ends (f value) place) :
    Follows rule ends (program.bind f) place := by
  induction h with
  | done hvalue => exact hf _ _ hvalue
  | ask hallowed _ ih => exact .ask hallowed ih
  | wait _ ih => exact .wait ih
  | halt => exact .halt

/-- A step with an answer is allowed, and the rest follows the rule from the next place on. -/
theorem step_ask {program rest : Program Answer α} {turn : Turn Answer} {place : σ}
    (h : Follows rule ends program place) (hstep : Step program (some turn) rest) :
    rule.allows place turn.op ∧ Follows rule ends rest (rule.after place turn) := by
  cases hstep with
  | ask op next answer =>
    cases h with
    | ask hallowed hnext => exact ⟨hallowed, hnext answer⟩

theorem step_wait {program rest : Program Answer α} {place : σ}
    (h : Follows rule ends program place) (hstep : Step program none rest) :
    Follows rule ends rest place := by
  cases hstep with
  | wait nanos next =>
    cases h with
    | wait hnext => exact hnext

/-- What holds of place and state at the start, and is kept by every allowed question and by time,
    holds at the end of a run. -/
theorem run {answer : (op : Op) → ω → Answer op × ω} {pass : Nat → ω → ω} {holds : σ → ω → Prop}
    {program : Program Answer α} {place : σ} {state : ω}
    (h : Follows rule ends program place) (hstart : holds place state)
    (hask : ∀ place state op, rule.allows place op → holds place state →
      holds (rule.after place ⟨op, (answer op state).1⟩) (answer op state).2)
    (hpass : ∀ place state nanos, holds place state → holds place (pass nanos state))
    {value : α} (hrun : (program.run answer pass state).1 = some value) :
    ∃ place, ends place value ∧ holds place (program.run answer pass state).2 := by
  induction h generalizing state with
  | @done value place hends =>
    cases hrun
    exact ⟨place, hends, hstart⟩
  | ask hallowed _ ih => exact ih _ (hask _ _ _ hallowed hstart) hrun
  | wait _ ih => exact ih (hpass _ _ _ hstart) hrun
  | halt => cases hrun

end Follows

namespace Follows

section Fallible

variable {rule : Rule Answer σ} {ends : σ → Except ε α → Prop}

/-- A failure ends the whole; a value goes on to the second part. -/
theorem andThen (middle : σ → Except ε β → Prop) {first : ExceptT ε (Program Answer) β}
    {f : β → ExceptT ε (Program Answer) α} {place : σ}
    (h : Follows rule middle first.run place)
    (hok : ∀ place value, middle place (.ok value) → Follows rule ends (f value).run place)
    (herror : ∀ place e, middle place (.error e) → ends place (.error e)) :
    Follows rule ends (first >>= f).run place := by
  refine Follows.bind (f := ExceptT.bindCont f) h fun place result hresult => ?_
  cases result with
  | ok value => exact hok place value hresult
  | error e => exact .done (herror place e hresult)

theorem orElse (middle : σ → Except ε α → Prop) {first : ExceptT ε (Program Answer) α}
    {handle : ε → ExceptT ε (Program Answer) α} {place : σ}
    (h : Follows rule middle first.run place)
    (hok : ∀ place value, middle place (.ok value) → ends place (.ok value))
    (herror : ∀ place e, middle place (.error e) → Follows rule ends (handle e).run place) :
    Follows rule ends (tryCatch first handle).run place := by
  refine Follows.bind h fun place result hresult => ?_
  cases result with
  | ok value => exact .done (hok place value hresult)
  | error e => exact herror place e hresult

/-- Where a failed attempt leads: to the next one if the failure is worth it and attempts are left,
    else to the end. -/
def AfterAttempt (again : ε → Bool) (last : Nat) (starts : Nat → σ → Prop)
    (ends : σ → Except ε α → Prop) (attempt : Nat) (place : σ) : Except ε α → Prop
  | .ok value => ends place (.ok value)
  | .error e =>
    if again e ∧ attempt < last then starts (attempt + 1) place else ends place (.error e)

theorem afterAttempt_of_lt {again : ε → Bool} {last attempt : Nat} {starts : Nat → σ → Prop}
    {place : σ} {e : ε} (hagain : again e) (hleft : attempt < last)
    (h : starts (attempt + 1) place) :
    AfterAttempt again last starts ends attempt place (.error e) := by
  rw [AfterAttempt, if_pos ⟨hagain, hleft⟩]
  exact h

theorem afterAttempt_of_le {again : ε → Bool} {last attempt : Nat} {starts : Nat → σ → Prop}
    {place : σ} {e : ε} (hlast : last ≤ attempt) (h : ends place (.error e)) :
    AfterAttempt again last starts ends attempt place (.error e) := by
  rw [AfterAttempt, if_neg fun hagain => Nat.not_lt.2 hlast hagain.2]
  exact h

theorem retryFrom {delay : Nat → Option Nat} {again : ε → Bool}
    {operation : Program Answer (Except ε α)} {starts : Nat → σ → Prop} {last : Nat}
    (h : ∀ attempt place, starts attempt place →
      Follows rule (AfterAttempt again last starts ends attempt) operation place)
    (left attempt : Nat) (hlast : attempt + left = last) {place : σ}
    (hplace : starts attempt place) :
    Follows rule ends (retryFrom delay again operation left attempt) place := by
  induction left generalizing attempt place with
  | zero =>
    refine (h attempt place hplace).mono fun place result hresult => ?_
    cases result with
    | ok value => exact hresult
    | error e =>
      rw [AfterAttempt, if_neg (by omega)] at hresult
      exact hresult
  | succ left ih =>
    refine Follows.bind (h attempt place hplace) fun place result hresult => ?_
    cases result with
    | ok value => exact .done hresult
    | error e =>
      by_cases hagain : again e
      · rw [AfterAttempt, if_pos ⟨hagain, by omega⟩] at hresult
        simp only [hagain, if_true]
        cases delay attempt with
        | none => exact .halt
        | some nanos => exact .wait (ih (attempt + 1) (by omega) hresult)
      · rw [AfterAttempt, if_neg fun h => hagain h.1] at hresult
        simp only [hagain]
        exact .done hresult

/-- A repeated operation follows a rule if each of its attempts, counted from one, leads from where
    it starts to where the next one does, or to the end of the whole. -/
theorem retryIf_counted (starts : Nat → σ → Prop) {policy : RetryPolicy} {again : ε → Bool}
    {operation : ExceptT ε (Program Answer) α} {place : σ} (hplace : starts 1 place)
    (h : ∀ attempt place, starts attempt place →
      Follows rule (AfterAttempt again policy.attempts starts ends attempt) operation.run place) :
    Follows rule ends (retryIf policy again operation).run place := by
  have hattempts : 1 ≤ policy.attempts := Nat.le_max_right _ _
  exact Follows.retryFrom h (policy.attempts - 1) 1 (by omega) hplace

/-- A repeated operation follows a rule if every attempt does, and leads back to where attempts
    start whenever another one may follow. -/
theorem retryIf (starts : σ → Prop) {policy : RetryPolicy} {again : ε → Bool}
    {operation : ExceptT ε (Program Answer) α} {place : σ} (hplace : starts place)
    (h : ∀ place, starts place → Follows rule
      (fun place result => ends place result ∧ ∀ e, result = .error e → again e → starts place)
      operation.run place) :
    Follows rule ends (retryIf policy again operation).run place := by
  refine Follows.retryIf_counted (fun _ => starts) hplace fun attempt place hplace => ?_
  refine (h place hplace).mono fun place result hresult => ?_
  cases result with
  | ok value => exact hresult.1
  | error e =>
    rw [AfterAttempt]
    split
    · next hagain => exact hresult.2 e rfl hagain.1
    · exact hresult.1

end Fallible

end Follows

/-- The program asks no other questions than the given ones. -/
def Makes (allowed : Op → Prop) (program : Program Answer α) : Prop :=
  Follows (Rule.only allowed) (fun _ _ => True) program ()

namespace Makes

variable {allowed : Op → Prop}

theorem done (value : α) : Makes allowed (.done value : Program Answer α) := Follows.done trivial

theorem mono {allowed' : Op → Prop} {program : Program Answer α} (h : Makes allowed program)
    (hallowed : ∀ op, allowed op → allowed' op) : Makes allowed' program :=
  Follows.weaken h (fun _ => hallowed) fun _ _ => rfl

theorem andThen {first : ExceptT ε (Program Answer) β} {f : β → ExceptT ε (Program Answer) α}
    (h : Makes allowed first.run) (hf : ∀ value, Makes allowed (f value).run) :
    Makes allowed (first >>= f).run :=
  Follows.andThen _ h (fun _ value _ => hf value) fun _ _ _ => trivial

theorem orElse {first : ExceptT ε (Program Answer) α} {handle : ε → ExceptT ε (Program Answer) α}
    (h : Makes allowed first.run) (hhandle : ∀ e, Makes allowed (handle e).run) :
    Makes allowed (tryCatch first handle).run :=
  Follows.orElse _ h (fun _ _ _ => trivial) fun _ e _ => hhandle e

theorem retryIf {policy : RetryPolicy} {again : ε → Bool}
    {operation : ExceptT ε (Program Answer) α} (h : Makes allowed operation.run) :
    Makes allowed (retryIf policy again operation).run :=
  Follows.retryIf (fun _ => True) trivial fun _ _ =>
    Follows.mono h fun _ _ _ => ⟨trivial, fun _ _ _ => trivial⟩

/-- A program that follows a rule asks no other questions than the rule allows anywhere. -/
theorem of_follows {rule : Rule Answer σ} {ends : σ → α → Prop} {program : Program Answer α}
    {place : σ} (h : Follows rule ends program place)
    (hallows : ∀ place op, rule.allows place op → allowed op) : Makes allowed program := by
  induction h with
  | done => exact Follows.done trivial
  | ask hallowed _ ih => exact Follows.ask (hallows _ _ hallowed) ih
  | wait _ ih => exact Follows.wait ih
  | halt => exact Follows.halt

/-- A program that asks only what a rule always allows follows the rule. -/
theorem follows {rule : Rule Answer σ} {program : Program Answer α} (h : Makes allowed program)
    (hallows : ∀ place op, allowed op → rule.allows place op) (place : σ) :
    Follows rule (fun _ _ => True) program place := by
  unfold Makes at h
  generalize () = only at h
  induction h generalizing place with
  | done => exact .done trivial
  | ask hallowed _ ih => exact .ask (hallows _ _ hallowed) fun answer => ih answer _
  | wait _ ih => exact .wait (ih _)
  | halt => exact .halt

/-- What every question and time keep holds at the end of a run, also where the program halts. -/
theorem run_state {answer : (op : Op) → ω → Answer op × ω} {pass : Nat → ω → ω} {holds : ω → Prop}
    {program : Program Answer α} {state : ω} (h : Makes allowed program) (hstart : holds state)
    (hask : ∀ state op, allowed op → holds state → holds (answer op state).2)
    (hpass : ∀ state nanos, holds state → holds (pass nanos state)) :
    holds (program.run answer pass state).2 := by
  unfold Makes at h
  generalize () = place at h
  induction h generalizing state with
  | done => exact hstart
  | ask hallowed _ ih => exact ih _ (hask _ _ hallowed hstart)
  | wait _ ih => exact ih (hpass _ _ hstart)
  | halt => exact hstart

theorem step_ask {program rest : Program Answer α} {turn : Turn Answer}
    (h : Makes allowed program) (hstep : Step program (some turn) rest) :
    allowed turn.op ∧ Makes allowed rest :=
  Follows.step_ask h hstep

theorem step_wait {program rest : Program Answer α} (h : Makes allowed program)
    (hstep : Step program none rest) : Makes allowed rest :=
  Follows.step_wait h hstep

end Makes

namespace Completes

theorem bind {program : Program Answer β} {f : β → Program Answer α}
    (h : Completes program) (hf : ∀ value, Completes (f value)) : Completes (program.bind f) := by
  induction h with
  | done => exact hf _
  | ask _ ih => exact .ask ih
  | wait _ ih => exact .wait ih

theorem andThen {first : ExceptT ε (Program Answer) β} {f : β → ExceptT ε (Program Answer) α}
    (h : Completes first.run) (hf : ∀ value, Completes (f value).run) :
    Completes (first >>= f).run := by
  refine Completes.bind (f := ExceptT.bindCont f) h fun result => ?_
  cases result with
  | ok value => exact hf value
  | error e => exact .done

theorem orElse {first : ExceptT ε (Program Answer) α} {handle : ε → ExceptT ε (Program Answer) α}
    (h : Completes first.run) (hhandle : ∀ e, Completes (handle e).run) :
    Completes (tryCatch first handle).run := by
  refine Completes.bind h fun result => ?_
  cases result with
  | ok value => exact .done
  | error e => exact hhandle e

theorem retryFrom {delay : Nat → Option Nat} {again : ε → Bool}
    {operation : Program Answer (Except ε α)} (h : Completes operation) (left attempt : Nat)
    (hdelays : ∀ later, attempt ≤ later → later < attempt + left → (delay later).isSome) :
    Completes (retryFrom delay again operation left attempt) := by
  induction left generalizing attempt with
  | zero => exact h
  | succ left ih =>
    refine Completes.bind h fun result => ?_
    cases result with
    | ok value => exact .done
    | error e =>
      by_cases hagain : again e
      · obtain ⟨nanos, hnanos⟩ := Option.isSome_iff_exists.1
          (hdelays attempt Nat.le.refl (by omega))
        simp only [hagain, if_true, hnanos]
        exact .wait (ih (attempt + 1) fun later hfrom hto => hdelays later (by omega) (by omega))
      · simp only [hagain]
        exact .done

/-- A repeated operation completes if every delay it may need has a value. -/
theorem retryIf {policy : RetryPolicy} {again : ε → Bool}
    {operation : ExceptT ε (Program Answer) α} (h : Completes operation.run)
    (hdelays : ∀ attempt, 1 ≤ attempt → attempt < policy.attempts →
      (policy.delayAfter? attempt).isSome) :
    Completes (retryIf policy again operation).run :=
  Completes.retryFrom h (policy.attempts - 1) 1 fun attempt hfrom hto =>
    hdelays attempt hfrom (by omega)

theorem isSome_run {answer : (op : Op) → ω → Answer op × ω} {pass : Nat → ω → ω}
    {program : Program Answer α} (h : Completes program) (state : ω) :
    (program.run answer pass state).1.isSome := by
  induction h generalizing state with
  | done => rfl
  | ask _ ih => exact ih _ _
  | wait _ ih => exact ih _

end Completes

end Program

namespace Call

variable {σ : Type}

/-- The errand of a single call. -/
theorem follows_errand {rule : Rule Answer σ} (call : Call) {ends : σ → call.Answer → Prop}
    {place : σ} (hallowed : rule.allows place call)
    (hends : ∀ answer, ends (rule.after place ⟨call, answer⟩) answer) :
    Program.Follows rule ends call.errand.run place :=
  .question hallowed hends

theorem makes_errand {allowed : Call → Prop} {call : Call} (h : allowed call) :
    Program.Makes allowed call.errand.run :=
  .question h fun _ => trivial

theorem completes_errand (call : Call) : Program.Completes call.errand.run := .ask fun _ => .done

end Call

end Courier
