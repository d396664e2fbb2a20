import Courier.Backoff
import Courier.Proofs.Program.Rule

/-!
Programs that consult an oracle, which has one fixed answer to every question. With an oracle a
program has one script, the questions it asks, and one verdict, the value it ends with. A program
that is blind to the difference between alike answers keeps to script and verdict as long as it is
told something alike to what the oracle says.
-/

namespace Courier.Program

variable {Op : Type} {Answer : Op → Type} {α β ε σ : Type}

/-- The value with which a program ends if an oracle answers its questions. -/
def verdict (oracle : (op : Op) → Answer op) : Program Answer α → Option α
  | done value => some value
  | ask op next => verdict oracle (next (oracle op))
  | wait _ next => verdict oracle next
  | halt => none

/-- The questions of a program that an oracle answers, in order. -/
def script (oracle : (op : Op) → Answer op) : Program Answer α → List Op
  | done _ => []
  | ask op next => op :: script oracle (next (oracle op))
  | wait _ next => script oracle next
  | halt => []

/-- The program goes on in the same way after alike answers. -/
inductive Blind (alike : (op : Op) → Answer op → Answer op → Prop) : Program Answer α → Prop
  | done {value : α} : Blind alike (.done value)
  | ask {op : Op} {next : Answer op → Program Answer α}
    (hsame : ∀ answer answer', alike op answer answer' → next answer = next answer')
    (hnext : ∀ answer, Blind alike (next answer)) : Blind alike (.ask op next)
  | wait {nanos : Nat} {next : Program Answer α} (hnext : Blind alike next) :
    Blind alike (.wait nanos next)
  | halt : Blind alike .halt

section Oracle

variable {oracle : (op : Op) → Answer op}

theorem verdict_bind (program : Program Answer β) (f : β → Program Answer α) :
    verdict oracle (program.bind f) =
      (verdict oracle program).bind fun value => verdict oracle (f value) := by
  induction program with
  | done value => rfl
  | ask op next ih => exact ih (oracle op)
  | wait nanos next ih => exact ih
  | halt => rfl

theorem script_bind (program : Program Answer β) (f : β → Program Answer α) :
    script oracle (program.bind f) =
      script oracle program ++
        (verdict oracle program).elim [] fun value => script oracle (f value) := by
  induction program with
  | done value => rfl
  | ask op next ih => exact congrArg (op :: ·) (ih (oracle op))
  | wait nanos next ih => exact ih
  | halt => rfl

theorem Makes.script {allowed : Op → Prop} {program : Program Answer α}
    (h : Makes allowed program) : ∀ op ∈ script oracle program, allowed op := by
  unfold Makes at h
  generalize () = place at h
  induction h with
  | done | halt => exact fun _ hop => nomatch hop
  | ask hallowed _ ih =>
    intro op hop
    obtain rfl | hrest := List.mem_cons.1 hop
    · exact hallowed
    · exact ih _ op hrest
  | wait _ ih => exact ih

/-- A verdict fits the place to which the script leads, and places that weigh as much more as
    questions of one sort have been asked tell how many such questions there are. -/
theorem Follows.exists_of_verdict {rule : Rule Answer σ} {ends : σ → α → Prop}
    {program : Program Answer α} {place : σ} (h : Follows rule ends program place)
    (weight : σ → Nat) (sort : Op → Bool)
    (hweight : ∀ place op, rule.allows place op →
      weight (rule.after place ⟨op, oracle op⟩) = weight place + if sort op then 1 else 0)
    {value : α} (hverdict : verdict oracle program = some value) :
    ∃ last, ends last value ∧
      weight last = weight place + (Program.script oracle program).countP sort := by
  induction h with
  | @done other place hends =>
    cases hverdict
    exact ⟨place, hends, rfl⟩
  | @ask op next place hallowed _ ih =>
    obtain ⟨last, hends, hlast⟩ := ih _ hverdict
    refine ⟨last, hends, ?_⟩
    rw [hlast, hweight place op hallowed, Program.script, List.countP_cons]
    omega
  | wait _ ih => exact ih hverdict
  | halt => cases hverdict

end Oracle

section Fallible

variable {oracle : (op : Op) → Answer op}

variable {first : ExceptT ε (Program Answer) β} {f : β → ExceptT ε (Program Answer) α}

theorem verdict_andThen :
    verdict oracle (first >>= f).run = (verdict oracle first.run).bind fun
      | .ok value => verdict oracle (f value).run
      | .error e => some (.error e) := by
  refine (verdict_bind first.run (ExceptT.bindCont f)).trans ?_
  congr 1
  funext result
  cases result <;> rfl

theorem exists_of_verdict_ok {value : α} (h : verdict oracle (first >>= f).run = some (.ok value)) :
    ∃ middle, verdict oracle first.run = some (.ok middle) ∧
      verdict oracle (f middle).run = some (.ok value) := by
  rw [verdict_andThen] at h
  obtain ⟨result, hfirst, hrest⟩ := Option.bind_eq_some_iff.1 h
  cases result with
  | ok middle => exact ⟨middle, hfirst, hrest⟩
  | error e => cases hrest

theorem verdict_error_cases {e : ε} (h : verdict oracle (first >>= f).run = some (.error e)) :
    verdict oracle first.run = some (.error e) ∨
      ∃ middle, verdict oracle first.run = some (.ok middle) ∧
        verdict oracle (f middle).run = some (.error e) := by
  rw [verdict_andThen] at h
  obtain ⟨result, hfirst, hrest⟩ := Option.bind_eq_some_iff.1 h
  cases result with
  | ok middle => exact .inr ⟨middle, hfirst, hrest⟩
  | error other =>
    cases hrest
    exact .inl hfirst

theorem script_andThen_of_ok {middle : β} (h : verdict oracle first.run = some (.ok middle)) :
    script oracle (first >>= f).run = script oracle first.run ++ script oracle (f middle).run := by
  refine (script_bind first.run (ExceptT.bindCont f)).trans ?_
  rw [h]
  rfl

theorem script_andThen_of_error {e : ε} (h : verdict oracle first.run = some (.error e)) :
    script oracle (first >>= f).run = script oracle first.run := by
  refine (script_bind first.run (ExceptT.bindCont f)).trans ?_
  rw [h]
  exact List.append_nil _

variable {guarded : ExceptT ε (Program Answer) α} {handle : ε → ExceptT ε (Program Answer) α}

theorem verdict_orElse_cases {result : Except ε α}
    (h : verdict oracle (tryCatch guarded handle).run = some result) :
    (verdict oracle guarded.run = some result ∧ ∃ value, result = .ok value) ∨
      ∃ e, verdict oracle guarded.run = some (.error e) ∧
        verdict oracle (handle e).run = some result := by
  have hbind := (verdict_bind guarded.run _).symm.trans h
  obtain ⟨first, hfirst, hrest⟩ := Option.bind_eq_some_iff.1 hbind
  cases first with
  | ok value =>
    cases hrest
    exact .inl ⟨hfirst, value, rfl⟩
  | error e => exact .inr ⟨e, hfirst, hrest⟩

theorem script_orElse_of_error {e : ε} (h : verdict oracle guarded.run = some (.error e)) :
    script oracle (tryCatch guarded handle).run =
      script oracle guarded.run ++ script oracle (handle e).run := by
  refine (script_bind guarded.run _).trans ?_
  rw [h]
  rfl

/-- An oracle that lets an operation fail lets every attempt fail in the same way. -/
theorem verdict_retryFrom {delay : Nat → Option Nat} {again : ε → Bool}
    {operation : Program Answer (Except ε α)} (left attempt : Nat) {result : Except ε α}
    (h : verdict oracle (retryFrom delay again operation left attempt) = some result) :
    verdict oracle operation = some result := by
  induction left generalizing attempt with
  | zero => exact h
  | succ left ih =>
    rw [retryFrom, verdict_bind] at h
    obtain ⟨first, hfirst, hrest⟩ := Option.bind_eq_some_iff.1 h
    cases first with
    | ok value => exact hfirst.trans hrest
    | error e =>
      by_cases hagain : again e
      · simp only [hagain, if_true] at hrest
        cases hdelay : delay attempt with
        | none => simp only [hdelay, verdict, reduceCtorEq] at hrest
        | some nanos =>
          simp only [hdelay, verdict] at hrest
          exact ih (attempt + 1) hrest
      · simp only [hagain] at hrest
        exact hfirst.trans hrest

/-- An attempt that an oracle lets succeed is the last one. -/
theorem verdict_retryFrom_of_ok {delay : Nat → Option Nat} {again : ε → Bool}
    {operation : Program Answer (Except ε α)} (left attempt : Nat) {value : α}
    (h : verdict oracle operation = some (.ok value)) :
    verdict oracle (retryFrom delay again operation left attempt) = some (.ok value) := by
  cases left with
  | zero => exact h
  | succ left =>
    rw [retryFrom, verdict_bind, h]
    rfl

/-- A failure that is not worth another attempt comes after the questions of one attempt. -/
theorem script_retryFrom {delay : Nat → Option Nat} {again : ε → Bool}
    {operation : Program Answer (Except ε α)} (left attempt : Nat) {e : ε}
    (hverdict : verdict oracle operation = some (.error e)) (hagain : again e = false) :
    script oracle (retryFrom delay again operation left attempt) = script oracle operation := by
  cases left with
  | zero => rfl
  | succ left =>
    rw [retryFrom, script_bind, hverdict]
    simp [hagain, script]

end Fallible

namespace Blind

variable {alike : (op : Op) → Answer op → Answer op → Prop}

theorem question {op : Op} (h : ∀ answer answer', alike op answer answer' → answer = answer') :
    Blind alike (question op) :=
  .ask (fun _ _ halike => congrArg Program.done (h _ _ halike)) fun _ => .done

theorem bind {program : Program Answer β} {f : β → Program Answer α} (h : Blind alike program)
    (hf : ∀ value, Blind alike (f value)) : Blind alike (program.bind f) := by
  induction h with
  | done => exact hf _
  | ask hsame _ ih =>
    exact .ask (fun _ _ halike => congrArg (Program.bind · f) (hsame _ _ halike)) ih
  | wait _ ih => exact .wait ih
  | halt => exact .halt

theorem andThen {first : ExceptT ε (Program Answer) β} {f : β → ExceptT ε (Program Answer) α}
    (h : Blind alike first.run) (hf : ∀ value, Blind alike (f value).run) :
    Blind alike (first >>= f).run := by
  refine Blind.bind (f := ExceptT.bindCont f) h fun result => ?_
  cases result with
  | ok value => exact hf value
  | error e => exact .done

theorem orElse {first : ExceptT ε (Program Answer) α} {handle : ε → ExceptT ε (Program Answer) α}
    (h : Blind alike first.run) (hhandle : ∀ e, Blind alike (handle e).run) :
    Blind alike (tryCatch first handle).run := by
  refine Blind.bind h fun result => ?_
  cases result with
  | ok value => exact .done
  | error e => exact hhandle e

theorem retryFrom {delay : Nat → Option Nat} {again : ε → Bool}
    {operation : Program Answer (Except ε α)} (h : Blind alike operation) (left attempt : Nat) :
    Blind alike (retryFrom delay again operation left attempt) := by
  induction left generalizing attempt with
  | zero => exact h
  | succ left ih =>
    refine Blind.bind h fun result => ?_
    cases result with
    | ok value => exact .done
    | error e =>
      by_cases hagain : again e
      · simp only [hagain, if_true]
        cases delay attempt with
        | none => exact .halt
        | some nanos => exact .wait (ih (attempt + 1))
      · simp only [hagain]
        exact .done

theorem retryIf {policy : RetryPolicy} {again : ε → Bool}
    {operation : ExceptT ε (Program Answer) α} (h : Blind alike operation.run) :
    Blind alike (retryIf policy again operation).run :=
  Blind.retryFrom h _ _

variable {oracle oracle' : (op : Op) → Answer op} {program rest : Program Answer α}

/-- A program that is told something alike to what the oracle says keeps to its script. -/
theorem step_ask (h : Blind alike program) {turn : Turn Answer}
    (hstep : Step program (some turn) rest) (htold : alike turn.op turn.answer (oracle turn.op)) :
    Blind alike rest ∧ verdict oracle rest = verdict oracle program ∧
      script oracle program = turn.op :: script oracle rest := by
  cases hstep with
  | ask op next answer =>
    cases h with
    | ask hsame hnext =>
      rw [verdict, script, ← hsame _ _ htold]
      exact ⟨hnext answer, rfl, rfl⟩

theorem step_wait (h : Blind alike program) (hstep : Step program none rest) :
    Blind alike rest ∧ verdict oracle rest = verdict oracle program ∧
      script oracle program = script oracle rest := by
  cases hstep with
  | wait nanos next =>
    cases h with
    | wait hnext => exact ⟨hnext, rfl, rfl⟩

/-- Oracles whose answers to the questions of a program are alike lead it the same way. -/
theorem verdict_congr {allowed : Op → Prop} (h : Blind alike program)
    (hmakes : Makes allowed program)
    (horacles : ∀ op, allowed op → alike op (oracle op) (oracle' op)) :
    verdict oracle program = verdict oracle' program := by
  induction h with
  | done | halt => rfl
  | @ask op next hsame _ ih =>
    cases hmakes with
    | ask hallowed hnext =>
      rw [verdict, verdict, hsame _ _ (horacles op hallowed)]
      exact ih _ (hnext _)
  | wait _ ih =>
    cases hmakes with
    | wait hnext => exact ih hnext

end Blind

end Courier.Program
