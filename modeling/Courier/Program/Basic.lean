/-!
Programs over collaborators. A program is the tree of everything it may do: it ends with a value,
asks a collaborator and goes on with whatever the answer is, waits, or halts because a delay it
needs has no value. Running, interleaving and fault injection are functions on these trees.
-/

namespace Courier

/-- A program that asks questions `op : Op`, each with its own type of answers. -/
inductive Program {Op : Type} (Answer : Op → Type) (α : Type) : Type where
  | done (value : α)
  | ask (op : Op) (next : Answer op → Program Answer α)
  | wait (nanos : Nat) (next : Program Answer α)
  | halt

namespace Program

variable {Op : Type} {Answer : Op → Type} {α β σ : Type}

/-- The first program, then the one its value selects. -/
def bind : Program Answer α → (α → Program Answer β) → Program Answer β
  | done value, f => f value
  | ask op next, f => ask op fun answer => bind (next answer) f
  | wait nanos next, f => wait nanos (bind next f)
  | halt, _ => halt

instance : Monad (Program Answer) where
  pure := done
  bind := bind

/-- The program that asks one question. -/
def question (op : Op) : Program Answer (Answer op) := ask op done

theorem bind_done (program : Program Answer α) : bind program done = program := by
  induction program with
  | done value => rfl
  | ask op next ih => simp only [bind, ih]
  | wait nanos next ih => simp only [bind, ih]
  | halt => rfl

theorem bind_assoc {γ : Type} (program : Program Answer α) (f : α → Program Answer β)
    (g : β → Program Answer γ) :
    bind (bind program f) g = bind program fun value => bind (f value) g := by
  induction program with
  | done value => rfl
  | ask op next ih => simp only [bind, ih]
  | wait nanos next ih => simp only [bind, ih]
  | halt => rfl

instance : LawfulMonad (Program Answer) :=
  LawfulMonad.mk' (Program Answer) bind_done (fun _ _ => rfl) bind_assoc

/-- Runs a program against a state that answers every question and lets time pass. A program that
    halts has no value. -/
def run (answer : (op : Op) → σ → Answer op × σ) (pass : Nat → σ → σ) :
    Program Answer α → σ → Option α × σ
  | done value, state => (some value, state)
  | ask op next, state =>
    let (given, state) := answer op state
    run answer pass (next given) state
  | wait nanos next, state => run answer pass next (pass nanos state)
  | halt, state => (none, state)

/-- Replaces every question by a program that finds its answer. -/
def serve {Op' : Type} {Answer' : Op' → Type} (server : (op : Op) → Program Answer' (Answer op)) :
    Program Answer α → Program Answer' α
  | done value => done value
  | ask op next => bind (server op) fun answer => serve server (next answer)
  | wait nanos next => wait nanos (serve server next)
  | halt => halt

end Program

end Courier
