import Courier.Number.Binary64
import Courier.Program.Basic

/-!
Trying again with growing delays. A policy bounds the attempts and fixes the delay after each failed
one; an operation is repeated until it succeeds, fails in a way not worth repeating, or the attempts
are used up. A delay is computed in binary64 and may have no value; a program that needs such a
delay halts.
-/

namespace Courier

/-- How often and after which delays an operation is tried. -/
structure RetryPolicy where
  maxAttempts : UInt32
  /-- The delay after the first failed attempt, in nanoseconds. -/
  initialDelay : Nat
  /-- The growth of the delay from one attempt to the next. -/
  multiplier : Binary64
  deriving DecidableEq, Repr

namespace RetryPolicy

/-- Five attempts, one second at first, doubling. -/
def standard : RetryPolicy := ⟨5, 1000000000, .ofNat 2⟩

/-- Ten attempts, otherwise as usual. -/
def keyService : RetryPolicy := { standard with maxAttempts := 10 }

def once : RetryPolicy := ⟨1, 0, .one⟩

/-- The attempts that are made; none counts as one. -/
def attempts (policy : RetryPolicy) : Nat := max policy.maxAttempts.toNat 1

end RetryPolicy

/-- Seconds as binary64: the whole seconds plus the fraction, each rounded. -/
def secondsOfNanos (nanos : Nat) : Binary64 :=
  (Binary64.ofNat (nanos / 1000000000)).add (Binary64.ofRatio false (nanos % 1000000000) 1000000000)

/-- Whole nanoseconds nearest to a number of seconds, a tie to the even one. There are none for a
    number that is negative, not finite, or beyond `2 ^ 64` seconds. -/
def nanosOfSeconds? : Binary64 → Option Nat
  | .finite negative units =>
    if negative ∧ units ≠ 0 then none
    else
      let nanos := roundQuotient (units * 1000000000) Binary64.unitsOfOne
      let inRange :=
        units < Nat.pow 2 64 * Binary64.unitsOfOne ∧ nanos < Nat.pow 2 64 * 1000000000
      if inRange then some nanos else none
  | _ => none

namespace RetryPolicy

/-- The exponent of the growth after an attempt: one less than the attempt, as a signed word of 32
    bits. -/
def growthExponent (attempt : Nat) : Int := Int.bmod (attempt - 1 : Nat) (Nat.pow 2 32)

/-- The delay after a failed attempt, counted from one; a multiplier below one counts as one. -/
def delayAfter? (policy : RetryPolicy) (attempt : Nat) : Option Nat :=
  let factor := policy.multiplier.atLeastOne.power (growthExponent attempt)
  nanosOfSeconds? (factor.mul (secondsOfNanos policy.initialDelay))

end RetryPolicy

section Retry

variable {Op : Type} {Answer : Op → Type} {ε α : Type}

/-- The attempt with the given number, with `left` more to follow if it fails, after the delay that
    each failed attempt asks for. -/
def retryFrom (delay : Nat → Option Nat) (again : ε → Bool)
    (operation : Program Answer (Except ε α)) : Nat → Nat → Program Answer (Except ε α)
  | 0, _ => operation
  | left + 1, attempt => operation.bind fun
    | .ok value => .done (.ok value)
    | .error e =>
      if again e then
        match delay attempt with
        | some nanos => .wait nanos (retryFrom delay again operation left (attempt + 1))
        | none => .halt
      else .done (.error e)

/-- Repeats an operation while its failures are worth it and attempts are left. The last failure is
    returned as it is. -/
def retryIf (policy : RetryPolicy) (again : ε → Bool)
    (operation : ExceptT ε (Program Answer) α) : ExceptT ε (Program Answer) α :=
  retryFrom policy.delayAfter? again operation (policy.attempts - 1) 1

/-- Repeats an operation whatever its failure is. -/
def retry (policy : RetryPolicy) (operation : ExceptT ε (Program Answer) α) :
    ExceptT ε (Program Answer) α :=
  retryIf policy (fun _ => true) operation

end Retry

end Courier
