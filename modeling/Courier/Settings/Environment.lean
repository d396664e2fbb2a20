import Courier.Failure
import Courier.Number.Scientific
import Courier.Text.Blank

/-!
Reading settings from environment variables. A variable that is not set, holds no UTF-8, or holds
only blanks counts as absent; every other value is trimmed. Each reader says what its text means and
refuses a text that means nothing, quoting it.
-/

namespace Courier

/-- The variables of a process; a value is any sequence of bytes. -/
abbrev Environment := String → Option ByteArray

namespace Environment

def empty : Environment := fun _ => none

def set (env : Environment) (name : String) (value : ByteArray) : Environment :=
  fun other => if other = name then some value else env other

/-- The value of a variable as text, as it stands. -/
def raw? (env : Environment) (name : String) : Option String :=
  (env name).bind String.fromUTF8?

/-- The trimmed value of a variable that holds more than blanks. -/
def text? (env : Environment) (name : String) : Option String :=
  ((env.raw? name).map Text.trim).filter fun value => !value.isEmpty

/-- The value of a variable, or a default for an absent one. -/
def textOr (env : Environment) (name default : String) : String :=
  (env.text? name).getD default

/-- The value of a variable that has to be there. -/
def required (env : Environment) (name : String) : Except Failure String :=
  match env.text? name with
  | some value => .ok value
  | none => .error ⟨.missingVariable, .unset name⟩

/-- The comma-separated entries of a variable. -/
def entries (env : Environment) (name : String) : List String :=
  match env.text? name with
  | some value => Text.commaEntries value
  | none => []

/-- The value of a variable by a reader, or a default for an absent one. -/
def readOr {α : Type} (read? : String → Option α) (env : Environment) (name : String)
    (default : α) : Except Failure α :=
  match env.text? name with
  | none => .ok default
  | some value =>
    match read? value with
    | some meant => .ok meant
    | none => .error (.badValue name value)

/-- The words for yes and no, in any letter case. -/
def readFlag? (value : String) : Option Bool :=
  let word := Text.lower value
  if word = "true" ∨ word = "yes" ∨ word = "1" then some true
  else if word = "false" ∨ word = "no" ∨ word = "0" then some false
  else none

def flagOr : Environment → String → Bool → Except Failure Bool := readOr readFlag?

/-- A count below `2 ^ 32`. -/
def count32Or : Environment → String → Nat → Except Failure Nat := readOr (Text.readUnsigned? 32)

/-- A count below `2 ^ 64`. -/
def count64Or : Environment → String → Nat → Except Failure Nat := readOr (Text.readUnsigned? 64)

def numberOr : Environment → String → Binary64 → Except Failure Binary64 := readOr Scientific.read?

end Environment

end Courier
