import Courier.Proofs.Text.Numeral
import Courier.Services.StatusTable

/-!
The expressions of requests to the status table, as the cloud reads them. A condition or a change is
a text; `AND` binds before `OR`. An attribute equals an operand only if it is there and has the same
type, and a number is kept in the one text that writes it; so the condition that a row is unchanged
can be decided from what the row reads as.
-/

namespace Courier.Services

namespace Expression

/-- The word read so far, if there is one, and the words after it. -/
def endWord (word : List Char) (rest : List String) : List String :=
  if word.isEmpty then rest else String.ofList word :: rest

/-- The words of an expression. A mark is a word by itself. -/
def wordsFrom (word : List Char) : List Char → List String
  | [] => endWord word []
  | c :: cs =>
    if c = ' ' then endWord word (wordsFrom [] cs)
    else if c ∈ ['(', ')', ',', '=', '+'] then
      endWord word (String.singleton c :: wordsFrom [] cs)
    else wordsFrom (word ++ [c]) cs

def words (text : String) : List String := wordsFrom [] text.toList

/-- Reads a condition from the start of the words, and gives the words after it. -/
abbrev Reader : Type := List String → Option (Condition × List String)

/-- Reads on after a first part, as long as a word joins another part to it. -/
def chainFrom (word : String) (join : Condition → Condition → Condition) (part : Reader) :
    Nat → Condition → Reader
  | 0, first, rest => some (first, rest)
  | more + 1, first, rest =>
    if rest.head? = some word then do
      let (second, rest) ← part rest.tail
      chainFrom word join part more (join first second) rest
    else some (first, rest)

/-- Reads parts with a word between them. There are no more parts than words. -/
def chain (word : String) (join : Condition → Condition → Condition) (part : Reader) : Reader :=
  fun text => do
    let (first, rest) ← part text
    chainFrom word join part rest.length first rest

/-- Reads a comparison, a test for absence, or a condition in parentheses. -/
def factor (inner : Reader) : Reader
  | "(" :: rest => do
    let (condition, rest) ← inner rest
    if rest.head? = some ")" then some (condition, rest.tail) else none
  | "attribute_not_exists" :: "(" :: name :: ")" :: rest => some (.absent name, rest)
  | name :: "=" :: operand :: rest => some (.equals name operand, rest)
  | _ => none

/-- Reads a condition with at most so many parentheses around its parts. -/
def condition : Nat → Reader
  | 0 => fun _ => none
  | depth + 1 => chain "OR" .either (chain "AND" .both (factor (condition depth)))

end Expression

open Expression

/-- The condition that a text means. -/
def Condition.ofText? (text : String) : Option Condition :=
  match condition (words text).length (words text) with
  | some (condition, []) => some condition
  | _ => none

/-- The change that a text means. -/
def Change.ofText? (text : String) : Option Change :=
  match words text with
  | ["SET", name, "=", operand] => some (.assign name operand)
  | ["SET", name, "=", "if_not_exists", "(", grown, ",", start, ")", "+", amount] =>
    if grown = name then some (.grow name start amount) else none
  | _ => none

/-- The text of the condition that a row is unchanged means just that, whichever counters are zero.
    -/
theorem Condition.ofText?_unchanged (expected : StatusRecord) :
    ofText? (unchanged expected).text = some (unchanged expected) := by
  unfold unchanged counter
  by_cases hexported : expected.exported = 0
  · by_cases hsent : expected.sent = 0
    · simp only [hexported, hsent, if_true]
      decide +kernel
    · simp only [hexported, hsent, if_true, if_false]
      decide +kernel
  · by_cases hsent : expected.sent = 0
    · simp only [hexported, hsent, if_true, if_false]
      decide +kernel
    · simp only [hexported, hsent, if_false]
      decide +kernel

theorem Change.ofText?_grow :
    ofText? (grow "#sent" ":zero" ":one").text = some (grow "#sent" ":zero" ":one") := by
  decide +kernel

theorem Change.ofText?_assign :
    ofText? (assign "#status" ":new").text = some (assign "#status" ":new") := by
  decide +kernel

/-- An attribute has the value of an operand. Types are never equal to each other, and equal numbers
    have the same text. -/
def Attribute.same : Attribute → Attribute → Bool
  | text kept, text value => kept == value
  | number kept, number value => kept == value
  | _, _ => false

/-- The sum of two whole numbers. -/
def Attribute.plus? : Attribute → Attribute → Option Attribute
  | number kept, number added => do
    let kept ← Text.readInteger? kept
    let added ← Text.readInteger? added
    return number (toString (kept + added))
  | _, _ => none

/-- The attribute for which a name stands. -/
def attributeOf (names : List (String × String)) (name : String) : String :=
  (names.lookup name).getD name

/-- Whether a condition holds of an item. -/
def Condition.holds (names : List (String × String)) (values item : AttributeMap) :
    Condition → Bool
  | equals name operand =>
    match item.lookup (attributeOf names name), values.lookup operand with
    | some kept, some value => kept.same value
    | _, _ => false
  | absent name => (item.lookup (attributeOf names name)).isNone
  | both first second => first.holds names values item && second.holds names values item
  | either first second => first.holds names values item || second.holds names values item

/-- The attribute that a change sets on an item, and the value it gets. -/
def Change.value? (names : List (String × String)) (values item : AttributeMap) :
    Change → Option (String × Attribute)
  | assign name operand => (values.lookup operand).map fun value => (attributeOf names name, value)
  | grow name start amount => do
    let kept ← (item.lookup (attributeOf names name)).or (values.lookup start)
    let added ← values.lookup amount
    let sum ← kept.plus? added
    return (attributeOf names name, sum)

/-- The value of a counter. -/
def countAttribute (count : Int) : Attribute := .number (toString count)

theorem Attribute.same_countAttribute (kept value : Int) :
    (countAttribute kept).same (countAttribute value) = decide (kept = value) := by
  rw [countAttribute, countAttribute, same, Bool.eq_iff_iff, beq_iff_eq, decide_eq_true_eq]
  exact Text.toString_inj

theorem Attribute.plus?_countAttribute (kept added : Int) :
    (countAttribute kept).plus? (countAttribute added) = some (countAttribute (kept + added)) := by
  simp only [countAttribute, plus?, Text.readInteger?_toString]
  rfl

namespace Condition

variable {names : List (String × String)} {values item : AttributeMap}

/-- The condition on a counter holds just if the counter, which is zero where it is absent, has the
    value. -/
theorem holds_counter {name operand : String} {count : Option Int} {value : Int}
    (hitem : item.lookup (attributeOf names name) = count.map countAttribute)
    (hvalue : values.lookup operand = some (countAttribute value)) :
    (counter name operand value).holds names values item = decide (count.getD 0 = value) := by
  unfold counter
  by_cases hzero : value = 0
  · subst hzero
    cases count with
    | none => simp [holds, hitem]
    | some kept => simp [holds, hitem, hvalue, Attribute.same_countAttribute]
  · cases count with
    | none => simp [holds, hitem, hzero, Ne.symm hzero]
    | some kept => simp [holds, hitem, hvalue, hzero, Attribute.same_countAttribute]

end Condition

end Courier.Services
