import Courier.Json.Basic
import Courier.Number.Scientific

/-!
Reading JSON. A text is one value between blanks; values nest less than 128 deep, strings hold no
raw control characters, and numbers lie in the range of binary64. A fault says what was missed and
where: its place is a line and the bytes of that line up to the character that was not expected,
which counts as one byte more. Every reader gives a value and the characters behind it. A value that
is passed over is not `checked`: its numbers may have any size, and the codes in its strings need
not be characters.
-/

namespace Courier.Json

inductive Complaint where
  | endInList
  | endInObject
  | endInString
  | endInValue
  | colonExpected
  | listGoesOn
  | objectGoesOn
  | wordExpected
  | valueExpected
  | badEscape
  | badNumber
  | numberRange
  | controlCharacter
  | keyNoString
  | loneSurrogate
  | trailingComma
  | trailingCharacters
  | escapeEnds
  | tooDeep
  deriving DecidableEq, Repr

def Complaint.text : Complaint → String
  | endInList => "EOF while parsing a list"
  | endInObject => "EOF while parsing an object"
  | endInString => "EOF while parsing a string"
  | endInValue => "EOF while parsing a value"
  | colonExpected => "expected `:`"
  | listGoesOn => "expected `,` or `]`"
  | objectGoesOn => "expected `,` or `\x7d`"
  | wordExpected => "expected ident"
  | valueExpected => "expected value"
  | badEscape => "invalid escape"
  | badNumber => "invalid number"
  | numberRange => "number out of range"
  | controlCharacter => "control character (\\u0000-\\u001F) found while parsing a string"
  | keyNoString => "key must be a string"
  | loneSurrogate => "lone leading surrogate in hex escape"
  | trailingComma => "trailing comma"
  | trailingCharacters => "trailing characters"
  | escapeEnds => "unexpected end of hex escape"
  | tooDeep => "recursion limit exceeded"

/-- A complaint in front of the characters that are left. -/
structure Fault where
  complaint : Complaint
  left : List Char
  /-- Whether the next character is the one complained about. -/
  atNext : Bool

def refuseNext {α : Type} (complaint : Complaint) (left : List Char) : Except Fault α :=
  .error ⟨complaint, left, true⟩

/-- A complaint about what has been read. -/
def refuse {α : Type} (complaint : Complaint) (left : List Char) : Except Fault α :=
  .error ⟨complaint, left, false⟩

/-- Drops blanks: space, tab, line feed and carriage return. -/
def skipBlanks : List Char → List Char :=
  List.dropWhile fun c => c == ' ' || c == '\t' || c == '\n' || c == '\r'

def readWord (value : Json) : List Char → List Char → Except Fault (Json × List Char)
  | [], cs => .ok (value, cs)
  | _ :: _, [] => refuse .endInValue []
  | w :: ws, c :: cs => if c = w then readWord value ws cs else refuseNext .wordExpected (c :: cs)

def hexValue? (c : Char) : Option Nat :=
  if '0' ≤ c ∧ c ≤ '9' then some (c.toNat - 48)
  else if 'a' ≤ c ∧ c ≤ 'f' then some (c.toNat - 87)
  else if 'A' ≤ c ∧ c ≤ 'F' then some (c.toNat - 55)
  else none

/-- What is left of four bytes that are no digits. The characters of an escape are counted by their
    bytes. -/
def dropBytes : Nat → List Char → List Char
  | _, [] => []
  | count, c :: cs => if count = 0 then c :: cs else dropBytes (count - c.utf8Size) cs

/-- Reads four hexadecimal digits. -/
def readCode (cs : List Char) : Except Fault (Nat × List Char) :=
  match cs with
  | a :: b :: c :: d :: rest =>
    match hexValue? a, hexValue? b, hexValue? c, hexValue? d with
    | some a, some b, some c, some d => .ok (((a * 16 + b) * 16 + c) * 16 + d, rest)
    | _, _, _, _ => refuse .badEscape (dropBytes 4 cs)
  | _ =>
    if (String.ofList cs).utf8ByteSize < 4 then refuse .endInString []
    else refuse .badEscape (dropBytes 4 cs)

/-- Reads what follows the `u` of an escape: a code, or two that make a pair. -/
def readUnicode (checked : Bool) (cs : List Char) : Except Fault (Char × List Char) := do
  let (code, rest) ← readCode cs
  if !checked then return (Char.ofNat code, rest)
  else if 0xDC00 ≤ code ∧ code ≤ 0xDFFF then refuse .loneSurrogate rest
  else if code < 0xD800 ∨ 0xDBFF < code then return (Char.ofNat code, rest)
  else match rest with
    | [] => refuse .endInString []
    | '\\' :: [] => refuse .endInString []
    | '\\' :: 'u' :: rest =>
      let (low, rest) ← readCode rest
      if low < 0xDC00 ∨ 0xDFFF < low then refuse .loneSurrogate rest
      else return (Char.ofNat ((code - 0xD800) * 0x400 + (low - 0xDC00) + 0x10000), rest)
    | '\\' :: rest => refuseNext .escapeEnds rest
    | rest => refuseNext .escapeEnds rest

def readEscape (checked : Bool) : List Char → Except Fault (Char × List Char)
  | [] => refuse .endInString []
  | c :: cs =>
    if c = '"' ∨ c = '\\' ∨ c = '/' then .ok (c, cs)
    else if c = 'b' then .ok ('\x08', cs)
    else if c = 'f' then .ok ('\x0c', cs)
    else if c = 'n' then .ok ('\n', cs)
    else if c = 'r' then .ok ('\r', cs)
    else if c = 't' then .ok ('\t', cs)
    else if c = 'u' then readUnicode checked cs
    else refuseNext .badEscape (c :: cs)

/-- Reads a string behind its opening quote. `fuel` bounds its characters. -/
def readString (checked : Bool) : Nat → List Char → List Char → Except Fault (String × List Char)
  | 0, _, _ => refuse .endInString []
  | _ + 1, _, [] => refuse .endInString []
  | fuel + 1, seen, c :: cs =>
    if c = '"' then .ok (String.ofList seen.reverse, cs)
    else if c = '\\' then do
      let (meant, rest) ← readEscape checked cs
      readString checked fuel (meant :: seen) rest
    else if c.toNat < 0x20 then refuse .controlCharacter cs
    else readString checked fuel (c :: seen) cs

/-- The digits at the start of a text, and what follows them. -/
def spanDigits (cs : List Char) : List Char × List Char := cs.span Scientific.isDigit

/-- Reads the fraction of a number, which is absent or a point and digits. -/
def readFraction : List Char → Except Fault (List Char × List Char)
  | '.' :: cs =>
    match spanDigits cs with
    | ([], []) => refuseNext .endInValue []
    | ([], rest) => refuseNext .badNumber rest
    | (digits, rest) => .ok ('.' :: digits, rest)
  | cs => .ok ([], cs)

/-- The sign of an exponent, and what follows it. -/
def exponentSign : List Char → List Char × List Char
  | '+' :: cs => (['+'], cs)
  | '-' :: cs => (['-'], cs)
  | cs => ([], cs)

/-- Reads the exponent of a number, which is absent or an `e`, a sign or none, and digits. -/
def readExponent : List Char → Except Fault (List Char × List Char)
  | [] => .ok ([], [])
  | c :: cs =>
    if c = 'e' ∨ c = 'E' then
      let (sign, rest) := exponentSign cs
      match spanDigits rest with
      | ([], []) => refuse .endInValue []
      | ([], rest) => refuseNext .badNumber rest
      | (digits, rest) => .ok ('e' :: sign ++ digits, rest)
    else .ok ([], c :: cs)

/-- Reads the digits in front of a point or exponent; a zero stands alone. -/
def readWhole : List Char → Except Fault (List Char × List Char)
  | [] => refuse .endInValue []
  | c :: cs =>
    if !Scientific.isDigit c then refuseNext .badNumber (c :: cs)
    else
      let (digits, rest) := spanDigits cs
      if c = '0' ∧ digits ≠ [] then refuseNext .badNumber cs else .ok (c :: digits, rest)

def readNumber (checked : Bool) (sign : List Char) (cs : List Char) :
    Except Fault (Json × List Char) := do
  let (whole, rest) ← readWhole cs
  let (fraction, rest) ← readFraction rest
  let (exponent, rest) ← readExponent rest
  let text := String.ofList (sign ++ whole ++ fraction ++ exponent)
  if !checked then return (number text, rest)
  match Scientific.read? text with
  | some (.finite ..) => return (number text, rest)
  | _ => refuse .numberRange rest

/-- Reads the colon between a name and a value. -/
def readColon (cs : List Char) : Except Fault (List Char) :=
  match skipBlanks cs with
  | [] => refuseNext .endInObject []
  | ':' :: rest => .ok rest
  | rest => refuseNext .colonExpected rest

mutual

/-- Reads a value that may hold values `depth` deep. `fuel` bounds the steps. -/
def readValue (checked : Bool) (depth : Nat) : Nat → List Char → Except Fault (Json × List Char)
  | 0, _ => refuse .endInValue []
  | fuel + 1, cs =>
    match skipBlanks cs with
    | [] => refuseNext .endInValue []
    | c :: rest =>
      if c = 'n' then readWord null ['u', 'l', 'l'] rest
      else if c = 't' then readWord (bool true) ['r', 'u', 'e'] rest
      else if c = 'f' then readWord (bool false) ['a', 'l', 's', 'e'] rest
      else if c = '-' then readNumber checked ['-'] rest
      else if Scientific.isDigit c then readNumber checked [] (c :: rest)
      else if c = '"' then do
        let (s, rest) ← readString checked (rest.length + 1) [] rest
        return (string s, rest)
      else if c = '[' then
        if depth = 0 then refuseNext .tooDeep (c :: rest)
        else readItems checked (depth - 1) fuel [] rest
      else if c = '\x7b' then
        if depth = 0 then refuseNext .tooDeep (c :: rest)
        else readMembers checked (depth - 1) fuel [] rest
      else refuseNext .valueExpected (c :: rest)

/-- Reads the rest of an array behind the given items. -/
def readItems (checked : Bool) (depth : Nat) :
    Nat → List Json → List Char → Except Fault (Json × List Char)
  | 0, _, _ => refuse .endInList []
  | fuel + 1, items, cs =>
    match skipBlanks cs with
    | [] => refuseNext .endInList []
    | c :: rest =>
      if c = ']' then .ok (array items.reverse, rest)
      else if items.isEmpty then do
        let (item, rest) ← readValue checked depth fuel (c :: rest)
        readItems checked depth fuel [item] rest
      else if c = ',' then
        match skipBlanks rest with
        | [] => refuseNext .endInValue []
        | ']' :: rest => refuseNext .trailingComma (']' :: rest)
        | rest => do
          let (item, rest) ← readValue checked depth fuel rest
          readItems checked depth fuel (item :: items) rest
      else refuseNext .listGoesOn (c :: rest)

/-- Reads the rest of an object behind the given members. -/
def readMembers (checked : Bool) (depth : Nat) :
    Nat → List (String × Json) → List Char → Except Fault (Json × List Char)
  | 0, _, _ => refuse .endInObject []
  | fuel + 1, members, cs =>
    match skipBlanks cs with
    | [] => refuseNext .endInObject []
    | c :: rest =>
      if c = '\x7d' then .ok (object members.reverse, rest)
      else if members.isEmpty then
        if c = '"' then readMember checked depth fuel [] rest
        else refuseNext .keyNoString (c :: rest)
      else if c = ',' then
        match skipBlanks rest with
        | [] => refuseNext .endInValue []
        | next :: rest =>
          if next = '"' then readMember checked depth fuel members rest
          else if next = '\x7d' then refuseNext .trailingComma (next :: rest)
          else refuseNext .keyNoString (next :: rest)
      else refuseNext .objectGoesOn (c :: rest)

/-- Reads a member behind the opening quote of its name, and the rest of the object. -/
def readMember (checked : Bool) (depth : Nat) :
    Nat → List (String × Json) → List Char → Except Fault (Json × List Char)
  | 0, _, _ => refuse .endInObject []
  | fuel + 1, members, cs => do
    let (name, rest) ← readString checked (cs.length + 1) [] cs
    let rest ← readColon rest
    let (value, rest) ← readValue checked depth fuel rest
    readMembers checked depth fuel ((name, value) :: members) rest

end

/-- How deep values may nest. -/
def maxDepth : Nat := 127

def readText (cs : List Char) : Except Fault Json := do
  let (value, rest) ← readValue true maxDepth (2 * cs.length + 2) cs
  match skipBlanks rest with
  | [] => return value
  | rest => refuseNext .trailingCharacters rest

/-- The line and the column after some characters. A column counts bytes, and the next character
    counts as one if it is the one complained about. -/
def place (seen : List Char) (next : Option Char) : Nat × Nat :=
  let line := 1 + seen.count '\n'
  let column := (String.ofList (seen.reverse.takeWhile (· != '\n'))).utf8ByteSize
  match next with
  | none => (line, column)
  | some '\n' => (line + 1, 0)
  | some _ => (line, column + 1)

def Fault.text (fault : Fault) (cs : List Char) : String :=
  let seen := cs.take (cs.length - fault.left.length)
  let (line, column) := place seen (if fault.atNext then fault.left.head? else none)
  s!"{fault.complaint.text} at line {line} column {column}"

/-- The value of a text, or what is wrong with it in words. -/
def read (s : String) : Except String Json :=
  match readText s.toList with
  | .ok value => .ok value
  | .error fault => .error (fault.text s.toList)

end Courier.Json
