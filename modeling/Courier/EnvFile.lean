import Courier.Settings.Environment
import Courier.Text.Word

/-!
Files of environment variables. A line gives a name and, behind an equals sign, a value, which may
be quoted and may name other variables; a quoted value may run over several lines. A variable that
is set already keeps its value. The first line that cannot be read ends the reading; what stands
before it has taken effect.
-/

namespace Courier.EnvFile

/-- How a line stands at one of its characters. -/
inductive Mode where
  | plain
  | blank
  | escaped
  | single
  | singleEscaped
  | double
  | doubleEscaped
  | comment
  deriving DecidableEq, Repr

/-- The mode behind a character. A comment starts only behind a blank. -/
def Mode.next (mode : Mode) (c : Char) : Mode :=
  let opened : Mode :=
    if c = '\\' then .escaped else if c = '"' then .double else if c = '\'' then .single else .plain
  match mode with
  | .comment => .comment
  | .blank => if c = '#' then .comment else opened
  | .plain => if Text.isBlank c ∧ c ≠ '\n' ∧ c ≠ '\r' then .blank else opened
  | .escaped => .plain
  | .single => if c = '\\' then .singleEscaped else if c = '\'' then .plain else .single
  | .singleEscaped => .single
  | .double => if c = '\\' then .doubleEscaped else if c = '"' then .plain else .double
  | .doubleEscaped => .double

/-- The mode behind a text, and the text without a comment. -/
def scan (mode : Mode) : List Char → Mode × List Char
  | [] => (mode, [])
  | c :: cs =>
    let mode := mode.next c
    if mode = .comment then (.comment, [])
    else
      let (last, kept) := scan mode cs
      (last, c :: kept)

def dropLineEnd (cs : List Char) : List Char :=
  match cs.reverse with
  | '\n' :: '\r' :: rest => rest.reverse
  | '\n' :: rest => rest.reverse
  | _ => cs

def cutLines (line : List UInt8) : List UInt8 → List (List UInt8)
  | [] => if line.isEmpty then [] else [line.reverse]
  | b :: bs => if b = 10 then (b :: line).reverse :: cutLines [] bs else cutLines (b :: line) bs

/-- Joins lines that quotes hold together, behind the text that has been read. The last one is
    missing if it cannot be read or does not end. -/
def joinLines (before : List Char) (mode : Mode) : List (List UInt8) → List (Option (List Char))
  | [] => if mode = .plain then [] else [none]
  | line :: rest =>
    match String.fromUTF8? ⟨line.toArray⟩ with
    | none => [none]
    | some text =>
      let whole := before ++ text.toList
      if (whole.dropWhile Text.isBlank).head? = some '#' then joinLines [] .plain rest
      else match scan mode text.toList with
        | (.plain, _) => some (dropLineEnd whole) :: joinLines [] .plain rest
        | (.comment, kept) => some (before ++ kept) :: joinLines [] .plain rest
        | (mode, _) => joinLines whole mode rest

/-- What a value has been read as. -/
inductive Naming where
  | none
  /-- The name of a variable behind a dollar sign. -/
  | bare (name : List Char)
  /-- The name of a variable between braces. -/
  | braced (name : List Char)

/-- The reading of a value between two characters. -/
structure Reading where
  output : List Char
  inSingle : Bool
  inDouble : Bool
  escaped : Bool
  /-- Whether only blanks and a comment may follow. -/
  atEnd : Bool
  naming : Naming

/-- The values that names stand for: those of the environment, then those of the file. -/
def valueOf (env : Environment) (given : List (String × String)) (name : List Char) : List Char :=
  let name := String.ofList name
  ((env.raw? name).or (given.lookup name)).getD "" |>.toList

/-- Whether a character belongs to a name behind a dollar sign. -/
def isNameChar (c : Char) : Bool := c.isAlphanum || (128 ≤ c.toNat && Text.isWord c)

def unescape? (c : Char) : Option Char :=
  if c = '\\' ∨ c = '\'' ∨ c = '"' ∨ c = '$' ∨ c = ' ' then some c
  else if c = 'n' then some '\n'
  else none

/-- The value read where its text ends; an open brace or quote leaves none. -/
def Reading.finish? (value : List Char → List Char) (state : Reading) : Option String :=
  match state.naming with
  | .braced _ => none
  | naming =>
    if state.inSingle || state.inDouble then none
    else
      let last := match naming with
        | .bare name => value name.reverse
        | _ => []
      some (String.ofList (state.output.reverse ++ last))

def readValue? (value : List Char → List Char) (state : Reading) : List Char → Option String
  | [] => state.finish? value
  | c :: cs =>
    let put (state : Reading) (c : Char) : Reading := { state with output := c :: state.output }
    let insert (state : Reading) (name : List Char) : Reading :=
      { state with output := (value name.reverse).reverse ++ state.output }
    if state.atEnd then
      if c = ' ' ∨ c = '\t' then readValue? value state cs
      else if c = '#' then state.finish? value
      else none
    else if state.escaped then
      match unescape? c with
      | some meant => readValue? value { put state meant with escaped := false } cs
      | none => none
    else if state.inSingle then
      if c = '\'' then readValue? value { state with inSingle := false } cs
      else readValue? value (put state c) cs
    else match state.naming with
      | .bare name =>
        if isNameChar c then readValue? value { state with naming := .bare (c :: name) } cs
        else if c = '\x7b' ∧ name.isEmpty then
          readValue? value { state with naming := .braced [] } cs
        else if c = '$' then readValue? value { insert state name with naming := .bare [] } cs
        else readValue? value { put (insert state name) c with naming := .none } cs
      | .braced name =>
        if c = '\x7d' then readValue? value { insert state name with naming := .none } cs
        else readValue? value { state with naming := .braced (c :: name) } cs
      | .none =>
        if c = '$' then readValue? value { state with naming := .bare [] } cs
        else if state.inDouble then
          if c = '"' then readValue? value { state with inDouble := false } cs
          else if c = '\\' then readValue? value { state with escaped := true } cs
          else readValue? value (put state c) cs
        else if c = '\'' then readValue? value { state with inSingle := true } cs
        else if c = '"' then readValue? value { state with inDouble := true } cs
        else if c = '\\' then readValue? value { state with escaped := true } cs
        else if c = ' ' ∨ c = '\t' then readValue? value { state with atEnd := true } cs
        else readValue? value (put state c) cs

/-- The reading in front of a value. -/
def atStart : Reading := ⟨[], false, false, false, false, .none⟩

/-- A name at the start of a text, and what follows behind blanks. -/
def readName? : List Char → Option (String × List Char)
  | [] => none
  | c :: cs =>
    if c.isAlpha || c == '_' then
      let name := (c :: cs).takeWhile fun c => c.isAlphanum || c == '_' || c == '.'
      some (String.ofList name, ((c :: cs).drop name.length).dropWhile Text.isBlank)
    else none

/-- A name and the text behind its equals sign. The word `export` may stand in front. -/
def readAssignment? (cs : List Char) : Option (String × List Char) :=
  match readName? cs with
  | none => none
  | some (name, '=' :: rest) => some (name, rest)
  | some (name, rest) =>
    if name = "export" then
      match readName? rest with
      | some (name, '=' :: rest) => some (name, rest)
      | _ => none
    else none

/-- What a line says: nothing, or a name and its value. -/
inductive Line where
  | nothing
  | assigns (name value : String)
  | unreadable

def saysNothing (cs : List Char) : Bool := cs.isEmpty || cs.head? == some '#'

def readLine (env : Environment) (given : List (String × String)) (line : List Char) : Line :=
  let cs := Text.trimBlank line
  if saysNothing cs then .nothing
  else match readAssignment? cs with
    | none => .unreadable
    | some (name, rest) =>
      let rest := rest.dropWhile Text.isBlank
      if saysNothing rest then .assigns name ""
      else match readValue? (valueOf env given) atStart rest with
        | some value => .assigns name value
        | none => .unreadable

/-- Sets variables line by line; whether all lines could be read. -/
def loadLines (env : Environment) (given : List (String × String)) :
    List (Option (List Char)) → Environment × Bool
  | [] => (env, true)
  | none :: _ => (env, false)
  | some line :: rest =>
    match readLine env given line with
    | .unreadable => (env, false)
    | .nothing => loadLines env given rest
    | .assigns name value =>
      let env := if (env.raw? name).isSome then env else env.set name value.toUTF8
      loadLines env ((name, value) :: given) rest

/-- The content of a file without the mark that tells its encoding. -/
def dropMark : List UInt8 → List UInt8
  | 0xef :: 0xbb :: 0xbf :: rest => rest
  | bytes => bytes

/-- The environment with the variables of a file; whether the whole file could be read. -/
def load (env : Environment) (content : List UInt8) : Environment × Bool :=
  loadLines env [] (joinLines [] .plain (cutLines [] (dropMark content)))

end Courier.EnvFile
