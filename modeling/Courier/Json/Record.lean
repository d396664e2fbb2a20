import Courier.Json.Reading

/-!
Reading a record of texts from bytes. A record is an object that has each member of the record once,
and as a string; all its other members are passed over. An array stands for a record too, with the
strings of the members in their order. Only the strings that are kept have to be UTF-8, so the bytes
are read as characters with the same codes, and decoded where they are kept.
-/

namespace Courier.Json

/-- Bytes as the characters with the same codes. -/
def charsOf (bytes : List UInt8) : List Char := bytes.map Char.ofUInt8

/-- Reads a string behind its opening quote, as the bytes that it means. `fuel` bounds its
    characters. -/
def readBytes : Nat → List UInt8 → List Char → Except Fault (List UInt8 × List Char)
  | 0, _, _ => refuse .endInString []
  | _ + 1, _, [] => refuse .endInString []
  | fuel + 1, seen, c :: cs =>
    if c = '"' then .ok (seen, cs)
    else if c = '\\' then do
      let (meant, rest) ← readEscape true cs
      readBytes fuel (seen ++ String.utf8EncodeChar meant) rest
    else if c.toNat < 0x20 then refuse .controlCharacter cs
    else readBytes fuel (seen ++ [c.toUInt8]) cs

/-- Reads a string that is kept, behind its opening quote. -/
def readKept (cs : List Char) : Option (String × List Char) := do
  let (bytes, rest) ← (readBytes (cs.length + 1) [] cs).toOption
  let value ← String.fromUTF8? ⟨bytes.toArray⟩
  return (value, rest)

/-- Reads a value that has to be a string. -/
def readField (cs : List Char) : Option (String × List Char) :=
  match skipBlanks cs with
  | '"' :: rest => readKept rest
  | _ => none

/-- Reads the rest of an array with one string for each name. -/
def readListed : List String → List Char → Option (List (String × String) × List Char)
  | [], cs =>
    match skipBlanks cs with
    | ']' :: rest => some ([], rest)
    | _ => none
  | name :: names, cs => do
    let (value, rest) ← readField cs
    let rest ← match names, skipBlanks rest with
      | [], rest => some rest
      | _ :: _, ',' :: rest => some rest
      | _, _ => none
    let (values, rest) ← readListed names rest
    return ((name, value) :: values, rest)

/-- Reads the rest of an object behind the members that are kept so far. `fuel` bounds the members.
    -/
def readNamed (names : List String) : Nat → Bool → List (String × String) → List Char →
    Option (List (String × String) × List Char)
  | 0, _, _, _ => none
  | fuel + 1, first, kept, cs =>
    match skipBlanks cs with
    | [] => none
    | c :: rest =>
      if c = '\x7d' then some (kept, rest)
      else do
        let rest ←
          if first then some (c :: rest) else if c = ',' then some (skipBlanks rest) else none
        match rest with
        | '"' :: rest =>
          let (name, rest) ← readKept rest
          let rest ← (readColon rest).toOption
          if names.contains name then
            if (kept.lookup name).isSome then none
            else
              let (value, rest) ← readField rest
              readNamed names fuel false ((name, value) :: kept) rest
          else
            -- a value cannot nest deeper than it has characters
            let (_, rest) ← (readValue false rest.length (2 * rest.length + 2) rest).toOption
            readNamed names fuel false kept rest
        | _ => none

/-- The texts of a record, in the order of the names of its members. -/
def readRecord? (names : List String) (body : List UInt8) : Option (List String) := do
  let (values, rest) ← match skipBlanks (charsOf body) with
    | '[' :: rest => readListed names rest
    | '\x7b' :: rest => readNamed names (rest.length + 1) true [] rest
    | _ => none
  match skipBlanks rest with
  | [] => names.mapM fun name => values.lookup name
  | _ => none

end Courier.Json
