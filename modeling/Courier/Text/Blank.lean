/-!
Blank characters, trimming and cutting at a separator. A character is blank when it has the Unicode
property White_Space. Text is handled as a list of characters here, and the functions on `String`
are these functions between `toList` and `ofList`.
-/

namespace Courier.Text

/-- The characters with the Unicode property White_Space. -/
def isBlank (c : Char) : Bool :=
  let n := c.toNat
  (0x09 ≤ n && n ≤ 0x0d) || n == 0x20 || n == 0x85 || n == 0xa0 || n == 0x1680
    || (0x2000 ≤ n && n ≤ 0x200a) || n == 0x2028 || n == 0x2029 || n == 0x202f || n == 0x205f
    || n == 0x3000

def dropBlankEnd (cs : List Char) : List Char :=
  (cs.reverse.dropWhile isBlank).reverse

/-- Drops the blanks at both ends. -/
def trimBlank (cs : List Char) : List Char :=
  dropBlankEnd (cs.dropWhile isBlank)

/-- The text without the blanks at its ends. -/
def trim (s : String) : String :=
  String.ofList (trimBlank s.toList)

/-- Cuts at every `separator`. There is always one piece more than there are separators, so the
    empty text is one empty piece. -/
def cut (separator : Char) : List Char → List (List Char)
  | [] => [[]]
  | c :: cs =>
    if c = separator then [] :: cut separator cs
    else match cut separator cs with
      | [] => [[c]]
      | piece :: pieces => (c :: piece) :: pieces

/-- The pieces of a text between commas, as they stand. -/
def commaPieces (s : String) : List String :=
  (cut ',' s.toList).map String.ofList

/-- The entries of a comma-separated list: trimmed, and without the empty ones. -/
def commaEntries (s : String) : List String :=
  ((commaPieces s).map trim).filter (fun entry => !entry.isEmpty)

/-- The text with `A` to `Z` in lower case. Every other character stays: the words this is compared
    with hold no letter that is the lower case of a character outside ASCII. -/
def lower (s : String) : String :=
  String.ofList (s.toList.map Char.toLower)

/-- The text without `ending`, if it ends so. -/
def dropEnding? (ending s : String) : Option String :=
  if ending.toList.isSuffixOf s.toList then
    some (String.ofList (s.toList.take (s.toList.length - ending.toList.length)))
  else none

def endsWith (ending s : String) : Bool :=
  ending.toList.isSuffixOf s.toList

def startsWith (start s : String) : Bool :=
  start.toList.isPrefixOf s.toList

/-- Replaces every occurrence of a non-empty `old`, scanning from the left and never looking at a
    character twice. An empty `old` replaces nothing. -/
def replaceChars (old new : List Char) : List Char → List Char
  | [] => []
  | c :: cs =>
    if old.isEmpty then c :: cs
    else if old.isPrefixOf (c :: cs) then
      new ++ replaceChars old new (cs.drop (old.length - 1))
    else c :: replaceChars old new cs
termination_by cs => cs.length
decreasing_by all_goals (simp only [List.length_cons, List.length_drop]; omega)

end Courier.Text
