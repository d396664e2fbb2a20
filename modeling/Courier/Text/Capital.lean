import Courier.Text.CapitalTable

/-!
Capitalising a text: its first character is replaced by its upper case, which may be several
characters.
-/

namespace Courier.Text

/-- The upper case of a character; a character without one is its own. -/
def upperCase (c : Char) : List Char :=
  let n := c.toNat
  match capitalSequences.lookup n with
  | some letters => letters.map Char.ofNat
  | none =>
    let holds (run : CapitalRun) : Bool :=
      run.first ≤ n && n ≤ run.last && (n - run.first) % run.step == 0
    match capitalRuns.find? holds with
    | some run => [Char.ofNat (n + run.shift).toNat]
    | none => [c]

/-- The text with its first character in upper case. -/
def capitalise (s : String) : String :=
  match s.toList with
  | [] => ""
  | c :: cs => String.ofList (upperCase c ++ cs)

end Courier.Text
