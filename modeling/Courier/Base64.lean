/-!
Standard base64. Four symbols, a quad, carry three bytes; a final quad may carry one or two bytes in
two or three symbols and may be filled up with `=`. Decoding refuses every text that is not exactly
such a code, with symbols whose spare bits are zero, and says where it first noticed.
-/

namespace Courier.Base64

/-- Whether `=` may be left out at the end. -/
inductive Padding where
  | required
  | optional
  deriving DecidableEq, Repr

/-- Why a text is no base64. Positions count bytes from zero. -/
inductive Fault where
  | symbol (byte : UInt8) (position : Nat)
  | length (symbols : Nat)
  | lastSymbol (byte : UInt8) (position : Nat)
  | padding
  deriving DecidableEq, Repr

def Fault.text : Fault → String
  | .symbol byte position => s!"Invalid symbol {byte.toNat}, offset {position}."
  | .length symbols => s!"Invalid input length: {symbols}"
  | .lastSymbol byte position => s!"Invalid last symbol {byte.toNat}, offset {position}."
  | .padding => "Invalid padding"

/-- The byte `=`. -/
def padByte : UInt8 := 61

/-- The six bits a symbol stands for: `A` to `Z`, `a` to `z`, `0` to `9`, `+` and `/`. -/
def sextet? (b : UInt8) : Option Nat :=
  let n := b.toNat
  if 65 ≤ n ∧ n ≤ 90 then some (n - 65)
  else if 97 ≤ n ∧ n ≤ 122 then some (n - 71)
  else if 48 ≤ n ∧ n ≤ 57 then some (n + 4)
  else if n = 43 then some 62
  else if n = 47 then some 63
  else none

/-- The symbol for six bits. -/
def symbol (v : Nat) : UInt8 :=
  if v < 26 then UInt8.ofNat (v + 65)
  else if v < 52 then UInt8.ofNat (v + 71)
  else if v < 62 then UInt8.ofNat (v - 4)
  else if v = 62 then 43
  else 47

/-- The three bytes of four symbols. -/
def quadBytes (a b c d : Nat) : List UInt8 :=
  let bits := ((a * 64 + b) * 64 + c) * 64 + d
  [UInt8.ofNat (bits / 65536), UInt8.ofNat (bits / 256), UInt8.ofNat bits]

/-- Decodes a quad in front of others, which holds symbols only. -/
def decodeQuad (position : Nat) (a b c d : UInt8) : Except Fault (List UInt8) :=
  match sextet? a, sextet? b, sextet? c, sextet? d with
  | none, _, _, _ => .error (.symbol a position)
  | some _, none, _, _ => .error (.symbol b (position + 1))
  | some _, some _, none, _ => .error (.symbol c (position + 2))
  | some _, some _, some _, none => .error (.symbol d (position + 3))
  | some a, some b, some c, some d => .ok (quadBytes a b c d)

/-- What the bytes of the last quad hold: its symbols' values and the number of `=` behind them.
    Nothing but `=` follows a `=`, and none stands before the third place. -/
def scanLast (start index : Nat) (values : List Nat) (last : UInt8) (padAt : Option Nat)
    (pads : Nat) : List UInt8 → Except Fault (List Nat × UInt8 × Nat)
  | [] => .ok (values, last, pads)
  | b :: bs =>
    if b = padByte then
      if index < 2 then .error (.symbol b (start + index))
      else scanLast start (index + 1) values last (some (padAt.getD index)) (pads + 1) bs
    else match padAt with
      | some first => .error (.symbol padByte (start + first))
      | none => match sextet? b with
        | none => .error (.symbol b (start + index))
        | some v => scanLast start (index + 1) (values ++ [v]) b none pads bs

/-- The bytes of two, three or four symbols, and the bits that are left over. -/
def partialBytes : List Nat → List UInt8 × Nat
  | [a, b] => ([UInt8.ofNat ((a * 64 + b) / 16)], (a * 64 + b) % 16)
  | [a, b, c] =>
    let bits := (a * 64 + b) * 64 + c
    ([UInt8.ofNat (bits / 1024), UInt8.ofNat (bits / 4)], bits % 4)
  | [a, b, c, d] => (quadBytes a b c d, 0)
  | _ => ([], 0)

/-- Decodes the last quad, of at most four bytes. -/
def decodeLast (padding : Padding) (start : Nat) (bs : List UInt8) : Except Fault (List UInt8) := do
  let (values, last, pads) ← scanLast start 0 [] 0 none 0 bs
  if bs ≠ [] ∧ values.length < 2 then
    throw (.length (start + values.length))
  if padding = .required ∧ (pads + values.length) % 4 ≠ 0 then
    throw .padding
  let (bytes, spare) := partialBytes values
  if spare ≠ 0 then
    throw (.lastSymbol last (start + values.length - 1))
  return bytes

/-- Decodes quad by quad from `position` on; the last one, whole or not, ends the code. -/
def decodeFrom (padding : Padding) (position : Nat) : List UInt8 → Except Fault (List UInt8)
  | a :: b :: c :: d :: e :: rest => do
    let bytes ← decodeQuad position a b c d
    let others ← decodeFrom padding (position + 4) (e :: rest)
    return bytes ++ others
  | bs => decodeLast padding position bs

/-- A single byte behind whole quads can be no code. It is looked at first. -/
def strayByte? (bs : List UInt8) : Option Fault :=
  if bs.length % 4 = 1 then
    bs.getLast?.bind fun b =>
      if b = padByte ∨ (sextet? b).isSome then none else some (.symbol b (bs.length - 1))
  else none

/-- The bytes a code stands for. -/
def decode (padding : Padding) (bs : List UInt8) : Except Fault (List UInt8) :=
  match strayByte? bs with
  | some fault => .error fault
  | none => decodeFrom padding 0 bs

/-- The code of some bytes, filled up with `=`. -/
def encode : List UInt8 → List UInt8
  | [] => []
  | [a] =>
    let bits := a.toNat * 16
    [symbol (bits / 64), symbol (bits % 64), padByte, padByte]
  | [a, b] =>
    let bits := (a.toNat * 256 + b.toNat) * 4
    [symbol (bits / 4096), symbol (bits / 64 % 64), symbol (bits % 64), padByte]
  | a :: b :: c :: rest =>
    let bits := (a.toNat * 256 + b.toNat) * 256 + c.toNat
    symbol (bits / 262144) :: symbol (bits / 4096 % 64) :: symbol (bits / 64 % 64)
      :: symbol (bits % 64) :: encode rest

/-- The code without the `=` at its end. -/
def unpadded (code : List UInt8) : List UInt8 :=
  (code.reverse.dropWhile (· == padByte)).reverse

end Courier.Base64
