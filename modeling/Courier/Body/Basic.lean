import Courier.Base64

/-!
Bodies: data that arrives in pieces, any of which may be a fault in its place.
-/

namespace Courier

inductive BodyFault where
  /-- The body could not be read on. -/
  | transport (text : String)
  | malformed (fault : Base64.Fault)
  deriving DecidableEq, Repr

def BodyFault.text : BodyFault → String
  | transport text => text
  | malformed fault => fault.text

abbrev Piece := Except BodyFault (List UInt8)

/-- A body that has arrived as a whole. -/
abbrev Body := List Piece

/-- The bytes of a body, or the first fault in it. -/
def Body.bytes : Body → Except BodyFault (List UInt8)
  | [] => .ok []
  | .error fault :: _ => .error fault
  | .ok piece :: rest => (bytes rest).map (piece ++ ·)

/-- A body as far as it has arrived. -/
structure Source where
  arrived : Body
  /-- Whether nothing follows what has arrived. -/
  ended : Bool

/-- What asking a body for its next piece gives. -/
inductive Polled where
  /-- The next piece, or the end. -/
  | ready (piece : Option Piece)
  /-- More has to arrive first. -/
  | pending

end Courier
