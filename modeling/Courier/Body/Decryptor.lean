import Courier.Aes.Keystream
import Courier.Body.Basic

/-!
Decrypting a body while it arrives. A body is base64 of an encrypted file, with blanks anywhere;
each piece is decoded as far as it completes quads, so that at most three characters wait for the
next piece. The first fault is the last thing that is given out.
-/

namespace Courier

/-- The state of decrypting a body. -/
structure Decryptor where
  stream : Aes.Keystream
  /-- The bytes that have been decrypted. -/
  position : Nat
  /-- Characters that complete no quad yet. -/
  pending : List UInt8
  /-- Whether the end or a fault has been given out. -/
  finished : Bool

namespace Decryptor

/-- The state in front of a body. -/
def start (stream : Aes.Keystream) : Decryptor := ⟨stream, 0, [], false⟩

/-- The blanks that may stand in a body: space, tab, line feed, form feed and carriage return. -/
def isBlankByte (b : UInt8) : Bool := b == 32 || b == 9 || b == 10 || b == 12 || b == 13

/-- Decodes and decrypts the first `count` of the waiting characters. -/
def decode (state : Decryptor) (count : Nat) : Piece × Decryptor :=
  match Base64.decode .optional (state.pending.take count) with
  | .ok bytes =>
    (.ok (state.stream.apply state.position bytes),
      { state with position := state.position + bytes.length, pending := state.pending.drop count })
  | .error fault => (.error (.malformed fault), { state with finished := true })

/-- Takes in the next piece, and gives out what it completes, if anything. -/
def feed (state : Decryptor) : Piece → Option Piece × Decryptor
  | .error fault => (some (.error fault), { state with finished := true })
  | .ok piece =>
    let state := { state with pending := state.pending ++ piece.filter (!isBlankByte ·) }
    let whole := state.pending.length / 4 * 4
    if whole = 0 then (none, state)
    else
      let (decoded, state) := state.decode whole
      (some decoded, state)

/-- Takes in the end, and gives out what is left, if anything. -/
def close (state : Decryptor) : Option Piece × Decryptor :=
  if state.pending.isEmpty then (none, { state with finished := true })
  else
    let (decoded, state) := state.decode state.pending.length
    (some decoded, { state with finished := true })

/-- Asks for the next decrypted piece, taking in only as much as completes one. -/
def poll (state : Decryptor) (ended : Bool) : Body → Polled × Decryptor × Body
  | [] =>
    if state.finished then (.ready none, state, [])
    else if ended then
      let (piece, state) := state.close
      (.ready piece, state, [])
    else (.pending, state, [])
  | piece :: rest =>
    if state.finished then (.ready none, state, piece :: rest)
    else match state.feed piece with
      | (some decrypted, state) => (.ready (some decrypted), state, rest)
      | (none, state) => poll state ended rest

/-- Takes in a whole body and its end: all decrypted pieces, and the state after them. -/
def drain (state : Decryptor) : Body → Body × Decryptor
  | [] =>
    if state.finished then ([], state)
    else
      let (piece, state) := state.close
      (piece.toList, state)
  | piece :: rest =>
    if state.finished then ([], state)
    else
      let (decrypted, state) := state.feed piece
      let (others, state) := state.drain rest
      (decrypted.toList ++ others, state)

end Decryptor

def Body.decrypted (stream : Aes.Keystream) (body : Body) : Body :=
  ((Decryptor.start stream).drain body).1

end Courier
