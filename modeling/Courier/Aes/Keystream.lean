import Courier.Aes.Block

/-!
The keystream of AES in counter mode. Block `i` of the stream is the encryption of the initial
counter plus `i`, a big-endian number of 128 bits that wraps; data is encrypted and decrypted by
adding the stream to it.
-/

namespace Courier.Aes

/-- The number that bytes write, the most significant byte first. -/
def bigEndian (bs : List UInt8) : Nat := bs.foldl (fun n b => 256 * n + b.toNat) 0

/-- The last `count` bytes of a number, the most significant first. -/
def toBigEndian : Nat → Nat → List UInt8
  | 0, _ => []
  | count + 1, n => toBigEndian count (n / 256) ++ [UInt8.ofNat n]

/-- A keystream: the round keys and the initial counter. -/
structure Keystream where
  keys : List (List UInt8)
  counter : Nat
  deriving DecidableEq, Repr

namespace Keystream

def ofKey (key block : List UInt8) : Keystream :=
  ⟨schedule key, bigEndian block⟩

/-- Block `index` of the stream. -/
def block (stream : Keystream) (index : Nat) : List UInt8 :=
  encryptBlock stream.keys (toBigEndian 16 ((stream.counter + index) % Nat.pow 2 128))

/-- `count` blocks of the stream from block `index` on. -/
def blocks (stream : Keystream) (index : Nat) : Nat → List UInt8
  | 0 => []
  | count + 1 => stream.block index ++ blocks stream (index + 1) count

/-- `count` bytes of the stream from byte `position` on. -/
def slice (stream : Keystream) (position count : Nat) : List UInt8 :=
  let covering := stream.blocks (position / 16) ((position % 16 + count + 15) / 16)
  (covering.drop (position % 16)).take count

/-- The data with the stream added, its first byte standing at `position`. -/
def apply (stream : Keystream) (position : Nat) (data : List UInt8) : List UInt8 :=
  xorBytes data (stream.slice position data.length)

end Keystream

end Courier.Aes
