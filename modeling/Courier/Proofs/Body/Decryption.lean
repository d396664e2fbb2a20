import Courier.Proofs.Body.Cutting
import Courier.Proofs.Body.Material
import Mathlib.Control.Monad.Basic

/-!
What comes out of a body that is asked for piece by piece, for any material a body can be decrypted
with: the whole code in counter mode if the body is a code, a fault as the last item if it reads as
none.
-/

namespace Courier

open Base64 (Fault IsCode isCode_iff_isOk padByte quantum)
open Aes (counterBlock counterMode)

namespace Sample

open Material

/-- A key of 16 bytes, and a counter between blanks that wraps behind its first block. -/
def wrapping : Material := ⟨"0123456789abcdef", " /////////////////////w==\n"⟩

def wrappingStream : Aes.Keystream :=
  .ofKey (bytesOf "0123456789abcdef") (List.replicate 16 255)

theorem keystream_wrapping : wrapping.keystream = .ok wrappingStream := by decide +kernel

/-- A code of the numbers up to 19 with blanks in it, not filled up, in pieces of all kinds. -/
def cutCode : List (List UInt8) :=
  ["AAE", "", "CAwQF BgcI", " \n", "CQoLDA0ODxARE", "hM"].map bytesOf

/-- Two codes, the first one cut. -/
def cutInside : List (List UInt8) := ["QQ=", "=QQ=="].map bytesOf

/-- Two codes, cut between them. -/
def cutBetween : List (List UInt8) := ["QQ==", "QQ=="].map bytesOf

end Sample

namespace Decryptor

open Material

variable {material : Material} {stream : Aes.Keystream} {pieces : List (List UInt8)}
  {bytes : List UInt8}

/-- A body that is a code as a whole is decrypted in counter mode, wherever it is cut. -/
theorem decrypted_of_code {key : List UInt8} (hkey : 4 ≤ key.length) (counter : List UInt8)
    (hcode : Base64.decode .optional (visible pieces.flatten) = .ok bytes) :
    ∃ items : List (List UInt8),
      Body.decrypted (.ofKey key counter) (pieces.map .ok) = items.map .ok ∧
        items.flatten = counterMode key counter bytes := by
  have hregular : (start (.ofKey key counter)).stream.Regular :=
    Aes.Keystream.regular_ofKey hkey counter
  obtain ⟨items, hitems, hflatten⟩ := drain_of_code hregular rfl hcode
  exact ⟨items, hitems, hflatten.trans (Aes.Keystream.apply_ofKey hkey counter bytes)⟩

/-- A body is all that a stored body gives if it is asked for piece by piece to its end, decrypted
    with some material; of a code it is the text in counter mode. -/
structure Decrypts (material : Material) (stored given : Body) : Prop where
  asked : ∃ stream last, material.keystream = .ok stream ∧ Gives (start stream) stored given last ∧
    last.finished = true
  plain : ∀ (pieces : List (List UInt8)) (bytes : List UInt8), stored = pieces.map .ok →
    Base64.decode .optional (visible pieces.flatten) = .ok bytes →
    ∃ (counter : List UInt8) (items : List (List UInt8)),
      Base64.decode .required (bytesOf (Text.trim material.counter)) = .ok counter ∧
      counter.length = 16 ∧ given = items.map .ok ∧
      items.flatten = counterMode (bytesOf material.dataKey) counter bytes

theorem decrypts_decrypted (hmaterial : material.keystream = .ok stream) (stored : Body) :
    Decrypts material stored (stored.decrypted stream) := by
  refine ⟨⟨stream, _, hmaterial, drain_gives _ stored, drain_finished _ _⟩, ?_⟩
  rintro pieces bytes rfl hcode
  obtain ⟨counter, hcounter, hlength, hkey, rfl⟩ := exists_counter hmaterial
  obtain ⟨items, hitems, hflatten⟩ := decrypted_of_code (four_le_of_mem hkey) counter hcode
  exact ⟨counter, items, hcounter, hlength, hitems, hflatten⟩

/-- A body that is a code as a whole is given out decrypted, wherever it is cut: without a fault, to
    its end, and byte by byte in counter mode. -/
theorem gives_of_code (hmaterial : material.keystream = .ok stream)
    (hcode : Base64.decode .optional (visible pieces.flatten) = .ok bytes) :
    ∃ counter, Base64.decode .required (bytesOf (Text.trim material.counter)) = .ok counter ∧
      counter.length = 16 ∧
      (∀ index, (counterBlock (bytesOf material.dataKey) counter index).length = 16) ∧
      ∃ (items : List (List UInt8)) (last : Decryptor),
        Gives (start stream) (pieces.map .ok) (items.map .ok) last ∧ last.finished = true ∧
        items.flatten = counterMode (bytesOf material.dataKey) counter bytes := by
  obtain ⟨counter, hcounter, hlength, hkey, rfl⟩ := exists_counter hmaterial
  have hkey' := four_le_of_mem hkey
  obtain ⟨items, hitems, hflatten⟩ := decrypted_of_code hkey' counter hcode
  have hgives := drain_gives (start (.ofKey (bytesOf material.dataKey) counter)) (pieces.map .ok)
  rw [← Body.decrypted, hitems] at hgives
  exact ⟨counter, hcounter, hlength, Aes.length_counterBlock hkey' counter, items, _, hgives,
    drain_finished _ _, hflatten⟩

theorem gives_of_code_wrapping :
    Sample.wrapping.keystream = .ok Sample.wrappingStream ∧
    Base64.decode .optional (visible Sample.cutCode.flatten) =
      .ok ((List.range 20).map UInt8.ofNat) ∧
    ∃ counter, Base64.decode .required (bytesOf (Text.trim Sample.wrapping.counter)) =
        .ok counter ∧
      counter.length = 16 ∧
      (∀ index, (counterBlock (bytesOf Sample.wrapping.dataKey) counter index).length = 16) ∧
      ∃ (items : List (List UInt8)) (last : Decryptor),
        Gives (start Sample.wrappingStream) (Sample.cutCode.map .ok) (items.map .ok) last ∧
        last.finished = true ∧
        items.flatten = counterMode (bytesOf Sample.wrapping.dataKey) counter
          ((List.range 20).map UInt8.ofNat) := by
  have hcode : Base64.decode .optional (visible Sample.cutCode.flatten) =
      .ok ((List.range 20).map UInt8.ofNat) := by decide +kernel
  exact ⟨Sample.keystream_wrapping, hcode, gives_of_code Sample.keystream_wrapping hcode⟩

/-- The items end with a fault for which the body is malformed, and there is no other. -/
def EndsMalformed (given : Body) : Prop :=
  ∃ (items : List (List UInt8)) (fault : Fault),
    given = items.map .ok ++ [.error (.malformed fault)]

theorem not_endsMalformed_map_ok (items : List (List UInt8)) : ¬ EndsMalformed (items.map .ok) := by
  rintro ⟨front, fault, hitems⟩
  have hmem : (.error (.malformed fault) : Piece) ∈ items.map .ok :=
    hitems ▸ List.mem_append_right _ (List.mem_singleton_self _)
  obtain ⟨item, -, hitem⟩ := List.mem_map.1 hmem
  cases hitem

theorem endsMalformed_drain_iff (stream : Aes.Keystream) (pieces : List (List UInt8)) :
    EndsMalformed ((start stream).drain (pieces.map .ok)).1 ↔ ¬ ReadsAsCodes [] pieces := by
  have hfinished : (start stream).finished = false := rfl
  obtain ⟨items, ⟨hreads, hitems⟩ | ⟨hreads, fault, hitems⟩⟩ :=
    drain_cases hfinished (Nat.zero_lt_succ 3) pieces
  · rw [hitems]
    exact iff_of_false (not_endsMalformed_map_ok items) (not_not_intro hreads)
  · exact iff_of_true ⟨items, fault, hitems⟩ hreads

/-- A body that is no code as a whole is rejected with a fault as the last item just if it does not
    read as codes one behind another, with a piece that ends in front of each. So it is, wherever it
    is cut, if no `=` stands in front of the last quantum. -/
theorem gives_malformed_iff (stream : Aes.Keystream) (hcode : ¬ IsCode (visible pieces.flatten)) :
    ∃ given last, Gives (start stream) (pieces.map .ok) given last ∧ last.finished = true ∧
      (EndsMalformed given ↔ ¬ ReadsAsCodes [] pieces) ∧
      ((∀ index, 4 * (index + 1) < (visible pieces.flatten).length →
        padByte ∉ quantum (visible pieces.flatten) index) → EndsMalformed given) := by
  have hends := endsMalformed_drain_iff stream pieces
  refine ⟨_, _, drain_gives _ _, drain_finished _ _, hends, fun hpads => hends.2 ?_⟩
  rintro ⟨hcodes, -⟩
  exact hcode ((Base64.isCode_iff _).2 ⟨hcodes, hpads⟩)

theorem gives_malformed_iff_cutInside :
    ¬ IsCode (visible Sample.cutInside.flatten) ∧ ∃ given last,
      Gives (start Sample.wrappingStream) (Sample.cutInside.map .ok) given last ∧
      last.finished = true ∧ EndsMalformed given := by
  have hcode : ¬ IsCode (visible Sample.cutInside.flatten) := by
    rw [isCode_iff_isOk]
    decide +kernel
  obtain ⟨given, last, hgives, hlast, hends, -⟩ := gives_malformed_iff Sample.wrappingStream hcode
  refine ⟨hcode, given, last, hgives, hlast, hends.2 ?_⟩
  rintro ⟨-, hborders⟩
  -- no piece ends behind the first of the two codes
  obtain ⟨_ | _ | count, hcount⟩ := hborders 0 (by decide +kernel) (by decide +kernel)
  · revert hcount
    decide +kernel
  · revert hcount
    decide +kernel
  · rw [List.take_of_length_le (Nat.le_add_left 2 count)] at hcount
    revert hcount
    decide +kernel

/-- Two codes one behind another are no code, and are given out without a fault if they are cut
    between them. -/
theorem gives_cutBetween :
    Sample.wrapping.keystream = .ok Sample.wrappingStream ∧
    ¬ IsCode (visible Sample.cutBetween.flatten) ∧
    ∀ given last, Gives (start Sample.wrappingStream) (Sample.cutBetween.map .ok) given last →
      given = [.ok [112], .ok [163]] ∧ last.finished = true := by
  refine ⟨Sample.keystream_wrapping, ?_, fun given last hgives => ?_⟩
  · rw [isCode_iff_isOk]
    decide +kernel
  · obtain ⟨rfl, rfl⟩ := hgives.eq (drain_gives _ _)
    exact ⟨by decide +kernel, drain_finished _ _⟩

end Decryptor

end Courier
