import Courier.Body.Material
import Courier.Proofs.Base64.Canonical
import Courier.Proofs.Text.Pieces

/-!
Usable material: a data key of a fitting length and, between blanks, the code of a block of sixteen
bytes. It gives the keystream of the key and the block, and all other material is refused. A code is
plain text without blanks, so that trimming leaves it as it is.
-/

namespace Courier

namespace Base64

/-- A code consists of symbols and `=`. -/
theorem mem_encode {b : UInt8} : ∀ {bytes : List UInt8}, b ∈ encode bytes →
    b = padByte ∨ ∃ v < 64, b = symbol v
  | [], h => by cases h
  | [a], h => by
    have ha := a.toNat_lt
    simp only [encode, List.mem_cons, List.not_mem_nil, or_false] at h
    obtain rfl | rfl | rfl | rfl := h
    · exact .inr ⟨_, by omega, rfl⟩
    · exact .inr ⟨_, by omega, rfl⟩
    · exact .inl rfl
    · exact .inl rfl
  | [a, b], h => by
    have ha := a.toNat_lt
    have hb := b.toNat_lt
    simp only [encode, List.mem_cons, List.not_mem_nil, or_false] at h
    obtain rfl | rfl | rfl | rfl := h
    · exact .inr ⟨_, by omega, rfl⟩
    · exact .inr ⟨_, by omega, rfl⟩
    · exact .inr ⟨_, by omega, rfl⟩
    · exact .inl rfl
  | a :: b :: c :: rest, h => by
    have ha := a.toNat_lt
    have hb := b.toNat_lt
    have hc := c.toNat_lt
    simp only [encode, List.mem_cons] at h
    obtain rfl | rfl | rfl | rfl | hrest := h
    · exact .inr ⟨_, by omega, rfl⟩
    · exact .inr ⟨_, by omega, rfl⟩
    · exact .inr ⟨_, by omega, rfl⟩
    · exact .inr ⟨_, by omega, rfl⟩
    · exact mem_encode hrest

end Base64

namespace Material

variable {material : Material}

theorem toList_eq_data (bs : ByteArray) : bs.toList = bs.data.toList := by
  have hloop (index : Nat) (read : List UInt8) :
      ByteArray.toList.loop bs index read = read.reverse ++ bs.data.toList.drop index := by
    fun_induction ByteArray.toList.loop bs index read with
    | case1 index read hlt ih =>
      have hindex : index < bs.data.toList.length := hlt
      have hget : bs.get! index = bs.data.toList[index] := getElem!_pos bs.data index hlt
      rw [ih, List.drop_eq_getElem_cons hindex, List.reverse_cons, List.append_assoc, hget]
      rfl
    | case2 index read hge =>
      rw [List.drop_eq_nil_of_le (Nat.not_lt.1 hge), List.append_nil]
  exact hloop 0 []

theorem bytesOf_eq (s : String) : bytesOf s = s.toList.flatMap String.utf8EncodeChar := by
  rw [bytesOf, toList_eq_data, String.toUTF8_eq_toByteArray, ← String.utf8Encode_toList,
    List.utf8Encode, List.toList_data_toByteArray]

theorem bytesOf_empty : bytesOf "" = [] := by
  rw [bytesOf_eq]
  rfl

theorem bytesOf_inj {s t : String} (h : bytesOf s = bytesOf t) : s = t := by
  rw [bytesOf, bytesOf, toList_eq_data, toList_eq_data] at h
  exact String.toByteArray_inj.1 (ByteArray.ext (Array.toList_inj.1 h))

theorem utf8EncodeChar_ofUInt8 {b : UInt8} (h : b < 128) :
    String.utf8EncodeChar (Char.ofUInt8 b) = [b] := by
  have hval : (Char.ofUInt8 b).val = b.toUInt32 := rfl
  have hsmall : (Char.ofUInt8 b).val ≤ 127 := by
    rw [hval, UInt32.le_iff_toNat_le, UInt8.toNat_toUInt32]
    exact Nat.le_of_lt_succ h
  rw [String.utf8EncodeChar_eq_singleton (Char.utf8Size_eq_one_iff.2 hsmall), hval,
    UInt8.toUInt8_toUInt32]

/-- The text with one character per byte. -/
theorem bytesOf_ascii {bs : List UInt8} (h : ∀ b ∈ bs, b < 128) :
    bytesOf (String.ofList (bs.map Char.ofUInt8)) = bs := by
  rw [bytesOf_eq, String.toList_ofList]
  induction bs with
  | nil => rfl
  | cons b bs ih =>
    obtain ⟨hb, hbs⟩ := List.forall_mem_cons.1 h
    rw [List.map_cons, List.flatMap_cons, ih hbs, utf8EncodeChar_ofUInt8 hb, List.singleton_append]

/-- The code of some bytes, as a text, has no blanks that could be trimmed. -/
theorem trim_code {code : String} {bytes : List UInt8} (h : bytesOf code = Base64.encode bytes) :
    Text.trim code = code := by
  have hbyte {b : UInt8} (hb : b ∈ Base64.encode bytes) :
      b < 128 ∧ Text.isBlank (Char.ofUInt8 b) = false := by
    obtain rfl | ⟨v, hv, rfl⟩ := Base64.mem_encode hb
    · decide
    · have hall : ∀ v : Fin 64, Base64.symbol v < 128 ∧
          Text.isBlank (Char.ofUInt8 (Base64.symbol v)) = false := by decide
      exact hall ⟨v, hv⟩
  have hcode : code = String.ofList ((Base64.encode bytes).map Char.ofUInt8) :=
    bytesOf_inj (h.trans (bytesOf_ascii fun b hb => (hbyte hb).1).symm)
  refine Text.trim_eq_self fun c hc => ?_
  rw [hcode, String.toList_ofList] at hc
  obtain ⟨b, hb, rfl⟩ := List.mem_map.1 hc
  exact (hbyte hb).2

/-- The text of the counter, without the blanks around it, is the code of this block. -/
def CodesBlock (material : Material) (block : List UInt8) : Prop :=
  block.length = 16 ∧ bytesOf (Text.trim material.counter) = Base64.encode block

/-- The data key has a fitting length, and the text of the counter is the code of a block. -/
def IsUsable (material : Material) : Prop :=
  (bytesOf material.dataKey).length ∈ [16, 24, 32] ∧ ∃ block, material.CodesBlock block

theorem CodesBlock.unique {block block' : List UInt8} (h : material.CodesBlock block)
    (h' : material.CodesBlock block') : block = block' :=
  Base64.encode_inj (h.2.symm.trans h'.2)

/-- Just the usable material gives a keystream, that of its key and its block. -/
theorem keystream_eq_ok_iff {stream : Aes.Keystream} : material.keystream = .ok stream ↔
    (bytesOf material.dataKey).length ∈ [16, 24, 32] ∧
      ∃ block, material.CodesBlock block ∧ stream = .ofKey (bytesOf material.dataKey) block := by
  have hfits : (bytesOf material.dataKey).length ∈ [16, 24, 32] ↔
      ¬ ((bytesOf material.dataKey).length ≠ 16 ∧ (bytesOf material.dataKey).length ≠ 24 ∧
        (bytesOf material.dataKey).length ≠ 32) := by
    simp only [List.mem_cons, List.not_mem_nil, or_false]
    omega
  rw [hfits]
  constructor
  · intro h
    rw [keystream] at h
    split at h
    · cases h
    · next block hdecode =>
      have hcode := Base64.decode_required_eq_ok_iff.1 hdecode
      split at h
      · cases h
      · next hkey =>
        split at h
        · cases h
        · next hlength =>
          have hblock : material.CodesBlock block := ⟨Classical.not_not.1 hlength, hcode⟩
          exact ⟨hkey, block, hblock, (Except.ok.inj h).symm⟩
  · rintro ⟨hkey, block, ⟨hlength, hcode⟩, rfl⟩
    have hdecode := Base64.decode_required_eq_ok_iff.2 hcode
    simp only [keystream, hdecode, if_neg hkey, if_neg (Classical.not_not.2 hlength)]

/-- A data key of a fitting length and the code of a counter of a fitting length are usable. -/
theorem keystream_of_code {counter : List UInt8}
    (hkey : (bytesOf material.dataKey).length ∈ [16, 24, 32]) (hlength : counter.length = 16)
    (hcode : bytesOf material.counter = Base64.encode counter) :
    material.keystream = .ok (.ofKey (bytesOf material.dataKey) counter) := by
  refine keystream_eq_ok_iff.2 ⟨hkey, counter, ⟨hlength, ?_⟩, rfl⟩
  rw [trim_code hcode, hcode]

/-- A usable material has a data key of 16, 24 or 32 bytes and an initial counter of 16. -/
theorem exists_counter {stream : Aes.Keystream} (h : material.keystream = .ok stream) :
    ∃ counter, Base64.decode .required (bytesOf (Text.trim material.counter)) = .ok counter ∧
      counter.length = 16 ∧ (bytesOf material.dataKey).length ∈ [16, 24, 32] ∧
      stream = .ofKey (bytesOf material.dataKey) counter := by
  obtain ⟨hkey, block, ⟨hlength, hcode⟩, hstream⟩ := keystream_eq_ok_iff.1 h
  exact ⟨block, Base64.decode_required_eq_ok_iff.2 hcode, hlength, hkey, hstream⟩

/-- Whatever is wrong with the material is a matter of decryption. -/
theorem kind_of_keystream {reason : Failure} (h : material.keystream = .error reason) :
    reason.kind = .decryption := by
  unfold keystream at h
  dsimp only at h
  split at h
  · cases h
    rfl
  · split at h
    · cases h
      rfl
    · split at h
      · cases h
        rfl
      · cases h

theorem exists_error_of_not_isUsable (h : ¬ material.IsUsable) :
    ∃ reason, material.keystream = .error reason := by
  cases hstream : material.keystream with
  | error reason => exact ⟨reason, rfl⟩
  | ok stream =>
    obtain ⟨hkey, block, hblock, -⟩ := keystream_eq_ok_iff.1 hstream
    exact absurd ⟨hkey, block, hblock⟩ h

theorem four_le_of_mem {length : Nat} (h : length ∈ [16, 24, 32]) : 4 ≤ length := by
  simp only [List.mem_cons, List.not_mem_nil, or_false] at h
  omega

end Material

end Courier
