import Courier.Proofs.Base64.Quantum

/-!
Encoding and decoding. Whatever bytes are encoded, decoding gives them back, and so it does where
the `=` at the end have been left out and may be.
-/

namespace Courier.Base64

variable {padding : Padding} {bytes : List UInt8}

theorem sextet?_symbol {v : Nat} (h : v < 64) : sextet? (symbol v) = some v := by
  have hall : ∀ v : Fin 64, sextet? (symbol v) = some v.val := by decide
  exact hall ⟨v, h⟩

theorem symbol_ne_padByte {v : Nat} (h : v < 64) : symbol v ≠ padByte :=
  ne_padByte_of_sextet? (sextet?_symbol h)

/-- The three bytes whose bits, one after another, make a number. -/
theorem quadBytes_of_bits (a b c : UInt8) :
    let bits := (a.toNat * 256 + b.toNat) * 256 + c.toNat
    quadBytes (bits / 262144) (bits / 4096 % 64) (bits / 64 % 64) (bits % 64) = [a, b, c] := by
  intro bits
  have ha := a.toNat_lt
  have hb := b.toNat_lt
  have hc := c.toNat_lt
  have hbits : ((bits / 262144 * 64 + bits / 4096 % 64) * 64 + bits / 64 % 64) * 64 + bits % 64 =
      bits := by omega
  simp only [quadBytes, hbits, List.cons.injEq, and_true, ← UInt8.toNat_inj, UInt8.toNat_ofNat']
  omega

theorem unpadded_cons {b : UInt8} (h : b ≠ padByte) (bs : List UInt8) :
    unpadded (b :: bs) = b :: unpadded bs := by
  unfold unpadded
  rw [List.reverse_cons, List.dropWhile_append]
  split
  · next hempty =>
    rw [List.isEmpty_iff.1 hempty]
    simp [h]
  · simp

/-- Symbols in front of a code add the bytes they stand for. -/
theorem decode_symbols_append {va vb vc vd : Nat} (ha : va < 64) (hb : vb < 64) (hc : vc < 64)
    (hd : vd < 64) {back : List UInt8} (h : decode padding back = .ok bytes) :
    decode padding (symbol va :: symbol vb :: symbol vc :: symbol vd :: back) =
      .ok (quadBytes va vb vc vd ++ bytes) := by
  have hspells : Spells [symbol va, symbol vb, symbol vc, symbol vd] [va, vb, vc, vd] := by
    simp [Spells, sextet?_symbol, ha, hb, hc, hd]
  have hpad := hspells.padByte_not_mem
  have hquad : decode padding [symbol va, symbol vb, symbol vc, symbol vd] =
      .ok (quadBytes va vb vc vd) := (decode_quad_eq_ok_iff hpad).2 ⟨va, vb, vc, vd, hspells, rfl⟩
  by_cases hback : back = []
  · subst hback
    obtain rfl : [] = bytes := Except.ok.inj (decode_nil.symm.trans h)
    rw [hquad, List.append_nil]
  · exact (decode_cons_eq_ok_iff hback).2 ⟨hpad, _, _, hquad, h, rfl⟩

section Ends

variable {pads : List UInt8} {va vb vc : Nat}

/-- Two symbols at the end are accepted if they are filled up, or need not be. -/
theorem decode_two_symbols (ha : va < 64) (hb : vb < 64)
    (hpads : pads = [padByte, padByte] ∨ pads = [] ∧ padding = .optional)
    (hbytes : partialBytes [va, vb] = (bytes, 0)) :
    decode padding (symbol va :: symbol vb :: pads) = .ok bytes := by
  rw [decode_eq_ok_iff]
  obtain rfl | ⟨rfl, rfl⟩ := hpads
  · rw [decodeFrom_quad, decodeLast_eq_ok_iff]
    refine ⟨[va, vb], symbol vb, 2, ?_, fun _ => Nat.le_refl 2, fun _ => by simp, hbytes⟩
    simp [scanLast, symbol_ne_padByte, sextet?_symbol, ha, hb]
  · rw [decodeFrom.eq_2 _ _ _ (by rintro _ _ _ _ _ _ ⟨⟩), decodeLast_eq_ok_iff]
    refine ⟨[va, vb], symbol vb, 0, ?_, fun _ => Nat.le_refl 2, by rintro ⟨⟩, hbytes⟩
    simp [scanLast, symbol_ne_padByte, sextet?_symbol, ha, hb]

/-- Three symbols at the end are accepted if they are filled up, or need not be. -/
theorem decode_three_symbols (ha : va < 64) (hb : vb < 64) (hc : vc < 64)
    (hpads : pads = [padByte] ∨ pads = [] ∧ padding = .optional)
    (hbytes : partialBytes [va, vb, vc] = (bytes, 0)) :
    decode padding (symbol va :: symbol vb :: symbol vc :: pads) = .ok bytes := by
  rw [decode_eq_ok_iff]
  obtain rfl | ⟨rfl, rfl⟩ := hpads
  · rw [decodeFrom_quad, decodeLast_eq_ok_iff]
    refine ⟨[va, vb, vc], symbol vc, 1, ?_, fun _ => Nat.le_succ 2, fun _ => by simp, hbytes⟩
    simp [scanLast, symbol_ne_padByte, sextet?_symbol, ha, hb, hc]
  · rw [decodeFrom.eq_2 _ _ _ (by rintro _ _ _ _ _ _ ⟨⟩), decodeLast_eq_ok_iff]
    refine ⟨[va, vb, vc], symbol vc, 0, ?_, fun _ => Nat.le_succ 2, by rintro ⟨⟩, hbytes⟩
    simp [scanLast, symbol_ne_padByte, sextet?_symbol, ha, hb, hc]

theorem partialBytes_of_one (a : UInt8) :
    let bits := a.toNat * 16
    partialBytes [bits / 64, bits % 64] = ([a], 0) := by
  intro bits
  have ha := a.toNat_lt
  simp only [partialBytes, Prod.mk.injEq, List.cons.injEq, and_true, ← UInt8.toNat_inj,
    UInt8.toNat_ofNat']
  omega

theorem partialBytes_of_two (a b : UInt8) :
    let bits := (a.toNat * 256 + b.toNat) * 4
    partialBytes [bits / 4096, bits / 64 % 64, bits % 64] = ([a, b], 0) := by
  intro bits
  have ha := a.toNat_lt
  have hb := b.toNat_lt
  simp only [partialBytes, Prod.mk.injEq, List.cons.injEq, and_true, ← UInt8.toNat_inj,
    UInt8.toNat_ofNat']
  omega

end Ends

/-- A text is the code of some bytes, with all the `=` it needs or, where they may be left out, with
    none. -/
def Encodes (padding : Padding) (code bytes : List UInt8) : Prop :=
  code = encode bytes ∨ padding = .optional ∧ code = unpadded (encode bytes)

theorem encodes_cons {code rest : List UInt8} {a b c : UInt8}
    (h : Encodes padding code (a :: b :: c :: rest)) :
    let bits := (a.toNat * 256 + b.toNat) * 256 + c.toNat
    ∃ back, Encodes padding back rest ∧
      code = symbol (bits / 262144) :: symbol (bits / 4096 % 64) :: symbol (bits / 64 % 64)
        :: symbol (bits % 64) :: back := by
  intro bits
  have ha := a.toNat_lt
  have hb := b.toNat_lt
  have hc := c.toNat_lt
  obtain rfl | ⟨rfl, rfl⟩ := h
  · exact ⟨_, .inl rfl, rfl⟩
  · refine ⟨_, .inr ⟨rfl, rfl⟩, ?_⟩
    rw [encode, unpadded_cons (symbol_ne_padByte (by omega)),
      unpadded_cons (symbol_ne_padByte (by omega)), unpadded_cons (symbol_ne_padByte (by omega)),
      unpadded_cons (symbol_ne_padByte (by omega))]

/-- The code of some bytes stands for them. -/
theorem decode_eq_of_encodes {code : List UInt8} :
    ∀ {bytes : List UInt8}, Encodes padding code bytes → decode padding code = .ok bytes
  | [], h => by
    obtain rfl | ⟨-, rfl⟩ := h <;> exact decode_nil
  | [a], h => by
    have ha := a.toNat_lt
    have hbytes := partialBytes_of_one a
    obtain rfl | ⟨rfl, rfl⟩ := h
    · exact decode_two_symbols (by omega) (by omega) (.inl rfl) hbytes
    · rw [encode, unpadded_cons (symbol_ne_padByte (by omega)),
        unpadded_cons (symbol_ne_padByte (by omega))]
      exact decode_two_symbols (by omega) (by omega) (.inr ⟨rfl, rfl⟩) hbytes
  | [a, b], h => by
    have ha := a.toNat_lt
    have hb := b.toNat_lt
    have hbytes := partialBytes_of_two a b
    obtain rfl | ⟨rfl, rfl⟩ := h
    · exact decode_three_symbols (by omega) (by omega) (by omega) (.inl rfl) hbytes
    · rw [encode, unpadded_cons (symbol_ne_padByte (by omega)),
        unpadded_cons (symbol_ne_padByte (by omega)), unpadded_cons (symbol_ne_padByte (by omega))]
      exact decode_three_symbols (by omega) (by omega) (by omega) (.inr ⟨rfl, rfl⟩) hbytes
  | a :: b :: c :: rest, h => by
    have ha := a.toNat_lt
    have hb := b.toNat_lt
    have hc := c.toNat_lt
    obtain ⟨back, hback, rfl⟩ := encodes_cons h
    have hrest := decode_eq_of_encodes hback
    rw [decode_symbols_append (by omega) (by omega) (by omega) (by omega) hrest, quadBytes_of_bits]
    rfl

end Courier.Base64
