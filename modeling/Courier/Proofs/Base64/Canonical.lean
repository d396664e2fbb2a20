import Courier.Proofs.Base64.RoundTrip

/-!
The codes that are accepted. Where the `=` at the end are required, decoding accepts exactly the
codes of the encoder, one for each sequence of bytes: no other padding, no spare bit that is set.
-/

namespace Courier.Base64

variable {bs bytes : List UInt8} {values : List Nat}

theorem lt_of_sextet? {b : UInt8} {v : Nat} (h : sextet? b = some v) : v < 64 ∧ symbol v = b := by
  have hall : ∀ n : Fin 256, ∀ v ∈ sextet? (UInt8.ofNat n), v < 64 ∧ symbol v = UInt8.ofNat n := by
    decide +kernel
  have hb := hall ⟨b.toNat, b.toNat_lt⟩ v
  rw [UInt8.ofNat_toNat] at hb
  exact hb h

/-- Symbols are those of their values. -/
theorem eq_map_symbol_of_spells (h : Spells bs values) :
    bs = values.map symbol ∧ ∀ v ∈ values, v < 64 := by
  induction bs generalizing values with
  | nil =>
    obtain rfl : values = [] := List.map_eq_nil_iff.1 h.symm
    exact ⟨rfl, nofun⟩
  | cons b bs ih =>
    cases values with
    | nil => cases h
    | cons v values =>
      obtain ⟨hv, hspells⟩ := List.cons.inj h
      obtain ⟨hless, hsymbol⟩ := lt_of_sextet? hv
      obtain ⟨hmap, hall⟩ := ih hspells
      refine ⟨?_, List.forall_mem_cons.2 ⟨hless, hall⟩⟩
      rw [List.map_cons, hsymbol, ← hmap]

section LastQuad

variable {start index : Nat} {last : UInt8} {pads : Nat} {scanned : List Nat × UInt8 × Nat}

/-- Behind a `=` nothing but `=` is accepted. -/
theorem eq_replicate_of_scanLast {first : Nat}
    (h : scanLast start index values last (some first) pads bs = .ok scanned) :
    bs = List.replicate bs.length padByte ∧ scanned.1 = values ∧
      scanned.2.2 = pads + bs.length := by
  induction bs generalizing index pads with
  | nil =>
    cases h
    exact ⟨rfl, rfl, rfl⟩
  | cons b bs ih =>
    rw [scanLast] at h
    by_cases hb : b = padByte
    · rw [if_pos hb] at h
      split at h
      · cases h
      · obtain ⟨hpads, hvalues, hcount⟩ := ih h
        refine ⟨?_, hvalues, ?_⟩
        · rw [List.length_cons, List.replicate_succ, ← hpads, hb]
        · rw [hcount, List.length_cons]
          omega
    · rw [if_neg hb] at h
      cases h

/-- A last quad that is accepted consists of symbols and the `=` behind them. -/
theorem exists_of_scanLast
    (h : scanLast start index values last none pads bs = .ok scanned) :
    ∃ more count, bs = more.map symbol ++ List.replicate count padByte ∧ (∀ v ∈ more, v < 64) ∧
      scanned.1 = values ++ more ∧ scanned.2.2 = pads + count := by
  induction bs generalizing index values last with
  | nil =>
    cases h
    exact ⟨[], 0, rfl, nofun, (List.append_nil _).symm, rfl⟩
  | cons b bs ih =>
    by_cases hb : b = padByte
    · refine ⟨[], bs.length + 1, ?_⟩
      rw [scanLast, if_pos hb] at h
      split at h
      · cases h
      · obtain ⟨hpads, hvalues, hcount⟩ := eq_replicate_of_scanLast h
        refine ⟨?_, nofun, by rw [hvalues, List.append_nil], by omega⟩
        rw [List.map_nil, List.nil_append, List.replicate_succ, ← hpads, hb]
    · rw [scanLast, if_neg hb] at h
      cases hv : sextet? b with
      | none =>
        simp only [hv] at h
        cases h
      | some v =>
        simp only [hv] at h
        obtain ⟨hless, hsymbol⟩ := lt_of_sextet? hv
        obtain ⟨more, count, hbs, hall, hvalues, hcount⟩ := ih h
        refine ⟨v :: more, count, ?_, List.forall_mem_cons.2 ⟨hless, hall⟩, ?_, hcount⟩
        · rw [hbs, List.map_cons, List.cons_append, hsymbol]
        · rw [hvalues, List.append_assoc, List.singleton_append]

end LastQuad

section Inverse

variable {va vb vc vd : Nat}

/-- Encoding the bytes of four symbols gives the symbols. -/
theorem encode_quadBytes_append (ha : va < 64) (hb : vb < 64) (hc : vc < 64) (hd : vd < 64)
    (rest : List UInt8) : encode (quadBytes va vb vc vd ++ rest) =
      symbol va :: symbol vb :: symbol vc :: symbol vd :: encode rest := by
  have hless : ((va * 64 + vb) * 64 + vc) * 64 + vd < 16777216 := by omega
  have hva : (((va * 64 + vb) * 64 + vc) * 64 + vd) / 262144 = va := by omega
  have hvb : (((va * 64 + vb) * 64 + vc) * 64 + vd) / 4096 % 64 = vb := by omega
  have hvc : (((va * 64 + vb) * 64 + vc) * 64 + vd) / 64 % 64 = vc := by omega
  have hvd : (((va * 64 + vb) * 64 + vc) * 64 + vd) % 64 = vd := by omega
  unfold quadBytes
  generalize ((va * 64 + vb) * 64 + vc) * 64 + vd = bits at *
  have hbits : ((UInt8.ofNat (bits / 65536)).toNat * 256 + (UInt8.ofNat (bits / 256)).toNat) * 256 +
      (UInt8.ofNat bits).toNat = bits := by
    simp only [UInt8.toNat_ofNat']
    omega
  simp only [List.cons_append, List.nil_append, encode, hbits, hva, hvb, hvc, hvd]

theorem encode_of_three_symbols (ha : va < 64) (hb : vb < 64) (hc : vc < 64)
    (h : partialBytes [va, vb, vc] = (bytes, 0)) :
    encode bytes = [symbol va, symbol vb, symbol vc, padByte] := by
  obtain ⟨rfl, hspare⟩ := Prod.mk.inj h
  have hless : (va * 64 + vb) * 64 + vc < 262144 := by omega
  have hva : ((va * 64 + vb) * 64 + vc) / 4096 = va := by omega
  have hvb : ((va * 64 + vb) * 64 + vc) / 64 % 64 = vb := by omega
  have hvc : ((va * 64 + vb) * 64 + vc) % 64 = vc := by omega
  generalize (va * 64 + vb) * 64 + vc = bits at *
  have hbits : ((UInt8.ofNat (bits / 1024)).toNat * 256 + (UInt8.ofNat (bits / 4)).toNat) * 4 =
      bits := by
    simp only [UInt8.toNat_ofNat']
    omega
  simp only [encode, hbits, hva, hvb, hvc]

theorem encode_of_two_symbols (ha : va < 64) (hb : vb < 64)
    (h : partialBytes [va, vb] = (bytes, 0)) :
    encode bytes = [symbol va, symbol vb, padByte, padByte] := by
  obtain ⟨rfl, hspare⟩ := Prod.mk.inj h
  have hless : va * 64 + vb < 4096 := by omega
  have hva : (va * 64 + vb) / 64 = va := by omega
  have hvb : (va * 64 + vb) % 64 = vb := by omega
  generalize va * 64 + vb = bits at *
  have hbits : (UInt8.ofNat (bits / 16)).toNat * 16 = bits := by
    simp only [UInt8.toNat_ofNat']
    omega
  simp only [encode, hbits, hva, hvb]

end Inverse

/-- A last quad with all its `=` is the code of its bytes. -/
theorem eq_encode_of_decodeLast {start : Nat} (hshort : bs.length ≤ 4)
    (h : decodeLast .required start bs = .ok bytes) : bs = encode bytes := by
  by_cases hnil : bs = []
  · subst hnil
    cases h
    rfl
  obtain ⟨values, last, pads, hscan, hfew, hfull, hbytes⟩ := decodeLast_eq_ok_iff.1 h
  obtain ⟨more, count, hbs, hless, hvalues, hcount⟩ := exists_of_scanLast hscan
  obtain rfl : values = more := hvalues
  obtain rfl : pads = count := hcount.trans (Nat.zero_add count)
  have htwo := hfew hnil
  have hwhole := hfull rfl
  have hlength : values.length + pads = 4 := by
    have hsum := congrArg List.length hbs
    rw [List.length_append, List.length_map, List.length_replicate] at hsum
    omega
  rw [hbs]
  match values, htwo, hlength with
  | [va, vb], _, hlength =>
    obtain rfl : pads = 2 := Nat.add_left_cancel hlength
    obtain ⟨ha, hb⟩ : va < 64 ∧ vb < 64 := by simpa using hless
    rw [encode_of_two_symbols ha hb hbytes]
    rfl
  | [va, vb, vc], _, hlength =>
    obtain rfl : pads = 1 := Nat.add_left_cancel hlength
    obtain ⟨ha, hb, hc⟩ : va < 64 ∧ vb < 64 ∧ vc < 64 := by simpa using hless
    rw [encode_of_three_symbols ha hb hc hbytes]
    rfl
  | [va, vb, vc, vd], _, hlength =>
    obtain rfl : pads = 0 := Nat.add_left_cancel hlength
    obtain ⟨ha, hb, hc, hd⟩ : va < 64 ∧ vb < 64 ∧ vc < 64 ∧ vd < 64 := by simpa using hless
    obtain rfl : quadBytes va vb vc vd = bytes := congrArg Prod.fst hbytes
    rw [← List.append_nil (quadBytes va vb vc vd), encode_quadBytes_append ha hb hc hd]
    rfl
  | va :: vb :: vc :: vd :: ve :: more, _, hlength =>
    simp only [List.length_cons] at hlength
    omega

theorem eq_encode_of_decodeFrom {position : Nat}
    (h : decodeFrom .required position bs = .ok bytes) : bs = encode bytes := by
  induction position, bs using decodeFrom.induct generalizing bytes with
  | case1 position a b c d e rest ih =>
    rw [decodeFrom.eq_1, bind_eq_ok_iff] at h
    obtain ⟨first, hfirst, h⟩ := h
    obtain ⟨second, hsecond, h⟩ := bind_eq_ok_iff.1 h
    obtain rfl : first ++ second = bytes := Except.ok.inj h
    obtain ⟨va, vb, vc, vd, hspells, rfl⟩ := decodeQuad_eq_ok_iff.1 hfirst
    obtain ⟨hquad, hless⟩ := eq_map_symbol_of_spells hspells
    obtain ⟨ha, hb, hc, hd⟩ : va < 64 ∧ vb < 64 ∧ vc < 64 ∧ vd < 64 := by simpa using hless
    obtain ⟨rfl, rfl, rfl, rfl⟩ : a = symbol va ∧ b = symbol vb ∧ c = symbol vc ∧ d = symbol vd := by
      simpa using hquad
    rw [encode_quadBytes_append ha hb hc hd, ← ih hsecond]
  | case2 position bs hshort =>
    rw [decodeFrom.eq_2 _ _ _ hshort] at h
    apply eq_encode_of_decodeLast _ h
    obtain _ | ⟨a, _ | ⟨b, _ | ⟨c, _ | ⟨d, _ | ⟨e, rest⟩⟩⟩⟩⟩ := bs
    · simp
    · simp
    · simp
    · simp
    · simp
    · exact (hshort a b c d e rest rfl).elim

/-- A text with all its `=` is accepted just if it is the code of the bytes it stands for. -/
theorem decode_required_eq_ok_iff : decode .required bs = .ok bytes ↔ bs = encode bytes := by
  constructor
  · intro h
    exact eq_encode_of_decodeFrom (decode_eq_ok_iff.1 h)
  · intro h
    exact decode_eq_of_encodes (.inl h)

theorem encode_inj {bytes bytes' : List UInt8} (h : encode bytes = encode bytes') :
    bytes = bytes' := by
  have hcode := decode_required_eq_ok_iff.2 h
  rw [decode_required_eq_ok_iff.2 rfl] at hcode
  exact Except.ok.inj hcode

end Courier.Base64
