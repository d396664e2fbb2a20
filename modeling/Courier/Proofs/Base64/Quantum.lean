import Courier.Base64
import Courier.Proofs.Fallible

/-!
The quanta of a base64 text. A text is a code just if each of its quanta is one by itself and no `=`
stands in front of the last quantum, so a code may be decoded in pieces of whole quanta.
-/

namespace Courier.Base64

variable {padding : Padding} {front back bs bytes : List UInt8}

/-- The text is a code, at whose end `=` may be left out. -/
def IsCode (bs : List UInt8) : Prop := ∃ bytes, decode .optional bs = .ok bytes

theorem isCode_iff_isOk (bs : List UInt8) : IsCode bs ↔ (decode .optional bs).isOk := by
  unfold IsCode
  cases decode .optional bs with
  | ok bytes => exact ⟨fun _ => rfl, fun _ => ⟨bytes, rfl⟩⟩
  | error fault => exact ⟨nofun, nofun⟩

theorem not_isCode_of_error {fault : Fault} (h : decode .optional bs = .error fault) :
    ¬ IsCode bs := by
  rintro ⟨bytes, hbytes⟩
  cases hbytes.symm.trans h

/-- Four bytes of a text, or what is left of them at its end. -/
def quantum (bs : List UInt8) (index : Nat) : List UInt8 := (bs.drop (4 * index)).take 4

section Symbols

theorem ne_padByte_of_sextet? {b : UInt8} {v : Nat} (h : sextet? b = some v) : b ≠ padByte := by
  rintro rfl
  cases h

/-- The text consists of symbols with the given values. -/
def Spells (bs : List UInt8) (values : List Nat) : Prop := bs.map sextet? = values.map some

theorem Spells.padByte_not_mem {values : List Nat} (h : Spells bs values) : padByte ∉ bs := by
  intro hpad
  have hmem : sextet? padByte ∈ values.map some := h ▸ List.mem_map.2 ⟨_, hpad, rfl⟩
  obtain ⟨v, -, hv⟩ := List.mem_map.1 hmem
  cases hv

end Symbols

section Faults

/-- Where a last quad starts matters only to the faults in it. -/
theorem scanLast_eq_ok {start : Nat} (start' : Nat) {index : Nat} {values : List Nat} {last : UInt8}
    {padAt : Option Nat} {pads : Nat} {scanned : List Nat × UInt8 × Nat}
    (h : scanLast start index values last padAt pads bs = .ok scanned) :
    scanLast start' index values last padAt pads bs = .ok scanned := by
  fun_induction scanLast start index values last padAt pads bs with
  | case1 => exact h
  | case2 | case4 | case5 => cases h
  | case3 index values last padAt pads bs hindex ih =>
    unfold scanLast
    rw [if_pos rfl, if_neg hindex]
    exact ih h
  | case6 index values last pads b bs hb v hv ih =>
    rw [scanLast, if_neg hb]
    simp only [hv]
    exact ih h

/-- A last quad without `=` is accepted only if it holds symbols. -/
theorem spells_of_scanLast {start index : Nat} {values : List Nat} {last : UInt8} {pads : Nat}
    {scanned : List Nat × UInt8 × Nat} (hpad : padByte ∉ bs)
    (h : scanLast start index values last none pads bs = .ok scanned) :
    ∃ more, Spells bs more ∧ scanned.1 = values ++ more ∧ scanned.2.2 = pads := by
  induction bs generalizing index values last with
  | nil =>
    cases h
    exact ⟨[], rfl, (List.append_nil _).symm, rfl⟩
  | cons b bs ih =>
    have hb : b ≠ padByte := fun heq => hpad (heq ▸ List.mem_cons_self)
    rw [scanLast, if_neg hb] at h
    cases hv : sextet? b with
    | none =>
      simp only [hv] at h
      cases h
    | some v =>
      simp only [hv] at h
      obtain ⟨more, hspells, hvalues, hpads⟩ :=
        ih (fun hmem => hpad (List.mem_cons_of_mem b hmem)) h
      refine ⟨v :: more, ?_, ?_, hpads⟩
      · rw [Spells, List.map_cons, List.map_cons, hspells, hv]
      · rw [hvalues, List.append_assoc, List.singleton_append]

/-- Symbols are scanned to their values. -/
theorem scanLast_of_spells (start : Nat) {index : Nat} {values more : List Nat} {last : UInt8}
    {pads : Nat} (h : Spells bs more) :
    ∃ last', scanLast start index values last none pads bs = .ok (values ++ more, last', pads) := by
  induction bs generalizing index values more last with
  | nil =>
    obtain rfl : more = [] := List.map_eq_nil_iff.1 h.symm
    exact ⟨last, by rw [List.append_nil]; rfl⟩
  | cons b bs ih =>
    cases more with
    | nil => cases h
    | cons v more =>
      obtain ⟨hv, hspells⟩ := List.cons.inj h
      obtain ⟨last', hscan⟩ : ∃ last', scanLast start (index + 1) (values ++ [v]) b none pads bs =
          .ok (values ++ [v] ++ more, last', pads) := ih hspells
      refine ⟨last', ?_⟩
      rw [scanLast, if_neg (ne_padByte_of_sextet? hv)]
      simp only [hv]
      rw [hscan, List.append_assoc, List.singleton_append]

/-- When a last quad is accepted, and what it then stands for. -/
theorem decodeLast_eq_ok_iff {start : Nat} :
    decodeLast padding start bs = .ok bytes ↔
      ∃ values last pads, scanLast start 0 [] 0 none 0 bs = .ok (values, last, pads) ∧
        (bs ≠ [] → 2 ≤ values.length) ∧
        (padding = .required → (pads + values.length) % 4 = 0) ∧
        partialBytes values = (bytes, 0) := by
  unfold decodeLast
  rw [bind_eq_ok_iff]
  constructor
  · rintro ⟨⟨values, last, pads⟩, hscan, h⟩
    refine ⟨values, last, pads, hscan, ?_⟩
    dsimp only at h
    by_cases hlength : bs ≠ [] ∧ values.length < 2
    · rw [if_pos hlength] at h
      cases h
    by_cases hpadding : padding = .required ∧ (pads + values.length) % 4 ≠ 0
    · rw [if_neg hlength, if_pos hpadding] at h
      cases h
    by_cases hspare : (partialBytes values).2 ≠ 0
    · rw [if_neg hlength, if_neg hpadding, if_pos hspare] at h
      cases h
    rw [if_neg hlength, if_neg hpadding, if_neg hspare] at h
    cases h
    refine ⟨fun hbs => ?_, fun hrequired => ?_, Prod.ext rfl (Decidable.not_not.1 hspare)⟩
    · exact Nat.not_lt.1 fun hfew => hlength ⟨hbs, hfew⟩
    · exact Decidable.not_not.1 fun hrest => hpadding ⟨hrequired, hrest⟩
  · rintro ⟨values, last, pads, hscan, hlength, hpadding, hvalue⟩
    refine ⟨_, hscan, ?_⟩
    dsimp only
    rw [if_neg fun h => Nat.not_lt.2 (hlength h.1) h.2, if_neg fun h => h.2 (hpadding h.1), hvalue]
    rfl

theorem decodeLast_eq_ok {start : Nat} (start' : Nat)
    (h : decodeLast padding start bs = .ok bytes) : decodeLast padding start' bs = .ok bytes := by
  obtain ⟨values, last, pads, hscan, hrest⟩ := decodeLast_eq_ok_iff.1 h
  exact decodeLast_eq_ok_iff.2 ⟨values, last, pads, scanLast_eq_ok start' hscan, hrest⟩

theorem decodeQuad_eq_ok_iff {position : Nat} {a b c d : UInt8} :
    decodeQuad position a b c d = .ok bytes ↔
      ∃ va vb vc vd, Spells [a, b, c, d] [va, vb, vc, vd] ∧ bytes = quadBytes va vb vc vd := by
  unfold decodeQuad
  split
  · next ha => simp [Spells, ha]
  · next hb => simp [Spells, hb]
  · next hc => simp [Spells, hc]
  · next hd => simp [Spells, hd]
  · next va vb vc vd ha hb hc hd =>
    simp only [Spells, List.map_cons, List.map_nil, ha, hb, hc, hd, Except.ok.injEq]
    constructor
    · rintro rfl
      exact ⟨va, vb, vc, vd, rfl, rfl⟩
    · rintro ⟨_, _, _, _, ⟨⟩, rfl⟩
      rfl

theorem decodeFrom_quad (position : Nat) (a b c d : UInt8) :
    decodeFrom padding position [a, b, c, d] = decodeLast padding position [a, b, c, d] := by
  rw [decodeFrom.eq_2]
  rintro _ _ _ _ _ _ ⟨⟩

theorem decodeFrom_cons (position : Nat) (a b c d : UInt8) (hback : back ≠ []) :
    decodeFrom padding position (a :: b :: c :: d :: back) = (do
      let bytes ← decodeQuad position a b c d
      let others ← decodeFrom padding (position + 4) back
      return bytes ++ others) := by
  cases back with
  | nil => exact absurd rfl hback
  | cons e rest => rw [decodeFrom.eq_1]

theorem decodeFrom_eq_ok {position : Nat} (position' : Nat)
    (h : decodeFrom padding position bs = .ok bytes) :
    decodeFrom padding position' bs = .ok bytes := by
  induction position, bs using decodeFrom.induct generalizing position' bytes with
  | case1 position a b c d e rest ih =>
    rw [decodeFrom.eq_1, bind_eq_ok_iff] at h ⊢
    obtain ⟨first, hfirst, h⟩ := h
    obtain ⟨second, hsecond, h⟩ := bind_eq_ok_iff.1 h
    refine ⟨first, decodeQuad_eq_ok_iff.2 (decodeQuad_eq_ok_iff.1 hfirst), ?_⟩
    exact bind_eq_ok_iff.2 ⟨second, ih _ hsecond, h⟩
  | case2 position bs hshort =>
    rw [decodeFrom.eq_2 _ _ _ hshort] at h ⊢
    exact decodeLast_eq_ok position' h

theorem scanLast_length_le {start index : Nat} {values : List Nat} {last : UInt8}
    {padAt : Option Nat} {pads : Nat} {scanned : List Nat × UInt8 × Nat}
    (h : scanLast start index values last padAt pads bs = .ok scanned) :
    scanned.1.length ≤ values.length + bs.length := by
  fun_induction scanLast start index values last padAt pads bs with
  | case1 =>
    cases h
    exact Nat.le_add_right _ _
  | case2 | case4 | case5 => cases h
  | case3 index values last padAt pads bs hindex ih =>
    have := ih h
    rw [List.length_cons]
    omega
  | case6 index values last pads b bs hb v hv ih =>
    have := ih h
    rw [List.length_append, List.length_singleton] at this
    rw [List.length_cons]
    omega

/-- A single byte behind whole quanta is never accepted. -/
theorem length_of_decodeFrom_eq_ok {position : Nat}
    (h : decodeFrom padding position bs = .ok bytes) : bs.length % 4 ≠ 1 := by
  induction position, bs using decodeFrom.induct generalizing bytes with
  | case1 position a b c d e rest ih =>
    rw [decodeFrom.eq_1, bind_eq_ok_iff] at h
    obtain ⟨_, _, h⟩ := h
    obtain ⟨second, hsecond, _⟩ := bind_eq_ok_iff.1 h
    have := ih hsecond
    simp only [List.length_cons] at this ⊢
    omega
  | case2 position bs hshort =>
    rw [decodeFrom.eq_2 _ _ _ hshort] at h
    obtain ⟨values, last, pads, hscan, hlength, -⟩ := decodeLast_eq_ok_iff.1 h
    have hfew := scanLast_length_le hscan
    intro hone
    match bs, hshort, hlength, hfew, hone with
    | [b], _, hlength, hfew, _ =>
      have htwo := Nat.le_trans (hlength nofun) hfew
      simp at htwo
    | [_, _, _, _], _, _, _, hone => simp at hone
    | a :: b :: c :: d :: e :: rest, hshort, _, _, _ => exact hshort a b c d e rest rfl

end Faults

section Decode

/-- The byte that is looked at first spoils only texts that no quad by quad decoding accepts. -/
theorem decode_eq_ok_iff : decode padding bs = .ok bytes ↔ decodeFrom padding 0 bs = .ok bytes := by
  unfold decode
  cases hstray : strayByte? bs with
  | none => exact Iff.rfl
  | some fault =>
    refine ⟨nofun, fun h => ?_⟩
    have hlength := length_of_decodeFrom_eq_ok h
    rw [strayByte?, if_neg hlength] at hstray
    cases hstray

theorem decode_quad_eq_ok_iff {a b c d : UInt8} (hpad : padByte ∉ [a, b, c, d]) :
    decode padding [a, b, c, d] = .ok bytes ↔
      ∃ va vb vc vd, Spells [a, b, c, d] [va, vb, vc, vd] ∧ bytes = quadBytes va vb vc vd := by
  rw [decode_eq_ok_iff, decodeFrom_quad, decodeLast_eq_ok_iff]
  constructor
  · rintro ⟨values, last, pads, hscan, -, -, hbytes⟩
    obtain ⟨more, hspells, hvalues, -⟩ := spells_of_scanLast hpad hscan
    obtain rfl : values = more := hvalues
    have hlength := congrArg List.length hspells
    rw [List.length_map, List.length_map] at hlength
    match values, hlength with
    | [va, vb, vc, vd], _ => exact ⟨va, vb, vc, vd, hspells, (congrArg Prod.fst hbytes).symm⟩
  · rintro ⟨va, vb, vc, vd, hspells, rfl⟩
    obtain ⟨last, hscan⟩ : ∃ last, scanLast 0 0 [] 0 none 0 [a, b, c, d] =
        .ok ([va, vb, vc, vd], last, 0) := scanLast_of_spells 0 hspells
    exact ⟨_, last, 0, hscan, fun _ => by simp, fun _ => by simp, rfl⟩

theorem decode_cons_eq_ok_iff {a b c d : UInt8} (hback : back ≠ []) :
    decode padding (a :: b :: c :: d :: back) = .ok bytes ↔
      padByte ∉ [a, b, c, d] ∧ ∃ first second, decode padding [a, b, c, d] = .ok first ∧
        decode padding back = .ok second ∧ bytes = first ++ second := by
  rw [decode_eq_ok_iff, decodeFrom_cons 0 a b c d hback, bind_eq_ok_iff]
  constructor
  · rintro ⟨first, hfirst, h⟩
    obtain ⟨second, hsecond, h⟩ := bind_eq_ok_iff.1 h
    obtain ⟨va, vb, vc, vd, hspells, hbytes⟩ := decodeQuad_eq_ok_iff.1 hfirst
    have hpad := hspells.padByte_not_mem
    refine ⟨hpad, first, second, ?_, decode_eq_ok_iff.2 (decodeFrom_eq_ok 0 hsecond), ?_⟩
    · exact (decode_quad_eq_ok_iff hpad).2 ⟨va, vb, vc, vd, hspells, hbytes⟩
    · exact (Except.ok.inj h).symm
  · rintro ⟨hpad, first, second, hfirst, hsecond, rfl⟩
    have hquad := (decode_quad_eq_ok_iff hpad).1 hfirst
    refine ⟨first, decodeQuad_eq_ok_iff.2 hquad, bind_eq_ok_iff.2 ⟨second, ?_, rfl⟩⟩
    exact decodeFrom_eq_ok _ (decode_eq_ok_iff.1 hsecond)

theorem decode_nil : decode padding [] = .ok [] := by
  cases padding <;> rfl

/-- A code may be cut behind any of its quanta, and whole quanta without a `=` may be put in front
    of any code. -/
theorem decode_append_eq_ok_iff (hback : back ≠ []) :
    ∀ {front bytes : List UInt8}, front.length % 4 = 0 →
      (decode padding (front ++ back) = .ok bytes ↔
        padByte ∉ front ∧ ∃ first second, decode padding front = .ok first ∧
          decode padding back = .ok second ∧ bytes = first ++ second)
  | [], bytes, _ => by
    simp only [List.nil_append, decode_nil, Except.ok.injEq]
    constructor
    · exact fun h => ⟨nofun, [], bytes, rfl, h, rfl⟩
    · rintro ⟨-, _, second, rfl, hsecond, rfl⟩
      exact hsecond
  | a :: b :: c :: d :: rest, bytes, hwhole => by
    have hrest : rest.length % 4 = 0 := by
      simp only [List.length_cons] at hwhole
      omega
    have hpads : padByte ∉ a :: b :: c :: d :: rest ↔ padByte ∉ [a, b, c, d] ∧ padByte ∉ rest := by
      simp [and_assoc]
    simp only [List.cons_append]
    rw [decode_cons_eq_ok_iff (by simp [hback]), hpads]
    by_cases hnil : rest = []
    · subst hnil
      simp
    · constructor
      · rintro ⟨hpad, first, others, hfirst, hothers, rfl⟩
        obtain ⟨hpad', middle, second, hmiddle, hsecond, rfl⟩ :=
          (decode_append_eq_ok_iff hback hrest).1 hothers
        refine ⟨⟨hpad, hpad'⟩, first ++ middle, second, ?_, hsecond, (List.append_assoc ..).symm⟩
        exact (decode_cons_eq_ok_iff hnil).2 ⟨hpad, first, middle, hfirst, hmiddle, rfl⟩
      · rintro ⟨⟨hpad, hpad'⟩, others, second, hothers, hsecond, rfl⟩
        obtain ⟨-, first, middle, hfirst, hmiddle, rfl⟩ := (decode_cons_eq_ok_iff hnil).1 hothers
        refine ⟨hpad, first, middle ++ second, hfirst, ?_, List.append_assoc ..⟩
        exact (decode_append_eq_ok_iff hback hrest).2 ⟨hpad', middle, second, hmiddle, hsecond, rfl⟩
  | [_], _, hwhole | [_, _], _, hwhole | [_, _, _], _, hwhole => by simp at hwhole

theorem exists_decode_of_append (hwhole : front.length % 4 = 0)
    (h : decode padding (front ++ back) = .ok bytes) :
    ∃ first second, decode padding front = .ok first ∧ decode padding back = .ok second ∧
      bytes = first ++ second := by
  by_cases hback : back = []
  · subst hback
    rw [List.append_nil] at h
    exact ⟨bytes, [], h, decode_nil, (List.append_nil bytes).symm⟩
  · exact ((decode_append_eq_ok_iff hback hwhole).1 h).2

end Decode

section Lengths

theorem length_partialBytes : ∀ {values : List Nat}, values.length ≤ 4 → values.length ≠ 1 →
    (partialBytes values).1.length = 3 * values.length / 4
  | [], _, _ | [_, _], _, _ | [_, _, _], _, _ => by simp [partialBytes]
  | [_, _, _, _], _, _ => by simp [partialBytes, quadBytes]
  | [_], _, hone => absurd rfl hone
  | _ :: _ :: _ :: _ :: _ :: _, hshort, _ => by
    simp only [List.length_cons] at hshort
    omega

/-- A last quad without `=` stands for three bytes to four symbols, rounded down. -/
theorem length_of_decodeLast {start : Nat} (hshort : bs.length ≤ 4) (hpad : padByte ∉ bs)
    (h : decodeLast padding start bs = .ok bytes) : bytes.length = 3 * bs.length / 4 := by
  obtain ⟨values, last, pads, hscan, hfew, -, hbytes⟩ := decodeLast_eq_ok_iff.1 h
  obtain ⟨more, hspells, hvalues, -⟩ := spells_of_scanLast hpad hscan
  obtain rfl : values = more := hvalues
  have hlength : bs.length = values.length := by
    simpa only [List.length_map] using congrArg List.length hspells
  have hsome : values.length ≠ 1 := by
    intro hone
    have := hfew (List.ne_nil_of_length_pos (by omega))
    omega
  obtain rfl : (partialBytes values).1 = bytes := congrArg Prod.fst hbytes
  rw [hlength]
  exact length_partialBytes (hlength ▸ hshort) hsome

theorem length_of_decodeFrom {position : Nat} (hpad : padByte ∉ bs)
    (h : decodeFrom padding position bs = .ok bytes) : bytes.length = 3 * bs.length / 4 := by
  induction position, bs using decodeFrom.induct generalizing bytes with
  | case1 position a b c d e rest ih =>
    rw [decodeFrom.eq_1, bind_eq_ok_iff] at h
    obtain ⟨first, hfirst, h⟩ := h
    obtain ⟨second, hsecond, h⟩ := bind_eq_ok_iff.1 h
    cases h
    obtain ⟨va, vb, vc, vd, -, rfl⟩ := decodeQuad_eq_ok_iff.1 hfirst
    have hquad : (quadBytes va vb vc vd).length = 3 := rfl
    have hrest := ih (fun hmem => hpad (List.mem_append_right [a, b, c, d] hmem)) hsecond
    simp only [List.length_append, List.length_cons] at hrest ⊢
    omega
  | case2 position bs hshort =>
    rw [decodeFrom.eq_2 _ _ _ hshort] at h
    refine length_of_decodeLast ?_ hpad h
    match bs, hshort with
    | [], _ | [_], _ | [_, _], _ | [_, _, _], _ | [_, _, _, _], _ => simp
    | a :: b :: c :: d :: e :: rest, hshort => exact (hshort a b c d e rest rfl).elim

/-- A code without `=` stands for three bytes to four symbols, rounded down. -/
theorem length_of_decode (hpad : padByte ∉ bs) (h : decode padding bs = .ok bytes) :
    bytes.length = 3 * bs.length / 4 :=
  length_of_decodeFrom hpad (decode_eq_ok_iff.1 h)

end Lengths

section Quanta

theorem quantum_append_left {index : Nat} (h : 4 * (index + 1) ≤ front.length) :
    quantum (front ++ back) index = quantum front index := by
  rw [quantum, List.drop_append_of_le_length (by omega), List.take_append_of_le_length, quantum]
  rw [List.length_drop]
  omega

theorem quantum_append_right {count : Nat} (h : front.length = 4 * count) (index : Nat) :
    quantum (front ++ back) (count + index) = quantum back index := by
  rw [quantum, Nat.mul_add, ← h, List.drop_length_add_append, quantum]

theorem quantum_of_length_le (h : bs.length ≤ 4) : quantum bs 0 = bs := by
  rw [quantum, Nat.mul_zero, List.drop_zero, List.take_of_length_le h]

theorem isCode_append_iff (hwhole : front.length % 4 = 0) (hback : back ≠ []) :
    IsCode (front ++ back) ↔ padByte ∉ front ∧ IsCode front ∧ IsCode back := by
  constructor
  · rintro ⟨bytes, h⟩
    obtain ⟨hpad, first, second, hfirst, hsecond, -⟩ := (decode_append_eq_ok_iff hback hwhole).1 h
    exact ⟨hpad, ⟨first, hfirst⟩, second, hsecond⟩
  · rintro ⟨hpad, ⟨first, hfirst⟩, second, hsecond⟩
    exact ⟨_, (decode_append_eq_ok_iff hback hwhole).2 ⟨hpad, first, second, hfirst, hsecond, rfl⟩⟩

/-- A text is a code just if each of its quanta is one and none but the last holds a `=`. -/
theorem isCode_iff (bs : List UInt8) :
    IsCode bs ↔ (∀ index, 4 * index < bs.length → IsCode (quantum bs index)) ∧
      ∀ index, 4 * (index + 1) < bs.length → padByte ∉ quantum bs index := by
  by_cases hshort : bs.length ≤ 4
  · have hquantum := quantum_of_length_le hshort
    constructor
    · refine fun h => ⟨fun index hindex => ?_, fun index hindex => ?_⟩
      · obtain rfl : index = 0 := by omega
        exact hquantum.symm ▸ h
      · omega
    · rintro ⟨h, -⟩
      cases bs with
      | nil => exact ⟨[], decode_nil⟩
      | cons b rest => exact hquantum ▸ h 0 (Nat.zero_lt_succ _)
  · have hfront : (bs.take 4).length = 4 * 1 := by
      rw [List.length_take]
      omega
    have hback : bs.drop 4 ≠ [] := by
      rw [ne_eq, List.drop_eq_nil_iff]
      exact hshort
    have hfirst : quantum bs 0 = bs.take 4 := rfl
    have hlater (index : Nat) : quantum bs (1 + index) = quantum (bs.drop 4) index := calc
      quantum bs (1 + index)
      _ = quantum (bs.take 4 ++ bs.drop 4) (1 + index) := by rw [List.take_append_drop]
      _ = quantum (bs.drop 4) index := quantum_append_right hfront index
    have ih := isCode_iff (bs.drop 4)
    rw [← List.take_append_drop 4 bs, isCode_append_iff (by omega) hback, ih,
      List.take_append_drop, List.length_drop]
    constructor
    · rintro ⟨hpad, hcode, hcodes, hpads⟩
      refine ⟨fun index hindex => ?_, fun index hindex => ?_⟩
      · cases index with
        | zero => exact hcode
        | succ index =>
          rw [Nat.add_comm, hlater]
          exact hcodes index (by omega)
      · cases index with
        | zero => exact hpad
        | succ index =>
          rw [Nat.add_comm, hlater]
          exact hpads index (by omega)
    · rintro ⟨hcodes, hpads⟩
      refine ⟨hpads 0 (by omega), hcodes 0 (by omega), fun index hindex => ?_,
        fun index hindex => ?_⟩
      · rw [← hlater]
        exact hcodes _ (by omega)
      · rw [← hlater]
        exact hpads _ (by omega)
termination_by bs.length
decreasing_by
  rw [List.length_drop]
  omega

end Quanta

end Courier.Base64
