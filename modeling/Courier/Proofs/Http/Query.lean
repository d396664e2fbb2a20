import Courier.Http.Url
import Courier.Proofs.Body.Material
import Mathlib.Data.List.TakeWhile

/-!
What stands in the query of an address. Different texts are encoded differently, and the normal form
of an address keeps an encoded text at its end as it is; so an address can be told from any other
that differs from it in such a text.
-/

namespace Courier

namespace Text

/-- What a byte of a text becomes. -/
def percentPiece (b : UInt8) : List Char :=
  if isUnreserved b then [Char.ofNat b.toNat] else percentByte b

/-- The number that a hexadecimal digit stands for. -/
def hexValue (c : Char) : Nat := if c.isDigit then c.toNat - 0x30 else c.toNat - 0x37

/-- The number of the byte that a piece of an encoded text stands for. -/
def pieceValue : List Char → Nat
  | [c] => c.toNat
  | [_, high, low] => 16 * hexValue high + hexValue low
  | _ => 0

/-- The characters that nothing changes wherever they stand in a query or a fragment. -/
def isSettled (c : Char) : Bool :=
  decide (0x20 < c.toNat) && decide (c.toNat ≤ 0x7e) &&
    !([' ', '"', '#', '<', '>', '\'', '`'].contains c)

theorem percentPiece_of_lt : ∀ n < 256,
    pieceValue (percentPiece (.ofNat n)) = n ∧
    (percentPiece (.ofNat n)).length =
      (if (percentPiece (.ofNat n)).head? = some '%' then 3 else 1) ∧
    (percentPiece (.ofNat n)).all isSettled := by
  decide +kernel

theorem pieceValue_percentPiece (b : UInt8) : pieceValue (percentPiece b) = b.toNat := by
  simpa using (percentPiece_of_lt b.toNat b.toNat_lt).1

/-- How long a piece is can be told from its first character. -/
theorem length_percentPiece (b : UInt8) :
    (percentPiece b).length = if (percentPiece b).head? = some '%' then 3 else 1 := by
  simpa using (percentPiece_of_lt b.toNat b.toNat_lt).2.1

theorem isSettled_of_mem_percentPiece {b : UInt8} {c : Char} (h : c ∈ percentPiece b) :
    isSettled c := by
  have hall := (percentPiece_of_lt b.toNat b.toNat_lt).2.2
  rw [UInt8.ofNat_toNat, List.all_eq_true] at hall
  exact hall c h

theorem percentPiece_ne_nil (b : UInt8) : percentPiece b ≠ [] := by
  intro h
  have hlength := length_percentPiece b
  rw [h] at hlength
  simp at hlength

/-- Pieces that follow one another can be told apart. -/
theorem flatMap_percentPiece_inj {bs bs' : List UInt8}
    (h : bs.flatMap percentPiece = bs'.flatMap percentPiece) : bs = bs' := by
  induction bs generalizing bs' with
  | nil =>
    cases bs' with
    | nil => rfl
    | cons b' bs' =>
      rw [List.flatMap_nil, List.flatMap_cons] at h
      exact absurd (List.append_eq_nil_iff.1 h.symm).1 (percentPiece_ne_nil b')
  | cons b bs ih =>
    cases bs' with
    | nil =>
      rw [List.flatMap_nil, List.flatMap_cons] at h
      exact absurd (List.append_eq_nil_iff.1 h).1 (percentPiece_ne_nil b)
    | cons b' bs' =>
      rw [List.flatMap_cons, List.flatMap_cons] at h
      have hhead : (percentPiece b).head? = (percentPiece b').head? := by
        obtain ⟨c, piece, hpiece⟩ := List.exists_cons_of_ne_nil (percentPiece_ne_nil b)
        obtain ⟨c', piece', hpiece'⟩ := List.exists_cons_of_ne_nil (percentPiece_ne_nil b')
        rw [hpiece, hpiece', List.cons_append, List.cons_append] at h
        rw [hpiece, hpiece', List.head?_cons, List.head?_cons, (List.cons.inj h).1]
      have hlength : (percentPiece b).length = (percentPiece b').length := by
        rw [length_percentPiece, length_percentPiece, hhead]
      obtain ⟨hpiece, hrest⟩ := List.append_inj h hlength
      have hbyte : b = b' := by
        have hvalue := congrArg pieceValue hpiece
        rw [pieceValue_percentPiece, pieceValue_percentPiece] at hvalue
        exact UInt8.toNat_inj.1 hvalue
      rw [hbyte, ih hrest]

theorem percentEncode_eq (s : String) :
    percentEncode s = String.ofList ((Material.bytesOf s).flatMap percentPiece) := rfl

/-- Different texts are encoded differently. -/
theorem percentEncode_inj {s t : String} (h : percentEncode s = percentEncode t) : s = t := by
  rw [percentEncode_eq, percentEncode_eq, String.ofList_inj] at h
  exact Material.bytesOf_inj (flatMap_percentPiece_inj h)

theorem isSettled_of_mem_percentEncode {s : String} {c : Char} (h : c ∈ (percentEncode s).toList) :
    isSettled c := by
  rw [percentEncode_eq, String.toList_ofList] at h
  obtain ⟨b, -, hc⟩ := List.mem_flatMap.1 h
  exact isSettled_of_mem_percentPiece hc

end Text

namespace Http.Url

open Text

section Cut

variable {α : Type} {p : α → Bool} {x : α}

theorem takeWhile_append_cons (hx : p x = false) (xs ys : List α) :
    (xs ++ x :: ys).takeWhile p = xs.takeWhile p := by
  rw [List.takeWhile_append]
  split
  · next hall =>
    rw [List.takeWhile_cons_of_neg (by simp [hx]), List.append_nil]
    exact ((List.takeWhile_prefix p).eq_of_length hall).symm
  · rfl

theorem dropWhile_append_cons (hx : p x = false) (xs ys : List α) :
    (xs ++ x :: ys).dropWhile p = xs.dropWhile p ++ x :: ys := by
  rw [List.dropWhile_append]
  split
  · next hempty =>
    rw [List.dropWhile_cons_of_neg (by simp [hx]), List.isEmpty_iff.1 hempty, List.nil_append]
  · rfl

theorem drop_takeWhile_append (xs ys : List α) :
    (xs ++ ys).drop (xs.takeWhile p).length = xs.drop (xs.takeWhile p).length ++ ys :=
  List.drop_append_of_le_length (List.takeWhile_prefix p).length_le

end Cut

theorem encode_append (reserved cs cs' : List Char) :
    encode reserved (cs ++ cs') = encode reserved cs ++ encode reserved cs' :=
  List.flatMap_append

/-- Characters that need no encoding stay. -/
theorem encode_settled {reserved back : List Char}
    (hreserved : reserved.any isSettled = false) (hback : ∀ c ∈ back, isSettled c) :
    encode reserved back = back := by
  induction back with
  | nil => rfl
  | cons c back ih =>
    obtain ⟨hc, hback⟩ := List.forall_mem_cons.1 hback
    have hnot : c ∉ reserved := fun hmem => List.any_eq_false.1 hreserved c hmem hc
    have hrange : 0x20 < c.toNat ∧ c.toNat ≤ 0x7e := by
      simp only [isSettled, Bool.and_eq_true, decide_eq_true_eq] at hc
      exact hc.1
    have hkept : ¬ (c.toNat < 0x20 || 0x7e < c.toNat || reserved.contains c) := by
      simp [hnot]
      omega
    rw [encode, List.flatMap_cons, if_neg hkept, ← encode, ih hback]
    rfl

theorem forall_mem_query {back : List Char} (hback : ∀ c ∈ back, isSettled c) :
    ∀ c ∈ '?' :: back, isSettled c :=
  List.forall_mem_cons.2 ⟨by decide, hback⟩

theorem ne_of_isSettled {c d : Char} (hd : isSettled d = false) (hc : isSettled c) : c ≠ d := by
  rintro rfl
  exact Bool.false_ne_true (hd.symm.trans hc)

/-- Nothing is stripped from a query. -/
theorem stripped_append (cs : List Char) :
    ∃ front, ∀ back : List Char, (∀ c ∈ back, isSettled c) →
      stripped (cs ++ '?' :: back) = front ++ '?' :: back := by
  let isEdge (c : Char) : Bool := decide (c.toNat ≤ 0x20)
  have hedge {c : Char} (hc : isSettled c) : isEdge c = false := by
    simp only [isSettled, Bool.and_eq_true, decide_eq_true_eq] at hc
    simp [isEdge, hc.1.1]
  refine ⟨(cs.dropWhile isEdge).filter fun c => c != '\t' && c != '\n' && c != '\r',
    fun back hback => ?_⟩
  have hend (xs : List Char) :
      (xs ++ '?' :: back).reverse.dropWhile isEdge = (xs ++ '?' :: back).reverse := by
    rw [List.reverse_append, List.reverse_cons, List.append_assoc, List.singleton_append,
      dropWhile_append_cons (by decide)]
    cases hreverse : back.reverse with
    | nil => rfl
    | cons c rest =>
      have hc : c ∈ back := List.mem_reverse.1 (hreverse ▸ List.mem_cons_self)
      rw [List.dropWhile_cons_of_neg (by simp [hedge (hback c hc)])]
  have hkept :
      ('?' :: back).filter (fun c => c != '\t' && c != '\n' && c != '\r') = '?' :: back := by
    refine List.filter_eq_self.2 fun c hc => ?_
    have hsettled := forall_mem_query hback c hc
    have hne {d : Char} (hd : isSettled d = false) : c != d :=
      bne_iff_ne.2 (ne_of_isSettled hd hsettled)
    rw [hne (by decide), hne (by decide), hne (by decide)]
    rfl
  change (((cs ++ '?' :: back).dropWhile isEdge).reverse.dropWhile isEdge).reverse.filter _ = _
  rw [dropWhile_append_cons (by decide), hend, List.reverse_reverse, List.filter_append, hkept]

/-- A scheme stands in front of the question mark. -/
theorem splitScheme?_append (cs back : List Char) :
    splitScheme? (cs ++ '?' :: back) =
      (splitScheme? cs).map fun split => (split.1, split.2 ++ '?' :: back) := by
  cases cs with
  | nil => rfl
  | cons c cs =>
    have hscheme : (c :: (cs ++ '?' :: back)).takeWhile isSchemeChar =
        (c :: cs).takeWhile isSchemeChar :=
      takeWhile_append_cons (by decide) (c :: cs) back
    have hrest : (c :: (cs ++ '?' :: back)).drop ((c :: cs).takeWhile isSchemeChar).length =
        (c :: cs).drop ((c :: cs).takeWhile isSchemeChar).length ++ '?' :: back :=
      drop_takeWhile_append (c :: cs) ('?' :: back)
    simp only [splitScheme?, List.cons_append, hscheme, hrest]
    generalize (c :: cs).drop ((c :: cs).takeWhile isSchemeChar).length = rest
    cases rest with
    | nil => rfl
    | cons d rest =>
      by_cases hd : d = ':'
      · subst hd
        by_cases hc : c.isAlpha <;> simp [hc]
      · simp [hd]

theorem takeWhile_ne {cs : List Char} {d : Char} (h : d ∉ cs) : cs.takeWhile (· != d) = cs := by
  refine List.takeWhile_eq_self_iff.2 fun c hc => ?_
  exact bne_iff_ne.2 fun heq => h (heq ▸ hc)

/-- Path, query and fragment are read each for itself. -/
theorem readRest_eq {main fragment : List Char} (hmain : '#' ∉ main)
    (hfragment : ∀ c ∈ fragment.head?, c = '#') :
    readRest (main ++ fragment) =
      readRest (main.takeWhile (· != '?')) ++
        encode [' ', '"', '<', '>', '\''] (main.drop (main.takeWhile (· != '?')).length) ++
        encode [' ', '"', '<', '>', '`'] fragment := by
  have hcut : (main ++ fragment).takeWhile (· != '#') = main := by
    cases fragment with
    | nil => rw [List.append_nil, takeWhile_ne hmain]
    | cons c rest =>
      obtain rfl := hfragment c rfl
      rw [takeWhile_append_cons (by decide), takeWhile_ne hmain]
  have hpath : '#' ∉ main.takeWhile (· != '?') := fun h =>
    hmain ((List.takeWhile_prefix _).subset h)
  have hquery : '?' ∉ main.takeWhile (· != '?') := fun h => by
    simpa using List.mem_takeWhile_imp h
  simp only [readRest, hcut, takeWhile_ne hpath, takeWhile_ne hquery, List.drop_left,
    List.drop_length, encode, List.flatMap_nil, List.append_nil]

theorem readRest_eq_of_not_mem {cs : List Char} (h : '#' ∉ cs) :
    readRest cs = readRest (cs.takeWhile (· != '?')) ++
      encode [' ', '"', '<', '>', '\''] (cs.drop (cs.takeWhile (· != '?')).length) := by
  have hcut : readRest (cs ++ []) = _ := readRest_eq h nofun
  rw [List.append_nil] at hcut
  exact hcut.trans (List.append_nil _)

/-- A query, or a fragment with a question mark in it, is kept. -/
theorem readRest_append (cs : List Char) :
    ∃ front, ∀ back : List Char, (∀ c ∈ back, isSettled c) →
      readRest (cs ++ '?' :: back) = front ++ '?' :: back := by
  by_cases hhash : '#' ∈ cs
  · obtain ⟨main, fragment, rfl, hmain⟩ := List.eq_append_cons_of_mem hhash
    refine ⟨readRest (main ++ '#' :: fragment), fun back hback => ?_⟩
    rw [List.append_assoc, readRest_eq hmain (by simp), readRest_eq hmain (by simp),
      encode_append, encode_settled (by decide) (forall_mem_query hback), ← List.append_assoc]
  · refine ⟨readRest cs, fun back hback => ?_⟩
    have hmain : '#' ∉ cs ++ '?' :: back := by
      refine fun h => (List.mem_append.1 h).elim hhash fun h => ?_
      exact ne_of_isSettled (by decide) (forall_mem_query hback _ h) rfl
    rw [readRest_eq_of_not_mem hmain, readRest_eq_of_not_mem hhash,
      takeWhile_append_cons (by decide), drop_takeWhile_append, encode_append,
      encode_settled (by decide) (forall_mem_query hback), ← List.append_assoc]

/-- The normal form of an address ends with its query as it is, and what stands before it does not
    depend on the query. -/
theorem normal_append (front : String) :
    ∃ result : Except UrlFault String, ∀ back : List Char, (∀ c ∈ back, isSettled c) →
      normal (front ++ String.ofList ('?' :: back)) =
        result.map (· ++ String.ofList ('?' :: back)) := by
  obtain ⟨base, hbase⟩ := stripped_append front.toList
  cases hsplit : splitScheme? base with
  | none =>
    refine ⟨.error .malformed, fun back hback => ?_⟩
    rw [normal, String.toList_append, String.toList_ofList, hbase back hback,
      splitScheme?_append, hsplit]
    rfl
  | some split =>
    obtain ⟨scheme, rest⟩ := split
    let slash (c : Char) : Bool := c == '/' || c == '\\'
    let place := rest.dropWhile slash
    let authority := place.takeWhile fun c => !endsAuthority c
    obtain ⟨tail, htail⟩ := readRest_append (place.drop authority.length)
    have hnormal (back : List Char) (hback : ∀ c ∈ back, isSettled c) :
        normal (front ++ String.ofList ('?' :: back)) =
          if (impliedPort? scheme).isNone then .error .otherScheme
          else (readAuthority? scheme authority).elim (.error .malformed) fun host =>
            .ok (scheme ++ "://" ++ String.ofList (host ++ (tail ++ '?' :: back))) := by
      have hplace : (rest ++ '?' :: back).dropWhile slash = place ++ '?' :: back :=
        dropWhile_append_cons (by decide) _ _
      have hauthority : (place ++ '?' :: back).takeWhile (fun c => !endsAuthority c) = authority :=
        takeWhile_append_cons (by decide) _ _
      rw [normal, String.toList_append, String.toList_ofList, hbase back hback,
        splitScheme?_append, hsplit]
      simp only [Option.map_some]
      rw [hplace, hauthority, drop_takeWhile_append, htail back hback]
      cases readAuthority? scheme authority <;> rfl
    refine ⟨if (impliedPort? scheme).isNone then .error .otherScheme
      else (readAuthority? scheme authority).elim (.error .malformed) fun host =>
        .ok (scheme ++ "://" ++ String.ofList (host ++ tail)), fun back hback => ?_⟩
    rw [hnormal back hback]
    split
    · rfl
    · cases readAuthority? scheme authority with
      | none => rfl
      | some host =>
        refine congrArg Except.ok ?_
        rw [← List.append_assoc, String.ofList_append, ← String.append_assoc]

end Http.Url

end Courier
