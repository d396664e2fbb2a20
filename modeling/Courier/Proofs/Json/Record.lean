import Courier.Json.Record
import Courier.Proofs.Body.Material

/-!
Records as they are written. The text of an object with the members of a record, all of them
strings, is read back as these strings, whatever they are.
-/

namespace Courier.Json

open Material

variable {c : Char} {cs rest : List Char} {seen : List UInt8} {fuel : Nat}

/-- The characters of a text as they are read from its bytes. -/
def wire (cs : List Char) : List Char := charsOf (cs.flatMap String.utf8EncodeChar)

theorem wire_append (front back : List Char) : wire (front ++ back) = wire front ++ wire back := by
  rw [wire, List.flatMap_append, charsOf, List.map_append]
  rfl

theorem utf8EncodeChar_eq (h : c.toNat < 0x80) : String.utf8EncodeChar c = [c.toUInt8] := by
  have hsmall : c.val.toNat ≤ 127 := Nat.le_of_lt_succ h
  rw [String.utf8EncodeChar, if_pos hsmall]
  rfl

/-- Characters of one byte each are read as they are. -/
theorem wire_eq_self (h : ∀ c ∈ cs, c.toNat < 0x80) : wire cs = cs := by
  induction cs with
  | nil => rfl
  | cons c cs ih =>
    obtain ⟨hc, hcs⟩ := List.forall_mem_cons.1 h
    have hself : Char.ofUInt8 c.toUInt8 = c := by
      refine Char.toNat_inj.1 ?_
      change c.toNat % 2 ^ 8 = c.toNat
      exact Nat.mod_eq_of_lt (Nat.lt_trans hc (by decide))
    rw [← List.singleton_append, wire_append, ih hcs, wire, List.flatMap_singleton,
      utf8EncodeChar_eq hc, charsOf, List.map_singleton, hself]

theorem wire_singleton (h : c.toNat < 0x80) : wire [c] = [c] :=
  wire_eq_self (List.forall_mem_singleton.2 h)

/-- The bytes of a character that is longer than one byte are no ASCII. -/
theorem le_of_mem_utf8EncodeChar (h : 0x80 ≤ c.toNat) {byte : UInt8}
    (hbyte : byte ∈ String.utf8EncodeChar c) : 0x80 ≤ byte.toNat := by
  have hlong : ¬ c.val.toNat ≤ 127 := Nat.not_le.2 h
  rw [String.utf8EncodeChar, if_neg hlong] at hbyte
  split at hbyte
  · simp only [List.mem_cons, List.not_mem_nil, or_false] at hbyte
    rcases hbyte with rfl | rfl <;> rw [UInt8.toNat_ofNat'] <;> omega
  · split at hbyte
    · simp only [List.mem_cons, List.not_mem_nil, or_false] at hbyte
      rcases hbyte with rfl | rfl | rfl <;> rw [UInt8.toNat_ofNat'] <;> omega
    · simp only [List.mem_cons, List.not_mem_nil, or_false] at hbyte
      rcases hbyte with rfl | rfl | rfl | rfl <;> rw [UInt8.toNat_ofNat'] <;> omega

/-- The byte neither ends a string nor escapes anything, and may stand in one. -/
def Plain (byte : UInt8) : Prop := 0x20 ≤ byte.toNat ∧ byte ≠ 0x22 ∧ byte ≠ 0x5c

/-- Plain bytes are kept. -/
theorem readBytes_append {bytes : List UInt8} (h : ∀ byte ∈ bytes, Plain byte) :
    readBytes (fuel + bytes.length) seen (charsOf bytes ++ rest) =
      readBytes fuel (seen ++ bytes) rest := by
  induction bytes generalizing seen with
  | nil =>
    rw [List.append_nil]
    rfl
  | cons byte bytes ih =>
    obtain ⟨⟨hlow, hquote, hescape⟩, hbytes⟩ := List.forall_mem_cons.1 h
    have hne {other : UInt8} (hother : byte ≠ other) : Char.ofUInt8 byte ≠ Char.ofUInt8 other :=
      fun heq => hother (UInt8.toNat_inj.1 (congrArg Char.toNat heq))
    have hquote : Char.ofUInt8 byte ≠ '"' := hne hquote
    have hescape : Char.ofUInt8 byte ≠ '\\' := hne hescape
    have hlow : ¬ (Char.ofUInt8 byte).toNat < 0x20 := Nat.not_lt.2 hlow
    have hself : (Char.ofUInt8 byte).toUInt8 = byte := UInt8.toUInt8_toUInt32 byte
    change readBytes (fuel + bytes.length + 1) seen (Char.ofUInt8 byte :: (charsOf bytes ++ rest)) = _
    rw [readBytes, if_neg hquote, if_neg hescape, if_neg hlow, hself, ih hbytes, List.append_assoc,
      List.singleton_append]

theorem plain_of_mem_utf8EncodeChar (hquote : c ≠ '"') (hescape : c ≠ '\\')
    (hcontrol : ¬ c.toNat < 0x20) {byte : UInt8} (hbyte : byte ∈ String.utf8EncodeChar c) :
    Plain byte := by
  by_cases hshort : c.toNat < 0x80
  · rw [utf8EncodeChar_eq hshort, List.mem_singleton] at hbyte
    subst hbyte
    have hcode : c.toUInt8.toNat = c.toNat := Nat.mod_eq_of_lt (Nat.lt_trans hshort (by decide))
    refine ⟨by omega, fun heq => hquote ?_, fun heq => hescape ?_⟩ <;>
    · refine Char.toNat_inj.1 (hcode.symm.trans ?_)
      rw [heq]
      rfl
  · have hlow := le_of_mem_utf8EncodeChar (Nat.not_lt.1 hshort) hbyte
    refine ⟨by omega, ?_, ?_⟩ <;>
    · rintro rfl
      exact absurd hlow (by decide)

/-- The code of a control character is read back. -/
theorem readCode_fourDigits (h : c.toNat < 0x20) (rest : List Char) :
    readCode (fourDigits c.toNat ++ rest) = .ok (c.toNat, rest) := by
  have hdigits : ∀ n : Fin 0x20, (fourDigits n).map hexValue? =
      [some 0, some 0, some (n.val / 16), some (n.val % 16)] := by
    decide +kernel
  obtain ⟨first, _, hfour, hfirst, hmore⟩ := List.map_eq_cons_iff.1 (hdigits ⟨c.toNat, h⟩)
  obtain ⟨second, _, rfl, hsecond, hmore⟩ := List.map_eq_cons_iff.1 hmore
  obtain ⟨third, _, rfl, hthird, hmore⟩ := List.map_eq_cons_iff.1 hmore
  obtain ⟨fourth, _, rfl, hfourth, hmore⟩ := List.map_eq_cons_iff.1 hmore
  obtain rfl := List.map_eq_nil_iff.1 hmore
  have hcode : ((0 * 16 + 0) * 16 + c.toNat / 16) * 16 + c.toNat % 16 = c.toNat := by omega
  change fourDigits c.toNat = _ at hfour
  rw [hfour]
  simp only [List.cons_append, List.nil_append, readCode, hfirst, hsecond, hthird, hfourth, hcode]

theorem readEscape_fourDigits (h : c.toNat < 0x20) (rest : List Char) :
    readEscape true ('u' :: (fourDigits c.toNat ++ rest)) = .ok (c, rest) := by
  have hpair : ¬ (0xDC00 ≤ c.toNat ∧ c.toNat ≤ 0xDFFF) := by omega
  have hplane : c.toNat < 0xD800 ∨ 0xDBFF < c.toNat := by omega
  change readUnicode true (fourDigits c.toNat ++ rest) = _
  rw [readUnicode, readCode_fourDigits h]
  simp only [bind, Except.bind, Bool.not_true, Bool.false_eq_true, if_false, hpair, hplane,
    if_true, Char.ofNat_toNat]
  rfl

/-- An escaped character is read back, in no more steps than it has characters. -/
theorem exists_readBytes_escapeChar (c : Char) :
    ∃ used ≤ (wire (escapeChar c)).length, ∀ fuel seen rest,
      readBytes (fuel + used) seen (wire (escapeChar c) ++ rest) =
        readBytes fuel (seen ++ String.utf8EncodeChar c) rest := by
  by_cases hshort : c = '"' ∨ c = '\\' ∨ c = '\n' ∨ c = '\r' ∨ c = '\t' ∨ c = '\x08' ∨ c = '\x0c'
  · refine ⟨1, ?_, fun fuel seen rest => ?_⟩
    · rcases hshort with rfl | rfl | rfl | rfl | rfl | rfl | rfl <;> decide
    · rcases hshort with rfl | rfl | rfl | rfl | rfl | rfl | rfl <;> rfl
  simp only [not_or] at hshort
  obtain ⟨hquote, hescape, hline, hreturn, htab, hback, hfeed⟩ := hshort
  by_cases hcontrol : c.toNat < 0x20
  · have hself : escapeChar c = ['\\', 'u'] ++ fourDigits c.toNat := by
      simp only [escapeChar, hquote, hescape, hline, hreturn, htab, hback, hfeed, hcontrol,
        if_true, if_false]
    have hascii : ∀ n : Fin 0x20,
        (['\\', 'u'] ++ fourDigits n).all (fun d => d.toNat < 0x80) = true := by
      decide +kernel
    have hsmall : ∀ d ∈ ['\\', 'u'] ++ fourDigits c.toNat, d.toNat < 0x80 := fun d hd =>
      of_decide_eq_true (List.all_eq_true.1 (hascii ⟨c.toNat, hcontrol⟩) d hd)
    rw [hself, wire_eq_self hsmall]
    refine ⟨1, Nat.le_add_left 1 _, fun fuel seen rest => ?_⟩
    change readBytes (fuel + 1) seen ('\\' :: ('u' :: (fourDigits c.toNat ++ rest))) = _
    rw [readBytes, if_neg (by decide), if_pos rfl, readEscape_fourDigits hcontrol]
    rfl
  · have hself : escapeChar c = [c] := by
      simp only [escapeChar, hquote, hescape, hline, hreturn, htab, hback, hfeed, hcontrol, if_false]
    rw [hself, wire, List.flatMap_singleton]
    refine ⟨(String.utf8EncodeChar c).length, ?_, fun fuel seen rest => ?_⟩
    · exact Nat.le_of_eq (List.length_map _).symm
    · exact readBytes_append fun byte => plain_of_mem_utf8EncodeChar hquote hescape hcontrol

/-- The characters of a string are read back up to its closing quote. -/
theorem readBytes_wire (hfuel : (wire (cs.flatMap escapeChar)).length < fuel) :
    readBytes fuel seen (wire (cs.flatMap escapeChar) ++ '"' :: rest) =
      .ok (seen ++ cs.flatMap String.utf8EncodeChar, rest) := by
  induction cs generalizing fuel seen with
  | nil =>
    obtain ⟨fuel, rfl⟩ := Nat.exists_eq_succ_of_ne_zero (Nat.ne_of_gt hfuel)
    rw [List.flatMap_nil, List.flatMap_nil, List.append_nil]
    rfl
  | cons c cs ih =>
    rw [List.flatMap_cons, wire_append, List.length_append] at hfuel
    obtain ⟨used, hused, hread⟩ := exists_readBytes_escapeChar c
    obtain ⟨left, rfl⟩ := Nat.exists_eq_add_of_le (show used ≤ fuel by omega)
    rw [List.flatMap_cons, wire_append, List.append_assoc, Nat.add_comm, hread, ih (by omega),
      List.flatMap_cons, List.append_assoc]

theorem fromUTF8?_bytesOf (s : String) : String.fromUTF8? ⟨(bytesOf s).toArray⟩ = some s := by
  have hbytes : (⟨(bytesOf s).toArray⟩ : ByteArray) = s.toByteArray := by
    rw [bytesOf, toList_eq_data]
    rfl
  rw [hbytes, String.fromUTF8?, dif_pos s.isValidUTF8]
  rfl

/-- A string is read back from its text. -/
theorem readKept_wire (s : String) (rest : List Char) :
    readKept (wire (s.toList.flatMap escapeChar) ++ '"' :: rest) = some (s, rest) := by
  have hfuel : (wire (s.toList.flatMap escapeChar)).length <
      (wire (s.toList.flatMap escapeChar) ++ '"' :: rest).length + 1 := by
    rw [List.length_append]
    omega
  rw [readKept, readBytes_wire hfuel, List.nil_append, ← bytesOf_eq]
  change (String.fromUTF8? ⟨(bytesOf s).toArray⟩).bind (fun value => some (value, rest)) = _
  rw [fromUTF8?_bytesOf]
  rfl

/-- A member as it is read from its bytes, with what follows it. -/
def memberWire (member : String × String) (rest : List Char) : List Char :=
  '"' :: (wire (member.1.toList.flatMap escapeChar) ++
    '"' :: ':' :: '"' :: (wire (member.2.toList.flatMap escapeChar) ++ '"' :: rest))

/-- More members, each behind a comma, with what follows them. -/
def membersWire : List (String × String) → List Char → List Char
  | [], rest => rest
  | member :: members, rest => ',' :: memberWire member (membersWire members rest)

theorem length_lt_memberWire (member : String × String) (rest : List Char) :
    rest.length < (memberWire member rest).length := by
  simp only [memberWire, List.length_cons, List.length_append]
  omega

theorem length_le_membersWire (members : List (String × String)) (rest : List Char) :
    members.length ≤ (membersWire members rest).length := by
  induction members with
  | nil => exact Nat.zero_le _
  | cons member members ih =>
    have hlt := length_lt_memberWire member (membersWire members rest)
    rw [membersWire, List.length_cons, List.length_cons]
    omega

section Members

variable {names : List String} {member : String × String} {kept : List (String × String)}

/-- A member of the record is kept. -/
theorem readNamed_member (hname : member.1 ∈ names) (hnew : kept.lookup member.1 = none)
    {first : Bool} (hcs : cs = if first then memberWire member rest else ',' :: memberWire member rest) :
    readNamed names (fuel + 1) first kept cs = readNamed names fuel false (member :: kept) rest := by
  have hkept : readKept (wire (member.1.toList.flatMap escapeChar) ++
      '"' :: ':' :: '"' :: (wire (member.2.toList.flatMap escapeChar) ++ '"' :: rest)) =
        some (member.1, ':' :: '"' :: (wire (member.2.toList.flatMap escapeChar) ++ '"' :: rest)) :=
    readKept_wire _ _
  have hfield : readField ('"' :: (wire (member.2.toList.flatMap escapeChar) ++ '"' :: rest)) =
      some (member.2, rest) := readKept_wire _ _
  subst hcs
  cases first <;>
    simp [readNamed, memberWire, skipBlanks, readColon, hkept, hfield, hname, hnew,
      Except.toOption]

/-- All members up to the closing brace are kept. -/
theorem readNamed_members {members : List (String × String)}
    (hnames : ∀ member ∈ members, member.1 ∈ names)
    (hnew : ((members.reverse ++ kept).map Prod.fst).Nodup) (hfuel : members.length < fuel) :
    readNamed names fuel false kept (membersWire members ('\x7d' :: rest)) =
      some (members.reverse ++ kept, rest) := by
  induction members generalizing fuel kept with
  | nil =>
    obtain ⟨fuel, rfl⟩ := Nat.exists_eq_succ_of_ne_zero (Nat.ne_of_gt hfuel)
    simp [readNamed, membersWire, skipBlanks]
  | cons member members ih =>
    obtain ⟨hname, hnames⟩ := List.forall_mem_cons.1 hnames
    obtain ⟨fuel, rfl⟩ := Nat.exists_eq_succ_of_ne_zero (Nat.ne_of_gt (Nat.lt_of_lt_of_le
      (Nat.zero_lt_succ _) (Nat.le_of_lt hfuel)))
    rw [List.reverse_cons, List.append_assoc, List.singleton_append] at hnew
    have hlookup : kept.lookup member.1 = none := by
      rw [List.map_append, List.map_cons] at hnew
      have hmem := (List.nodup_cons.1 (List.nodup_append.1 hnew).2.1).1
      rw [List.lookup_eq_none_iff]
      intro entry hentry
      refine bne_iff_ne.2 fun heq => hmem ?_
      rw [heq]
      exact List.mem_map_of_mem hentry
    rw [membersWire, readNamed_member hname hlookup (by rfl),
      ih hnames hnew (Nat.lt_of_succ_lt_succ hfuel), List.reverse_cons, List.append_assoc,
      List.singleton_append]

end Members

/-- The text of a member, as it is read from its bytes. -/
theorem wire_memberText (member : String × String) (rest : List Char) :
    wire (stringText member.1 ++ ":" ++ stringText member.2).toList ++ rest =
      memberWire member rest := by
  have hquote : wire ['"'] = ['"'] := wire_singleton (by decide)
  have hcolon : wire ":".toList = [':'] := wire_singleton (c := ':') (by decide)
  have hstring (value : String) : wire (stringText value).toList =
      '"' :: (wire (value.toList.flatMap escapeChar) ++ ['"']) := by
    rw [stringText, String.toList_ofList, wire_append, wire_append, hquote]
    rfl
  rw [String.toList_append, String.toList_append, wire_append, wire_append, hcolon, hstring,
    hstring, memberWire]
  simp only [List.append_assoc, List.cons_append, List.nil_append]

/-- The text of an object whose members are all strings, as it is read from its bytes. -/
theorem wire_text (member : String × String) (members : List (String × String)) :
    charsOf (bytesOf (object ((member :: members).map fun member =>
        (member.1, string member.2))).text) =
      '\x7b' :: memberWire member (membersWire members ['\x7d']) := by
  have hopen : wire "\x7b".toList = ['\x7b'] := wire_singleton (c := '\x7b') (by decide)
  have hclose : wire "\x7d".toList = ['\x7d'] := wire_singleton (c := '\x7d') (by decide)
  have hcomma : wire ",".toList = [','] := wire_singleton (c := ',') (by decide)
  have hmembers : wire (String.intercalate ","
      (memberTexts ((member :: members).map fun member => (member.1, string member.2)))).toList ++
        ['\x7d'] = memberWire member (membersWire members ['\x7d']) := by
    induction members generalizing member with
    | nil =>
      rw [List.map_singleton, memberTexts, memberTexts, text, String.intercalate_singleton,
        wire_memberText]
      rfl
    | cons next members ih =>
      rw [List.map_cons, memberTexts, text, membersWire, ← ih next, List.map_cons, memberTexts,
        String.intercalate_cons_cons, String.toList_append, String.toList_append, wire_append,
        wire_append, hcomma, List.append_assoc, List.append_assoc, wire_memberText,
        List.singleton_append]
  rw [bytesOf_eq, text, String.toList_append, String.toList_append]
  change wire _ = _
  rw [wire_append, wire_append, hopen, hclose, List.append_assoc, hmembers, List.singleton_append]

theorem lookup_of_mem {members : List (String × String)} (hnames : (members.map Prod.fst).Nodup)
    {member : String × String} (h : member ∈ members) :
    members.lookup member.1 = some member.2 := by
  induction members with
  | nil => cases h
  | cons other members ih =>
    obtain ⟨hnot, hnames⟩ := List.nodup_cons.1 hnames
    rw [List.lookup_cons]
    obtain rfl | hmem := List.mem_cons.1 h
    · rw [beq_self_eq_true]
    · have hne : (member.1 == other.1) = false :=
        beq_eq_false_iff_ne.2 fun heq => hnot (heq ▸ List.mem_map_of_mem hmem)
      rw [hne]
      exact ih hnames hmem

theorem mapM_map_fst {lookup : String → Option String} {members : List (String × String)}
    (h : ∀ member ∈ members, lookup member.1 = some member.2) :
    (members.map Prod.fst).mapM lookup = some (members.map Prod.snd) := by
  induction members with
  | nil => rfl
  | cons member members ih =>
    obtain ⟨hmember, hmembers⟩ := List.forall_mem_cons.1 h
    rw [List.map_cons, List.mapM_cons, hmember, ih hmembers]
    rfl

/-- A record is read back from its text. -/
theorem readRecord?_text (member : String × String) (members : List (String × String))
    (hnames : ((member :: members).map Prod.fst).Nodup) :
    readRecord? ((member :: members).map Prod.fst)
        (bytesOf (object ((member :: members).map fun member =>
          (member.1, string member.2))).text) =
      some ((member :: members).map Prod.snd) := by
  have hreverse : ((member :: members).reverse.map Prod.fst).Nodup :=
    ((List.reverse_perm _).map Prod.fst).nodup_iff.2 hnames
  have hread : readNamed ((member :: members).map Prod.fst)
      ((memberWire member (membersWire members ['\x7d'])).length + 1) true []
      (memberWire member (membersWire members ['\x7d'])) =
        some ((member :: members).reverse, []) := by
    have hmem : ∀ other ∈ member :: members, other.1 ∈ (member :: members).map Prod.fst :=
      fun _ => List.mem_map_of_mem
    have hlength := Nat.lt_of_le_of_lt (length_le_membersWire members ['\x7d'])
      (length_lt_memberWire member _)
    rw [List.reverse_cons] at hreverse
    rw [readNamed_member (hmem member List.mem_cons_self) (by rfl) (by rfl),
      readNamed_members (fun other hother => hmem other (List.mem_cons_of_mem _ hother)) hreverse
        hlength, List.reverse_cons]
  have hvalues : ((member :: members).map Prod.fst).mapM
      (fun name => (member :: members).reverse.lookup name) =
        some ((member :: members).map Prod.snd) :=
    mapM_map_fst fun other hother => lookup_of_mem hreverse (List.mem_reverse.2 hother)
  rw [readRecord?, wire_text]
  change (readNamed _ _ _ _ _).bind _ = _
  rw [hread]
  exact hvalues

end Courier.Json
