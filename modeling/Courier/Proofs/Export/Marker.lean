import Mathlib.Data.List.Infix
import Courier.Proofs.Item.Account
import Courier.Proofs.Memory.FaultFree
import Courier.Settings.Basic

/-!
Which objects share a marker. A marker's key is the object's key with the status root in the place
of the export root, and keys that differ can become one by that: where one holds the export root,
the other may hold the status root itself, or the beginning of one that overlaps itself. Keys that
do not clash in this way keep their markers apart; but any accepted settings allow for keys that do,
unless the status root contains the export root. Of two objects that share a marker the second one
is skipped once the first has been delivered.
-/

namespace Courier

namespace Text

variable {old new text other front back : List Char}

theorem replaceChars_nil : replaceChars old new [] = [] := by
  rw [replaceChars]

/-- An occurrence at the start is replaced, and the rest is read from behind it. -/
theorem replaceChars_append_old (hold : old ≠ []) (rest : List Char) :
    replaceChars old new (old ++ rest) = new ++ replaceChars old new rest := by
  obtain ⟨c, cs, rfl⟩ := List.exists_cons_of_ne_nil hold
  have hfront : (c :: cs).isPrefixOf (c :: (cs ++ rest)) := by
    rw [List.isPrefixOf_iff_prefix]
    exact ⟨rest, rfl⟩
  rw [List.cons_append, replaceChars]
  simp [hfront]

/-- A character at which no occurrence starts is kept. -/
theorem replaceChars_cons {c : Char} {cs : List Char} (h : ¬ old <+: c :: cs) :
    replaceChars old new (c :: cs) = c :: replaceChars old new cs := by
  have hold : old.isEmpty = false := by
    cases old with
    | nil => exact absurd List.nil_prefix h
    | cons => rfl
  rw [replaceChars, hold, if_neg Bool.false_ne_true, if_neg (mt List.isPrefixOf_iff_prefix.1 h)]

/-- A text is read occurrence by occurrence of `old`, and character by character in between. -/
theorem scan_induction (hold : old ≠ []) {motive : List Char → Prop} (nil : motive [])
    (replaced : ∀ rest, motive rest → motive (old ++ rest))
    (kept : ∀ c cs, ¬ old <+: c :: cs → motive cs → motive (c :: cs)) (text : List Char) :
    motive text := by
  induction hlength : text.length using Nat.strong_induction_on generalizing text with
  | _ length ih =>
    cases text with
    | nil => exact nil
    | cons c cs =>
      by_cases hfront : old <+: c :: cs
      · obtain ⟨rest, hrest⟩ := hfront
        rw [← hrest] at hlength ⊢
        have hpositive := List.length_pos_iff.2 hold
        rw [List.length_append] at hlength
        exact replaced rest (ih rest.length (by omega) rest rfl)
      · rw [List.length_cons] at hlength
        exact kept c cs hfront (ih cs.length (by omega) cs rfl)

/-- What a text with replacements begins with is kept from the text, or runs into a replacement. -/
theorem prefix_or_of_prefix_replaceChars (hold : old ≠ []) (h : front <+: replaceChars old new text) :
    front <+: text ∨ ∃ start rest, front = start ++ rest ∧ rest ≠ [] ∧ start ++ old <+: text ∧
      (rest <+: new ∨ new <+: rest) := by
  induction text using scan_induction hold generalizing front with
  | nil =>
    rw [replaceChars_nil] at h
    exact .inl h
  | replaced rest _ =>
    rw [replaceChars_append_old hold] at h
    by_cases hfront : front = []
    · exact .inl (hfront ▸ List.nil_prefix)
    · exact .inr ⟨[], front, rfl, hfront, List.prefix_append old rest,
        List.prefix_or_prefix_of_prefix h (List.prefix_append new _)⟩
  | kept c cs hnot ih =>
    rw [replaceChars_cons hnot] at h
    cases front with
    | nil => exact .inl List.nil_prefix
    | cons d ds =>
      obtain ⟨rfl, hds⟩ := List.cons_prefix_cons.1 h
      obtain hkept | ⟨start, rest, rfl, hrest, hstart, hnew⟩ := ih hds
      · exact .inl (List.cons_prefix_cons.2 ⟨rfl, hkept⟩)
      · exact .inr ⟨d :: start, rest, rfl, hrest, List.cons_prefix_cons.2 ⟨rfl, hstart⟩, hnew⟩

/-- The text with its occurrences of `old` replaced, from the left and without looking at a character
    twice. -/
inductive Exchanged (old new : List Char) : List Char → List Char → Prop
  | nil : Exchanged old new [] []
  | replaced {rest moved : List Char} (h : Exchanged old new rest moved) :
    Exchanged old new (old ++ rest) (new ++ moved)
  | kept {c : Char} {cs moved : List Char} (hnot : ¬ old <+: c :: cs)
    (h : Exchanged old new cs moved) : Exchanged old new (c :: cs) (c :: moved)

theorem exchanged_iff {moved : List Char} (hold : old ≠ []) :
    Exchanged old new text moved ↔ replaceChars old new text = moved := by
  constructor
  · intro h
    induction h with
    | nil => exact replaceChars_nil
    | replaced _ ih => rw [replaceChars_append_old hold, ih]
    | kept hnot _ ih => rw [replaceChars_cons hnot, ih]
  · rintro rfl
    induction text using scan_induction hold with
    | nil =>
      rw [replaceChars_nil]
      exact .nil
    | replaced rest ih =>
      rw [replaceChars_append_old hold]
      exact .replaced ih
    | kept c cs hnot ih =>
      rw [replaceChars_cons hnot]
      exact .kept hnot ih

/-- The text goes on with `new`, or with a beginning of `new` in front of `old` after which `new`
    goes on as it begins. -/
def Poses (old new text : List Char) : Prop :=
  new <+: text ∨ ∃ n < new.length, 0 < n ∧ new.drop n <+: new ∧ new.take n ++ old <+: text

instance : Decidable (Poses old new text) := by unfold Poses; infer_instance

/-- Behind a common beginning the text goes on with `old`, and the other one does not, but poses as
    one in which `old` has been replaced. -/
def Clash (old new text other : List Char) : Prop :=
  ∃ i < text.length, text.take i = other.take i ∧ old <+: text.drop i ∧ ¬ old <+: other.drop i ∧
    Poses old new (other.drop i)

instance : Decidable (Clash old new text other) := by unfold Clash; infer_instance

/-- A common beginning may be put in front of texts that clash. -/
theorem Clash.append_left (front : List Char) (h : Clash old new text other) :
    Clash old new (front ++ text) (front ++ other) := by
  obtain ⟨i, hi, htake, htext, hother, hposes⟩ := h
  refine ⟨front.length + i, ?_, ?_, ?_, ?_, ?_⟩
  · rw [List.length_append]
    exact Nat.add_lt_add_left hi _
  · rw [List.take_length_add_append, List.take_length_add_append, htake]
  · rwa [List.drop_length_add_append]
  · rwa [List.drop_length_add_append]
  · rwa [List.drop_length_add_append]

/-- A text that begins with `new` after all replacements, but not with `old` before, poses as one in
    which `old` has been replaced. -/
theorem poses_of_prefix_replaceChars (hold : old ≠ []) (hnot : ¬ old <+: text)
    (h : new <+: replaceChars old new text) : Poses old new text := by
  obtain hkept | ⟨start, rest, hnew, hrest, hstart, hoverlap⟩ :=
    prefix_or_of_prefix_replaceChars hold h
  · exact .inl hkept
  · have hlength : new.length = start.length + rest.length := by
      rw [hnew, List.length_append]
    have hpositive := List.length_pos_iff.2 hrest
    have hstart_ne : 0 < start.length := by
      refine List.length_pos_iff.2 fun hempty => hnot ?_
      rwa [hempty, List.nil_append] at hstart
    have hdrop : new.drop start.length = rest := by
      rw [hnew, List.drop_left]
    have htake : new.take start.length = start := by
      rw [hnew, List.take_left]
    refine .inr ⟨start.length, by omega, hstart_ne, ?_, htake.symm ▸ hstart⟩
    rw [hdrop]
    refine hoverlap.resolve_right fun hlong => ?_
    have := hlong.length_le
    omega

/-- Texts clash at their beginnings if only one of them begins with `old` and they become one. -/
theorem clash_of_front (hold : old ≠ []) (hfront : old <+: text) (hnot : ¬ old <+: other)
    (h : replaceChars old new text = replaceChars old new other) : Clash old new text other := by
  obtain ⟨rest, rfl⟩ := hfront
  refine ⟨0, ?_, rfl, List.prefix_append old rest, hnot, ?_⟩
  · exact List.length_pos_iff.2 (by simp [hold])
  · refine poses_of_prefix_replaceChars hold hnot ?_
    rw [List.drop_zero, ← h, replaceChars_append_old hold]
    exact List.prefix_append new _

theorem replaceChars_eq_nil_iff (hold : old ≠ []) (hnew : new ≠ []) :
    replaceChars old new text = [] ↔ text = [] := by
  induction text using scan_induction hold with
  | nil => rw [replaceChars_nil]
  | replaced rest _ =>
    rw [replaceChars_append_old hold]
    simp [hold, hnew]
  | kept c cs hnot _ =>
    rw [replaceChars_cons hnot]
    simp

/-- Different texts become one only if they clash. -/
theorem clash_of_replaceChars_eq (hold : old ≠ []) (hnew : new ≠ []) (hne : text ≠ other)
    (h : replaceChars old new text = replaceChars old new other) :
    Clash old new text other ∨ Clash old new other text := by
  induction text using scan_induction hold generalizing other with
  | nil =>
    rw [replaceChars_nil] at h
    exact absurd ((replaceChars_eq_nil_iff hold hnew).1 h.symm).symm hne
  | replaced rest ih =>
    by_cases hfront : old <+: other
    · obtain ⟨rest', rfl⟩ := hfront
      rw [replaceChars_append_old hold, replaceChars_append_old hold] at h
      exact (ih (mt (congrArg (old ++ ·)) hne) (List.append_cancel_left h)).imp
        (.append_left old) (.append_left old)
    · exact .inl (clash_of_front hold (List.prefix_append old rest) hfront h)
  | kept c cs hnot ih =>
    by_cases hfront : old <+: other
    · exact .inr (clash_of_front hold hfront hnot h.symm)
    · rw [replaceChars_cons hnot] at h
      cases other with
      | nil =>
        rw [replaceChars_nil] at h
        cases h
      | cons d ds =>
        rw [replaceChars_cons hfront] at h
        obtain ⟨rfl, hcs⟩ := List.cons.inj h
        exact (ih (mt (congrArg (c :: ·)) hne) hcs).imp (.append_left [c]) (.append_left [c])

/-- An occurrence of `old` begins in the first text and ends in the second. -/
def Straddles (old front back : List Char) : Prop :=
  ∃ start rest, old = start ++ rest ∧ start ≠ [] ∧ rest ≠ [] ∧ start <:+ front ∧ rest <+: back

/-- Texts with no occurrence across their border are read one after the other. -/
theorem replaceChars_append (hold : old ≠ []) (hborder : ¬ Straddles old front back) :
    replaceChars old new (front ++ back) = replaceChars old new front ++ replaceChars old new back := by
  induction front using scan_induction hold with
  | nil => rw [replaceChars_nil, List.nil_append, List.nil_append]
  | replaced rest ih =>
    have hrest : ¬ Straddles old rest back := by
      rintro ⟨start, stop, hsplit, hstart, hstop, hfront, hback⟩
      exact hborder ⟨start, stop, hsplit, hstart, hstop,
        hfront.trans (List.suffix_append old rest), hback⟩
    rw [List.append_assoc, replaceChars_append_old hold, replaceChars_append_old hold, ih hrest,
      List.append_assoc]
  | kept c cs hnot ih =>
    have hcs : ¬ Straddles old cs back := by
      rintro ⟨start, stop, hsplit, hstart, hstop, hfront, hback⟩
      exact hborder ⟨start, stop, hsplit, hstart, hstop, hfront.trans (List.suffix_cons c cs), hback⟩
    have hlong : ¬ old <+: c :: (cs ++ back) := by
      intro hfront
      rw [← List.cons_append] at hfront
      obtain hshort | ⟨rest, hrest⟩ :=
        List.prefix_or_prefix_of_prefix hfront (List.prefix_append (c :: cs) back)
      · exact hnot hshort
      · rw [← hrest, List.prefix_append_right_inj] at hfront
        by_cases hempty : rest = []
        · exact hnot (by rw [← hrest, hempty, List.append_nil])
        · exact hborder ⟨c :: cs, rest, hrest.symm, List.cons_ne_nil c cs, hempty,
            List.suffix_rfl, hfront⟩
    rw [List.cons_append, replaceChars_cons hlong, replaceChars_cons hnot, ih hcs, List.cons_append]

/-- A text without an occurrence stays as it is. -/
theorem replaceChars_eq_self (hold : old ≠ []) (h : ¬ old <:+: text) :
    replaceChars old new text = text := by
  induction text using scan_induction hold with
  | nil => exact replaceChars_nil
  | replaced rest _ => exact absurd (List.prefix_append old rest).isInfix h
  | kept c cs hnot ih =>
    rw [replaceChars_cons hnot, ih (mt (·.trans (List.suffix_cons c cs).isInfix) h)]

/-- No occurrence begins in a run of a character with which `old` does not begin. -/
theorem not_straddles_of_head? {c : Char} (h : old.head? ≠ some c) :
    ¬ Straddles old (front ++ List.replicate old.length c) back := by
  rintro ⟨start, rest, hsplit, hstart, hrest, hfront, -⟩
  have hlength : start.length ≤ (List.replicate old.length c).length := by
    rw [List.length_replicate, hsplit, List.length_append]
    exact Nat.le_add_right _ _
  have hsuffix := List.suffix_of_suffix_length_le hfront (List.suffix_append _ _) hlength
  obtain ⟨d, ds, rfl⟩ := List.exists_cons_of_ne_nil hstart
  obtain rfl := List.eq_of_mem_replicate (hsuffix.subset List.mem_cons_self)
  rw [hsplit] at h
  exact h rfl

/-- No occurrence ends in a run of a character with which `old` does not end. -/
theorem not_straddles_of_getLast? {c : Char} (h : old.getLast? ≠ some c) :
    ¬ Straddles old front (List.replicate old.length c ++ back) := by
  rintro ⟨start, rest, hsplit, hstart, hrest, -, hback⟩
  have hlength : rest.length ≤ (List.replicate old.length c).length := by
    rw [List.length_replicate, hsplit, List.length_append]
    exact Nat.le_add_left _ _
  have hfront := List.prefix_of_prefix_length_le hback (List.prefix_append _ _) hlength
  have hlast := List.eq_of_mem_replicate (hfront.subset (List.getLast_mem hrest))
  rw [hsplit, List.getLast?_append_of_ne_nil _ hrest, List.getLast?_eq_some_getLast hrest] at h
  exact h (congrArg some hlast)

theorem exists_ne_some (first : Option Char) : ∃ c, first ≠ some c := by
  by_cases h : first = some 'a'
  · exact ⟨'b', by rw [h]; decide⟩
  · exact ⟨'a', h⟩

end Text

namespace Storage

variable {storage : Storage}

theorem roots_ne_nil_of_check (h : storage.check = .ok ()) :
    storage.exportRoot.toList ≠ [] ∧ storage.statusRoot.toList ≠ [] := by
  simp only [check, checkPresent, String.isEmpty_iff] at h
  split at h
  · cases h
  split at h
  · cases h
  split at h
  · cases h
  next hexport =>
    split at h
    · cases h
    next hstatus =>
      rw [ne_eq, ne_eq, String.toList_eq_nil_iff, String.toList_eq_nil_iff]
      exact ⟨hexport, hstatus⟩

/-- Behind a common beginning the key goes on with the export root, and the other one as if there
    the status root had taken its place. -/
def Clash (storage : Storage) (key other : String) : Prop :=
  Text.Clash storage.exportRoot.toList storage.statusRoot.toList key.toList other.toList

instance (key other : String) : Decidable (storage.Clash key other) := by
  unfold Clash
  infer_instance

end Storage

namespace Item

open Memory Program

variable {settings : Settings} {key other : String}

theorem markerKey_eq_iff :
    markerKey settings key = markerKey settings other ↔
      Text.replaceChars settings.storage.exportRoot.toList settings.storage.statusRoot.toList
          key.toList =
        Text.replaceChars settings.storage.exportRoot.toList settings.storage.statusRoot.toList
          other.toList := by
  rw [markerKey, markerKey, Marker.key, Marker.key, String.append_left_inj, String.ofList_inj]

/-- The work on an object writes no other marker than its own. -/
theorem process_find?_of_ne {place : String} (hplace : place ≠ markerKey settings key)
    (world : World) :
    find? (World.run (process settings key) world).2.objects place = find? world.objects place := by
  have hask (state : World) (call : Call) (hcall : Asks settings key call)
      (h : find? state.objects place = find? world.objects place) :
      find? (state.answer call).2.objects place = find? world.objects place := by
    obtain hsame | ⟨-, object, hinsert⟩ := hcall.objects_cases state
    · rw [hsame, h]
    · rw [hinsert, find?_insert_of_ne _ _ hplace, h]
  refine Makes.run_state (process_makes settings key) ?_ hask fun _ _ h => h
  rfl

/-- The object has been found to have no marker, or none has been looked for. -/
def Phase.isCleared : Phase → Bool
  | .unchecked | .skipping => false
  | _ => true

theorem Phase.isCleared_next {phase : Phase} {turn : Turn Call.Answer} (h : phase.isCleared) :
    (phase.next turn).isCleared := by
  unfold Phase.next
  split <;> first | rfl | exact h

/-- What a phase of the work on an object says of the marker before the work. -/
structure Sighted (settings : Settings) (key : String) (before : World) (phase : Phase)
    (state : World) : Prop where
  unchecked : phase = .unchecked → settings.run.reprocess = false ∧
    find? state.objects (markerKey settings key) = find? before.objects (markerKey settings key)
  skipping : phase = .skipping → settings.run.reprocess = false ∧
    (find? before.objects (markerKey settings key)).isSome
  cleared : phase.isCleared → ¬ (settings.run.reprocess = false ∧
    (find? before.objects (markerKey settings key)).isSome)

theorem Sighted.ask {before state : World} {phase : Phase} {call : Call}
    (hallowed : (rule settings key).allows phase call)
    (h : Sighted settings key before phase state) :
    Sighted settings key before ((rule settings key).after phase ⟨call, (state.answer call).1⟩)
      (state.answer call).2 := by
  have hcleared (hphase : phase.isCleared) :
      Sighted settings key before (phase.next ⟨call, (state.answer call).1⟩)
        (state.answer call).2 := by
    have hnext : (phase.next ⟨call, (state.answer call).1⟩).isCleared :=
      Phase.isCleared_next hphase
    refine ⟨fun heq => ?_, fun heq => ?_, fun _ => h.cleared hphase⟩
    · rw [heq] at hnext
      cases hnext
    · rw [heq] at hnext
      cases hnext
  cases phase with
  | unchecked =>
    obtain rfl : call = .contains (markerKey settings key) := hallowed
    obtain ⟨hoff, hsame⟩ := h.unchecked rfl
    have hkept : (state.answer (.contains (markerKey settings key))).2.objects = state.objects :=
      World.answer_objects_of_ne nofun
    rcases hanswer : (state.answer (.contains (markerKey settings key))).1 with failure | found
    · exact ⟨fun _ => ⟨hoff, hkept ▸ hsame⟩, nofun, nofun⟩
    · have hfound := state.answer_contains _ _ hanswer
      rw [hsame] at hfound
      cases found with
      | true => exact ⟨nofun, fun _ => ⟨hoff, hfound.symm⟩, nofun⟩
      | false => exact ⟨nofun, nofun, fun _ hmarked => by cases hfound.trans hmarked.2⟩
  | skipping => exact hallowed.elim
  | cleared | accepted | marked | counted => exact hcleared rfl

/-- The work on an object skips it just if its marker is there and objects are not sent again. -/
theorem process_eq_skipped_iff {world : World} {outcome : ItemOutcome}
    (houtcome : (World.run (process settings key) world).1 = some (.ok outcome)) :
    outcome = .skipped ↔ settings.run.reprocess = false ∧
      (find? world.objects (markerKey settings key)).isSome := by
  have hstart : Sighted settings key world (firstPhase settings) world := by
    unfold firstPhase
    split
    · next hon => exact ⟨nofun, nofun, fun _ h => by cases h.1.symm.trans hon⟩
    · next hoff => exact ⟨fun _ => ⟨Bool.not_eq_true _ ▸ hoff, rfl⟩, nofun, nofun⟩
  have hpass (phase : Phase) (state : World) (nanos : Nat)
      (h : Sighted settings key world phase state) :
      Sighted settings key world phase (state.pass nanos) := ⟨h.unchecked, h.skipping, h.cleared⟩
  obtain ⟨phase, hends, hsighted⟩ := (process_follows settings key).run hstart
    (fun _ _ _ hallowed h => h.ask hallowed) hpass houtcome
  cases phase with
  | skipping =>
    cases hends
    exact iff_of_true rfl (hsighted.skipping rfl)
  | counted =>
    cases hends
    exact iff_of_false nofun (hsighted.cleared rfl)
  | cleared =>
    obtain ⟨reason, hreason, -⟩ | ⟨failure, hfailure, -⟩ := hends
    · cases hreason
      exact iff_of_false nofun (hsighted.cleared rfl)
    · cases hfailure
  | marked =>
    obtain ⟨-, failure, hfailure⟩ := hends
    cases hfailure
  | unchecked | accepted =>
    obtain ⟨failure, hfailure⟩ := hends
    cases hfailure

/-- When two objects share a marker, and what that does to the second one. -/
structure Sharing (settings : Settings) (key other : String) : Prop where
  /-- The marker has the key of the object, with the roots exchanged. -/
  moved : ∀ moved,
    Text.Exchanged settings.storage.exportRoot.toList settings.storage.statusRoot.toList key.toList
      moved → markerKey settings key = String.ofList moved ++ ".finished"
  /-- The markers are the same just if the keys are, once the roots are exchanged. -/
  same : markerKey settings key = markerKey settings other ↔ ∃ moved,
    Text.Exchanged settings.storage.exportRoot.toList settings.storage.statusRoot.toList key.toList
      moved ∧
    Text.Exchanged settings.storage.exportRoot.toList settings.storage.statusRoot.toList
      other.toList moved
  /-- That takes two keys that clash. -/
  clash : markerKey settings key = markerKey settings other →
    settings.storage.Clash key other ∨ settings.storage.Clash other key
  /-- The work on one object leaves the other marker of another object as it is. -/
  apart : markerKey settings key ≠ markerKey settings other → ∀ world : World,
    find? (World.run (process settings key) world).2.objects (markerKey settings other) =
      find? world.objects (markerKey settings other)
  /-- Once one object has been delivered, the other one is skipped just if it had its marker before,
      or shares it with the first. -/
  skips : ∀ world middle outcome,
    World.run (process settings key) world = (some (.ok .delivered), middle) →
    (World.run (process settings other) middle).1 = some (.ok outcome) →
      (outcome = .skipped ↔ settings.run.reprocess = false ∧
        ((find? world.objects (markerKey settings other)).isSome ∨
          markerKey settings key = markerKey settings other))

/-- Different objects share a marker only if their keys clash, and then the second one is skipped
    once the first has been delivered. -/
theorem markers_shared (hcheck : settings.storage.check = .ok ()) (hne : key ≠ other) :
    Sharing settings key other := by
  obtain ⟨hexport, hstatus⟩ := Storage.roots_ne_nil_of_check hcheck
  refine ⟨?moved, ?same, ?clash, ?apart, ?skips⟩
  case moved =>
    intro moved hmoved
    rw [← (Text.exchanged_iff hexport).1 hmoved]
    rfl
  case same =>
    simp only [markerKey_eq_iff, Text.exchanged_iff hexport, exists_eq_left']
    exact eq_comm
  case clash =>
    intro heq
    refine Text.clash_of_replaceChars_eq hexport hstatus ?_ (markerKey_eq_iff.1 heq)
    exact mt String.toList_inj.1 hne
  case apart => exact fun hapart world => process_find?_of_ne (Ne.symm hapart) world
  case skips =>
    intro world middle outcome hdelivered houtcome
    rw [process_eq_skipped_iff houtcome]
    refine and_congr_right fun _ => ?_
    by_cases hsame : markerKey settings key = markerKey settings other
    · have hwritten := account_of_process settings key (congrArg Prod.fst hdelivered)
      obtain ⟨-, ⟨⟨marker, hmarker, -⟩, -⟩, -⟩ := hwritten
      rw [hdelivered, hsame] at hmarker
      simp only [hmarker, hsame, Option.isSome_some, or_true]
    · have hkept := process_find?_of_ne (Ne.symm hsame) world
      rw [hdelivered] at hkept
      simp only [hkept, hsame, or_false]

end Item

namespace Sample

open Memory

/-- The key of an object whose name holds the status root. -/
def statusNamed : String := "exp/job/db.core.claimant-status-000001.txt.gz.enc"

/-- The object of the sample, and the same under the other name. -/
def namedWorld : World :=
  { world with
    objects := world.objects.flatMap fun entry => [entry, (statusNamed, entry.2)] }

end Sample

namespace Item

open Memory

theorem markers_shared_statusNamed :
    (Sample.settings.storage.check = .ok () ∧ Sample.key ≠ Sample.statusNamed) ∧
      ¬ Sample.settings.storage.Clash Sample.key Sample.statusNamed ∧
      ¬ Sample.settings.storage.Clash Sample.statusNamed Sample.key ∧
      markerKey Sample.settings Sample.key ≠ markerKey Sample.settings Sample.statusNamed ∧
      ∃ middle outcome,
        World.run (process Sample.settings Sample.key) Sample.namedWorld =
          (some (.ok .delivered), middle) ∧
        (World.run (process Sample.settings Sample.statusNamed) middle).1 = some (.ok outcome) ∧
        outcome ≠ .skipped := by
  have hcheck : Sample.settings.storage.check = .ok () := rfl
  have hne : Sample.key ≠ Sample.statusNamed := by decide
  have hclash : ¬ Sample.settings.storage.Clash Sample.key Sample.statusNamed := by decide +kernel
  have hclash' : ¬ Sample.settings.storage.Clash Sample.statusNamed Sample.key := by decide +kernel
  have hdelivered : Succeeds (process Sample.settings Sample.key) Sample.namedWorld .delivered _ :=
    .of_toOption (by decide +kernel)
  have hsecond : Succeeds (process Sample.settings Sample.statusNamed)
      (World.run (process Sample.settings Sample.key) Sample.namedWorld).2 .delivered _ :=
    .of_toOption (by decide +kernel)
  have hshared := markers_shared hcheck hne
  have hapart := fun hsame => (hshared.clash hsame).elim hclash hclash'
  refine ⟨⟨hcheck, hne⟩, hclash, hclash', hapart, _, .delivered, hdelivered,
    congrArg Prod.fst hsecond, fun hskipped => ?_⟩
  obtain ⟨-, hmarked | hsame⟩ :=
    (hshared.skips _ _ _ hdelivered (congrArg Prod.fst hsecond)).1 hskipped
  · exact absurd hmarked (by decide +kernel)
  · exact hapart hsame

/-- Unless the status root holds the export root, some two objects of the folder share a marker:
    one holds the export root once more where the other holds the status root. -/
theorem exists_markerKey_eq (hcheck : settings.storage.check = .ok ())
    (hroots : ¬ settings.storage.exportRoot.toList <:+: settings.storage.statusRoot.toList) :
    ∃ key other, key ≠ other ∧
      (Text.startsWith settings.storage.folder key ∧ Text.endsWith encryptedEnding key) ∧
      (Text.startsWith settings.storage.folder other ∧ Text.endsWith encryptedEnding other) ∧
      markerKey settings key = markerKey settings other := by
  obtain ⟨hexport, -⟩ := Storage.roots_ne_nil_of_check hcheck
  generalize hold : settings.storage.exportRoot.toList = old at *
  generalize hnew : settings.storage.statusRoot.toList = new at *
  obtain ⟨c, hc⟩ := Text.exists_ne_some old.head?
  obtain ⟨d, hd⟩ := Text.exists_ne_some old.getLast?
  -- nothing is replaced across the borders of the middle part
  let front := settings.storage.folder.toList ++ List.replicate old.length c
  let back := List.replicate old.length d ++ encryptedEnding.toList
  let keyWith (middle : List Char) : String := String.ofList (front ++ (middle ++ back))
  have hcandidate (middle : List Char) :
      Text.startsWith settings.storage.folder (keyWith middle) ∧
        Text.endsWith encryptedEnding (keyWith middle) := by
    rw [Text.startsWith, Text.endsWith, List.isPrefixOf_iff_prefix, List.isSuffixOf_iff_suffix,
      String.toList_ofList]
    refine ⟨⟨List.replicate old.length c ++ (middle ++ back), (List.append_assoc ..).symm⟩, ?_⟩
    exact ⟨front ++ (middle ++ List.replicate old.length d), by simp [back, List.append_assoc]⟩
  have hfront (middle : List Char) : Text.replaceChars old new (front ++ (middle ++ back)) =
      Text.replaceChars old new front ++ Text.replaceChars old new (middle ++ back) :=
    Text.replaceChars_append hexport (Text.not_straddles_of_head? hc)
  have hmiddle : Text.replaceChars old new (new ++ back) =
      Text.replaceChars old new new ++ Text.replaceChars old new back :=
    Text.replaceChars_append hexport (Text.not_straddles_of_getLast? hd)
  refine ⟨keyWith old, keyWith new, fun heq => ?_, hcandidate old, hcandidate new, ?_⟩
  · have hsame : old = new :=
      List.append_cancel_right (List.append_cancel_left (String.ofList_inj.1 heq))
    exact hroots (hsame ▸ List.infix_rfl)
  · rw [markerKey_eq_iff, hold, hnew, String.toList_ofList, String.toList_ofList, hfront, hfront,
      Text.replaceChars_append_old hexport, hmiddle, Text.replaceChars_eq_self hexport hroots]

end Item

namespace Sample

open Memory

/-- The key of an object below a folder named like the export root. -/
def exportTwin : String := "exp/job/exp/db.core.thing-000001.txt.gz.enc"

/-- The key of an object below a folder named like the status root. -/
def statusTwin : String := "exp/job/status/db.core.thing-000001.txt.gz.enc"

/-- The object of the sample under two keys that share a marker. -/
def twinWorld : World :=
  { world with
    objects := world.objects.flatMap fun entry => [(exportTwin, entry.2), (statusTwin, entry.2)] }

/-- One object is delivered, and then the other one is skipped, which has not been delivered. -/
theorem exists_skipped_unsent :
    settings.storage.check = .ok () ∧ exportTwin ≠ statusTwin ∧
    (Text.startsWith settings.storage.folder exportTwin ∧
      Text.endsWith encryptedEnding exportTwin) ∧
    (Text.startsWith settings.storage.folder statusTwin ∧
      Text.endsWith encryptedEnding statusTwin) ∧
    Item.markerKey settings exportTwin = Item.markerKey settings statusTwin ∧
    (find? twinWorld.objects statusTwin).isSome ∧
    ∃ middle after,
      World.run (Item.process settings exportTwin) twinWorld = (some (.ok .delivered), middle) ∧
      World.run (Item.process settings statusTwin) middle = (some (.ok .skipped), after) ∧
      ∀ event ∈ middle.eventsSince after, kindOf event.call ≠ .deliver := by
  have hdelivered : Succeeds (Item.process settings exportTwin) twinWorld .delivered _ :=
    .of_toOption (by decide +kernel)
  have hskipped : Succeeds (Item.process settings statusTwin)
      (World.run (Item.process settings exportTwin) twinWorld).2 .skipped _ :=
    .of_toOption (by decide +kernel)
  exact ⟨rfl, by decide, by decide +kernel, by decide +kernel, by decide +kernel,
    by decide +kernel, _, _, hdelivered, hskipped, by decide +kernel⟩

end Sample

end Courier
