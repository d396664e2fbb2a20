import Mathlib.Data.List.TakeWhile
import Courier.Text.Blank

/-!
Texts of one class, cut at a separator and trimmed. Cutting undoes joining, and the entries of a
comma-separated list are its pieces without their blanks, whether or not the list has been trimmed
as a whole.
-/

namespace Courier.Text

/-- A non-empty text of characters of one class. -/
def RunOf (member : Char → Bool) (cs : List Char) : Prop := cs ≠ [] ∧ ∀ c ∈ cs, member c = true

section Runs

variable {member : Char → Bool} {c : Char} {cs : List Char}

theorem RunOf.not_mem (h : RunOf member cs) (hc : member c = false) : c ∉ cs := fun hmem => by
  cases hc.symm.trans (h.2 c hmem)

/-- A run is its first character alone or goes on as a run. -/
theorem runOf_cons_iff : RunOf member (c :: cs) ↔
    member c = true ∧ (cs = [] ∨ RunOf member cs) := by
  constructor
  · rintro ⟨-, h⟩
    obtain ⟨hc, hcs⟩ := List.forall_mem_cons.1 h
    exact ⟨hc, Decidable.or_iff_not_imp_left.2 fun hne => ⟨hne, hcs⟩⟩
  · rintro ⟨hc, rfl | ⟨-, hcs⟩⟩
    · exact ⟨List.cons_ne_nil _ _, by simpa using hc⟩
    · exact ⟨List.cons_ne_nil _ _, List.forall_mem_cons.2 ⟨hc, hcs⟩⟩

end Runs

theorem trim_eq_self {s : String} (h : ∀ c ∈ s.toList, isBlank c = false) : trim s = s := by
  have hdrop {cs : List Char} (hcs : ∀ c ∈ cs, isBlank c = false) : cs.dropWhile isBlank = cs := by
    cases cs with
    | nil => rfl
    | cons c cs => rw [List.dropWhile_cons_of_neg (by simp [hcs c List.mem_cons_self])]
  rw [trim, trimBlank, dropBlankEnd, hdrop h, hdrop fun c hc => h c (List.mem_reverse.1 hc),
    List.reverse_reverse, String.ofList_toList]

/-- Only a blank text is trimmed to nothing. -/
theorem trim_isEmpty_iff {s : String} : (trim s).isEmpty ↔ ∀ c ∈ s.toList, isBlank c := by
  have hnil : trimBlank s.toList = [] ↔ s.toList.dropWhile isBlank = [] := by
    rw [trimBlank, dropBlankEnd, List.reverse_eq_nil_iff, List.dropWhile_eq_nil_iff]
    refine ⟨fun hblank => ?_, fun h => by simp [h]⟩
    by_contra hrest
    -- what is left would start with a character that is not blank
    have hhead := List.head_dropWhile_not isBlank hrest
    rw [hblank _ (List.mem_reverse.2 (List.head_mem hrest))] at hhead
    cases hhead
  rw [trim, String.isEmpty_iff, String.ofList_eq_empty_iff, hnil, List.dropWhile_eq_nil_iff]

section Cutting

variable {separator c : Char} {cs : List Char} {pieces : List (List Char)}

@[simp]
theorem cut_nil : cut separator [] = [[]] := rfl

theorem cut_separator : cut separator (separator :: cs) = [] :: cut separator cs := if_pos rfl

theorem cut_cons (h : c ≠ separator) :
    cut separator (c :: cs) = (cut separator cs).modifyHead (c :: ·) := by
  rw [cut, if_neg h]
  cases hcut : cut separator cs with
  | nil =>
    cases cs with
    | nil => cases hcut
    | cons d ds =>
      rw [cut] at hcut
      split at hcut
      · cases hcut
      · split at hcut <;> cases hcut
  | cons piece pieces => rfl

theorem cut_eq_splitOn : cut separator cs = cs.splitOn separator := by
  induction cs with
  | nil => rfl
  | cons c cs ih =>
    rw [List.splitOn, List.splitOnP_cons_eq_if_modifyHead, ← List.splitOn, ← ih]
    by_cases h : c = separator
    · rw [h, cut_separator, if_pos (beq_self_eq_true separator)]
    · rw [cut_cons h, if_neg (mt eq_of_beq h)]

theorem cut_ne_nil : cut separator cs ≠ [] := cut_eq_splitOn ▸ List.splitOn_ne_nil separator cs

theorem not_mem_of_mem_cut {piece : List Char} (h : piece ∈ cut separator cs) :
    separator ∉ piece := by
  induction cs generalizing piece with
  | nil =>
    rw [List.mem_singleton.1 h]
    exact List.not_mem_nil
  | cons c cs ih =>
    by_cases hc : c = separator
    · rw [hc, cut_separator] at h
      obtain rfl | hrest := List.mem_cons.1 h
      · exact List.not_mem_nil
      · exact ih hrest
    · rw [cut_cons hc] at h
      obtain ⟨first, rest, hcut⟩ := List.exists_cons_of_ne_nil (@cut_ne_nil separator cs)
      rw [hcut] at h ih
      obtain rfl | hrest := List.mem_cons.1 h
      · exact List.not_mem_cons_of_ne_of_not_mem (Ne.symm hc) (ih List.mem_cons_self)
      · exact ih (List.mem_cons_of_mem _ hrest)

/-- The pieces of a text are the texts without the separator that it is joined from. -/
theorem cut_eq_iff : cut separator cs = pieces ↔
    pieces ≠ [] ∧ (∀ piece ∈ pieces, separator ∉ piece) ∧ [separator].intercalate pieces = cs := by
  constructor
  · rintro rfl
    refine ⟨cut_ne_nil, fun piece => not_mem_of_mem_cut, ?_⟩
    rw [cut_eq_splitOn, List.intercalate_splitOn]
  · rintro ⟨hne, hpieces, rfl⟩
    rw [cut_eq_splitOn, List.splitOn_intercalate separator hpieces hne]

theorem cut_eq_self (h : separator ∉ cs) : cut separator cs = [cs] :=
  cut_eq_iff.2 ⟨List.cons_ne_nil _ _, by simpa using h, List.intercalate_singleton⟩

theorem cut_append (front back : List Char) : cut separator (front ++ separator :: back) =
    cut separator front ++ cut separator back := by
  induction front with
  | nil => exact cut_separator
  | cons c front ih =>
    by_cases hc : c = separator
    · rw [hc, List.cons_append, cut_separator, cut_separator, ih, List.cons_append]
    · obtain ⟨piece, pieces, hcut⟩ := List.exists_cons_of_ne_nil (@cut_ne_nil separator front)
      rw [List.cons_append, cut_cons hc, cut_cons hc, ih, hcut]
      rfl

/-- A text starts with a piece and a separator if that piece is its first and not its only one. -/
theorem isPrefix_iff_cut {piece : List Char} (h : separator ∉ piece) :
    piece ++ [separator] <+: cs ↔ ∃ rest, rest ≠ [] ∧ cut separator cs = piece :: rest := by
  constructor
  · rintro ⟨tail, rfl⟩
    refine ⟨cut separator tail, cut_ne_nil, ?_⟩
    rw [List.append_assoc, List.singleton_append, cut_append, cut_eq_self h, List.singleton_append]
  · rintro ⟨rest, hrest, hcut⟩
    obtain ⟨-, -, rfl⟩ := cut_eq_iff.1 hcut
    rw [List.intercalate_cons_of_ne_nil hrest]
    exact List.prefix_append _ _

/-- A character behind the text belongs to its last piece. -/
theorem exists_cut_concat (h : c ≠ separator) (cs : List Char) :
    ∃ front last, cut separator cs = front ++ [last] ∧
      cut separator (cs ++ [c]) = front ++ [last ++ [c]] := by
  induction cs with
  | nil => exact ⟨[], [], rfl, cut_cons h⟩
  | cons d cs ih =>
    obtain ⟨front, last, hcut, hconcat⟩ := ih
    rw [List.cons_append]
    by_cases hd : d = separator
    · exact ⟨[] :: front, last, by rw [hd, cut_separator, hcut]; rfl,
        by rw [hd, cut_separator, hconcat]; rfl⟩
    · rw [cut_cons hd, cut_cons hd, hcut, hconcat]
      cases front with
      | nil => exact ⟨[], d :: last, rfl, rfl⟩
      | cons first front => exact ⟨(d :: first) :: front, last, rfl, rfl⟩

end Cutting

section Trimming

variable {separator c : Char} {cs : List Char}

theorem trimBlank_cons (h : isBlank c = true) : trimBlank (c :: cs) = trimBlank cs := by
  rw [trimBlank, List.dropWhile_cons_of_pos h, trimBlank]

theorem dropBlankEnd_concat (h : isBlank c = true) : dropBlankEnd (cs ++ [c]) = dropBlankEnd cs := by
  rw [dropBlankEnd, List.reverse_append, List.reverse_singleton, List.singleton_append,
    List.dropWhile_cons_of_pos h, dropBlankEnd]

theorem trimBlank_concat (h : isBlank c = true) : trimBlank (cs ++ [c]) = trimBlank cs := by
  rw [trimBlank, List.dropWhile_append]
  split
  · next hempty =>
    rw [List.dropWhile_cons_of_pos h, List.dropWhile_nil, trimBlank, List.isEmpty_iff.1 hempty]
  · rw [dropBlankEnd_concat h, trimBlank]

theorem map_trimBlank_cut_cons (h : isBlank c = true) (hne : c ≠ separator) :
    (cut separator (c :: cs)).map trimBlank = (cut separator cs).map trimBlank := by
  obtain ⟨first, rest, hcut⟩ := List.exists_cons_of_ne_nil (@cut_ne_nil separator cs)
  rw [cut_cons hne, hcut, List.modifyHead_cons, List.map_cons, trimBlank_cons h, List.map_cons]

theorem map_trimBlank_cut_concat (h : isBlank c = true) (hne : c ≠ separator) :
    (cut separator (cs ++ [c])).map trimBlank = (cut separator cs).map trimBlank := by
  obtain ⟨front, last, hcut, hconcat⟩ := exists_cut_concat hne cs
  simp only [hcut, hconcat, List.map_append, List.map_cons, trimBlank_concat h]

/-- Trimming a text before it is cut changes its pieces only between their blanks. -/
theorem map_trimBlank_cut_trimBlank (h : isBlank separator = false) (cs : List Char) :
    (cut separator (trimBlank cs)).map trimBlank = (cut separator cs).map trimBlank := by
  have hne {c : Char} (hc : isBlank c = true) : c ≠ separator := by
    rintro rfl
    cases hc.symm.trans h
  have hend (rs : List Char) : (cut separator (dropBlankEnd rs.reverse)).map trimBlank =
      (cut separator rs.reverse).map trimBlank := by
    induction rs with
    | nil => rfl
    | cons c rs ih =>
      by_cases hc : isBlank c = true
      · rw [List.reverse_cons, dropBlankEnd_concat hc, ih, map_trimBlank_cut_concat hc (hne hc)]
      · rw [dropBlankEnd, List.reverse_reverse, List.dropWhile_cons_of_neg hc]
  have hstart : (cut separator (cs.dropWhile isBlank)).map trimBlank =
      (cut separator cs).map trimBlank := by
    induction cs with
    | nil => rfl
    | cons c cs ih =>
      by_cases hc : isBlank c = true
      · rw [List.dropWhile_cons_of_pos hc, ih, map_trimBlank_cut_cons hc (hne hc)]
      · rw [List.dropWhile_cons_of_neg hc]
  rw [← hstart, trimBlank, ← List.reverse_reverse (cs.dropWhile isBlank), hend]

/-- The entries of a list are its trimmed pieces, but for the empty ones. -/
theorem mem_commaEntries_trim {s entry : String} :
    entry ∈ commaEntries (trim s) ↔ entry ≠ "" ∧ ∃ piece ∈ commaPieces s, trim piece = entry := by
  have hpieces : (commaPieces (trim s)).map trim = (commaPieces s).map trim := by
    simp only [commaPieces, List.map_map, Function.comp_def, trim, String.toList_ofList]
    have hcomma : isBlank ',' = false := by decide
    have h := map_trimBlank_cut_trimBlank hcomma s.toList
    simpa [Function.comp_def] using congrArg (List.map String.ofList) h
  rw [commaEntries, hpieces, List.mem_filter, List.mem_map, and_comm]
  simp

end Trimming

end Courier.Text
