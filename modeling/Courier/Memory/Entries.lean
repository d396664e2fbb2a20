/-!
Finite maps as lists of entries, no two of which have the same key. A write puts its entry in front
and takes the old one away.
-/

namespace Courier.Memory

variable {κ ν : Type} [DecidableEq κ]

def find? (entries : List (κ × ν)) (key : κ) : Option ν :=
  match entries with
  | [] => none
  | (other, value) :: rest => if other = key then some value else find? rest key

/-- The entries without those of a key. -/
def erase (entries : List (κ × ν)) (key : κ) : List (κ × ν) :=
  entries.filter fun entry => entry.1 ≠ key

/-- The entries with a value for a key. -/
def insert (entries : List (κ × ν)) (key : κ) (value : ν) : List (κ × ν) :=
  (key, value) :: erase entries key

theorem find?_erase_of_ne {key other : κ} (entries : List (κ × ν)) (h : other ≠ key) :
    find? (erase entries key) other = find? entries other := by
  induction entries with
  | nil => rfl
  | cons entry rest ih =>
    by_cases hkey : entry.1 = key
    · have : entry.1 ≠ other := fun he => h (he.symm.trans hkey)
      simpa [erase, hkey, find?, this, Ne.symm h] using ih
    · simp only [erase, ne_eq, hkey, not_false_eq_true, decide_true, List.filter_cons_of_pos, find?]
      split
      · rfl
      · exact ih

@[simp]
theorem find?_insert_self (entries : List (κ × ν)) (key : κ) (value : ν) :
    find? (insert entries key value) key = some value := by
  simp [insert, find?]

theorem find?_insert_of_ne {key other : κ} (entries : List (κ × ν)) (value : ν) (h : other ≠ key) :
    find? (insert entries key value) other = find? entries other := by
  simp [insert, find?, Ne.symm h, find?_erase_of_ne entries h]

/-- The other keys stay in their order. -/
theorem filter_keys_insert (sort : κ → Bool) {key : κ} (h : sort key = false)
    (entries : List (κ × ν)) (value : ν) :
    ((insert entries key value).map Prod.fst).filter sort =
      (entries.map Prod.fst).filter sort := by
  simp only [insert, List.map_cons, h, Bool.false_eq_true, not_false_eq_true,
    List.filter_cons_of_neg]
  induction entries with
  | nil => rfl
  | cons entry rest ih =>
    by_cases hkey : entry.1 = key
    · simpa [erase, hkey, h] using ih
    · simp only [erase, ne_eq, hkey, not_false_eq_true, decide_true, List.filter_cons_of_pos,
        List.map_cons, List.filter_cons] at ih ⊢
      rw [ih]

theorem nodup_keys_insert {entries : List (κ × ν)} (h : (entries.map Prod.fst).Nodup) (key : κ)
    (value : ν) : ((insert entries key value).map Prod.fst).Nodup := by
  have hsub : (erase entries key).Sublist entries := List.filter_sublist
  refine List.nodup_cons.2 ⟨fun hmem => ?_, h.sublist (hsub.map Prod.fst)⟩
  obtain ⟨entry, hentry, hkey⟩ := List.mem_map.1 hmem
  exact of_decide_eq_true (List.mem_filter.1 hentry).2 hkey

/-- Where no key is there twice, every entry is found. -/
theorem find?_eq_some_iff_mem {entries : List (κ × ν)} (h : (entries.map Prod.fst).Nodup) {key : κ}
    {value : ν} : find? entries key = some value ↔ (key, value) ∈ entries := by
  induction entries with
  | nil => simp [find?]
  | cons entry rest ih =>
    obtain ⟨hfresh, hrest⟩ := List.nodup_cons.1 h
    rw [find?, List.mem_cons]
    split
    · next hkey =>
      subst hkey
      have hnot : (entry.1, value) ∉ rest := fun hmem =>
        hfresh (List.mem_map.2 ⟨_, hmem, rfl⟩)
      simp [hnot, Prod.ext_iff, eq_comm]
    · next hkey =>
      rw [ih hrest]
      simp [Prod.ext_iff, Ne.symm hkey]

end Courier.Memory
