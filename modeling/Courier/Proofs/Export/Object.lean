import Courier.Export.Object

/-!
What the name and the metadata of an object come to. A name is changed at its end only; a field of
the metadata is found under its name in any letter case, whatever else is there.
-/

namespace Courier

namespace Text

variable {ending s stem : String}

theorem dropEnding?_eq_some_iff : dropEnding? ending s = some stem ↔ s = stem ++ ending := by
  unfold dropEnding?
  constructor
  · intro h
    split at h
    · next hsuffix =>
      obtain ⟨front, hfront⟩ := List.isSuffixOf_iff_suffix.1 hsuffix
      cases h
      rw [← hfront, List.length_append, Nat.add_sub_cancel, List.take_left,
        ← String.toList_inj, String.toList_append, String.toList_ofList, hfront]
    · cases h
  · rintro rfl
    rw [if_pos]
    · rw [String.toList_append, List.length_append, Nat.add_sub_cancel, List.take_left,
        String.ofList_toList]
    · rw [String.toList_append]
      exact List.isSuffixOf_iff_suffix.2 (List.suffix_append _ _)

theorem dropEnding?_eq_none_iff : dropEnding? ending s = none ↔ ∀ stem, s ≠ stem ++ ending := by
  simp only [Option.eq_none_iff_forall_ne_some, ne_eq, dropEnding?_eq_some_iff]

end Text

/-- A name with one ending in place of another; a name that ends otherwise stays as it is. -/
def Renamed (old new name renamed : String) : Prop :=
  (∃ stem, name = stem ++ old ∧ renamed = stem ++ new) ∨
    (∀ stem, name ≠ stem ++ old) ∧ renamed = name

theorem Renamed.unique {old new name renamed renamed' : String} (h : Renamed old new name renamed)
    (h' : Renamed old new name renamed') : renamed = renamed' := by
  obtain ⟨stem, rfl, rfl⟩ | ⟨hother, rfl⟩ := h
  · obtain ⟨stem', hstem, rfl⟩ | ⟨hother, -⟩ := h'
    · rw [String.append_left_inj] at hstem
      rw [hstem]
    · exact absurd rfl (hother stem)
  · obtain ⟨stem', hstem, -⟩ | ⟨-, rfl⟩ := h'
    · exact absurd hstem (hother stem')
    · rfl

/-- The name is the part of the key behind its last slash. -/
def Named (key name : String) : Prop :=
  '/' ∉ name.toList ∧ (key = name ∨ ∃ folder, key = folder ++ "/" ++ name)

theorem fileName_named (key : String) : Named key (fileName key) := by
  have hslash : '/' ∉ (fileName key).toList := by
    rw [fileName, String.toList_ofList, List.mem_reverse]
    intro hmem
    have hall : (key.toList.reverse.takeWhile (· != '/')).all (· != '/') := List.all_takeWhile
    have hne := List.all_eq_true.1 hall '/' hmem
    cases hne
  refine ⟨hslash, ?_⟩
  have hsplit : key.toList =
      (key.toList.reverse.dropWhile (· != '/')).reverse ++ (fileName key).toList := by
    rw [fileName, String.toList_ofList, ← List.reverse_append, List.takeWhile_append_dropWhile,
      List.reverse_reverse]
  cases hfolder : key.toList.reverse.dropWhile (· != '/') with
  | nil =>
    rw [hfolder, List.reverse_nil, List.nil_append] at hsplit
    exact .inl (String.toList_inj.1 hsplit)
  | cons c folder =>
    have hc : c = '/' := by
      have hhead := List.head?_dropWhile_not (· != '/') key.toList.reverse
      rw [hfolder] at hhead
      simpa using hhead
    rw [hfolder, hc, List.reverse_cons] at hsplit
    refine .inr ⟨String.ofList folder.reverse, String.toList_inj.1 ?_⟩
    rw [hsplit, String.toList_append, String.toList_append, String.toList_ofList]
    rfl

/-- A file is delivered without the ending of encrypted files, and compressed text as compressed
    JSON. -/
theorem deliveredName_renamed (name : String) :
    ∃ bare, Renamed ".enc" "" name bare ∧
      Renamed ".txt.gz" ".json.gz" bare (deliveredName name) := by
  refine ⟨plainName name, ?_, ?_⟩
  · unfold plainName
    cases h : Text.dropEnding? encryptedEnding name with
    | none => exact .inr ⟨Text.dropEnding?_eq_none_iff.1 h, rfl⟩
    | some stem => exact .inl ⟨stem, Text.dropEnding?_eq_some_iff.1 h, (String.append_empty).symm⟩
  · unfold deliveredName
    split
    · next stem h => exact .inl ⟨stem, Text.dropEnding?_eq_some_iff.1 h, rfl⟩
    · next h => exact .inr ⟨Text.dropEnding?_eq_none_iff.1 h, rfl⟩

namespace Envelope

variable {metadata : Metadata} {name value : String}

/-- The metadata holds a value under a name, in some letter case. -/
def Holds (metadata : Metadata) (name value : String) : Prop :=
  ∃ spelling, Text.lower spelling = Text.lower name ∧ (spelling, value) ∈ metadata

/-- A value is found if no other name differs from its name by letter case alone. -/
theorem field_of_holds (hdistinct : (metadata.map fun entry => Text.lower entry.1).Nodup)
    (h : Holds metadata name value) (hvalue : value ≠ "") (key : String) :
    field key metadata name = .ok value := by
  obtain ⟨spelling, hspelling, hmem⟩ := h
  have hfind : (metadata.find? fun entry => Text.lower entry.1 == Text.lower name) =
      some (spelling, value) := by
    induction metadata with
    | nil => cases hmem
    | cons entry rest ih =>
      obtain ⟨hfirst, hrest⟩ := List.nodup_cons.1 hdistinct
      obtain rfl | hmem := List.mem_cons.1 hmem
      · exact List.find?_cons_of_pos (beq_iff_eq.2 hspelling)
      · rw [List.find?_cons_of_neg, ih hrest hmem]
        intro hsame
        exact hfirst (List.mem_map.2
          ⟨_, hmem, hspelling.trans (beq_iff_eq.1 hsame).symm⟩)
  simp only [field, hfind]
  rw [if_neg (by simpa using hvalue)]

theorem ofMetadata_of_holds {envelope : Envelope}
    (hdistinct : (metadata.map fun entry => Text.lower entry.1).Nodup)
    (hcounter : Holds metadata "iv" envelope.counter) (hcounter' : envelope.counter ≠ "")
    (hkeyId : Holds metadata "dataKeyEncryptionKeyId" envelope.keyId)
    (hkeyId' : envelope.keyId ≠ "")
    (hwrapped : Holds metadata "cipherText" envelope.wrappedKey)
    (hwrapped' : envelope.wrappedKey ≠ "") (key : String) :
    ofMetadata key metadata = .ok envelope := by
  rw [ofMetadata, field_of_holds hdistinct hcounter hcounter',
    field_of_holds hdistinct hkeyId hkeyId', field_of_holds hdistinct hwrapped hwrapped']
  rfl

end Envelope

end Courier
