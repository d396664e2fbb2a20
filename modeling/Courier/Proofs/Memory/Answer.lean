import Courier.Memory.World

/-!
What an answer does to the collaborators. A call either fails as planned, and then it is only noted,
or it is noted and performed. Only a put changes the objects; only an increment or a transition that
is applied changes the table.
-/

namespace Courier.Memory

theorem Body.bytes_cutPieces (size : Nat) (content : List UInt8) :
    (cutPieces size content).bytes = .ok content := by
  fun_induction cutPieces size content with
  | case1 => rfl
  | case2 b bs ih =>
    simp only [Body.bytes, ih, Except.map, List.cons_append, List.take_append_drop]

/-- Calls of the kind may write to the store or the status table. -/
def CallKind.writes : CallKind → Bool
  | .put | .increment | .transition => true
  | _ => false

namespace World

/-- The failure that is planned for the next call of a kind. -/
def planned (world : World) (call : Call) : Option Failure := (world.nextFault (kindOf call)).1

/-- The world that has heard a call and has not answered it yet. -/
def noted (world : World) (call : Call) : World :=
  (world.nextFault (kindOf call)).2.note ⟨call, world.planned call⟩

section Noted

variable {world : World} {call : Call}

@[simp]
theorem noted_objects : (world.noted call).objects = world.objects := by
  unfold noted note nextFault
  split <;> rfl

@[simp]
theorem noted_table : (world.noted call).table = world.table := by
  unfold noted note nextFault
  split <;> rfl

@[simp]
theorem noted_interloper : (world.noted call).interloper = world.interloper := by
  unfold noted note nextFault
  split <;> rfl

@[simp]
theorem noted_pieceSize : (world.noted call).pieceSize = world.pieceSize := by
  unfold noted note nextFault
  split <;> rfl

@[simp]
theorem noted_events :
    (world.noted call).events = ⟨call, world.planned call⟩ :: world.events := by
  unfold noted note nextFault
  split <;> rfl

theorem answer_eq_of_planned {failure : Failure} (h : world.planned call = some failure) :
    world.answer call = (.error failure, world.noted call) := by
  unfold planned at h
  simp only [answer, noted, planned, h]

theorem answer_eq_of_unplanned (h : world.planned call = none) :
    world.answer call = (world.noted call).perform call := by
  unfold planned at h
  simp only [answer, noted, planned, h]

/-- An answer is a planned failure without any effect, or what is performed. -/
theorem answer_cases (world : World) (call : Call) :
    (∃ failure, world.planned call = some failure ∧
      world.answer call = (.error failure, world.noted call)) ∨
    (world.planned call = none ∧ world.answer call = (world.noted call).perform call) := by
  cases h : world.planned call with
  | none => exact .inr ⟨rfl, answer_eq_of_unplanned h⟩
  | some failure => exact .inl ⟨failure, rfl, answer_eq_of_planned h⟩

end Noted

section Frame

variable {world : World} {call : Call}

theorem disturbed_kept (world : World) (correlationId collection : String) (row : Row) :
    (world.disturbed correlationId collection row).2.objects = world.objects ∧
      (world.disturbed correlationId collection row).2.events = world.events ∧
      (world.disturbed correlationId collection row).2.pieceSize = world.pieceSize ∧
      (world.disturbed correlationId collection row).2.interloper = none := by
  unfold disturbed setRow
  split
  · exact ⟨rfl, rfl, rfl, ‹_›⟩
  · exact ⟨rfl, rfl, rfl, rfl⟩

/-- What a performed call leaves as it is, whatever it is about. -/
theorem perform_kept (world : World) (call : Call) :
    (world.perform call).2.events = world.events ∧
      (world.perform call).2.pieceSize = world.pieceSize ∧
      (world.interloper = none → (world.perform call).2.interloper = none) := by
  cases call with
  | transition correlationId collection expected status =>
    simp only [perform]
    split
    · exact ⟨rfl, rfl, id⟩
    · rename_i row _
      obtain ⟨-, hevents, hsize, hnone⟩ := world.disturbed_kept correlationId collection row
      split
      · exact ⟨hevents, hsize, fun _ => hnone⟩
      · exact ⟨hevents, hsize, fun _ => hnone⟩
  | get | unwrap | deliver =>
    simp only [perform]
    split <;> exact ⟨rfl, rfl, id⟩
  | _ => exact ⟨rfl, rfl, id⟩

theorem perform_objects_of_ne (h : kindOf call ≠ .put) :
    (world.perform call).2.objects = world.objects := by
  cases call with
  | put => exact absurd rfl h
  | transition correlationId collection expected status =>
    simp only [perform]
    split
    · rfl
    · rename_i row _
      obtain ⟨hobjects, -⟩ := world.disturbed_kept correlationId collection row
      split <;> exact hobjects
  | get | unwrap | deliver =>
    simp only [perform]
    split <;> rfl
  | _ => rfl

theorem perform_table_of_ne (hincrement : kindOf call ≠ .increment)
    (htransition : kindOf call ≠ .transition) : (world.perform call).2.table = world.table := by
  cases call with
  | increment => exact absurd rfl hincrement
  | transition => exact absurd rfl htransition
  | get | unwrap | deliver =>
    simp only [perform]
    split <;> rfl
  | _ => rfl

@[simp]
theorem answer_events :
    (world.answer call).2.events = ⟨call, world.planned call⟩ :: world.events := by
  obtain ⟨failure, -, h⟩ | ⟨-, h⟩ := world.answer_cases call
  · rw [h, noted_events]
  · rw [h, (perform_kept _ call).1, noted_events]

@[simp]
theorem answer_pieceSize : (world.answer call).2.pieceSize = world.pieceSize := by
  obtain ⟨failure, -, h⟩ | ⟨-, h⟩ := world.answer_cases call
  · rw [h, noted_pieceSize]
  · rw [h, (perform_kept _ call).2.1, noted_pieceSize]

theorem answer_interloper (hnone : world.interloper = none) :
    (world.answer call).2.interloper = none := by
  obtain ⟨failure, -, h⟩ | ⟨-, h⟩ := world.answer_cases call
  · rw [h, noted_interloper, hnone]
  · rw [h]
    exact (perform_kept _ call).2.2 (by rw [noted_interloper, hnone])

theorem answer_objects_of_ne (hput : kindOf call ≠ .put) :
    (world.answer call).2.objects = world.objects := by
  obtain ⟨failure, -, h⟩ | ⟨-, h⟩ := world.answer_cases call
  · simp [h]
  · rw [h, perform_objects_of_ne hput, noted_objects]

theorem answer_table_of_ne (hincrement : kindOf call ≠ .increment)
    (htransition : kindOf call ≠ .transition) : (world.answer call).2.table = world.table := by
  obtain ⟨failure, -, h⟩ | ⟨-, h⟩ := world.answer_cases call
  · simp [h]
  · rw [h, perform_table_of_ne hincrement htransition, noted_table]

theorem answer_unwritten (h : (kindOf call).writes = false) :
    (world.answer call).2.objects = world.objects ∧
      (world.answer call).2.table = world.table := by
  have hne {kind : CallKind} (hkind : kind.writes = true) : kindOf call ≠ kind := by
    rintro rfl
    cases hkind.symm.trans h
  exact ⟨answer_objects_of_ne (hne rfl), answer_table_of_ne (hne rfl) (hne rfl)⟩

end Frame

section Calls

variable {world : World}

theorem answer_contains (key : String) (found : Bool)
    (h : (world.answer (.contains key)).1 = .ok found) :
    found = (find? world.objects key).isSome := by
  obtain ⟨failure, -, hanswer⟩ | ⟨-, hanswer⟩ := world.answer_cases (.contains key)
  · rw [hanswer] at h
    cases h
  · simp only [hanswer, perform, noted_objects] at h
    exact (Except.ok.inj h).symm

theorem answer_list (folder : String) (keys : List String)
    (h : (world.answer (.list folder)).1 = .ok keys) :
    keys = world.keys.filter (Text.startsWith folder) := by
  obtain ⟨failure, -, hanswer⟩ | ⟨-, hanswer⟩ := world.answer_cases (.list folder)
  · rw [hanswer] at h
    cases h
  · simp only [hanswer, perform, World.keys, noted_objects] at h
    exact (Except.ok.inj h).symm

theorem answer_readRow (correlationId collection : String) (record : Option StatusRecord)
    (h : (world.answer (.readRow correlationId collection)).1 = .ok record) :
    record = (find? world.table (correlationId, collection)).map (·.record collection) := by
  obtain ⟨failure, -, hanswer⟩ | ⟨-, hanswer⟩ :=
    world.answer_cases (.readRow correlationId collection)
  · rw [hanswer] at h
    cases h
  · simp only [hanswer, perform, noted_table] at h
    exact (Except.ok.inj h).symm

/-- A body is accepted only if no failure was planned and it could be read to its end. -/
theorem answer_deliver (headers : List (String × String)) (body : Body) :
    (world.answer (.deliver headers body)).1 = .ok () ↔
      world.planned (.deliver headers body) = none ∧ ∃ bytes, body.bytes = .ok bytes := by
  obtain ⟨failure, hplan, h⟩ | ⟨hplan, h⟩ := world.answer_cases (.deliver headers body)
  · simp [h, hplan]
  · simp only [h, hplan, perform, true_and]
    cases body.bytes <;> simp

theorem answer_put (key contentType : String) (content : List UInt8) (metadata : Metadata) :
    ((world.answer (.put key content contentType metadata)).1 = .ok () ∧
      world.planned (.put key content contentType metadata) = none ∧
      (world.answer (.put key content contentType metadata)).2.objects =
        insert world.objects key ⟨cutPieces world.pieceSize content, metadata⟩) ∨
    ∃ failure, (world.answer (.put key content contentType metadata)).1 = .error failure ∧
      world.planned (.put key content contentType metadata) = some failure ∧
      (world.answer (.put key content contentType metadata)).2.objects = world.objects := by
  obtain ⟨failure, hplan, h⟩ | ⟨hplan, h⟩ :=
    world.answer_cases (.put key content contentType metadata)
  · exact .inr ⟨failure, by simp [h], hplan, by simp [h]⟩
  · exact .inl ⟨by simp [h, perform], hplan, by simp [h, perform, store]⟩

/-- No call removes an object. -/
theorem answer_find?_isSome (call : Call) {key : String}
    (h : (find? world.objects key).isSome) :
    (find? (world.answer call).2.objects key).isSome := by
  by_cases hput : kindOf call = .put
  · cases call with
    | put place content contentType metadata =>
      obtain ⟨-, -, hobjects⟩ | ⟨_, -, -, hobjects⟩ :=
        world.answer_put place contentType content metadata
      · rw [hobjects]
        by_cases hkey : key = place
        · rw [hkey, find?_insert_self]
          rfl
        · rw [find?_insert_of_ne _ _ hkey]
          exact h
      · rw [hobjects]
        exact h
    | _ => cases hput
  · rw [answer_objects_of_ne hput]
    exact h

theorem answer_increment (correlationId collection : String) :
    (∃ count, (world.answer (.increment correlationId collection)).1 = .ok count ∧
      world.planned (.increment correlationId collection) = none ∧
      (world.answer (.increment correlationId collection)).2.table =
        insert world.table (correlationId, collection)
          ((find? world.table (correlationId, collection)).getD .empty).counted) ∨
    ∃ failure, (world.answer (.increment correlationId collection)).1 = .error failure ∧
      world.planned (.increment correlationId collection) = some failure ∧
      (world.answer (.increment correlationId collection)).2.table = world.table := by
  obtain ⟨failure, hplan, h⟩ | ⟨hplan, h⟩ :=
    world.answer_cases (.increment correlationId collection)
  · exact .inr ⟨failure, by simp [h], hplan, by simp [h]⟩
  · exact .inl ⟨_, by simp only [h, perform]; rfl, hplan, by simp [h, perform, setRow]⟩

/-- A transition that is performed takes effect just on a row that is as expected, and then writes
    nothing but the status. -/
theorem perform_transition_cases (correlationId collection : String) (expected : StatusRecord)
    (status : ExportStatus) (hnone : world.interloper = none) :
    ((world.perform (.transition correlationId collection expected status)).1 = .ok true ∧
      ∃ row, find? world.table (correlationId, collection) = some row ∧ row.agrees expected ∧
        (world.perform (.transition correlationId collection expected status)).2.table =
          insert world.table (correlationId, collection) { row with status }) ∨
    ((world.perform (.transition correlationId collection expected status)).1 = .ok false ∧
      (world.perform (.transition correlationId collection expected status)).2.table =
        world.table) := by
  simp only [perform, disturbed, hnone]
  cases hrow : find? world.table (correlationId, collection) with
  | none => exact .inr ⟨rfl, rfl⟩
  | some row =>
    by_cases hagrees : row.agrees expected
    · exact .inl ⟨by simp [hagrees], row, rfl, hagrees, by simp [hagrees, setRow]⟩
    · exact .inr ⟨by simp [hagrees], by simp [hagrees]⟩

/-- A transition takes effect only on a row that is as expected at that moment, and then writes
    nothing but the status. -/
theorem answer_transition (correlationId collection : String) (expected : StatusRecord)
    (status : ExportStatus) (hnone : world.interloper = none) :
    ((world.answer (.transition correlationId collection expected status)).1 = .ok true ∧
      ∃ row, find? world.table (correlationId, collection) = some row ∧ row.agrees expected ∧
        (world.answer (.transition correlationId collection expected status)).2.table =
          insert world.table (correlationId, collection) { row with status }) ∨
    ((world.answer (.transition correlationId collection expected status)).1 ≠ .ok true ∧
      (world.answer (.transition correlationId collection expected status)).2.table =
        world.table) := by
  obtain ⟨failure, hplan, h⟩ | ⟨hplan, h⟩ :=
    world.answer_cases (.transition correlationId collection expected status)
  · exact .inr ⟨by simp [h], by simp [h]⟩
  · have hnoted : (world.noted (.transition correlationId collection expected status)).interloper =
        none := by rw [noted_interloper, hnone]
    have hcases := perform_transition_cases correlationId collection expected status hnoted
    rw [h]
    rw [noted_table] at hcases
    exact hcases.imp_right fun hkept => ⟨by rw [hkept.1]; rintro ⟨⟩, hkept.2⟩

end Calls

end World

end Courier.Memory
