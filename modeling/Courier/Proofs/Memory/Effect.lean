import Mathlib.Logic.Function.Iterate
import Courier.Proofs.Item.Account
import Courier.Proofs.Memory.FaultFree

/-!
What calls leave behind if none of them fails by plan. Objects and rows depend on which calls have
been made and not on their order, as long as no two calls write different objects to one place.
-/

namespace Courier.Memory

/-- Where a call writes an object. -/
def place? : Call → Option String
  | .put key .. => some key
  | _ => none

/-- The row on which a call counts a file. -/
def countedRow? : Call → Option (String × String)
  | .increment correlationId collection => some (correlationId, collection)
  | _ => none

/-- A row, which may be absent, after one more file has been counted. -/
def oneMore (row? : Option Row) : Option Row := some (row?.getD .empty).counted

/-- The headers and the bytes of an accepted delivery. -/
def Event.delivery? : Event → Option (List (String × String) × List UInt8)
  | ⟨.deliver headers body, none⟩ => body.bytes.toOption.map (headers, ·)
  | _ => none

namespace World

/-- What the ingestion side has accepted, in order. -/
def deliveries (before after : World) : List (List (String × String) × List UInt8) :=
  (before.eventsSince after).filterMap Event.delivery?

/-- Two worlds hold the same objects and rows, and have accepted the same since they were one, in
    whatever order. -/
structure SameSince (start world world' : World) : Prop where
  objects : ∀ key, find? world.objects key = find? world'.objects key
  table : ∀ id, find? world.table id = find? world'.table id
  deliveries : (start.deliveries world).Perm (start.deliveries world')

/-- A world after calls none of which has failed by plan. -/
structure Reflects (start : World) (calls : List Call) (world : World) : Prop where
  faultFree : world.FaultFree
  dataKeys : world.dataKeys = start.dataKeys
  pieceSize : world.pieceSize = start.pieceSize
  undisturbed : start.interloper = none → world.interloper = none
  events : world.events = (calls.map fun call => ⟨call, none⟩).reverse ++ start.events
  written : ∀ key content contentType metadata,
    Call.put key content contentType metadata ∈ calls →
      find? world.objects key = some ⟨cutPieces start.pieceSize content, metadata⟩
  unwritten : ∀ key, (∀ call ∈ calls, place? call ≠ some key) →
    find? world.objects key = find? start.objects key
  keys : ∀ sort : String → Bool,
    (∀ call ∈ calls, ∀ key, place? call = some key → sort key = false) →
      (world.objects.map Prod.fst).filter sort = (start.objects.map Prod.fst).filter sort
  rows : ∀ id, find? world.table id =
    oneMore^[calls.countP (countedRow? · = some id)] (find? start.table id)

namespace Reflects

variable {start world world' : World} {calls calls' : List Call}

theorem refl (h : start.FaultFree) : start.Reflects [] start where
  faultFree := h
  dataKeys := rfl
  pieceSize := rfl
  undisturbed := id
  events := rfl
  written := nofun
  unwritten _ _ := rfl
  keys _ _ := rfl
  rows _ := rfl

theorem pass (h : start.Reflects calls world) (nanos : Nat) :
    start.Reflects calls (world.pass nanos) :=
  ⟨h.faultFree, h.dataKeys, h.pieceSize, h.undisturbed, h.events, h.written, h.unwritten, h.keys,
    h.rows⟩

/-- A call adds what it does to what the calls before it have done. -/
theorem of_answer {call : Call} (h : start.Reflects calls world)
    (hwritten : ∀ key content contentType metadata,
      Call.put key content contentType metadata ∈ calls ++ [call] →
        find? (world.answer call).2.objects key =
          some ⟨cutPieces start.pieceSize content, metadata⟩)
    (hunwritten : ∀ key, place? call ≠ some key →
      find? (world.answer call).2.objects key = find? world.objects key)
    (hkeys : ∀ sort : String → Bool, (∀ key, place? call = some key → sort key = false) →
      ((world.answer call).2.objects.map Prod.fst).filter sort =
        (world.objects.map Prod.fst).filter sort)
    (hrows : ∀ id, find? (world.answer call).2.table id =
      if countedRow? call = some id then oneMore (find? world.table id)
      else find? world.table id) :
    start.Reflects (calls ++ [call]) (world.answer call).2 where
  faultFree := h.faultFree.answer call
  dataKeys := World.answer_dataKeys.trans h.dataKeys
  pieceSize := World.answer_pieceSize.trans h.pieceSize
  undisturbed hnone := World.answer_interloper (h.undisturbed hnone)
  events := by simp [h.events, h.faultFree.planned]
  written := hwritten
  unwritten key hkey := by
    rw [hunwritten key (hkey call (by simp))]
    exact h.unwritten key fun other hother => hkey other (List.mem_append_left _ hother)
  keys sort hsort := by
    rw [hkeys sort (hsort call (by simp))]
    exact h.keys sort fun other hother => hsort other (List.mem_append_left _ hother)
  rows id := by
    rw [hrows, h.rows, List.countP_append, List.countP_singleton]
    by_cases hid : countedRow? call = some id
    · rw [if_pos hid, if_pos (decide_eq_true hid), Function.iterate_succ_apply']
    · rw [if_neg hid, if_neg (mt of_decide_eq_true hid), Nat.add_zero]

theorem answer_put (h : start.Reflects calls world) (key contentType : String)
    (content : List UInt8) (metadata : Metadata)
    (hplace : ∀ other ∈ calls, place? other = some key →
      other = .put key content contentType metadata) :
    start.Reflects (calls ++ [.put key content contentType metadata])
      (world.answer (.put key content contentType metadata)).2 := by
  have htable : (world.answer (.put key content contentType metadata)).2.table = world.table :=
    World.answer_table_of_ne nofun nofun
  obtain ⟨-, -, hobjects⟩ | ⟨failure, -, hplanned, -⟩ :=
    world.answer_put key contentType content metadata
  · refine h.of_answer (fun key' content' contentType' metadata' hmem => ?_) (fun key' hne => ?_)
      (fun sort hsort => ?_) fun id => ?_
    · rw [hobjects]
      by_cases hkey : key' = key
      · subst hkey
        have heq : Call.put key' content' contentType' metadata' =
            .put key' content contentType metadata := by
          obtain hbefore | hlast := List.mem_append.1 hmem
          · exact hplace _ hbefore rfl
          · exact List.mem_singleton.1 hlast
        cases heq
        rw [find?_insert_self, h.pieceSize]
      · rw [find?_insert_of_ne _ _ hkey]
        obtain hbefore | hlast := List.mem_append.1 hmem
        · exact h.written _ _ _ _ hbefore
        · cases List.mem_singleton.1 hlast
          exact absurd rfl hkey
    · rw [hobjects, find?_insert_of_ne _ _ fun hkey => hne (congrArg some hkey.symm)]
    · rw [hobjects, filter_keys_insert sort (hsort key rfl)]
    · rw [htable]
      exact (if_neg nofun).symm
  · cases hplanned.symm.trans (h.faultFree.planned _)

theorem answer_increment (h : start.Reflects calls world) (correlationId collection : String) :
    start.Reflects (calls ++ [.increment correlationId collection])
      (world.answer (.increment correlationId collection)).2 := by
  have hobjects : (world.answer (.increment correlationId collection)).2.objects =
      world.objects := World.answer_objects_of_ne nofun
  obtain ⟨-, -, -, htable⟩ | ⟨failure, -, hplanned, -⟩ :=
    world.answer_increment correlationId collection
  · refine h.of_answer (fun key content contentType metadata hmem => ?_) (fun key _ => ?_)
      (fun sort _ => ?_) fun id => ?_
    · rw [hobjects]
      refine h.written _ _ _ _ ((List.mem_append.1 hmem).resolve_right fun hlast => ?_)
      cases List.mem_singleton.1 hlast
    · rw [hobjects]
    · rw [hobjects]
    · rw [htable]
      by_cases hid : (correlationId, collection) = id
      · rw [← hid, find?_insert_self]
        exact (if_pos rfl).symm
      · rw [find?_insert_of_ne _ _ (Ne.symm hid)]
        exact (if_neg fun hsome => hid (Option.some.inj hsome)).symm
  · cases hplanned.symm.trans (h.faultFree.planned _)

theorem answer_quiet {call : Call} (h : start.Reflects calls world)
    (hquiet : (kindOf call).writes = false) :
    start.Reflects (calls ++ [call]) (world.answer call).2 := by
  obtain ⟨hobjects, htable⟩ := @World.answer_unwritten world call hquiet
  refine h.of_answer (fun key content contentType metadata hmem => ?_) (fun key _ => ?_)
    (fun sort _ => ?_) fun id => ?_
  · rw [hobjects]
    refine h.written _ _ _ _ ((List.mem_append.1 hmem).resolve_right fun hlast => ?_)
    cases List.mem_singleton.1 hlast
    cases hquiet
  · rw [hobjects]
  · rw [hobjects]
  · rw [htable, if_neg]
    cases call with
    | put | increment | transition => cases hquiet
    | _ => exact nofun

/-- The order of the calls leaves no trace in objects, rows and the deliveries as a whole. -/
theorem sameSince (h : start.Reflects calls world) (h' : start.Reflects calls' world')
    (hperm : calls.Perm calls') : start.SameSince world world' where
  objects key := by
    by_cases hkey : ∃ call ∈ calls, place? call = some key
    · obtain ⟨call, hcall, hplace⟩ := hkey
      cases call with
      | put other content contentType metadata =>
        cases hplace
        rw [h.written _ _ _ _ hcall, h'.written _ _ _ _ (hperm.mem_iff.1 hcall)]
      | _ => cases hplace
    · rw [h.unwritten key fun call hcall hplace => hkey ⟨call, hcall, hplace⟩,
        h'.unwritten key fun call hcall hplace => hkey ⟨call, hperm.mem_iff.2 hcall, hplace⟩]
  table id := by rw [h.rows, h'.rows, hperm.countP_eq]
  deliveries := by
    rw [deliveries, deliveries, eventsSince_eq h.events, eventsSince_eq h'.events]
    exact (hperm.map _).filterMap _

end Reflects

end World

/-- Counting several files on a row that is there changes nothing but the number of sent files. -/
theorem iterate_oneMore (row : Row) (n : Nat) :
    ∃ row', oneMore^[n] (some row) = some row' ∧ row'.status = row.status ∧
      row'.exported = row.exported ∧ row'.sent.getD 0 = row.sent.getD 0 + n := by
  induction n with
  | zero => exact ⟨row, rfl, rfl, rfl, (Int.add_zero _).symm⟩
  | succ n ih =>
    obtain ⟨row', hrow', hstatus, hexported, hsent⟩ := ih
    refine ⟨row'.counted, ?_, hstatus, hexported, ?_⟩
    · rw [Function.iterate_succ_apply', hrow']
      rfl
    · rw [Row.counted_sent, hsent]
      push_cast
      omega

end Courier.Memory
