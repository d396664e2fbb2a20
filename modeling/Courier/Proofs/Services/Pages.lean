import Courier.Proofs.Services.ItemTable

/-!
The rows of an export as they are queried. The items of an export come page by page, and each page
starts behind the last item of the page before; as no collection is there twice, the pages together
are all the items of the export, each of them once.
-/

namespace Courier.Services.ItemTable

open Memory

variable (store : ItemTable) (table correlationId : String)

theorem correlationId_of_mem_partition {entry : (String × String) × AttributeMap}
    (h : entry ∈ store.partition correlationId) : entry.1.1 = correlationId := by
  rw [partition, List.mem_mergeSort] at h
  exact eq_of_beq (List.mem_filter.1 h).2

/-- The collections of an export are in their order, and none is there twice. -/
theorem partition_pairwise :
    (store.partition correlationId).Pairwise fun a b => a.1.2 < b.1.2 := by
  have hsorted : (store.partition correlationId).Pairwise fun a b => a.1.2 ≤ b.1.2 := by
    refine List.Pairwise.imp of_decide_eq_true (List.pairwise_mergeSort (fun a b c hab hbc => ?_)
      (fun a b => ?_) _)
    · exact decide_eq_true (String.le_trans (of_decide_eq_true hab) (of_decide_eq_true hbc))
    · rw [Bool.or_eq_true, decide_eq_true_eq, decide_eq_true_eq]
      exact String.le_total a.1.2 b.1.2
  have hdistinct : (store.partition correlationId).Pairwise fun a b => a.1 ≠ b.1 := by
    have hkeys := store.distinct.sublist
      ((List.filter_sublist (p := fun entry => entry.1.1 == correlationId)).map Prod.fst)
    exact List.pairwise_map.1
      (((List.mergeSort_perm _ _).map Prod.fst).nodup_iff.2 hkeys)
  refine (hsorted.and hdistinct).imp_of_mem fun {a b} ha hb h => ?_
  refine Std.lt_of_le_of_ne h.1 fun hcollection => h.2 (Prod.ext ?_ hcollection)
  rw [store.correlationId_of_mem_partition correlationId ha,
    store.correlationId_of_mem_partition correlationId hb]

/-- In a list in strict order, the items behind one of them are those greater than it. -/
theorem filter_lt_of_pairwise {front back : List ((String × String) × AttributeMap)}
    {entry : (String × String) × AttributeMap}
    (h : (front ++ entry :: back).Pairwise fun a b => a.1.2 < b.1.2) :
    (front ++ entry :: back).filter (fun other => decide (entry.1.2 < other.1.2)) = back := by
  obtain ⟨-, hback, hfront⟩ := List.pairwise_append.1 h
  have hdropped : front.filter (fun other => decide (entry.1.2 < other.1.2)) = [] := by
    refine List.filter_eq_nil_iff.2 fun other hother hlt => ?_
    have hbefore := hfront other hother entry List.mem_cons_self
    exact String.lt_irrefl _ (String.lt_trans hbefore (of_decide_eq_true hlt))
  have hkept : back.filter (fun other => decide (entry.1.2 < other.1.2)) = back := by
    refine List.filter_eq_self.2 fun other hother => ?_
    exact decide_eq_true ((List.pairwise_cons.1 hback).1 other hother)
  have hself : (entry :: back).filter (fun other => decide (entry.1.2 < other.1.2)) =
      back.filter fun other => decide (entry.1.2 < other.1.2) := by
    refine List.filter_cons_of_neg ?_
    rw [decide_eq_true_eq]
    exact String.lt_irrefl entry.1.2
  rw [List.filter_append, hdropped, hself, hkept, List.nil_append]

/-- Behind the last item of a page is what the page leaves. -/
theorem behind_nextBehind {last : Option String} {collection : String}
    (h : store.nextBehind correlationId last = some collection) :
    store.behind correlationId (some collection) =
      (store.behind correlationId last).drop store.pageSize := by
  obtain ⟨entry, hmem, rfl, hlast⟩ := exists_mem_behind_of_nextBehind h
  obtain ⟨front, hpage⟩ := List.getLast?_eq_some_iff.1 hlast
  have hsplit : store.behind correlationId last =
      front ++ entry :: (store.behind correlationId last).drop store.pageSize := by
    rw [← List.singleton_append, ← List.append_assoc, ← hpage, List.take_append_drop]
  have hsorted : (store.behind correlationId last).Pairwise fun a b => a.1.2 < b.1.2 :=
    (store.partition_pairwise correlationId).filter _
  rw [hsplit] at hsorted
  rw [behind_some hmem, hsplit, filter_lt_of_pairwise hsorted, ← hsplit]

/-- A page without a next one holds all items that are left. -/
theorem take_of_nextBehind_eq_none {last : Option String}
    (h : store.nextBehind correlationId last = none) :
    (store.behind correlationId last).take store.pageSize = store.behind correlationId last := by
  simp only [nextBehind] at h
  split at h
  · next hlast => exact List.take_of_length_le hlast
  · next hmore =>
    have hsize := store.pageSize_pos
    rw [Option.map_eq_none_iff, List.getLast?_eq_none_iff, List.take_eq_nil_iff] at h
    obtain hzero | hnil := h
    · omega
    · rw [hnil] at hmore
      exact absurd (Nat.zero_le _) hmore

/-- The pages from a place on hold all items that are left. -/
theorem readPages_answersFrom (failure : Failure) (last : Option String)
    (records : List StatusRecord) :
    readPages (fun page : ItemPage => page.items.map recordOf) failure
        (store.answersFrom correlationId last) records =
      .ok (records ++ (store.behind correlationId last).map fun entry => recordOf entry.2) := by
  induction last using answersFrom.induct store correlationId generalizing records with
  | case1 last ih =>
    have hitems : (store.pageFrom correlationId last).items.map recordOf =
        ((store.behind correlationId last).take store.pageSize).map fun entry =>
          recordOf entry.2 := List.map_map
    rw [answersFrom, readPages, hitems]
    split
    · next hnext =>
      rw [readPages, store.take_of_nextBehind_eq_none correlationId hnext]
    · next collection hnext =>
      rw [ih collection hnext, store.behind_nextBehind correlationId hnext, List.append_assoc,
        ← List.map_append, List.take_append_drop]

/-- A query gives the rows of all items of an export, on however many pages they come. -/
theorem run_allRows :
    store.run (allRows store.name correlationId) =
      (some (.ok ((store.partition correlationId).map fun entry => recordOf entry.2)), store) := by
  have hall : store.behind correlationId none = store.partition correlationId :=
    List.filter_eq_self.2 fun _ _ => rfl
  have hpages : (store.queryPages store.name correlationId).answers =
      store.answersFrom correlationId none := by
    rw [queryPages, if_pos rfl]
  refine (store.run_queryPages _ _ _).trans ?_
  rw [hpages, store.readPages_answersFrom, hall]
  rfl

end Courier.Services.ItemTable
