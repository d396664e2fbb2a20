import Courier.Memory.Entries
import Courier.Proofs.Services.Expression
import Courier.Services.Offline
import Mathlib.Data.List.Forall2

/-!
The status table as a service that keeps items and decides requests by their expressions. A change
makes an item that is not there, unless its condition fails. The items of an export come in pages,
in the order of their collections.
-/

namespace Courier.Services

open Memory

/-- The items of the status table, by export and collection. -/
structure ItemTable where
  name : String
  items : List ((String × String) × AttributeMap)
  distinct : (items.map Prod.fst).Nodup
  /-- The greatest number of items on a page. -/
  pageSize : Nat
  pageSize_pos : 0 < pageSize

/-- The change and the condition that a request means. -/
def Update.meaning? (request : Update) : Option (Change × Option Condition) := do
  let change ← Change.ofText? request.change.text
  match request.condition with
  | none => return (change, none)
  | some condition =>
    let condition ← Condition.ofText? condition.text
    return (change, some condition)

/-- The export and the collection that a key names. -/
def placeOf? (key : AttributeMap) : Option (String × String) :=
  match key.lookup correlationAttribute, key.lookup collectionAttribute with
  | some (.text correlationId), some (.text collection) => some (correlationId, collection)
  | _, _ => none

namespace ItemTable

def put (store : ItemTable) (place : String × String) (item : AttributeMap) : ItemTable :=
  { store with
    items := insert store.items place item
    distinct := nodup_keys_insert store.distinct place item }

def readItem (store : ItemTable) (table : String) (key : AttributeMap) :
    Except Refusal (Option AttributeMap) :=
  if table = store.name then
    match placeOf? key with
    | some place => .ok (find? store.items place)
    | none => .error .failed
  else .error .failed

/-- Changes the item at a place, if the condition holds of it. -/
def change (store : ItemTable) (request : Update) (place : String × String) (change : Change)
    (condition : Option Condition) : Except Refusal (Option AttributeMap) × ItemTable :=
  let kept := find? store.items place
  if condition.all (·.holds request.names request.values (kept.getD [])) then
    match change.value? request.names request.values (kept.getD request.key) with
    | some (name, value) =>
      let item := insert (kept.getD request.key) name value
      (.ok (if request.returnsItem then some item else none), store.put place item)
    | none => (.error .failed, store)
  else (.error .conditionFailed, store)

def update (store : ItemTable) (request : Update) :
    Except Refusal (Option AttributeMap) × ItemTable :=
  if request.table = store.name then
    match placeOf? request.key, request.meaning? with
    | some place, some (change, condition) => store.change request place change condition
    | _, _ => (.error .failed, store)
  else (.error .failed, store)

/-- The items of an export, in the order of their collections. -/
def partition (store : ItemTable) (correlationId : String) :
    List ((String × String) × AttributeMap) :=
  (store.items.filter fun entry => entry.1.1 == correlationId).mergeSort fun a b =>
    decide (a.1.2 ≤ b.1.2)

/-- The items of an export behind a collection, or all of them. -/
def behind (store : ItemTable) (correlationId : String) (last : Option String) :
    List ((String × String) × AttributeMap) :=
  (store.partition correlationId).filter fun entry =>
    last.all fun collection => decide (collection < entry.1.2)

/-- The collection behind which the page after this one starts, if there are more items. -/
def nextBehind (store : ItemTable) (correlationId : String) (last : Option String) :
    Option String :=
  let rest := store.behind correlationId last
  if rest.length ≤ store.pageSize then none
  else (rest.take store.pageSize).getLast?.map fun entry => entry.1.2

/-- The page that starts behind a collection, or with the first one. It names the key of its last
    item, if there are more. -/
def pageFrom (store : ItemTable) (correlationId : String) (last : Option String) : ItemPage :=
  ⟨((store.behind correlationId last).take store.pageSize).map Prod.snd,
    (store.nextBehind correlationId last).map (rowKey correlationId)⟩

section Pages

variable {store : ItemTable} {correlationId collection : String} {last : Option String}

/-- The next page starts behind an item of this one. -/
theorem exists_mem_behind_of_nextBehind
    (h : store.nextBehind correlationId last = some collection) :
    ∃ entry ∈ store.behind correlationId last, entry.1.2 = collection ∧
      ((store.behind correlationId last).take store.pageSize).getLast? = some entry := by
  simp only [nextBehind] at h
  split at h
  · cases h
  · obtain ⟨entry, hlast, rfl⟩ := Option.map_eq_some_iff.1 h
    exact ⟨entry, List.mem_of_mem_take (List.mem_of_getLast? hlast), rfl, hlast⟩

theorem lt_of_mem_behind {entry : (String × String) × AttributeMap}
    (h : entry ∈ store.behind correlationId (some collection)) : collection < entry.1.2 :=
  of_decide_eq_true (List.mem_filter.1 h).2

/-- What is behind an item of a page is behind the start of the page as well. -/
theorem behind_some {entry : (String × String) × AttributeMap}
    (h : entry ∈ store.behind correlationId last) :
    store.behind correlationId (some entry.1.2) =
      (store.behind correlationId last).filter fun other => decide (entry.1.2 < other.1.2) := by
  rw [behind, behind, List.filter_filter]
  refine List.filter_congr fun other _ => ?_
  cases last with
  | none => exact (Bool.and_true _).symm
  | some collection =>
    have hstart := lt_of_mem_behind h
    by_cases hlt : entry.1.2 < other.1.2
    · simp only [Option.all_some, hlt, String.lt_trans hstart hlt, decide_true, Bool.and_true]
    · simp only [Option.all_some, hlt, decide_false, Bool.false_and]

/-- Every page leaves fewer items. -/
theorem length_behind_lt (h : store.nextBehind correlationId last = some collection) :
    (store.behind correlationId (some collection)).length <
      (store.behind correlationId last).length := by
  obtain ⟨entry, hmem, rfl, -⟩ := exists_mem_behind_of_nextBehind h
  rw [behind_some hmem]
  refine List.length_filter_lt_length_iff_exists.2 ⟨entry, hmem, ?_⟩
  rw [decide_eq_true_eq]
  exact String.lt_irrefl entry.1.2

end Pages

/-- The answers to the requests for the pages from a place on. -/
def answersFrom (store : ItemTable) (correlationId : String) (last : Option String) :
    List (Except Refusal ItemPage) :=
  .ok (store.pageFrom correlationId last) ::
    match _hnext : store.nextBehind correlationId last with
    | none => []
    | some collection => store.answersFrom correlationId (some collection)
termination_by (store.behind correlationId last).length
decreasing_by exact length_behind_lt _hnext

theorem paged_answersFrom (store : ItemTable) (correlationId : String) (last : Option String) :
    Paged ItemPage.next [] (last.map (rowKey correlationId))
      (store.answersFrom correlationId last) := by
  induction last using answersFrom.induct store correlationId with
  | case1 last ih =>
    rw [answersFrom]
    split
    · next hnext => exact .last (.inl (congrArg (Option.map _) hnext))
    · next collection hnext =>
      refine .more (congrArg (Option.map _) hnext) (List.cons_ne_nil _ _) ?_ (ih collection hnext)
      obtain ⟨entry, hmem, rfl, -⟩ := exists_mem_behind_of_nextBehind hnext
      cases last with
      | none => nofun
      | some collection =>
        have hne : entry.1.2 ≠ collection := fun heq =>
          String.lt_irrefl _ (heq ▸ lt_of_mem_behind hmem)
        simpa [rowKey] using hne

/-- The pages of an export, from the first one on. -/
def queryPages (store : ItemTable) (table correlationId : String) : Passage ItemPage.next [] :=
  if table = store.name then ⟨_, store.paged_answersFrom correlationId none⟩
  else .refused .failed

/-- Answers the requests to the status table; no other service is reached. -/
def answer (store : ItemTable) : (step : Step) → step.Answer × ItemTable
  | .readItem table key => (store.readItem table key, store)
  | .update request => store.update request
  | .queryPages table correlationId => (store.queryPages table correlationId, store)
  | other => (Offline.start.answer other, store)

def run {α : Type} (procedure : Procedure α) (store : ItemTable) :
    Option (Except Failure α) × ItemTable :=
  Program.run (fun step store => store.answer step) (fun _ store => store) procedure.run store

section Run

variable {α : Type} (store : ItemTable)

theorem run_readItem (table : String) (key : AttributeMap)
    (next : Except Refusal (Option AttributeMap) → Program Step.Answer (Except Failure α)) :
    store.run (ExceptT.mk do
        let item : Except Refusal (Option AttributeMap) ← (Step.readItem table key).ask
        next item) =
      store.run (ExceptT.mk (next (store.readItem table key))) := rfl

theorem run_update (request : Update)
    (next : Except Refusal (Option AttributeMap) → Program Step.Answer (Except Failure α)) :
    store.run (ExceptT.mk do
        let item : Except Refusal (Option AttributeMap) ← (Step.update request).ask
        next item) =
      (store.update request).2.run (ExceptT.mk (next (store.update request).1)) := rfl

theorem run_queryPages (table correlationId : String)
    (next : Passage ItemPage.next [] → Program Step.Answer (Except Failure α)) :
    store.run (ExceptT.mk do
        let pages : Passage ItemPage.next [] ← (Step.queryPages table correlationId).ask
        next pages) =
      store.run (ExceptT.mk (next (store.queryPages table correlationId))) := rfl

end Run

section Update

variable {store : ItemTable} {request : Update} {place : String × String} {change : Change}
  {condition : Option Condition}

theorem update_eq_change (htable : request.table = store.name)
    (hplace : placeOf? request.key = some place)
    (hmeaning : request.meaning? = some (change, condition)) :
    store.update request = store.change request place change condition := by
  rw [update, if_pos htable, hplace, hmeaning]

theorem change_of_holds
    (hholds : condition.all
      (·.holds request.names request.values ((find? store.items place).getD [])))
    {name : String} {value : Attribute}
    (hvalue : change.value? request.names request.values
      ((find? store.items place).getD request.key) = some (name, value)) :
    store.change request place change condition =
      let item := insert ((find? store.items place).getD request.key) name value
      (.ok (if request.returnsItem then some item else none), store.put place item) := by
  simp only [ItemTable.change, hholds, if_true, hvalue]

theorem change_of_not_holds
    (hholds : condition.all
      (·.holds request.names request.values ((find? store.items place).getD [])) = false) :
    store.change request place change condition = (.error .conditionFailed, store) := by
  simp only [ItemTable.change, hholds, Bool.false_eq_true, if_false]

end Update

end ItemTable

end Courier.Services
