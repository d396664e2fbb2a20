import Mathlib.Data.List.Nodup
import Courier.Proofs.Item.Account
import Courier.Proofs.Run.Closing
import Courier.Proofs.Run.History

/-!
The books of a collection: which objects the ingestion side has accepted, which have a marker, and
which have been counted. Over any history of runs the counted ones are among the marked, and the
marked among the accepted. An object that was marked and not counted before its run ended is never
counted again.
-/

namespace Courier

open Memory Program

/-- The keys of the objects for which calls of one sort have been made, in order. -/
def keysAsked (sort : Turn Call.Answer → Bool) (asked : List (Option Asked)) : List String :=
  asked.filterMap fun label => label.bind fun ask => if sort ask.turn then ask.key? else none

/-- The ingestion side has read the body to its end and accepted it. -/
def Turn.isAccepted : Turn Call.Answer → Bool
  | ⟨.deliver _ body, .ok _⟩ => body.bytes.toOption.isSome
  | _ => false

/-- The object store has written an object. -/
def Turn.isStored : Turn Call.Answer → Bool
  | ⟨.put .., .ok _⟩ => true
  | _ => false

/-- The status table has counted a file. -/
def Turn.isCounted : Turn Call.Answer → Bool
  | ⟨.increment _ _, .ok _⟩ => true
  | _ => false

/-- The keys of the objects that have been accepted. -/
def acceptedKeys : List (Option Asked) → List String := keysAsked Turn.isAccepted

/-- The keys of the objects whose marker has been written. -/
def markedKeys : List (Option Asked) → List String := keysAsked Turn.isStored

/-- The keys of the objects that have been counted. -/
def countedKeys : List (Option Asked) → List String := keysAsked Turn.isCounted

theorem keysAsked_append (sort : Turn Call.Answer → Bool) (front back : List (Option Asked)) :
    keysAsked sort (front ++ back) = keysAsked sort front ++ keysAsked sort back :=
  List.filterMap_append

theorem keysAsked_append_of_eq_nil {sort : Turn Call.Answer → Bool}
    {front back : List (Option Asked)} (h : keysAsked sort back = []) :
    keysAsked sort (front ++ back) = keysAsked sort front := by
  rw [keysAsked_append, h, List.append_nil]

theorem mem_keysAsked_append {sort : Turn Call.Answer → Bool} {front : List (Option Asked)}
    {key : String} (h : key ∈ keysAsked sort front) (back : List (Option Asked)) :
    key ∈ keysAsked sort (front ++ back) := by
  rw [keysAsked_append]
  exact List.mem_append_left _ h

theorem keysAsked_anonymous (sort : Turn Call.Answer → Bool) (turn : Turn Call.Answer) :
    keysAsked sort [some ⟨none, turn⟩] = [] := by
  simp [keysAsked]

theorem keysAsked_key (sort : Turn Call.Answer → Bool) (key : String) (turn : Turn Call.Answer) :
    keysAsked sort [some ⟨some key, turn⟩] = if sort turn then [key] else [] := by
  cases h : sort turn <;> simp [keysAsked, h]

theorem mem_acceptedKeys_of_deliver (asked : List (Option Asked)) (key : String)
    {headers : List (String × String)} {body : Body} {bytes : List UInt8}
    (hbytes : body.bytes = .ok bytes) :
    key ∈ acceptedKeys (asked ++ [some ⟨some key, ⟨.deliver headers body, .ok ()⟩⟩]) := by
  have haccepted : Turn.isAccepted ⟨.deliver headers body, .ok ()⟩ = true := by
    change body.bytes.toOption.isSome = true
    rw [hbytes]
    rfl
  rw [acceptedKeys, keysAsked_append, keysAsked_key, if_pos haccepted]
  exact List.mem_append_right _ List.mem_cons_self

/-- The key of the row of a run's collection. -/
def Settings.own (settings : Settings) : String × String :=
  (settings.run.correlationId, settings.run.topicName)

/-- The keys of the objects that a run sends. -/
def Settings.todo (settings : Settings) (world : World) : List String :=
  candidates (world.keys.filter (Text.startsWith settings.storage.folder))

/-- Whether an object's marker is there. -/
def Settings.hasMarker (settings : Settings) (world : World) (key : String) : Bool :=
  (find? world.objects (Item.markerKey settings key)).isSome

/-- The run sends the objects of the same collection again, but for those that have a marker. -/
structure Settings.Continues (base settings : Settings) : Prop where
  correlationId : settings.run.correlationId = base.run.correlationId
  topicName : settings.run.topicName = base.run.topicName
  storage : settings.storage = base.storage
  reprocess : settings.run.reprocess = false

/-- A collection that has been exported and not been sent yet. -/
structure Settings.Opens (base : Settings) (world : World) : Prop where
  row : ∃ row, find? world.table base.own = some row ∧ row.status = .exported ∧
    row.exported.getD 0 = (base.todo world).length ∧ row.sent.getD 0 = 0
  distinct : ((base.todo world).map (Item.markerKey base)).Nodup
  unmarked : ∀ key ∈ base.todo world, base.hasMarker world key = false
  undisturbed : world.interloper = none

namespace Memory.World

/-- The keys of the encrypted objects, in the order of the store. -/
def encrypted (world : World) : List String :=
  (world.objects.map Prod.fst).filter (Text.endsWith encryptedEnding)

end Memory.World

theorem Settings.todo_perm (settings : Settings) (world : World) :
    (settings.todo world).Perm
      (world.encrypted.filter (Text.startsWith settings.storage.folder)) := by
  have hkeys : world.keys.Perm (world.objects.map Prod.fst) := List.mergeSort_perm _ _
  have hfilter := (hkeys.filter (Text.startsWith settings.storage.folder)).filter
    (Text.endsWith encryptedEnding)
  exact hfilter.trans (.of_eq (List.filter_comm _ _ _))

/-- A run sends the same objects as long as the same ones are stored. -/
theorem Settings.todo_perm_of_encrypted (settings : Settings) {start world : World}
    (h : world.encrypted = start.encrypted) :
    (settings.todo world).Perm (settings.todo start) := by
  refine (settings.todo_perm world).trans ?_
  rw [h]
  exact (settings.todo_perm start).symm

theorem not_endsWith_markerKey (settings : Settings) (key : String) :
    Text.endsWith encryptedEnding (Item.markerKey settings key) = false := by
  simp [Item.markerKey, Marker.key, Text.endsWith, encryptedEnding, Marker.ending,
    List.isSuffixOf, List.isPrefixOf]

theorem encrypted_insert_markerKey (settings : Settings) (key : String)
    (objects : List (String × StoredObject)) (object : StoredObject) :
    ((Memory.insert objects (Item.markerKey settings key) object).map Prod.fst).filter
        (Text.endsWith encryptedEnding) =
      (objects.map Prod.fst).filter (Text.endsWith encryptedEnding) :=
  filter_keys_insert _ (not_endsWith_markerKey settings key) objects object

/-- The row of a collection says that so many of its files have been sent, and is not sent before as
    many are as the collection has. -/
def Settings.Counts (base : Settings) (start : World) (sent : Nat) (world : World) : Prop :=
  ∃ row, find? world.table base.own = some row ∧
    row.exported.getD 0 = (base.todo start).length ∧ row.sent.getD 0 = sent ∧
    (row.status = .sent → row.exported.getD 0 ≤ row.sent.getD 0)

namespace Settings.Counts

variable {base : Settings} {start world world' : World} {sent : Nat}

/-- The row may be moved on if its counters agree. -/
theorem keep (h : base.Counts start sent world)
    (hrow : ∀ row, find? world.table base.own = some row →
      ∃ row', find? world'.table base.own = some row' ∧ row'.exported = row.exported ∧
        row'.sent = row.sent ∧
        (row'.status = row.status ∨ row.exported.getD 0 = row.sent.getD 0)) :
    base.Counts start sent world' := by
  obtain ⟨row, hfound, hexported, hsent, hdone⟩ := h
  obtain ⟨row', hfound', hexported', hsent', hstatus⟩ := hrow row hfound
  refine ⟨row', hfound', ?_, ?_, fun hsentStatus => ?_⟩
  · rw [hexported', hexported]
  · rw [hsent', hsent]
  · rw [hexported', hsent']
    obtain hsame | hdue := hstatus
    · exact hdone (hsame.symm.trans hsentStatus)
    · exact Int.le_of_eq hdue

theorem of_table (h : base.Counts start sent world) (htable : world'.table = world.table) :
    base.Counts start sent world' :=
  h.keep fun row hrow => ⟨row, htable ▸ hrow, rfl, rfl, .inl rfl⟩

/-- One more file is counted. -/
theorem count (h : base.Counts start sent world) (htable : world'.table =
      Memory.insert world.table base.own ((find? world.table base.own).getD .empty).counted) :
    base.Counts start (sent + 1) world' := by
  obtain ⟨row, hrow, hexported, hsent, hdone⟩ := h
  refine ⟨row.counted, ?_, hexported, ?_, fun hstatus => ?_⟩
  · rw [htable, find?_insert_self, hrow]
    rfl
  · rw [Row.counted_sent, hsent]
    rfl
  · rw [Row.counted_sent]
    exact Int.le_add_one (hdone hstatus)

end Settings.Counts

theorem Settings.Opens.counts {base : Settings} {start : World} (h : base.Opens start) :
    base.Counts start 0 start := by
  obtain ⟨row, hrow, hstatus, hexported, hsent⟩ := h.row
  refine ⟨row, hrow, hexported, hsent, fun hnot => ?_⟩
  cases hstatus.symm.trans hnot

/-- The books of a collection after some calls: every file that has been counted has its marker, and
    every object with a marker has been accepted. The objects in `lost` have a marker and are not
    counted. -/
structure Books (base : Settings) (start : World) (lost : List String) (asked : List (Option Asked))
    (world : World) : Prop where
  undisturbed : world.interloper = none
  encrypted : world.encrypted = start.encrypted
  row : ∃ row, find? world.table base.own = some row ∧
    row.exported.getD 0 = (base.todo start).length ∧
    row.sent.getD 0 = (countedKeys asked).length ∧
    (row.status = .sent → row.exported.getD 0 ≤ row.sent.getD 0)
  countedOnce : (countedKeys asked).Nodup
  counted : ∀ key ∈ countedKeys asked, key ∈ base.todo start ∧ base.hasMarker world key
  marked : ∀ key ∈ base.todo start, base.hasMarker world key ↔ key ∈ markedKeys asked
  accepted : ∀ key ∈ base.todo start, base.hasMarker world key → key ∈ acceptedKeys asked
  lost : ∀ key ∈ lost, base.hasMarker world key ∧ key ∉ countedKeys asked

/-- What the books say about an object while it is worked on. -/
def Entered (base : Settings) (lost : List String) (asked : List (Option Asked)) (world : World)
    (key : String) : Item.Phase → Prop
  | .cleared => base.hasMarker world key = false
  | .accepted => base.hasMarker world key = false ∧ key ∈ acceptedKeys asked
  | .marked _ => base.hasMarker world key ∧ key ∉ countedKeys asked ∧ key ∉ lost
  | _ => True

section Books

variable {base : Settings} {start world world' : World} {lost : List String}
  {asked : List (Option Asked)} {key : String}

theorem Settings.Opens.books (h : base.Opens start) : Books base start [] [] start where
  undisturbed := h.undisturbed
  encrypted := rfl
  row := h.counts
  countedOnce := List.nodup_nil
  counted := nofun
  marked key hkey := by
    rw [h.unmarked key hkey]
    exact ⟨nofun, nofun⟩
  accepted key hkey hmarker := by
    rw [h.unmarked key hkey] at hmarker
    cases hmarker
  lost := nofun

/-- The object stays where it was in its phase, if neither its marker nor its count changes. -/
theorem Entered.keep {labels : List (Option Asked)} {phase : Item.Phase}
    (h : Entered base lost asked world key phase)
    (hmarker : base.hasMarker world' key = base.hasMarker world key)
    (hcounted : key ∉ countedKeys labels) :
    Entered base lost (asked ++ labels) world' key phase := by
  cases phase with
  | cleared => exact hmarker.trans h
  | accepted =>
    obtain ⟨hunmarked, haccepted⟩ := h
    exact ⟨hmarker.trans hunmarked, mem_keysAsked_append haccepted labels⟩
  | marked failures =>
    obtain ⟨hmarked, hnew, hlost⟩ := h
    refine ⟨hmarker.trans hmarked, fun hkey => ?_, hlost⟩
    rw [countedKeys, keysAsked_append, List.mem_append] at hkey
    exact hkey.elim hnew hcounted
  | unchecked | skipping | counted => trivial

theorem hasMarker_of_objects (base : Settings) (h : world'.objects = world.objects) (key : String) :
    base.hasMarker world' key = base.hasMarker world key := by
  rw [Settings.hasMarker, h, Settings.hasMarker]

theorem encrypted_of_objects (h : world'.objects = world.objects) :
    world'.encrypted = world.encrypted := by
  rw [World.encrypted, h, World.encrypted]

/-- A marker is no encrypted object. -/
theorem encrypted_of_marker {settings : Settings} {key : String} {object : StoredObject}
    (h : world'.objects = Memory.insert world.objects (Item.markerKey settings key) object) :
    world'.encrypted = world.encrypted := by
  rw [World.encrypted, h, encrypted_insert_markerKey, World.encrypted]

/-- A call that writes no marker and counts nothing, and leaves the own row with its counters and
    not newly sent, keeps the books. -/
theorem Books.keep {labels : List (Option Asked)} (h : Books base start lost asked world)
    (hundisturbed : world'.interloper = none) (hobjects : world'.objects = world.objects)
    (hrow : ∀ row, find? world.table base.own = some row →
      ∃ row', find? world'.table base.own = some row' ∧ row'.exported = row.exported ∧
        row'.sent = row.sent ∧
        (row'.status = row.status ∨ row.exported.getD 0 = row.sent.getD 0))
    (hmarked : markedKeys labels = []) (hcounted : countedKeys labels = []) :
    Books base start lost (asked ++ labels) world' := by
  have hkeepMarked : markedKeys (asked ++ labels) = markedKeys asked :=
    keysAsked_append_of_eq_nil hmarked
  have hkeepCounted : countedKeys (asked ++ labels) = countedKeys asked :=
    keysAsked_append_of_eq_nil hcounted
  have hmarkers := hasMarker_of_objects base hobjects
  refine { undisturbed := hundisturbed, row := ?row, counted := ?counted, marked := ?marked,
           accepted := ?accepted, lost := ?lost, countedOnce := hkeepCounted ▸ h.countedOnce,
           encrypted := (encrypted_of_objects hobjects).trans h.encrypted }
  case row =>
    rw [hkeepCounted]
    exact Settings.Counts.keep h.row hrow
  case counted =>
    intro key hkey
    rw [hmarkers]
    exact h.counted key (hkeepCounted ▸ hkey)
  case marked =>
    intro key hkey
    rw [hmarkers, hkeepMarked]
    exact h.marked key hkey
  case accepted =>
    intro key hkey hmarker
    rw [hmarkers] at hmarker
    exact mem_keysAsked_append (h.accepted key hkey hmarker) labels
  case lost =>
    intro key hkey
    rw [hmarkers, hkeepCounted]
    exact h.lost key hkey

/-- Different objects of a collection have different markers. -/
theorem Settings.Opens.eq_of_markerKey_eq (h : base.Opens start) {other : String}
    (hkey : key ∈ base.todo start) (hother : other ∈ base.todo start)
    (heq : Item.markerKey base other = Item.markerKey base key) : other = key :=
  List.inj_on_of_nodup_map h.distinct hother hkey heq

theorem hasMarker_of_insert {object : StoredObject}
    (hobjects : world'.objects = Memory.insert world.objects (Item.markerKey base key) object)
    (other : String) :
    base.hasMarker world' other ↔
      Item.markerKey base other = Item.markerKey base key ∨ base.hasMarker world other := by
  rw [Settings.hasMarker, hobjects]
  by_cases heq : Item.markerKey base other = Item.markerKey base key
  · rw [heq, find?_insert_self]
    exact ⟨fun _ => .inl rfl, fun _ => rfl⟩
  · rw [find?_insert_of_ne _ _ heq]
    exact ⟨.inr, fun h => h.resolve_left heq⟩

/-- The objects of the collection that have a marker are those from before and the one whose marker
    has been written. -/
theorem Settings.Opens.hasMarker_iff_of_insert (h : base.Opens start) {object : StoredObject}
    (hobjects : world'.objects = Memory.insert world.objects (Item.markerKey base key) object)
    (hkey : key ∈ base.todo start) {other : String} (hother : other ∈ base.todo start) :
    base.hasMarker world' other ↔ base.hasMarker world other ∨ other = key := by
  rw [hasMarker_of_insert hobjects]
  constructor
  · rintro (heq | hthere)
    · exact .inr (h.eq_of_markerKey_eq hkey hother heq)
    · exact .inl hthere
  · rintro (hthere | rfl)
    · exact .inr hthere
    · exact .inl rfl

/-- Writing the marker of an accepted object keeps the books. -/
theorem Books.mark (labels : List (Option Asked)) {object : StoredObject}
    (h : Books base start lost asked world) (hopens : base.Opens start)
    (hkey : key ∈ base.todo start) (haccepted : key ∈ acceptedKeys asked)
    (hundisturbed : world'.interloper = none)
    (hobjects : world'.objects = Memory.insert world.objects (Item.markerKey base key) object)
    (htable : world'.table = world.table)
    (hmarked : markedKeys labels = [key]) (hcounted : countedKeys labels = []) :
    Books base start lost (asked ++ labels) world' := by
  have hkeepMarked : markedKeys (asked ++ labels) = markedKeys asked ++ [key] := by
    rw [markedKeys, keysAsked_append, ← markedKeys, hmarked]
  have hkeepCounted : countedKeys (asked ++ labels) = countedKeys asked :=
    keysAsked_append_of_eq_nil hcounted
  have hstays (other : String) (hthere : base.hasMarker world other) :
      base.hasMarker world' other :=
    (hasMarker_of_insert hobjects other).2 (.inr hthere)
  refine { undisturbed := hundisturbed, encrypted := ?encrypted, row := ?row, counted := ?counted,
           marked := ?marked, accepted := ?accepted, lost := ?lost,
           countedOnce := hkeepCounted ▸ h.countedOnce }
  case encrypted => exact (encrypted_of_marker hobjects).trans h.encrypted
  case row =>
    rw [htable, hkeepCounted]
    exact h.row
  case counted =>
    intro other hother
    obtain ⟨hmember, hthere⟩ := h.counted other (hkeepCounted ▸ hother)
    exact ⟨hmember, hstays other hthere⟩
  case marked =>
    intro other hother
    rw [hopens.hasMarker_iff_of_insert hobjects hkey hother, hkeepMarked, List.mem_append,
      List.mem_singleton, h.marked other hother]
  case accepted =>
    intro other hother hthere
    refine mem_keysAsked_append ?_ labels
    obtain hbefore | rfl := (hopens.hasMarker_iff_of_insert hobjects hkey hother).1 hthere
    · exact h.accepted other hother hbefore
    · exact haccepted
  case lost =>
    intro other hother
    obtain ⟨hthere, huncounted⟩ := h.lost other hother
    rw [hkeepCounted]
    exact ⟨hstays other hthere, huncounted⟩

/-- Counting an object that has its marker and is not lost keeps the books. -/
theorem Books.count (labels : List (Option Asked)) (h : Books base start lost asked world)
    (hkey : key ∈ base.todo start) (hmarker : base.hasMarker world key)
    (hnew : key ∉ countedKeys asked) (hlost : key ∉ lost)
    (hundisturbed : world'.interloper = none) (hobjects : world'.objects = world.objects)
    (htable : world'.table =
      Memory.insert world.table base.own ((find? world.table base.own).getD .empty).counted)
    (hmarked : markedKeys labels = []) (hcounted : countedKeys labels = [key]) :
    Books base start lost (asked ++ labels) world' := by
  have hkeepMarked : markedKeys (asked ++ labels) = markedKeys asked :=
    keysAsked_append_of_eq_nil hmarked
  have hkeepCounted : countedKeys (asked ++ labels) = countedKeys asked ++ [key] := by
    rw [countedKeys, keysAsked_append, ← countedKeys, hcounted]
  have hmarkers := hasMarker_of_objects base hobjects
  refine { undisturbed := hundisturbed, row := ?row, countedOnce := ?countedOnce,
           counted := ?counted, marked := ?marked, accepted := ?accepted, lost := ?lost,
           encrypted := (encrypted_of_objects hobjects).trans h.encrypted }
  case row =>
    rw [hkeepCounted, List.length_append, List.length_singleton]
    exact Settings.Counts.count h.row htable
  case countedOnce =>
    rw [hkeepCounted]
    refine List.nodup_append.2 ⟨h.countedOnce, List.nodup_singleton key, ?_⟩
    rintro other hother last hlast rfl
    obtain rfl := List.mem_singleton.1 hlast
    exact hnew hother
  case counted =>
    intro other hother
    rw [hkeepCounted] at hother
    rw [hmarkers]
    obtain hbefore | hlast := List.mem_append.1 hother
    · exact h.counted other hbefore
    · obtain rfl := List.mem_singleton.1 hlast
      exact ⟨hkey, hmarker⟩
  case marked =>
    intro other hother
    rw [hmarkers, hkeepMarked]
    exact h.marked other hother
  case accepted =>
    intro other hother hthere
    rw [hmarkers] at hthere
    exact mem_keysAsked_append (h.accepted other hother hthere) labels
  case lost =>
    intro other hother
    obtain ⟨hthere, huncounted⟩ := h.lost other hother
    rw [hmarkers, hkeepCounted, List.mem_append, List.mem_singleton]
    refine ⟨hthere, ?_⟩
    rintro (hbefore | rfl)
    · exact huncounted hbefore
    · exact hlost hother

end Books

section Items

variable {base settings : Settings} {start world world' : World} {lost : List String}
  {asked : List (Option Asked)} {key : String}

theorem Settings.Continues.markerKey (h : base.Continues settings) (key : String) :
    Item.markerKey settings key = Item.markerKey base key := by
  rw [Item.markerKey, h.storage, Item.markerKey]

theorem Settings.Continues.own (h : base.Continues settings) : settings.own = base.own := by
  rw [Settings.own, h.correlationId, h.topicName, Settings.own]

/-- The books, and what they say about every object, stand a call that writes nothing. -/
theorem Books.quiet (h : Books base start lost asked world) (ask : Asked)
    (hundisturbed : world'.interloper = none) (hobjects : world'.objects = world.objects)
    (htable : world'.table = world.table) (hstored : ask.turn.isStored = false)
    (hcounted : ask.turn.isCounted = false) :
    Books base start lost (asked ++ [some ask]) world' ∧
      ∀ other phase, Entered base lost asked world other phase →
        Entered base lost (asked ++ [some ask]) world' other phase := by
  have hmarked : markedKeys [some ask] = [] := by simp [markedKeys, keysAsked, hstored]
  have hcounted : countedKeys [some ask] = [] := by simp [countedKeys, keysAsked, hcounted]
  refine ⟨h.keep hundisturbed hobjects (fun row hrow => ?_) hmarked hcounted, ?_⟩
  · exact ⟨row, htable ▸ hrow, rfl, rfl, .inl rfl⟩
  · intro other phase hentered
    refine hentered.keep (hasMarker_of_objects base hobjects other) ?_
    rw [hcounted]
    exact List.not_mem_nil

/-- A call for one object changes nothing in the books about another. -/
theorem Entered.other {other : String} {turn : Turn Call.Answer} {phase : Item.Phase}
    (h : Entered base lost asked world other phase) (hne : other ≠ key)
    (hmarker : base.hasMarker world' other = base.hasMarker world other) :
    Entered base lost (asked ++ [some ⟨some key, turn⟩]) world' other phase := by
  refine h.keep hmarker fun hcounted => ?_
  rw [countedKeys, keysAsked_key] at hcounted
  split at hcounted
  · exact hne (List.mem_singleton.1 hcounted)
  · cases hcounted

/-- What a call that is made for an object leaves behind in the books. -/
structure Booked (base : Settings) (start : World) (lost : List String)
    (asked asked' : List (Option Asked)) (world world' : World) (key : String)
    (phase : Item.Phase) : Prop where
  books : Books base start lost asked' world'
  self : Entered base lost asked' world' key phase
  others : ∀ other ∈ base.todo start, other ≠ key → ∀ phase,
    Entered base lost asked world other phase → Entered base lost asked' world' other phase

theorem Books.contains (h : Books base start lost asked world)
    (hcontinues : base.Continues settings) {result : Except Failure Bool}
    (hresult : (world.answer (.contains (Item.markerKey settings key))).1 = result) :
    Booked base start lost asked
      (asked ++ [some ⟨some key, ⟨.contains (Item.markerKey settings key), result⟩⟩])
      world (world.answer (.contains (Item.markerKey settings key))).2 key
      (Item.Phase.next .unchecked ⟨.contains (Item.markerKey settings key), result⟩) := by
  have hobjects : (world.answer (.contains (Item.markerKey settings key))).2.objects =
      world.objects := World.answer_objects_of_ne nofun
  obtain ⟨hbooks, hframe⟩ := h.quiet
    ⟨some key, ⟨.contains (Item.markerKey settings key), result⟩⟩
    (World.answer_interloper h.undisturbed) hobjects (World.answer_table_of_ne nofun nofun) rfl rfl
  refine ⟨hbooks, ?_, fun other _ _ phase => hframe other phase⟩
  match result, hresult with
  | .error _, _ => trivial
  | .ok true, _ => trivial
  | .ok false, hresult =>
    have hfound := World.answer_contains _ _ hresult
    rw [hcontinues.markerKey] at hfound
    exact (hasMarker_of_objects base hobjects key).trans hfound.symm

theorem Books.delivering (h : Books base start lost asked world) {call : Call}
    (hcall : Item.Delivering settings key call) (hmarker : base.hasMarker world key = false) :
    Booked base start lost asked
      (asked ++ [some ⟨some key, ⟨call, (world.answer call).1⟩⟩])
      world (world.answer call).2 key
      (Item.Phase.next .cleared ⟨call, (world.answer call).1⟩) := by
  have hobjects : (world.answer call).2.objects = world.objects := by
    cases hcall <;> exact World.answer_objects_of_ne nofun
  have htable : (world.answer call).2.table = world.table := by
    cases hcall <;> exact World.answer_table_of_ne nofun nofun
  obtain ⟨hbooks, hframe⟩ := h.quiet ⟨some key, ⟨call, (world.answer call).1⟩⟩
    (World.answer_interloper h.undisturbed) hobjects htable (by cases hcall <;> rfl)
    (by cases hcall <;> rfl)
  refine ⟨hbooks, ?_, fun other _ _ phase => hframe other phase⟩
  have hmarker' := (hasMarker_of_objects base hobjects key).trans hmarker
  cases hcall with
  | get | unwrap => exact hmarker'
  | deliver topic htopic body =>
    generalize (FileHeaders.ofFile (fileName key) topic).pairs settings.run = headers at *
    cases hresult : (world.answer (.deliver headers body)).1 with
    | error e => exact hmarker'
    | ok =>
      refine ⟨hmarker', ?_⟩
      obtain ⟨-, bytes, hbytes⟩ := (World.answer_deliver headers body).1 hresult
      exact mem_acceptedKeys_of_deliver asked key hbytes

theorem Books.markerPut (h : Books base start lost asked world) (hopens : base.Opens start)
    (hcontinues : base.Continues settings) (hkey : key ∈ base.todo start)
    (hentered : Entered base lost asked world key .accepted) :
    Booked base start lost asked
      (asked ++ [some ⟨some key, ⟨_, (world.answer (Item.markerPut settings key)).1⟩⟩])
      world (world.answer (Item.markerPut settings key)).2 key
      (Item.Phase.next .accepted ⟨_, (world.answer (Item.markerPut settings key)).1⟩) := by
  have hundisturbed : (world.answer (Item.markerPut settings key)).2.interloper = none :=
    World.answer_interloper h.undisturbed
  have htable : (world.answer (Item.markerPut settings key)).2.table = world.table :=
    World.answer_table_of_ne nofun nofun
  obtain ⟨hresult, -, hobjects⟩ | ⟨failure, hresult, -, hobjects⟩ :=
    Item.answer_markerPut settings key world
  · rw [hresult]
    rw [hcontinues.markerKey] at hobjects
    obtain ⟨hunmarked, haccepted⟩ := hentered
    have hmarker := (hasMarker_of_insert hobjects key).2 (.inl rfl)
    refine ⟨Books.mark _ h hopens hkey haccepted hundisturbed hobjects htable rfl rfl,
      ⟨hmarker, fun hcounted => ?_, fun hlost => ?_⟩, fun other hother hne phase hphase => ?_⟩
    · rw [countedKeys, keysAsked_append_of_eq_nil rfl] at hcounted
      cases hunmarked.symm.trans (h.counted key hcounted).2
    · cases hunmarked.symm.trans (h.lost key hlost).1
    · have hiff := hopens.hasMarker_iff_of_insert hobjects hkey hother
      exact hphase.other hne (Bool.eq_iff_iff.2 (hiff.trans (or_iff_left hne)))
  · rw [hresult]
    obtain ⟨hbooks, hframe⟩ := h.quiet ⟨some key, ⟨Item.markerPut settings key, .error failure⟩⟩
      hundisturbed hobjects htable rfl rfl
    exact ⟨hbooks, hframe key .accepted hentered, fun other _ _ phase => hframe other phase⟩

theorem Books.countCall (h : Books base start lost asked world)
    (hcontinues : base.Continues settings) (hkey : key ∈ base.todo start) {failures : Nat}
    (hentered : Entered base lost asked world key (.marked failures)) :
    Booked base start lost asked
      (asked ++ [some ⟨some key, ⟨_, (world.answer (Item.countCall settings)).1⟩⟩])
      world (world.answer (Item.countCall settings)).2 key
      (Item.Phase.next (.marked failures) ⟨_, (world.answer (Item.countCall settings)).1⟩) := by
  have hundisturbed : (world.answer (Item.countCall settings)).2.interloper = none :=
    World.answer_interloper h.undisturbed
  have hobjects : (world.answer (Item.countCall settings)).2.objects = world.objects :=
    World.answer_objects_of_ne nofun
  obtain ⟨count, hresult, -, htable⟩ | ⟨failure, hresult, -, htable⟩ :=
    Item.answer_countCall settings world
  · rw [hresult]
    rw [← Settings.own, hcontinues.own] at htable
    obtain ⟨hmarker, hnew, hlost⟩ := hentered
    exact ⟨Books.count _ h hkey hmarker hnew hlost hundisturbed hobjects htable rfl rfl, trivial,
      fun other _ hne phase hphase => hphase.other hne (hasMarker_of_objects base hobjects other)⟩
  · rw [hresult]
    obtain ⟨hbooks, hframe⟩ := h.quiet ⟨some key, ⟨Item.countCall settings, .error failure⟩⟩
      hundisturbed hobjects htable rfl rfl
    exact ⟨hbooks, hframe key (.marked failures) hentered,
      fun other _ _ phase => hframe other phase⟩

/-- Whatever call comes next in the work on an object, it is booked. -/
theorem Books.turn (h : Books base start lost asked world) (hopens : base.Opens start)
    (hcontinues : base.Continues settings) (hkey : key ∈ base.todo start) {phase : Item.Phase}
    {call : Call} (hallowed : (Item.rule settings key).allows phase call)
    (hentered : Entered base lost asked world key phase) :
    Booked base start lost asked (asked ++ [some ⟨some key, ⟨call, (world.answer call).1⟩⟩])
      world (world.answer call).2 key
      ((Item.rule settings key).after phase ⟨call, (world.answer call).1⟩) := by
  cases phase with
  | unchecked =>
    cases hallowed
    exact h.contains hcontinues rfl
  | cleared => exact h.delivering hallowed hentered
  | accepted =>
    cases hallowed
    exact h.markerPut hopens hcontinues hkey hentered
  | marked failures =>
    cases hallowed
    exact h.countCall hcontinues hkey hentered
  | skipping | counted => exact hallowed.elim

/-- A call that is made for no object and leaves objects and rows alone keeps the books. -/
theorem Books.anonymous (h : Books base start lost asked world) (turn : Turn Call.Answer)
    (hundisturbed : world'.interloper = none) (hobjects : world'.objects = world.objects)
    (htable : world'.table = world.table) :
    Books base start lost (asked ++ [some ⟨none, turn⟩]) world' :=
  h.keep hundisturbed hobjects (fun row hrow => ⟨row, htable ▸ hrow, rfl, rfl, .inl rfl⟩)
    (keysAsked_anonymous _ turn) (keysAsked_anonymous _ turn)

/-- The calls at the end of a run touch no object. -/
theorem Closing.Asks.objects_eq {call : Call} (hcall : Closing.Asks settings call) (world : World) :
    (world.answer call).2.objects = world.objects := by
  cases hcall with
  | deliver | rows | publish => exact World.answer_objects_of_ne nofun
  | advance hadvance => cases hadvance <;> exact World.answer_objects_of_ne nofun

/-- They leave the counters of the row, and move it on only if these agree. -/
theorem Closing.Asks.exists_row {call : Call} (hcall : Closing.Asks settings call)
    (hundisturbed : world.interloper = none) {row : Row}
    (hrow : find? world.table settings.own = some row) :
    ∃ row', find? (world.answer call).2.table settings.own = some row' ∧
      row'.exported = row.exported ∧ row'.sent = row.sent ∧
      (row'.status = row.status ∨ row.exported.getD 0 = row.sent.getD 0) := by
  have hkeep (htable : (world.answer call).2.table = world.table) :
      ∃ row', find? (world.answer call).2.table settings.own = some row' ∧
        row'.exported = row.exported ∧ row'.sent = row.sent ∧
        (row'.status = row.status ∨ row.exported.getD 0 = row.sent.getD 0) :=
    ⟨row, htable ▸ hrow, rfl, rfl, .inl rfl⟩
  cases hcall with
  | deliver | rows | publish => exact hkeep (World.answer_table_of_ne nofun nofun)
  | advance hadvance =>
    cases hadvance with
    | readRow => exact hkeep (World.answer_table_of_ne nofun nofun)
    | transition expected hdue =>
      obtain ⟨-, found, hfound, hagrees, htable⟩ | ⟨-, htable⟩ :=
        world.answer_transition settings.run.correlationId settings.run.topicName expected
          (Tracker.target expected).1 hundisturbed
      · cases hrow.symm.trans hfound
        refine ⟨_, (congrArg (find? · settings.own) htable).trans (find?_insert_self _ _ _), rfl,
          rfl, .inr ?_⟩
        simp only [Row.agrees, Bool.and_eq_true, beq_iff_eq] at hagrees
        simp only [Tracker.isDue, Bool.and_eq_true, beq_iff_eq] at hdue
        rw [hagrees.1.2, hagrees.2, hdue.2]
      · exact hkeep htable

/-- A transition takes effect only on a row whose counters agree, so the calls at the end of a run
    keep the books. -/
theorem Books.closing (h : Books base start lost asked world) (hcontinues : base.Continues settings)
    {call : Call} (hcall : Closing.Asks settings call) (turn : Turn Call.Answer) :
    Books base start lost (asked ++ [some ⟨none, turn⟩]) (world.answer call).2 := by
  refine h.keep (World.answer_interloper h.undisturbed) (hcall.objects_eq world) (fun row hrow => ?_)
    (keysAsked_anonymous _ turn) (keysAsked_anonymous _ turn)
  rw [← hcontinues.own] at hrow ⊢
  exact hcall.exists_row h.undisturbed hrow

end Items

end Courier
