import Courier.Proofs.Body.Decryption
import Courier.Proofs.Export.Object
import Courier.Proofs.Item.Account
import Courier.Proofs.Memory.FaultFree

/-!
The way of a plain file through the work on its object. What the export side has sealed arrives at
the ingestion side byte by byte, in one delivery, and then its marker is there and it is counted, if
nothing fails.
-/

namespace Courier

/-- The headers that tell of the file. -/
theorem FileHeaders.filter_pairs (filename database collection topic : String) (run : ExportRun) :
    (pairs ⟨filename, database, collection, topic⟩ run).filter (fun header =>
        decide (header.1 ∈ ["filename", "database", "collection", "topic"])) =
      [("filename", filename), ("database", database), ("collection", collection),
        ("topic", topic)] := by
  simp [pairs]

namespace Item

open Aes (counterMode)
open Material (bytesOf)
open Memory

/-- What the export side makes of a plain file, and the secrets it makes it with. -/
structure Parcel where
  /-- The body, cut anywhere. -/
  pieces : List (List UInt8)
  metadata : Metadata
  dataKey : String
  counter : List UInt8
  envelope : Envelope

/-- The object under a key is a plain file that the export side has sealed: the file in counter
    mode, in base64 with blanks anywhere, and metadata that tells the counter and how the key
    service finds the data key. -/
structure Sealed (world : World) (key : String) (plain : List UInt8) (parcel : Parcel) : Prop where
  stored : find? world.objects key = some ⟨parcel.pieces.map .ok, parcel.metadata⟩
  /-- No two names differ by letter case alone. -/
  distinct : (parcel.metadata.map fun entry => Text.lower entry.1).Nodup
  holdsCounter : Envelope.Holds parcel.metadata "iv" parcel.envelope.counter
  holdsKeyId : Envelope.Holds parcel.metadata "dataKeyEncryptionKeyId" parcel.envelope.keyId
  holdsWrappedKey : Envelope.Holds parcel.metadata "cipherText" parcel.envelope.wrappedKey
  keyId_ne : parcel.envelope.keyId ≠ ""
  wrappedKey_ne : parcel.envelope.wrappedKey ≠ ""
  known : (world.dataKeys.find? fun entry =>
      entry.keyId == parcel.envelope.keyId && entry.wrapped == parcel.envelope.wrappedKey) =
    some ⟨parcel.envelope.keyId, parcel.envelope.wrappedKey, parcel.dataKey⟩
  length_dataKey : (bytesOf parcel.dataKey).length ∈ [16, 24, 32]
  length_counter : parcel.counter.length = 16
  bytesOf_counter : bytesOf parcel.envelope.counter = Base64.encode parcel.counter
  encodes : Base64.Encodes .optional (visible parcel.pieces.flatten)
    (counterMode (bytesOf parcel.dataKey) parcel.counter plain)

theorem bytes_map_ok (items : List (List UInt8)) :
    Body.bytes (items.map .ok) = .ok items.flatten := by
  induction items with
  | nil => rfl
  | cons item items ih =>
    rw [List.map_cons, Body.bytes, ih, List.flatten_cons]
    rfl

section Parts

variable {settings : Settings} {key : String} {world middle : World} {plain : List UInt8}
  {parcel : Parcel} {calls : List Call}

theorem Sealed.counter_ne (sealed : Sealed world key plain parcel) :
    parcel.envelope.counter ≠ "" := by
  intro hempty
  have hcounter : Base64.decode .optional (Base64.encode parcel.counter) = .ok parcel.counter :=
    Base64.decode_eq_of_encodes (.inl rfl)
  rw [← sealed.bytesOf_counter, hempty, Material.bytesOf_empty, Base64.decode_nil] at hcounter
  have hlength := sealed.length_counter
  rw [← Except.ok.inj hcounter] at hlength
  cases hlength

/-- What the object decrypts to is the plain file. -/
theorem Sealed.bytes_decrypted (sealed : Sealed world key plain parcel) :
    (Body.decrypted (.ofKey (bytesOf parcel.dataKey) parcel.counter)
      (parcel.pieces.map .ok)).bytes = .ok plain := by
  have hcode := Base64.decode_eq_of_encodes sealed.encodes
  obtain ⟨items, hitems, hflatten⟩ := Decryptor.decrypted_of_code
    (Material.four_le_of_mem sealed.length_dataKey) parcel.counter hcode
  rw [hitems, bytes_map_ok, hflatten, Aes.counterMode_counterMode]

/-- Reading the object and delivering it succeeds, and what is delivered is the plain file. -/
theorem Sealed.attempt_succeeds (sealed : Sealed world key plain parcel)
    (h : world.Heard middle calls) (headers : FileHeaders) :
    ∃ body after, Succeeds (attempt settings key headers) middle () after ∧
      Body.bytes body = .ok plain ∧
      world.Heard after (calls ++ [.get key,
        .unwrap parcel.envelope.keyId parcel.envelope.wrappedKey,
        .deliver (headers.pairs settings.run) body]) := by
  have hmaterial : Material.keystream ⟨parcel.dataKey, parcel.envelope.counter⟩ =
      .ok (.ofKey (bytesOf parcel.dataKey) parcel.counter) :=
    Material.keystream_of_code sealed.length_dataKey sealed.length_counter sealed.bytesOf_counter
  have hget := h.answer (.get key) rfl
  have hunwrap := hget.answer (.unwrap parcel.envelope.keyId parcel.envelope.wrappedKey) rfl
  have hdeliver := hunwrap.answer (.deliver (headers.pairs settings.run)
    (Body.decrypted (.ofKey (bytesOf parcel.dataKey) parcel.counter) (parcel.pieces.map .ok))) rfl
  have hobject : (middle.answer (.get key)).1 = .ok ⟨parcel.pieces.map .ok, parcel.metadata⟩ := by
    rw [h.faultFree.result]
    simp only [World.perform, h.objects, sealed.stored]
  have henvelope : Envelope.ofMetadata key parcel.metadata = .ok parcel.envelope :=
    Envelope.ofMetadata_of_holds sealed.distinct sealed.holdsCounter sealed.counter_ne
      sealed.holdsKeyId sealed.keyId_ne sealed.holdsWrappedKey sealed.wrappedKey_ne key
  have hkey : ((middle.answer (.get key)).2.answer
      (.unwrap parcel.envelope.keyId parcel.envelope.wrappedKey)).1 = .ok parcel.dataKey := by
    rw [hget.faultFree.result]
    simp only [World.perform, hget.dataKeys, sealed.known]
  have haccepted := (World.answer_deliver (headers.pairs settings.run) _).2
    ⟨hunwrap.faultFree.planned _, plain, sealed.bytes_decrypted⟩
  refine ⟨_, _, ?_, sealed.bytes_decrypted, by simpa using hdeliver⟩
  exact ((Succeeds.call hobject).retry _).bind ((Succeeds.of_ok henvelope).bind
    ((Succeeds.call hkey).bind ((Succeeds.of_ok hmaterial).bind (.call haccepted))))

/-- Looking for a marker that is not there succeeds, with no delivery. -/
theorem alreadySent_succeeds (hfree : world.FaultFree)
    (hmarker : find? world.objects (markerKey settings key) = none) :
    ∃ after calls, Succeeds (alreadySent settings key) world false after ∧
      world.Heard after calls ∧ ∀ call ∈ calls, kindOf call ≠ .deliver := by
  unfold alreadySent
  split
  · exact ⟨world, [], .done false world, .refl hfree, nofun⟩
  · have hheard := (World.Heard.refl hfree).answer (.contains (markerKey settings key)) rfl
    have hcontains : (world.answer (.contains (markerKey settings key))).1 = .ok false := by
      rw [hfree.result]
      simp only [World.perform, hmarker, Option.isSome_none]
    refine ⟨_, _, (Succeeds.call hcontains).retry _, hheard, ?_⟩
    simp [kindOf]

/-- The delivery of a sealed object is not rejected. -/
theorem Sealed.deliverOrReject_succeeds (sealed : Sealed world key plain parcel) {topic : Topic}
    (htopic : Topic.resolve settings.handling.blockedTopics (plainName (fileName key)) = .ok topic)
    (h : world.Heard middle calls) :
    ∃ body after, Succeeds (deliverOrReject settings key) middle none after ∧
      Body.bytes body = .ok plain ∧
      world.Heard after (calls ++ [.get key,
        .unwrap parcel.envelope.keyId parcel.envelope.wrappedKey,
        .deliver ((FileHeaders.ofFile (fileName key) topic).pairs settings.run) body]) := by
  obtain ⟨body, after, hattempt, hbody, hheard⟩ :=
    sealed.attempt_succeeds h (.ofFile (fileName key) topic)
  refine ⟨body, after, ?_, hbody, hheard⟩
  have hdeliver : Succeeds (deliver settings key) middle () after :=
    (Succeeds.of_ok htopic).bind (hattempt.retryIf _ _)
  exact (hdeliver.bind (.done none after)).tryCatch _

/-- Writing the marker succeeds, and adds it to the objects. -/
theorem writeMarker_succeeds (settings : Settings) (key : String)
    (h : world.Heard middle calls) :
    Succeeds (writeMarker settings key) middle (markerKey settings key)
        (middle.answer (markerPut settings key)).2 ∧
      MarkerAdded settings key world (middle.answer (markerPut settings key)).2 := by
  have hunplanned := h.faultFree.planned (markerPut settings key)
  obtain ⟨hresult, -, hobjects⟩ | ⟨failure, -, hplanned, -⟩ := answer_markerPut settings key middle
  · refine ⟨((Succeeds.call hresult).retry _).bind (.done _ _), ?_⟩
    rw [MarkerAdded, hobjects, h.objects]
    exact ⟨⟨_, find?_insert_self _ _ _, Body.bytes_cutPieces _ _, rfl⟩,
      fun other hother => find?_insert_of_ne _ _ hother⟩
  · cases hplanned.symm.trans hunplanned

/-- Counting the file succeeds. -/
theorem countSent_succeeds (settings : Settings) (hfree : middle.FaultFree) :
    Succeeds (Tracker.ofSettings settings).countSent middle ()
        (middle.answer (countCall settings)).2 ∧
      OneMoreSent settings middle (middle.answer (countCall settings)).2 := by
  have hunplanned := hfree.planned (countCall settings)
  obtain ⟨count, hresult, -, htable⟩ | ⟨failure, -, hplanned, -⟩ := answer_countCall settings middle
  · refine ⟨((Succeeds.call hresult).retry _).bind (.done _ _), ?_⟩
    rw [OneMoreSent, htable]
    exact ⟨find?_insert_self _ _ _, fun other hother => find?_insert_of_ne _ _ hother⟩
  · cases hplanned.symm.trans hunplanned

end Parts

/-- A sealed object whose file name has a topic and whose marker is not there is delivered once if
    nothing fails: the plain file under headers that tell its name, its database, its collection and
    its topic. Then its marker is there, and it is counted. -/
theorem process_delivers {settings : Settings} {key : String} {world : World} {plain : List UInt8}
    {parcel : Parcel} {topic : Topic} (hfree : world.FaultFree)
    (sealed : Sealed world key plain parcel)
    (htopic : Topic.resolve settings.handling.blockedTopics (plainName (fileName key)) = .ok topic)
    (hmarker : find? world.objects (markerKey settings key) = none) :
    ∃ (after : World) (headers : List (String × String)) (body : Body) (bare filename : String),
      World.run (process settings key) world = (some (.ok .delivered), after) ∧
      ((world.eventsSince after).filter fun event => kindOf event.call = .deliver) =
        [⟨.deliver headers body, none⟩] ∧
      body.bytes = .ok plain ∧
      Named key (fileName key) ∧ Renamed ".enc" "" (fileName key) bare ∧
      Renamed ".txt.gz" ".json.gz" bare filename ∧
      headers.filter (fun header =>
          decide (header.1 ∈ ["filename", "database", "collection", "topic"])) =
        [("filename", filename), ("database", topic.database), ("collection", topic.collection),
          ("topic", topic.name)] ∧
      headers =
        FileHeaders.pairs ⟨filename, topic.database, topic.collection, topic.name⟩ settings.run ∧
      MarkerAdded settings key world after ∧ OneMoreSent settings world after := by
  obtain ⟨checked, calls, hsent, hchecked, hcalls⟩ := alreadySent_succeeds hfree hmarker
  obtain ⟨body, delivered, hdelivered, hbody, hheard⟩ :=
    sealed.deliverOrReject_succeeds htopic hchecked
  obtain ⟨hwrites, hadded⟩ := writeMarker_succeeds settings key hheard
  have hmarked := hheard.faultFree.answer (markerPut settings key)
  obtain ⟨hcounts, hcounted⟩ := countSent_succeeds settings hmarked
  have hobjects : ((delivered.answer (markerPut settings key)).2.answer
      (countCall settings)).2.objects = (delivered.answer (markerPut settings key)).2.objects :=
    World.answer_objects_of_ne nofun
  have htable : (delivered.answer (markerPut settings key)).2.table = delivered.table :=
    World.answer_table_of_ne nofun nofun
  generalize hafter : ((delivered.answer (markerPut settings key)).2.answer
    (countCall settings)).2 = after at hcounts hcounted hobjects
  obtain ⟨bare, hbare, hname⟩ := deliveredName_renamed (fileName key)
  have hheaders : (FileHeaders.ofFile (fileName key) topic).pairs settings.run =
      FileHeaders.pairs ⟨deliveredName (fileName key), topic.database, topic.collection, topic.name⟩
        settings.run := rfl
  have hfile := FileHeaders.filter_pairs (deliveredName (fileName key)) topic.database
    topic.collection topic.name settings.run
  rw [← hheaders] at hfile
  generalize (FileHeaders.ofFile (fileName key) topic).pairs settings.run = headers at *
  refine ⟨after, headers, body, bare, deliveredName (fileName key), ?_, ?_, hbody,
    fileName_named key, hbare, hname, hfile, hheaders, ?_, ?_⟩
  · exact hsent.bind (hdelivered.bind (hwrites.bind (hcounts.bind (.done _ _))))
  · have hsince : world.eventsSince after = (calls ++ [.get key,
        .unwrap parcel.envelope.keyId parcel.envelope.wrappedKey,
        .deliver headers body, markerPut settings key, countCall settings]).map fun call => ⟨call, none⟩ :=
      World.eventsSince_eq (by simp [← hafter, hheard.events, hmarked.planned,
        hheard.faultFree.planned])
    have hnone : (calls.filter fun call => kindOf call = .deliver) = [] := by
      simpa [List.filter_eq_nil_iff] using hcalls
    rw [hsince, List.filter_map, Function.comp_def, List.filter_append, hnone]
    rfl
  · rw [MarkerAdded, hobjects]
    exact hadded
  · rw [OneMoreSent, htable, hheard.table] at hcounted
    exact hcounted

end Item

namespace Sample

open Material (bytesOf)
open Memory

/-- A file of twenty bytes. -/
def plain : List UInt8 := (List.range 20).map UInt8.ofNat

/-- The file's code, not filled up, with blanks and in pieces; metadata with names in several letter
    cases, and with a name of its own. -/
def parcel : Item.Parcel where
  pieces := ["LahZBxP", "", "aU62zH8\r\n", " ", "yBWrbgjqbSC1", "0\n"].map bytesOf
  metadata := [("CipherText", "w"), ("x-origin", ""), ("datakeyencryptionkeyid", "k"),
    ("IV", "BwcHBwcHBwcHBwcHBwcHBw==")]
  dataKey := "0123456789abcdef01234567"
  counter := List.replicate 16 7
  envelope := ⟨"BwcHBwcHBwcHBwcHBwcHBw==", "k", "w"⟩

/-- The run's only object holds the file. -/
def sealedWorld : World :=
  { world with
    objects := [(key, ⟨parcel.pieces.map .ok, parcel.metadata⟩)]
    dataKeys := [⟨"k", "w", "0123456789abcdef01234567"⟩] }

theorem sealedObject : Item.Sealed sealedWorld key plain parcel where
  stored := by simp [sealedWorld, find?]
  distinct := by decide +kernel
  holdsCounter := ⟨"IV", by decide +kernel, by decide +kernel⟩
  holdsKeyId := ⟨"datakeyencryptionkeyid", by decide +kernel, by decide +kernel⟩
  holdsWrappedKey := ⟨"CipherText", by decide +kernel, by decide +kernel⟩
  keyId_ne := by decide
  wrappedKey_ne := by decide
  known := by decide +kernel
  length_dataKey := by decide +kernel
  length_counter := rfl
  bytesOf_counter := by decide +kernel
  encodes := by
    rw [← Aes.Keystream.apply_ofKey (by decide +kernel)]
    exact .inr ⟨rfl, by decide +kernel⟩

end Sample

namespace Item

open Memory

theorem process_delivers_sealedObject :
    Sample.sealedWorld.FaultFree ∧
    Sealed Sample.sealedWorld Sample.key Sample.plain Sample.parcel ∧
    Topic.resolve Sample.settings.handling.blockedTopics (plainName (fileName Sample.key)) =
      .ok ⟨"core", "thing", "db.core.thing"⟩ ∧
    (find? Sample.sealedWorld.objects (markerKey Sample.settings Sample.key)).isNone ∧
    ∃ (after : World) (headers : List (String × String)) (body : Body),
      World.run (process Sample.settings Sample.key) Sample.sealedWorld =
        (some (.ok .delivered), after) ∧
      ((Sample.sealedWorld.eventsSince after).filter fun event => kindOf event.call = .deliver) =
        [⟨.deliver headers body, none⟩] ∧
      body.bytes = .ok Sample.plain ∧
      headers.filter (fun header =>
          decide (header.1 ∈ ["filename", "database", "collection", "topic"])) =
        [("filename", "db.core.thing-000001.json.gz"), ("database", "core"),
          ("collection", "thing"), ("topic", "db.core.thing")] ∧
      MarkerAdded Sample.settings Sample.key Sample.sealedWorld after ∧
      OneMoreSent Sample.settings Sample.sealedWorld after := by
  have hfree : Sample.sealedWorld.FaultFree := fun _ _ h => nomatch h
  have htopic : Topic.resolve Sample.settings.handling.blockedTopics
      (plainName (fileName Sample.key)) = .ok ⟨"core", "thing", "db.core.thing"⟩ := by
    decide +kernel
  have hmarker : (find? Sample.sealedWorld.objects
      (markerKey Sample.settings Sample.key)).isNone := by decide +kernel
  obtain ⟨after, headers, body, bare, filename, hrun, hdeliveries, hbody, -, hbare, hrenamed, hfile,
      -, hadded, hcounted⟩ :=
    process_delivers hfree Sample.sealedObject htopic (Option.isNone_iff_eq_none.1 hmarker)
  have hname : fileName Sample.key = "db.core.thing-000001.txt.gz" ++ ".enc" := by decide +kernel
  obtain rfl := hbare.unique (.inl ⟨_, hname, rfl⟩)
  obtain rfl := hrenamed.unique (.inl ⟨"db.core.thing-000001", rfl, rfl⟩)
  exact ⟨hfree, Sample.sealedObject, htopic, hmarker, after, headers, body, hrun, hdeliveries, hbody,
    hfile, hadded, hcounted⟩

end Item

end Courier
