import Mathlib.Data.List.Dedup
import Mathlib.Data.List.Perm.Subperm
import Courier.Proofs.Run.Delivered

/-!
Sending a collection again. Runs without faults, one after another, count every delivery, and a run
that sends all objects again delivers objects that have been delivered before. So the number of sent
files is that of the objects that have been accepted just if no object is accepted twice; if one is,
a collection may be moved on although an object of it has never been accepted.
-/

namespace Courier

open Memory Program

/-- The run sends objects of the same collection, with or without those that have a marker. -/
structure Settings.Resends (base settings : Settings) : Prop where
  correlationId : settings.run.correlationId = base.run.correlationId
  topicName : settings.run.topicName = base.run.topicName
  storage : settings.storage = base.storage

/-- A whole run over a collection, in whatever order its members go on, in which as many objects are
    rejected as the budget allows at the most. -/
inductive Resending (base : Settings) : World → Settings × List (Option Asked) → World → Prop
  | run {settings : Settings} {start middle last : World} {front back : List (Option Asked)}
    {summary : Summary} {result : Except Failure Summary} (hresends : base.Resends settings)
    (hsends : Path (Stage.Sends settings) (start, .first settings) front
      (middle, .ofRun settings (.ok summary)))
    (hcloses : Path (Stage.Goes settings) (middle, .ofRun settings (.ok summary)) back
      (last, .ended result)) :
    Resending base start (settings, front ++ back) last

/-- The objects that have been accepted in some runs, each as often as it has been. -/
def acceptedIn (runs : List (Settings × List (Option Asked))) : List String :=
  runs.flatMap fun run => acceptedKeys run.2

/-- No run that sends all objects again delivers an object which has been accepted before. -/
def OnceOnly (runs : List (Settings × List (Option Asked))) : Prop :=
  runs.Pairwise fun earlier later => later.1.run.reprocess →
    ∀ key ∈ acceptedKeys later.2, key ∉ acceptedKeys earlier.2

/-- What the collaborators have come to, when so many objects of a collection have been accepted
    without faults. -/
structure Reckoned (base : Settings) (start : World) (accepted : List String) (world : World) :
    Prop where
  faultFree : world.FaultFree
  undisturbed : world.interloper = none
  encrypted : world.encrypted = start.encrypted
  row : ∃ row, find? world.table base.own = some row ∧
    row.exported.getD 0 = (base.todo start).length ∧ row.sent.getD 0 = accepted.length ∧
    (row.status = .sent → row.exported.getD 0 ≤ row.sent.getD 0)
  members : ∀ key ∈ accepted, key ∈ base.todo start
  marked : ∀ key ∈ base.todo start, base.hasMarker world key ↔ key ∈ accepted

namespace Settings.Resends

variable {base settings : Settings}

theorem own (h : base.Resends settings) : settings.own = base.own := by
  rw [Settings.own, h.correlationId, h.topicName, Settings.own]

theorem todo (h : base.Resends settings) (world : World) :
    settings.todo world = base.todo world := by
  rw [Settings.todo, h.storage, Settings.todo]

theorem hasMarker (h : base.Resends settings) (world : World) (key : String) :
    settings.hasMarker world key = base.hasMarker world key := by
  rw [Settings.hasMarker, Item.markerKey, h.storage, Settings.hasMarker, Item.markerKey]

theorem separate (h : base.Resends settings) {world : World}
    (hapart : ((base.todo world).map (Item.markerKey base)).Nodup) : settings.Separate world := by
  refine .inl ?_
  have hmarker : Item.markerKey settings = Item.markerKey base := by
    funext key
    rw [Item.markerKey, h.storage, Item.markerKey]
  rwa [h.todo, hmarker]

end Settings.Resends

section Closing

variable {settings : Settings} {world : World}

/-- What holds at the end of a run: no fault is planned, the store is as it was, and of the row
    nothing but the status has changed, if its counters agree. -/
structure ClosedFrom (settings : Settings) (before after : World) : Prop where
  faultFree : after.FaultFree
  undisturbed : after.interloper = none
  objects : after.objects = before.objects
  row : ∀ row, find? before.table settings.own = some row →
    ∃ row', find? after.table settings.own = some row' ∧ row'.exported = row.exported ∧
      row'.sent = row.sent ∧ (row'.status = row.status ∨ row.exported.getD 0 = row.sent.getD 0)

theorem ClosedFrom.answer {before after : World} {call : Call}
    (h : ClosedFrom settings before after) (hcall : Closing.Asks settings call) :
    ClosedFrom settings before (after.answer call).2 where
  faultFree := h.faultFree.answer call
  undisturbed := World.answer_interloper h.undisturbed
  objects := (hcall.objects_eq after).trans h.objects
  row row hrow := by
    obtain ⟨row', hrow', hexported', hsent', hstatus'⟩ := h.row row hrow
    obtain ⟨last, hlast, hexported, hsent, hstatus⟩ := hcall.exists_row h.undisturbed hrow'
    refine ⟨last, hlast, hexported.trans hexported', hsent.trans hsent', ?_⟩
    rw [hexported', hsent'] at hstatus
    obtain hsame | hdue := hstatus
    · exact hstatus'.imp_left hsame.trans
    · exact .inr hdue

/-- What holds of a run at its closing. -/
def ClosingFrom (settings : Settings) (before world : World) : Stage → Prop
  | .closing _ program => ClosedFrom settings before world ∧ Makes (Closing.Asks settings) program
  | .ended _ => ClosedFrom settings before world
  | _ => False

theorem ClosedFrom.pass {before after : World} (h : ClosedFrom settings before after)
    (nanos : Nat) : ClosedFrom settings before (after.pass nanos) :=
  ⟨h.faultFree, h.undisturbed, h.objects, h.row⟩

/-- The calls at the end of a run are made for no object. -/
theorem ClosingFrom.next {before : World} {state next : World × Stage} {label : Option Asked}
    (h : ClosingFrom settings before state.1 state.2)
    (hstep : Stage.Goes settings state label next) :
    ClosingFrom settings before next.1 next.2 ∧ callOf label = none := by
  cases hstep with
  | @ask world stage stage' nanos key? call hstep =>
    obtain ⟨program, rest, rfl, -⟩ | ⟨key, crew, crew', queue, tally, rfl, -⟩ |
      ⟨run, program, rest, rfl, rfl, hkey, hturn⟩ := hstep.ask_cases
    · exact h.elim
    · exact h.elim
    · obtain rfl : key? = none := hkey
      obtain ⟨hclosed, hmakes⟩ := h
      obtain ⟨hcall, hrest⟩ := hmakes.step_ask hturn
      exact ⟨⟨(hclosed.pass nanos).answer hcall, hrest⟩, rfl⟩
  | @silent world stage stage' nanos hstep =>
    refine ⟨?_, rfl⟩
    generalize hlabel : none = label at hstep
    cases hstep with
    | list | listed | unlisted | work | worked => exact h.elim
    | close hprogram =>
      obtain rfl := Option.map_eq_none_iff.1 hlabel.symm
      exact ⟨h.1.pass nanos, h.2.step_wait hprogram⟩
    | closed => exact h.1.pass nanos

theorem ClosingFrom.path {before : World} {state last : World × Stage}
    {labels : List (Option Asked)} (h : ClosingFrom settings before state.1 state.2)
    (hpath : Path (Stage.Goes settings) state labels last) :
    ClosingFrom settings before last.1 last.2 ∧ labels.filterMap callOf = [] := by
  induction hpath with
  | nil => exact ⟨h, rfl⟩
  | cons hstep _ ih =>
    obtain ⟨hnext, hcall⟩ := h.next hstep
    obtain ⟨hlast, hcalls⟩ := ih hnext
    rw [List.filterMap_cons_none hcall]
    exact ⟨hlast, hcalls⟩

end Closing

section Runs

variable {base settings : Settings} {start world last : World} {accepted : List String}
  {labels : List (Option Asked)}

theorem Reckoned.of_opens (hopens : base.Opens start) (hfree : start.FaultFree) :
    Reckoned base start [] start where
  faultFree := hfree
  undisturbed := hopens.undisturbed
  encrypted := rfl
  row := hopens.counts
  members := nofun
  marked key hkey := by
    rw [hopens.unmarked key hkey]
    exact iff_of_false nofun List.not_mem_nil

/-- What one more run without faults comes to up to its closing. The objects that it accepts are
    delivered once, and none of them has been accepted before unless the run sends all objects
    again. -/
theorem Reckoned.sends {summary : Summary} (h : Reckoned base start accepted world)
    (hopens : base.Opens start) (hresends : base.Resends settings)
    (hpath : Path (Stage.Sends settings) (world, .first settings) labels
      (last, .ofRun settings (.ok summary))) :
    Reckoned base start (accepted ++ acceptedKeys labels) last ∧ (acceptedKeys labels).Nodup ∧
      (settings.run.reprocess = false → ∀ key ∈ acceptedKeys labels, key ∉ accepted) := by
  have hsame := base.todo_perm_of_encrypted h.encrypted
  have htodo : (settings.todo world).Perm (base.todo start) := hresends.todo world ▸ hsame
  have hapart : ((base.todo world).map (Item.markerKey base)).Nodup :=
    (hsame.map _).symm.nodup hopens.distinct
  have hseparate := hresends.separate hapart
  obtain ⟨-, hviable, hcompleted⟩ | ⟨⟨_, hfailed⟩, -⟩ := result_of_sends h.faultFree hseparate hpath
  swap
  · cases hfailed
  have hkeys : (acceptedKeys labels).Perm (settings.deliverable world) := by
    rw [acceptedKeys_eq_keysPast (hpath.mono fun _ _ _ hsends => hsends.2) h.faultFree]
    exact hcompleted.keysPast_perm hviable (Nat.le_refl 1) (by decide)
  have hmember (key : String) (hkey : key ∈ acceptedKeys labels) : key ∈ base.todo start :=
    htodo.subset (List.mem_filter.1 (hkeys.subset hkey)).1
  refine ⟨⟨hcompleted.reflects.faultFree, hcompleted.reflects.undisturbed h.undisturbed,
    hcompleted.encrypted_eq.trans h.encrypted, ?_, ?_, ?_⟩, ?_, ?_⟩
  · obtain ⟨row, hrow, hexported, hsent, hdone⟩ := h.row
    obtain ⟨row', hrow', hstatus', hexported', hsent'⟩ :=
      iterate_oneMore row (settings.deliverable world).length
    refine ⟨row', ?_, ?_, ?_, fun hstatus => ?_⟩
    · rw [← hresends.own, hcompleted.row_eq hviable, hresends.own, hrow, hrow']
    · rw [hexported', hexported]
    · rw [hsent', hsent, List.length_append, hkeys.length_eq]
      rfl
    · have hless := hdone (hstatus'.symm.trans hstatus)
      rw [hexported', hsent']
      omega
  · intro key hkey
    exact (List.mem_append.1 hkey).elim (h.members key) (hmember key)
  · intro key hkey
    rw [← hresends.hasMarker, hcompleted.hasMarker_iff hviable hseparate (htodo.symm.subset hkey),
      hresends.hasMarker, h.marked key hkey, List.mem_append, hkeys.mem_iff]
  · exact hkeys.symm.nodup ((htodo.symm.nodup (hopens.distinct.of_map _)).filter _)
  · intro hoff key hkey haccepted
    have hmarker := (h.marked key (hmember key hkey)).2 haccepted
    rw [← hresends.hasMarker] at hmarker
    exact not_mem_deliverable hoff hmarker (hkeys.subset hkey)

/-- The closing of a run accepts no object. -/
theorem Reckoned.closes {run result : Except Failure Summary}
    (h : Reckoned base start accepted world) (hresends : base.Resends settings)
    (hpath : Path (Stage.Goes settings) (world, .ofRun settings run) labels
      (last, .ended result)) :
    Reckoned base start accepted last ∧ acceptedKeys labels = [] := by
  have hfirst : ClosingFrom settings world world (.ofRun settings run) :=
    ⟨⟨h.faultFree, h.undisturbed, rfl, fun row hrow => ⟨row, hrow, rfl, rfl, .inl rfl⟩⟩,
      Closing.afterRun_makes settings run⟩
  obtain ⟨hclosed, hcalls⟩ := ClosingFrom.path hfirst hpath
  refine ⟨⟨hclosed.faultFree, hclosed.undisturbed,
    (encrypted_of_objects hclosed.objects).trans h.encrypted, ?_, h.members,
    fun key hkey => ?_⟩, ?_⟩
  · exact Settings.Counts.keep h.row (hresends.own ▸ hclosed.row)
  · rw [hasMarker_of_objects base hclosed.objects]
    exact h.marked key hkey
  · rw [acceptedKeys_eq_keysPast hpath h.faultFree, hcalls]
    rfl

theorem Reckoned.run {run : Settings × List (Option Asked)}
    (h : Reckoned base start accepted world) (hopens : base.Opens start)
    (hrun : Resending base world run last) :
    Reckoned base start (accepted ++ acceptedKeys run.2) last ∧ (acceptedKeys run.2).Nodup ∧
      (run.1.run.reprocess = false → ∀ key ∈ acceptedKeys run.2, key ∉ accepted) := by
  cases hrun with
  | @run _ _ _ _ front back _ _ hresends hsends hcloses =>
    obtain ⟨hsent, hnodup, hnew⟩ := h.sends hopens hresends hsends
    obtain ⟨hclosed, hback⟩ := hsent.closes hresends hcloses
    have hkeys : acceptedKeys (front ++ back) = acceptedKeys front :=
      keysAsked_append_of_eq_nil hback
    dsimp only
    rw [hkeys]
    exact ⟨hclosed, hnodup, hnew⟩

/-- What a sequence of runs comes to. -/
theorem Reckoned.path {runs : List (Settings × List (Option Asked))}
    (h : Reckoned base start accepted world) (hopens : base.Opens start)
    (hpath : Path (Resending base) world runs last) :
    Reckoned base start (accepted ++ acceptedIn runs) last ∧
      (∀ run ∈ runs, (acceptedKeys run.2).Nodup) ∧
      (∀ run ∈ runs, run.1.run.reprocess = false → ∀ key ∈ acceptedKeys run.2, key ∉ accepted) ∧
      runs.Pairwise fun earlier later => later.1.run.reprocess = false →
        ∀ key ∈ acceptedKeys later.2, key ∉ acceptedKeys earlier.2 := by
  induction hpath generalizing accepted with
  | nil =>
    rw [acceptedIn, List.flatMap_nil, List.append_nil]
    exact ⟨h, List.forall_mem_nil _, List.forall_mem_nil _, .nil⟩
  | @cons _ _ _ run runs hrun _ ih =>
    obtain ⟨hnext, hnodup, hnew⟩ := h.run hopens hrun
    obtain ⟨hlast, hall, hnewer, hpairs⟩ := ih hnext
    rw [List.append_assoc] at hlast
    refine ⟨hlast, List.forall_mem_cons.2 ⟨hnodup, hall⟩, List.forall_mem_cons.2 ⟨hnew, ?_⟩,
      .cons ?_ hpairs⟩
    · intro later hlater hoff key hkey haccepted
      exact hnewer later hlater hoff key hkey (List.mem_append_left _ haccepted)
    · intro later hlater hoff key hkey haccepted
      exact hnewer later hlater hoff key hkey (List.mem_append_right _ haccepted)

/-- No object has been accepted twice just if no run that sends all objects again has delivered one
    which had been accepted before. -/
theorem nodup_acceptedIn_iff {runs : List (Settings × List (Option Asked))}
    (hopens : base.Opens start) (hfree : start.FaultFree)
    (hpath : Path (Resending base) start runs last) :
    (acceptedIn runs).Nodup ↔ OnceOnly runs := by
  obtain ⟨-, hnodup, -, hpairs⟩ := (Reckoned.of_opens hopens hfree).path hopens hpath
  rw [acceptedIn, List.nodup_flatMap]
  constructor
  · rintro ⟨-, hdisjoint⟩
    refine hdisjoint.imp ?_
    intro earlier later happart _ key hlater hearlier
    exact happart hearlier hlater
  · intro honce
    refine ⟨hnodup, (hpairs.and honce).imp ?_⟩
    rintro earlier later ⟨hoff, hon⟩ key hearlier hlater
    cases hreprocess : later.1.run.reprocess with
    | false => exact hoff hreprocess key hlater hearlier
    | true => exact hon hreprocess key hlater hearlier

end Runs

/-- Where files of a collection have been counted one by one, their number tells whether all of them
    have been just if none has been counted twice. -/
theorem Settings.Counts.of_members {base : Settings} {start world : World} {keys : List String}
    (h : base.Counts start keys.length world) (hmembers : ∀ key ∈ keys, key ∈ base.todo start) :
    ∃ row, find? world.table base.own = some row ∧ row.sent.getD 0 = keys.length ∧
      (row.sent.getD 0 = keys.dedup.length ↔ keys.Nodup) ∧
      (row.status = .sent → (base.todo start).length ≤ keys.length) ∧
      (row.status = .sent → keys.Nodup → ∀ key ∈ base.todo start, key ∈ keys) := by
  obtain ⟨row, hrow, hexported, hsent, hdone⟩ := h
  have henough (hstatus : row.status = .sent) : (base.todo start).length ≤ keys.length := by
    have hless := hdone hstatus
    rw [hexported, hsent] at hless
    exact Int.ofNat_le.1 hless
  refine ⟨row, hrow, hsent, ?_, henough, fun hstatus honce key hkey => ?_⟩
  · rw [hsent, Int.natCast_inj, ← List.dedup_eq_self]
    exact ⟨fun heq => (List.dedup_sublist _).eq_of_length heq.symm, fun heq => by rw [heq]⟩
  · have hsubperm := List.subperm_of_subset honce hmembers
    exact (hsubperm.perm_of_length_le (henough hstatus)).symm.subset hkey

/-- Over any sequence of runs without faults the number of sent files is that of the deliveries that
    have been accepted. It is the number of different objects which have been accepted just if no
    run that sends all objects again has delivered one which had been accepted before; and then a
    collection is not sent before all of its objects have been accepted. -/
theorem sent_eq_distinct_iff {base : Settings} {start after : World} (hopens : base.Opens start)
    (hfree : start.FaultFree) {runs : List (Settings × List (Option Asked))}
    (hruns : Path (Resending base) start runs after) :
    ∃ row, find? after.table base.own = some row ∧
      (∀ key ∈ acceptedIn runs, key ∈ base.todo start) ∧
      row.sent.getD 0 = (acceptedIn runs).length ∧
      (row.sent.getD 0 = (acceptedIn runs).dedup.length ↔ OnceOnly runs) ∧
      (row.status = .sent → (base.todo start).length ≤ (acceptedIn runs).length) ∧
      (row.status = .sent → OnceOnly runs → ∀ key ∈ base.todo start, key ∈ acceptedIn runs) := by
  have hreckoned := ((Reckoned.of_opens hopens hfree).path hopens hruns).1
  rw [List.nil_append] at hreckoned
  have hnodup := nodup_acceptedIn_iff hopens hfree hruns
  obtain ⟨row, hrow, hsent, hdistinct, henough, hall⟩ :=
    Settings.Counts.of_members hreckoned.row hreckoned.members
  exact ⟨row, hrow, hreckoned.members, hsent, hdistinct.trans hnodup, henough,
    fun hstatus honce => hall hstatus (hnodup.2 honce)⟩

namespace Sample

/-- The run sends the objects with a marker as well. -/
def forced : Settings := { lenient with run := { lenient.run with reprocess := true } }

/-- After a run that has delivered the first object and rejected the other one. -/
def pairSent (settings : Settings) (world : World) : World :=
  (World.run (Closing.afterRun settings (.ok ⟨2, 0, 1, 1⟩)) (bothDone settings world)).2

theorem exists_resending {settings : Settings} {world : World}
    (hresends : lenient.Resends settings) (hhandling : settings.handling = lenient.handling)
    (hfree : world.FaultFree) (htodo : settings.todo world = [key, garbage])
    (hdelivered : (World.run (Item.process settings key)
      (world.answer (.list settings.storage.folder)).2).1 = some (.ok .delivered))
    (hrejected : (World.run (Item.process settings garbage) (firstDone settings world)).1 =
      some (.ok (.rejected mismatch)))
    (hclosed : (World.run (Closing.afterRun settings (.ok ⟨2, 0, 1, 1⟩))
      (bothDone settings world)).1 = some (.ok ())) :
    ∃ labels, Resending lenient world (settings, labels) (pairSent settings world) := by
  obtain ⟨front, middle, hfront, hmiddle⟩ :=
    exists_path_pair hhandling hfree htodo hdelivered hrejected
  obtain ⟨back, hback⟩ := Stage.exists_path_of_closing _ hclosed
  exact ⟨_, .run hresends (hfront.append hmiddle) hback⟩

theorem opens_pairWorld : lenient.Opens pairWorld := by
  refine ⟨⟨⟨.exported, some 2, none⟩, rfl, rfl, ?_, rfl⟩, markers_pairWorld, ?_, rfl⟩
  · rw [todo_pairWorld]
    rfl
  · rw [todo_pairWorld]
    decide +kernel

theorem exists_first_run :
    ∃ labels, Resending lenient pairWorld (lenient, labels) (pairSent lenient pairWorld) :=
  exists_resending ⟨rfl, rfl, rfl⟩ rfl faultFree_pairWorld todo_pairWorld (by decide +kernel)
    (by decide +kernel) (by decide +kernel)

theorem exists_second_run (hfree : (pairSent lenient pairWorld).FaultFree) :
    ∃ labels, Resending lenient (pairSent lenient pairWorld) (forced, labels)
      (pairSent forced (pairSent lenient pairWorld)) := by
  have htodo : forced.todo (pairSent lenient pairWorld) = [key, garbage] :=
    (forced.todo_of_sorted (by decide +kernel)).trans (by decide +kernel)
  exact exists_resending ⟨rfl, rfl, rfl⟩ rfl hfree htodo (by decide +kernel)
    (by decide +kernel) (by decide +kernel)

/-- The first object is accepted in both runs, and the collection is sent although the other object
    has never been accepted. -/
theorem exists_sent_unaccepted :
    lenient.Opens pairWorld ∧ pairWorld.FaultFree ∧
    ∃ runs after, Path (Resending lenient) pairWorld runs after ∧
      find? after.table lenient.own = some ⟨.sent, some 2, some 2⟩ ∧
      (acceptedIn runs).dedup.length = 1 ∧
      garbage ∈ lenient.todo pairWorld ∧ garbage ∉ acceptedIn runs := by
  have hstart := Reckoned.of_opens opens_pairWorld faultFree_pairWorld
  obtain ⟨first, hfirst⟩ := exists_first_run
  obtain ⟨second, hsecond⟩ := exists_second_run (hstart.run opens_pairWorld hfirst).1.faultFree
  have hruns := Path.cons hfirst (.cons hsecond (.nil _))
  have hreckoned := (hstart.path opens_pairWorld hruns).1
  rw [List.nil_append] at hreckoned
  have hrow : find? (pairSent forced (pairSent lenient pairWorld)).table lenient.own =
      some ⟨.sent, some 2, some 2⟩ := by
    decide +kernel
  have hmem : garbage ∈ lenient.todo pairWorld := by
    rw [todo_pairWorld]
    exact List.mem_pair.2 (.inr rfl)
  have hunaccepted : garbage ∉ acceptedIn [(lenient, first), (forced, second)] := by
    rw [← hreckoned.marked garbage hmem]
    decide +kernel
  -- there have been two deliveries, and none of them was of the other object
  obtain ⟨row, hfound, -, hsent, -⟩ := hreckoned.row
  cases hrow.symm.trans hfound
  have htwo : (acceptedIn [(lenient, first), (forced, second)]).length = 2 :=
    Int.natCast_inj.1 hsent.symm
  have hkey (other : String) (hother : other ∈ acceptedIn [(lenient, first), (forced, second)]) :
      other = key := by
    have htodo := hreckoned.members other hother
    rw [todo_pairWorld, List.mem_pair] at htodo
    exact htodo.resolve_right fun heq => hunaccepted (heq ▸ hother)
  refine ⟨opens_pairWorld, faultFree_pairWorld, _, _, hruns, hrow, ?_, hmem, hunaccepted⟩
  rw [List.eq_replicate_iff.2 ⟨htwo, hkey⟩]
  decide

end Sample

theorem sent_eq_distinct_iff_pairWorld :
    Sample.lenient.Opens Sample.pairWorld ∧ Sample.pairWorld.FaultFree ∧
    ∃ runs after row, Path (Resending Sample.lenient) Sample.pairWorld runs after ∧
      find? after.table Sample.lenient.own = some row ∧ row.sent.getD 0 = 1 ∧ OnceOnly runs ∧
      (acceptedIn runs).dedup.length = 1 := by
  obtain ⟨labels, hrun⟩ := Sample.exists_first_run
  have hruns := Path.cons hrun (.nil _)
  obtain ⟨row, hrow, -, hsent, hiff, -⟩ :=
    sent_eq_distinct_iff Sample.opens_pairWorld Sample.faultFree_pairWorld hruns
  have hone : find? (Sample.pairSent Sample.lenient Sample.pairWorld).table Sample.lenient.own =
      some ⟨.exported, some 2, some 1⟩ := by
    decide +kernel
  cases hone.symm.trans hrow
  have honce : OnceOnly [(Sample.lenient, labels)] := List.pairwise_singleton _ _
  exact ⟨Sample.opens_pairWorld, Sample.faultFree_pairWorld, _, _, _, hruns, hrow, rfl, honce,
    (Int.natCast_inj.1 (hiff.2 honce)).symm⟩

end Courier
