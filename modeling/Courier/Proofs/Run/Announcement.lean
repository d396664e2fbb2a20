import Courier.Proofs.Memory.FaultFree
import Courier.Proofs.Run.Empty

/-!
The announcement of a collection that has nothing to send. A run without faults moves its row on and
announces it, if no earlier run has moved the row on; if one has, the run announces nothing. So the
announcement is missing for ever where a run has moved the row on and has not announced it.
-/

namespace Courier

open Memory Program

section Announced

variable {base : Settings} {start world after : World} {events more : List Event}

theorem announced_iff (hevents : world.events = events.reverse ++ start.events) :
    Announced base start world ↔ ∃ event ∈ events, Announces base event := by
  rw [Announced, World.eventsSince_eq hevents]

/-- A collection has been announced by the end of a run just if it had been before or the run has
    announced it. -/
theorem announced_iff_or (hevents : world.events = events.reverse ++ start.events)
    (hmore : after.events = more.reverse ++ world.events) :
    Announced base start after ↔ Announced base start world ∨ Announced base world after := by
  have hall : after.events = (events ++ more).reverse ++ start.events := by
    rw [hmore, hevents, List.reverse_append, List.append_assoc]
  simp only [announced_iff hall, announced_iff hevents, announced_iff hmore, List.mem_append,
    or_and_right, exists_or]

theorem not_announced_of_quiet {calls : List Call}
    (hevents : world.events =
      (calls.map fun call => (⟨call, none⟩ : Event)).reverse ++ start.events)
    (hquiet : ∀ call ∈ calls, kindOf call ≠ .deliver) : ¬ Announced base start world := by
  rw [announced_iff hevents]
  rintro ⟨event, hevent, hannounces⟩
  obtain ⟨call, hcall, rfl⟩ := List.mem_map.1 hevent
  exact hquiet call hcall hannounces.kindOf_eq

end Announced

section LastRun

variable {base settings : Settings} {start world middle : World} {missed : Prop} {calls : List Call}

/-- A run finds no objects to send. -/
theorem Vacant.sendAll_succeeds (h : Vacant base start missed world)
    (hrepeats : base.Repeats settings) (htodo : base.todo start = []) (hfree : world.FaultFree) :
    Succeeds (sendAll settings) world (.start 0)
      (world.answer (.list settings.storage.folder)).2 := by
  have hlist : (world.answer (.list settings.storage.folder)).1 =
      .ok (world.keys.filter (Text.startsWith settings.storage.folder)) := hfree.result _
  refine ((Succeeds.call hlist).retry _).bind ?_
  rw [h.candidates_eq hrepeats htodo hlist]
  rfl

/-- The message to the operators is no delivery. -/
theorem publish_succeeds (settings : Settings) (h : world.Heard middle calls)
    (completion : Completion) :
    ∃ after more, Succeeds (Notice.publish settings completion) middle () after ∧
      world.Heard after (calls ++ more) ∧ ∀ call ∈ more, kindOf call ≠ .deliver := by
  have hnothing : world.Heard middle (calls ++ []) := by rwa [List.append_nil]
  unfold Notice.publish
  split
  · exact ⟨middle, [], .done () middle, hnothing, nofun⟩
  · next arn _ =>
    split
    · exact ⟨middle, [], .done () middle, hnothing, nofun⟩
    · have hpublish : (middle.answer (.publish arn
          (Notice.ofCompletion settings.run completion).text)).1 = .ok "" := h.faultFree.result _
      refine ⟨_, [.publish arn (Notice.ofCompletion settings.run completion).text],
        (((Succeeds.call hpublish).retry _).bind (.done () _)).tryCatch _,
        h.answer _ rfl, ?_⟩
      simp [kindOf]

/-- Telling how far the export is takes no delivery. -/
theorem report_succeeds (settings : Settings) (h : world.Heard middle calls) :
    ∃ after more, Succeeds (do
        let completion ← (Tracker.ofSettings settings).completion
        Notice.publish settings completion) middle () after ∧
      world.Heard after (calls ++ more) ∧ ∀ call ∈ more, kindOf call ≠ .deliver := by
  have hrecords : (middle.answer (.rows settings.run.correlationId)).1 =
      .ok (middle.table.records settings.run.correlationId) := h.faultFree.result _
  have hcompletion : Succeeds (Tracker.ofSettings settings).completion middle
      (.ofStatuses ((middle.table.records settings.run.correlationId).map StatusRecord.status))
      (middle.answer (.rows settings.run.correlationId)).2 :=
    ((Succeeds.call hrecords).retry _).bind (.done _ _)
  obtain ⟨after, more, hpublish, hheard, hmore⟩ := publish_succeeds settings
    (h.answer (.rows settings.run.correlationId) rfl) _
  refine ⟨after, .rows settings.run.correlationId :: more, hcompletion.bind hpublish, ?_, ?_⟩
  · rwa [List.append_assoc] at hheard
  · exact List.forall_mem_cons.2 ⟨nofun, hmore⟩

/-- The worker reads its row. -/
theorem current_succeeds (hrepeats : base.Repeats settings) (hfree : world.FaultFree) {row : Row}
    (hrow : find? world.table base.own = some row) :
    Succeeds (Tracker.ofSettings settings).current world (row.record settings.run.topicName)
      (world.answer (.readRow settings.run.correlationId settings.run.topicName)).2 := by
  have hown : (settings.run.correlationId, settings.run.topicName) = base.own := hrepeats.own_eq
  have hread : (world.answer (.readRow settings.run.correlationId settings.run.topicName)).1 =
      .ok (some (row.record settings.run.topicName)) := by
    rw [hfree.result]
    simp only [World.perform, hown, hrow, Option.map_some]
  exact (Succeeds.call hread).bind (.done _ _)

/-- A row that has been received stays so, and there is nothing to announce. -/
theorem advance_received (hrepeats : base.Repeats settings) (hfree : world.FaultFree) {row : Row}
    (hrow : find? world.table base.own = some row) (hreceived : row.status = .received) :
    Succeeds (Tracker.ofSettings settings).advance world .inProgress
      (world.answer (.readRow settings.run.correlationId settings.run.topicName)).2 := by
  have hdue : ¬ Tracker.isDue (row.record settings.run.topicName) := by
    simp [Tracker.isDue, Row.record, hreceived]
  refine Succeeds.retry ((current_succeeds hrepeats hfree hrow).bind ?_) _
  simp only [if_neg hdue]
  exact .done _ _

/-- The call that moves a row on as the worker has read it. -/
def moveOn (settings : Settings) (row : Row) : Call :=
  .transition settings.run.correlationId settings.run.topicName
    (row.record settings.run.topicName) (Tracker.target (row.record settings.run.topicName)).1

/-- A row without files that is due is received, which is to be announced. -/
theorem advance_exported (hrepeats : base.Repeats settings) (hfree : world.FaultFree)
    (hundisturbed : world.interloper = none) {row : Row}
    (hrow : find? world.table base.own = some row) (hstatus : row.status = .exported)
    (hexported : row.exported.getD 0 = 0) (hsent : row.sent.getD 0 = 0) :
    let read := (world.answer (.readRow settings.run.correlationId settings.run.topicName)).2
    Succeeds (Tracker.ofSettings settings).advance world .noFiles
        (read.answer (moveOn settings row)).2 ∧
      find? (read.answer (moveOn settings row)).2.table base.own =
        some { row with status := .received } := by
  intro read
  have hown : (settings.run.correlationId, settings.run.topicName) = base.own := hrepeats.own_eq
  have hread : world.Heard read [.readRow settings.run.correlationId settings.run.topicName] :=
    (World.Heard.refl hfree).answer _ rfl
  have hrow' : find? read.table (settings.run.correlationId, settings.run.topicName) =
      some row := by
    rw [hread.table, hown, hrow]
  have hagrees : row.agrees (row.record settings.run.topicName) := by
    simp [Row.agrees, Row.record]
  have hdue : Tracker.isDue (row.record settings.run.topicName) := by
    simp [Tracker.isDue, Row.record, hstatus, hexported, hsent]
  have htarget : Tracker.target (row.record settings.run.topicName) = (.received, .noFiles) := by
    simp [Tracker.target, Row.record, hexported]
  have happlied : (read.answer (moveOn settings row)).1 = .ok true := by
    rw [hread.faultFree.result]
    simp only [moveOn, World.perform, hrow', World.disturbed, hread.undisturbed hundisturbed,
      hagrees, if_true]
  constructor
  · refine Succeeds.retry ((current_succeeds hrepeats hfree hrow).bind ?_) _
    simp only [hdue, if_true, htarget]
    exact (Succeeds.call happlied).bind (.done CollectionState.noFiles _)
  · obtain ⟨-, found, hfound, -, htable⟩ | ⟨hnot, -⟩ := read.answer_transition
      settings.run.correlationId settings.run.topicName (row.record settings.run.topicName)
      (Tracker.target (row.record settings.run.topicName)).1 (hread.undisturbed hundisturbed)
    · cases hrow'.symm.trans hfound
      rw [moveOn, htable, hown, htarget]
      exact find?_insert_self _ _ _
    · exact absurd happlied hnot

/-- Posting the indicator succeeds. -/
theorem postIndicator_succeeds (h : world.Heard middle calls) {headers : FileHeaders}
    (hheaders : Indicator.headers? settings.run.topicName = some headers) :
    Succeeds (postIndicator settings) middle ()
        (middle.answer (.deliver (headers.pairs settings.run) [.ok Indicator.body])).2 ∧
      world.Heard (middle.answer (.deliver (headers.pairs settings.run) [.ok Indicator.body])).2
        (calls ++ [.deliver (headers.pairs settings.run) [.ok Indicator.body]]) := by
  have haccepted : (middle.answer (.deliver (headers.pairs settings.run)
      [.ok Indicator.body])).1 = .ok () := h.faultFree.result _
  refine ⟨?_, h.answer _ rfl⟩
  unfold postIndicator
  rw [hheaders]
  exact ((Succeeds.call haccepted).retry _).tryCatch _

/-- A run whose objects have been sent succeeds if its end does. -/
theorem send_succeeds {summary : Summary} {after : World}
    (hsent : Succeeds (sendAll settings) world summary middle)
    (hclosed : Succeeds (Closing.complete settings) middle () after) :
    Succeeds (send settings) world summary after := by
  have hclosing := hclosed.tryCatch fun failure => do
    Notice.publish settings .unsuccessful
    throw failure
  exact (run_bind_of_eq hsent).trans (run_bind_of_eq hclosing)

/-- A run that finds the row received delivers nothing. -/
theorem Vacant.send_received (h : Vacant base start missed world)
    (hrepeats : base.Repeats settings) (htodo : base.todo start = []) (hfree : world.FaultFree)
    {row : Row} (hrow : find? world.table base.own = some row) (hstatus : row.status = .received) :
    ∃ after calls, Succeeds (send settings) world (.start 0) after ∧ world.Heard after calls ∧
      ∀ call ∈ calls, kindOf call ≠ .deliver := by
  have hlisted := (World.Heard.refl hfree).answer (.list settings.storage.folder) rfl
  have hrow' := hlisted.table ▸ hrow
  have hread := hlisted.answer
    (.readRow settings.run.correlationId settings.run.topicName) rfl
  obtain ⟨after, more, hreport, hheard, hmore⟩ := report_succeeds settings hread
  refine ⟨after, _, ?_, hheard, ?_⟩
  · refine send_succeeds (h.sendAll_succeeds hrepeats htodo hfree) ?_
    unfold Closing.complete
    simp only [hrepeats.indicatorOnly, Bool.false_eq_true, if_false]
    refine (advance_received hrepeats hlisted.faultFree hrow' hstatus).bind ?_
    simpa only [reduceCtorEq, if_false] using hreport
  · intro call hcall
    obtain hcall | hcall := List.mem_append.1 hcall
    · simp only [List.nil_append, List.cons_append, List.mem_cons, List.not_mem_nil, or_false]
        at hcall
      obtain rfl | rfl := hcall <;> nofun
    · exact hmore call hcall

/-- A run that finds the row due moves it on and announces the collection. -/
theorem Vacant.send_exported (h : Vacant base start missed world)
    (hrepeats : base.Repeats settings) (htodo : base.todo start = []) (hfree : world.FaultFree)
    {headers : FileHeaders} (hheaders : Indicator.headers? base.run.topicName = some headers)
    {row : Row} (hrow : find? world.table base.own = some row) (hstatus : row.status = .exported)
    (hexported : row.exported.getD 0 = 0) (hsent : row.sent.getD 0 = 0) :
    ∃ (after : World) (events : List Event), Succeeds (send settings) world (.start 0) after ∧
      find? after.table base.own = some { row with status := .received } ∧
      after.events = events.reverse ++ world.events ∧ Announced base world after := by
  have hlisted := (World.Heard.refl hfree).answer (.list settings.storage.folder) rfl
  have hrow' := hlisted.table ▸ hrow
  have hread := hlisted.answer
    (.readRow settings.run.correlationId settings.run.topicName) rfl
  obtain ⟨hadvance, hmoved⟩ := advance_exported hrepeats hlisted.faultFree
    (hlisted.undisturbed h.undisturbed) hrow' hstatus hexported hsent
  have hfree' := hread.faultFree.answer (moveOn settings row)
  obtain ⟨hpost, hposted⟩ := postIndicator_succeeds (.refl hfree')
    (hrepeats.topicName.symm ▸ hheaders)
  obtain ⟨after, more, hreport, hheard, -⟩ := report_succeeds settings hposted
  have hevents : after.events = (([.list settings.storage.folder,
      .readRow settings.run.correlationId settings.run.topicName, moveOn settings row,
      .deliver (headers.pairs settings.run) [.ok Indicator.body]] ++ more).map
        fun call => (⟨call, none⟩ : Event)).reverse ++ world.events := by
    simp [hheard.events, hfree.planned, hlisted.faultFree.planned, hread.faultFree.planned]
  refine ⟨after, _, send_succeeds (h.sendAll_succeeds hrepeats htodo hfree) ?_, ?_, hevents, ?_⟩
  · unfold Closing.complete
    simp only [hrepeats.indicatorOnly, Bool.false_eq_true, if_false]
    refine hadvance.bind ?_
    simp only [if_true]
    exact hpost.bind hreport
  · rw [hheard.table, hmoved]
  · have hannounces : Announces base
        ⟨.deliver (headers.pairs settings.run) [.ok Indicator.body], none⟩ :=
      ⟨⟨rfl, _, _, _, rfl, rfl⟩, headers, settings.run, hheaders, rfl⟩
    exact (announced_iff hevents).2 ⟨_, by simp, hannounces⟩

end LastRun

namespace History

variable {base settings : Settings} {start world : World} {labels : List (Option Asked)}

/-- A collection that has been received without an announcement is never announced. -/
theorem not_announced_of_received (hvacant : Vacant base start False world)
    (htodo : base.todo start = []) {row : Row} (hrow : find? world.table base.own = some row)
    (hstatus : row.status = .received) (hnot : ¬ Announced base start world) {later : History}
    (hlater : Path (Step base.Repeats) ⟨world, none⟩ labels later) :
    ¬ Announced base start later.world := by
  obtain ⟨row', hrow', -, hexported, hsent, -⟩ := hvacant.row
  obtain rfl : row = row' := Option.some.inj (hrow.symm.trans hrow')
  obtain ⟨events, hevents, -⟩ := hvacant.events
  rw [announced_iff hevents] at hnot
  -- from here on the announcement has been missed, which every step keeps so
  have hmissed : Vacant base start True world :=
    ⟨hvacant.undisturbed, hvacant.objects,
      ⟨row, hrow, .inr hstatus, hexported, hsent, fun _ => hstatus⟩,
      events, hevents, fun _ event hevent hannounces => hnot ⟨event, hevent, hannounces⟩⟩
  have hsound : SoundEmpty base start True ⟨world, none⟩ := ⟨hmissed, fun _ _ h => nomatch h⟩
  obtain ⟨events', hevents', hnever⟩ := (hsound.path htodo hlater).vacant.events
  rw [announced_iff hevents']
  rintro ⟨event, hevent, hannounces⟩
  exact hnever trivial event hevent hannounces

/-- After runs over a collection with nothing to send that may fail or be broken off anywhere, a
    last run without faults leaves the row received. Then the collection has been announced just if
    it had been before or the last run has found the row as it was exported. If it had not been,
    although the row had been received already, it is never announced, whatever runs follow. -/
theorem received_and_announced_iff (hopens : base.OpensEmpty start)
    (hpath : Path (Step base.Repeats) ⟨start, none⟩ labels ⟨world, none⟩)
    (hrepeats : base.Repeats settings) (hfree : world.FaultFree) :
    ∃ (summary : Summary) (after : World) (row row' : Row),
      World.run (send settings) world = (some (.ok summary), after) ∧
      find? world.table base.own = some row ∧
      (row.status = .exported ∨ row.status = .received) ∧
      find? after.table base.own = some row' ∧ row'.status = .received ∧
      (Announced base start after ↔ row.status = .exported ∨ Announced base start world) ∧
      (row.status = .received → ¬ Announced base start world →
        ∀ labels' later, Path (Step base.Repeats) ⟨world, none⟩ labels' later →
          ¬ Announced base start later.world) := by
  have hvacant : Vacant base start False world := (SoundEmpty.of_path hopens hpath).vacant
  obtain ⟨headers, hheaders⟩ := Option.isSome_iff_exists.1 hopens.headers
  obtain ⟨row, hrow, hstatus, hexported, hsent, -⟩ := hvacant.row
  obtain ⟨events, hevents, -⟩ := hvacant.events
  have hnever (hreceived : row.status = .received) (hnot : ¬ Announced base start world)
      (labels' : List (Option Asked)) (later : History)
      (hlater : Path (Step base.Repeats) ⟨world, none⟩ labels' later) :
      ¬ Announced base start later.world :=
    not_announced_of_received hvacant hopens.todo hrow hreceived hnot hlater
  cases hstatus with
  | inl hstatus =>
    obtain ⟨after, more, hsend, hrow', hmore, hannounced⟩ :=
      hvacant.send_exported hrepeats hopens.todo hfree hheaders hrow hstatus hexported hsent
    refine ⟨_, after, row, _, hsend, hrow, .inl hstatus, hrow', rfl, ?_, hnever⟩
    exact iff_of_true ((announced_iff_or hevents hmore).2 (.inr hannounced)) (.inl hstatus)
  | inr hstatus =>
    obtain ⟨after, calls, hsend, hheard, hcalls⟩ :=
      hvacant.send_received hrepeats hopens.todo hfree hrow hstatus
    have hquiet : ¬ Announced base world after := not_announced_of_quiet hheard.events hcalls
    have hstatus' : row.status ≠ .exported := by simp [hstatus]
    refine ⟨_, after, row, row, hsend, hrow, .inr hstatus, hheard.table ▸ hrow, hstatus, ?_, hnever⟩
    rw [announced_iff_or hevents hheard.events, or_iff_left hquiet, or_iff_right hstatus']

end History

namespace Sample

/-- The run's collection has nothing to send. -/
def emptyWorld : World :=
  { world with
    objects := []
    table := [(("id", "db.core.thing"), ⟨.exported, some 0, none⟩)] }

/-- The status table fails the next two transitions. -/
def movingFails : World :=
  emptyWorld.plan .transition (List.replicate 2 (some ⟨.statusTable, .reported "throttled"⟩))

/-- The ingestion side fails the next delivery. -/
def announcingFails : World :=
  emptyWorld.plan .deliver [some ⟨.delivery, .reported "unavailable"⟩]

theorem opensEmpty {world : World} (hobjects : world.objects = emptyWorld.objects)
    (htable : world.table = emptyWorld.table) (hinterloper : world.interloper = none) :
    settings.OpensEmpty world where
  row := by
    rw [htable]
    exact ⟨⟨.exported, some 0, none⟩, by decide +kernel, rfl, rfl, rfl⟩
  todo := by
    rw [Settings.todo, World.keys, hobjects]
    simp [emptyWorld, candidates]
  headers := by decide +kernel
  undisturbed := hinterloper

theorem repeats : settings.Repeats settings := ⟨rfl, rfl, rfl, rfl⟩

/-- A run of the sample and then a moment at which nothing is planned to fail. -/
theorem exists_path_sendOnce (start : World) (hrun : (World.run (send settings) start).1.isSome) :
    ∃ labels, Path (History.Step settings.Repeats) ⟨start, none⟩ labels
      ⟨(World.run (send settings) start).2.calmed, none⟩ := by
  obtain ⟨result, hresult⟩ := Option.isSome_iff_exists.1 hrun
  obtain ⟨labels, hpath⟩ := History.exists_path_of_send repeats hresult
  exact ⟨_, hpath.append (.cons (.disrupt _ fun _ => []) (.nil _))⟩

end Sample

namespace History

theorem received_and_announced_iff_movingFails :
    Sample.settings.OpensEmpty Sample.movingFails ∧ Sample.settings.Repeats Sample.settings ∧
    ∃ labels world, Path (Step Sample.settings.Repeats) ⟨Sample.movingFails, none⟩ labels
        ⟨world, none⟩ ∧ world.FaultFree ∧
      find? world.table Sample.settings.own = some ⟨.exported, some 0, none⟩ ∧
      ∃ (summary : Summary) (after : World) (row : Row),
        World.run (send Sample.settings) world = (some (.ok summary), after) ∧
        find? after.table Sample.settings.own = some row ∧ row.status = .received ∧
        Announced Sample.settings Sample.movingFails after := by
  have hopens : Sample.settings.OpensEmpty Sample.movingFails := Sample.opensEmpty rfl rfl rfl
  obtain ⟨labels, hpath⟩ := Sample.exists_path_sendOnce Sample.movingFails
    (by decide +kernel)
  have hfree := World.faultFree_calmed (World.run (send Sample.settings) Sample.movingFails).2
  have hexported : find? (World.run (send Sample.settings) Sample.movingFails).2.calmed.table
      Sample.settings.own = some ⟨.exported, some 0, none⟩ := by decide +kernel
  obtain ⟨summary, after, row, row', hrun, hrow, -, hrow', hreceived, hiff, -⟩ :=
    received_and_announced_iff hopens hpath Sample.repeats hfree
  cases hrow.symm.trans hexported
  exact ⟨hopens, Sample.repeats, labels, _, hpath, hfree, hexported, summary, after, row', hrun,
    hrow', hreceived, hiff.2 (.inl rfl)⟩

end History

namespace Sample

/-- The last of two runs has no faults, and leaves the row received; the collection has not been
    announced. -/
theorem exists_received_not_announced :
    settings.OpensEmpty announcingFails ∧
    ∃ labels world, Path (History.Step settings.Repeats) ⟨announcingFails, none⟩ labels
        ⟨world, none⟩ ∧ world.FaultFree ∧
      (World.run (send settings) world).1.all (·.toOption.isSome) ∧
      find? (World.run (send settings) world).2.table settings.own =
        some ⟨.received, some 0, none⟩ ∧
      ¬ Announced settings announcingFails (World.run (send settings) world).2 := by
  obtain ⟨labels, hpath⟩ := exists_path_sendOnce announcingFails (by decide +kernel)
  refine ⟨opensEmpty rfl rfl rfl, labels, _, hpath, World.faultFree_calmed _, by decide +kernel,
    by decide +kernel, ?_⟩
  rintro ⟨event, hevent, hannounces⟩
  have hall : ((announcingFails.eventsSince (World.run (send settings)
      (World.run (send settings) announcingFails).2.calmed).2).all fun event =>
        kindOf event.call != .deliver || event.fault.isSome) = true := by decide +kernel
  have hone := List.all_eq_true.1 hall event hevent
  rw [hannounces.kindOf_eq, hannounces.1.1] at hone
  cases hone

end Sample

end Courier
