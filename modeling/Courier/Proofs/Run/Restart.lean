import Courier.Proofs.Run.Ledger

/-!
Runs over one collection, one after another. The books hold in every reachable state, whatever
fails and wherever a run ends. So a collection is not sent before all of its objects have been
accepted; and the count falls behind the markers exactly by the objects whose run ended between
marking and counting them, for ever.
-/

namespace Courier

open Memory Program

/-- What a listing has been told last. -/
def listRule (settings : Settings) : Rule Call.Answer (Option (List String)) where
  allows _ call := call = .list settings.storage.folder
  after
    | _, ⟨.list _, .ok keys⟩ => some keys
    | _, _ => none

/-- A listing ends with what it has been told last. -/
def ListEnds (place : Option (List String)) (result : Except Failure (List String)) : Prop :=
  ∀ keys, result = .ok keys → place = some keys

theorem list_follows (settings : Settings) :
    Follows (listRule settings) ListEnds
      (retry settings.retries.objectStore (Call.list settings.storage.folder).errand).run none := by
  refine Follows.retryIf (fun _ => True) trivial fun _ _ => ?_
  refine Call.follows_errand (.list _) rfl fun answer => ⟨?_, fun _ _ _ => trivial⟩
  rintro keys rfl
  rfl

/-- What holds of the work on the objects: none is worked on twice, all belong to the collection,
    and each is in a phase that the books agree with. -/
structure ShiftSound (base settings : Settings) (start : World) (lost : List String)
    (asked : List (Option Asked)) (world : World)
    (shift : Shift String Call.Answer (Except Failure ItemOutcome) Summary) : Prop where
  nodup : ((shift.crew ++ shift.queue).map Prod.fst).Nodup
  todo : ∀ task ∈ shift.crew ++ shift.queue, task.1 ∈ base.todo start
  crew : ∀ lane ∈ shift.crew, ∃ phase,
    Follows (Item.rule settings lane.1) (Item.Ends settings) lane.2 phase ∧
      Entered base lost asked world lane.1 phase
  queue : ∀ task ∈ shift.queue, task.2 = (Item.process settings task.1).run

/-- What holds of a run at any stage. -/
def StageSound (base settings : Settings) (start : World) (lost : List String)
    (asked : List (Option Asked)) (world : World) : Stage → Prop
  | .listing program => ∃ place, Follows (listRule settings) ListEnds program place ∧
    ∀ keys, place = some keys → (candidates keys).Perm (base.todo start)
  | .working shift => ShiftSound base settings start lost asked world shift
  | .closing _ program => Makes (Closing.Asks settings) program
  | .ended _ => True

/-- What holds in every state of a history: the books, and the run in progress. -/
structure History.Sound (base : Settings) (start : World) (lost : List String)
    (asked : List (Option Asked)) (history : History) : Prop where
  books : Books base start lost asked history.world
  stage : ∀ settings stage, history.current = some (settings, stage) →
    base.Continues settings ∧ StageSound base settings start lost asked history.world stage

section Stages

variable {base settings : Settings} {start world world' : World} {lost : List String}
  {asked : List (Option Asked)}

/-- An object that has not been looked at yet agrees with any books. -/
theorem entered_firstPhase (hcontinues : base.Continues settings) (key : String) :
    Entered base lost asked world key (Item.firstPhase settings) := by
  rw [Item.firstPhase, hcontinues.reprocess]
  trivial

theorem ShiftSound.of_perm {keys : List String} (width : Nat) (tally : Summary)
    (hcontinues : base.Continues settings) (hkeys : keys.Perm (base.todo start))
    (hnodup : (base.todo start).Nodup) :
    ShiftSound base settings start lost asked world (.start width tally (tasks settings keys)) := by
  have htasks (task : String × Program Call.Answer (Except Failure ItemOutcome))
      (htask : task ∈ tasks settings keys) :
      task.1 ∈ base.todo start ∧ task.2 = (Item.process settings task.1).run := by
    obtain ⟨key, hkey, rfl⟩ := List.mem_map.1 htask
    exact ⟨hkeys.mem_iff.1 hkey, rfl⟩
  refine ⟨?_, fun task htask => ?_, fun lane hlane => ?_, fun task htask => ?_⟩
  · rw [Shift.start, List.take_append_drop, keys_tasks]
    exact hkeys.symm.nodup hnodup
  · rw [Shift.start, List.take_append_drop] at htask
    exact (htasks task htask).1
  · have hprocess := (htasks lane (List.mem_of_mem_take hlane)).2
    exact ⟨_, hprocess ▸ Item.process_follows settings lane.1, entered_firstPhase hcontinues _⟩
  · exact (htasks task (List.mem_of_mem_drop htask)).2

/-- An outcome has been added up, and the next object is taken up. -/
theorem ShiftSound.settle {front back queue : Crew String Call.Answer (Except Failure ItemOutcome)}
    {lane : String × Program Call.Answer (Except Failure ItemOutcome)} {tally tally' : Summary}
    (h : ShiftSound base settings start lost asked world ⟨front ++ lane :: back, queue, tally⟩)
    (hcontinues : base.Continues settings) :
    ShiftSound base settings start lost asked world
      ⟨front ++ back ++ queue.take 1, queue.drop 1, tally'⟩ := by
  have hsplit : front ++ back ++ queue.take 1 ++ queue.drop 1 = front ++ (back ++ queue) := by
    rw [List.append_assoc (front ++ back), List.take_append_drop, List.append_assoc]
  have hsublist : (front ++ (back ++ queue)).Sublist (front ++ lane :: back ++ queue) := by
    rw [List.append_assoc, List.cons_append]
    exact (List.sublist_cons_self _ _).append_left _
  refine ⟨?_, fun task htask => ?_, fun other hother => ?_, fun task htask => ?_⟩
  · rw [hsplit]
    exact h.nodup.sublist (hsublist.map Prod.fst)
  · rw [hsplit] at htask
    exact h.todo task (hsublist.subset htask)
  · obtain hbefore | hnew := List.mem_append.1 hother
    · refine h.crew other ?_
      obtain hfront | hback := List.mem_append.1 hbefore
      · exact List.mem_append_left _ hfront
      · exact List.mem_append_right _ (List.mem_cons_of_mem _ hback)
    · have hprocess := h.queue other (List.mem_of_mem_take hnew)
      exact ⟨_, hprocess ▸ Item.process_follows settings other.1, entered_firstPhase hcontinues _⟩
  · exact h.queue task (List.mem_of_mem_drop htask)

/-- A member goes on with the work on its object, and the others stand it. -/
theorem ShiftSound.move {asked' : List (Option Asked)} {key : String}
    {turn : Option (Turn Call.Answer)}
    {crew crew' queue : Crew String Call.Answer (Except Failure ItemOutcome)} {tally : Summary}
    (h : ShiftSound base settings start lost asked world ⟨crew, queue, tally⟩)
    (hmove : crew.Move key turn crew')
    (hself : ∀ program rest, program.Step turn rest → (∃ phase,
      Follows (Item.rule settings key) (Item.Ends settings) program phase ∧
        Entered base lost asked world key phase) →
      ∃ phase, Follows (Item.rule settings key) (Item.Ends settings) rest phase ∧
        Entered base lost asked' world' key phase)
    (hothers : ∀ other ∈ base.todo start, other ≠ key → ∀ phase,
      Entered base lost asked world other phase → Entered base lost asked' world' other phase) :
    ShiftSound base settings start lost asked' world' ⟨crew', queue, tally⟩ := by
  have hmembers : (crew' ++ queue).map Prod.fst = (crew ++ queue).map Prod.fst := by
    rw [List.map_append, hmove.members, ← List.map_append]
  have hnodup : (crew.map Prod.fst).Nodup := by
    have hall := h.nodup
    rw [List.map_append] at hall
    exact (List.nodup_append.1 hall).1
  obtain ⟨program, rest, hmember, hstep, hcrew⟩ := hmove.exists_step_of_nodup hnodup
  refine ⟨hmembers ▸ h.nodup, fun task htask => ?_, fun lane hlane => ?_, h.queue⟩
  · have hkey : task.1 ∈ (crew ++ queue).map Prod.fst :=
      hmembers ▸ List.mem_map.2 ⟨task, htask, rfl⟩
    obtain ⟨other, hother, heq⟩ := List.mem_map.1 hkey
    exact heq ▸ h.todo other hother
  · obtain rfl | ⟨hbefore, hne⟩ := hcrew lane hlane
    · have hbefore := h.crew _ hmember
      dsimp only at hbefore ⊢
      exact hself program rest hstep hbefore
    · obtain ⟨phase, hfollows, hentered⟩ := h.crew lane hbefore
      exact ⟨phase, hfollows,
        hothers lane.1 (h.todo lane (List.mem_append_left _ hbefore)) hne phase hentered⟩

/-- What a listing has been told are the objects of the collection. -/
theorem Settings.Continues.listed (h : base.Continues settings)
    (hencrypted : world.encrypted = start.encrypted) {place : Option (List String)}
    {keys : List String} (hkeys : (listRule settings).after place
      ⟨.list settings.storage.folder, (world.answer (.list settings.storage.folder)).1⟩ =
        some keys) :
    (candidates keys).Perm (base.todo start) := by
  cases hanswer : (world.answer (.list settings.storage.folder)).1 with
  | error failure =>
    rw [hanswer] at hkeys
    cases hkeys
  | ok listed =>
    rw [hanswer] at hkeys
    obtain rfl : listed = keys := Option.some.inj hkeys
    rw [World.answer_list _ _ hanswer, h.storage]
    exact base.todo_perm_of_encrypted hencrypted

/-- A call of a run is booked, and the run goes on as it should. -/
theorem StageSound.ask {key? : Option String} {call : Call} {stage stage' : Stage}
    (hopens : base.Opens start) (hbooks : Books base start lost asked world)
    (hcontinues : base.Continues settings)
    (h : StageSound base settings start lost asked world stage)
    (hstep : stage.Step settings (some ⟨key?, ⟨call, (world.answer call).1⟩⟩) stage') :
    Books base start lost (asked ++ [some ⟨key?, ⟨call, (world.answer call).1⟩⟩])
        (world.answer call).2 ∧
      StageSound base settings start lost
        (asked ++ [some ⟨key?, ⟨call, (world.answer call).1⟩⟩]) (world.answer call).2 stage' := by
  obtain ⟨program, rest, rfl, rfl, rfl, hturn⟩ | ⟨key, crew, crew', queue, tally, rfl, rfl, rfl,
    hmove⟩ | ⟨run, program, rest, rfl, rfl, rfl, hturn⟩ := hstep.ask_cases
  · obtain ⟨place, hfollows, hplace⟩ := h
    obtain ⟨rfl, hrest⟩ := hfollows.step_ask hturn
    refine ⟨?_, _, hrest, fun keys hkeys => hcontinues.listed hbooks.encrypted hkeys⟩
    exact hbooks.anonymous _ (World.answer_interloper hbooks.undisturbed)
      (World.answer_objects_of_ne nofun) (World.answer_table_of_ne nofun nofun)
  · obtain ⟨program, rest, hmember, hturn, -⟩ := hmove.exists_step
    have hkey := h.todo _ (List.mem_append_left _ hmember)
    obtain ⟨phase, hfollows, hentered⟩ := h.crew _ hmember
    dsimp only at hfollows hentered hkey
    obtain ⟨hallowed, -⟩ := hfollows.step_ask hturn
    have hbooked := hbooks.turn hopens hcontinues hkey hallowed hentered
    refine ⟨hbooked.books, h.move hmove ?_ hbooked.others⟩
    rintro program rest hturn ⟨phase, hfollows, hentered⟩
    obtain ⟨hallowed, hrest⟩ := hfollows.step_ask hturn
    exact ⟨_, hrest, (hbooks.turn hopens hcontinues hkey hallowed hentered).self⟩
  · obtain ⟨hcall, hrest⟩ := Makes.step_ask h hturn
    exact ⟨hbooks.closing hcontinues hcall _, hrest⟩

/-- Without a call the books stay as they are. -/
theorem Books.silent (h : Books base start lost asked world)
    (hundisturbed : world'.interloper = none) (hobjects : world'.objects = world.objects)
    (htable : world'.table = world.table) :
    Books base start lost (asked ++ [none]) world' :=
  h.keep hundisturbed hobjects (fun row hrow => ⟨row, htable ▸ hrow, rfl, rfl, .inl rfl⟩) rfl rfl

theorem Entered.silent {key : String} {phase : Item.Phase}
    (h : Entered base lost asked world key phase) (hobjects : world'.objects = world.objects) :
    Entered base lost (asked ++ [none]) world' key phase :=
  h.keep (hasMarker_of_objects base hobjects key) List.not_mem_nil

/-- What happens to the collaborators without a call does not concern a run. -/
theorem StageSound.silent {stage : Stage}
    (h : StageSound base settings start lost asked world stage)
    (hobjects : world'.objects = world.objects) :
    StageSound base settings start lost (asked ++ [none]) world' stage := by
  cases stage with
  | listing program => exact h
  | working shift =>
    refine ⟨h.nodup, h.todo, fun lane hlane => ?_, h.queue⟩
    obtain ⟨phase, hfollows, hentered⟩ := h.crew lane hlane
    exact ⟨phase, hfollows, hentered.silent hobjects⟩
  | closing run program => exact h
  | ended result => trivial

/-- A step without a call leads a run on as it should. -/
theorem StageSound.step {stage stage' : Stage} (hopens : base.Opens start)
    (hcontinues : base.Continues settings)
    (h : StageSound base settings start lost asked world stage)
    (hstep : stage.Step settings none stage') :
    StageSound base settings start lost asked world stage' := by
  obtain ⟨program, rest, rfl, rfl, hturn⟩ | ⟨keys, rfl, rfl⟩ |
    ⟨key, crew, crew', queue, tally, rfl, rfl, hmove⟩ |
    ⟨front, back, queue, key, outcome, tally, tally', rfl, rfl⟩ | ⟨run, rfl⟩ |
    ⟨run, program, rest, rfl, rfl, hturn⟩ | ⟨result, rfl⟩ := hstep.silent_cases
  · obtain ⟨place, hfollows, hplace⟩ := h
    exact ⟨place, hfollows.step_wait hturn, hplace⟩
  · obtain ⟨place, hfollows, hplace⟩ := h
    have hnodup : (base.todo start).Nodup := hopens.distinct.of_map _
    cases hfollows with
    | done hends => exact .of_perm _ _ hcontinues (hplace keys (hends keys rfl)) hnodup
  · refine h.move hmove ?_ fun _ _ _ _ hentered => hentered
    rintro program rest hturn ⟨phase, hfollows, hentered⟩
    exact ⟨phase, hfollows.step_wait hturn, hentered⟩
  · exact h.settle hcontinues
  · exact Closing.afterRun_makes settings run
  · exact Makes.step_wait h hturn
  · trivial

end Stages

namespace History

variable {base : Settings} {start : World} {lost : List String} {asked : List (Option Asked)}
  {history next : History}

/-- Every step of a history keeps the books and the run in progress sound. -/
theorem Sound.step {label : Option Asked} (hopens : base.Opens start)
    (h : Sound base start lost asked history) (hstep : Step base.Continues history label next) :
    Sound base start lost (asked ++ [label]) next := by
  cases hstep with
  | begin world settings hadmits =>
    refine ⟨h.books.silent h.books.undisturbed rfl rfl, ?_⟩
    rintro _ _ ⟨⟩
    exact ⟨hadmits, none, list_follows settings, nofun⟩
  | ask key? call hstage =>
    obtain ⟨hcontinues, hsound⟩ := h.stage _ _ rfl
    obtain ⟨hbooks, hsound'⟩ := hsound.ask hopens h.books hcontinues hstage
    refine ⟨hbooks, ?_⟩
    rintro _ _ ⟨⟩
    exact ⟨hcontinues, hsound'⟩
  | silent hstage =>
    obtain ⟨hcontinues, hsound⟩ := h.stage _ _ rfl
    refine ⟨h.books.silent h.books.undisturbed rfl rfl, ?_⟩
    rintro _ _ ⟨⟩
    exact ⟨hcontinues, (hsound.step hopens hcontinues hstage).silent rfl⟩
  | pass _ nanos =>
    refine ⟨h.books.silent h.books.undisturbed rfl rfl, fun settings stage hcurrent => ?_⟩
    obtain ⟨hcontinues, hsound⟩ := h.stage settings stage hcurrent
    exact ⟨hcontinues, hsound.silent rfl⟩
  | disrupt _ faults =>
    refine ⟨h.books.silent h.books.undisturbed rfl rfl, fun settings stage hcurrent => ?_⟩
    obtain ⟨hcontinues, hsound⟩ := h.stage settings stage hcurrent
    exact ⟨hcontinues, hsound.silent rfl⟩
  | finish world settings result | die world settings stage =>
    exact ⟨h.books.silent h.books.undisturbed rfl rfl, fun _ _ h => nomatch h⟩

/-- Whatever happens, the books stay sound. -/
theorem Sound.path {labels : List (Option Asked)} (hopens : base.Opens start)
    (hpath : Path (Step base.Continues) history labels next)
    (h : Sound base start lost asked history) : Sound base start lost (asked ++ labels) next := by
  induction hpath generalizing asked with
  | nil => exact (List.append_nil asked).symm ▸ h
  | @cons _ _ _ label labels hstep _ ih =>
    rw [List.append_cons]
    exact ih (h.step hopens hstep)

/-- The books of a collection that has been opened, in every state that is reached from there. -/
theorem Sound.of_path {labels : List (Option Asked)} (hopens : base.Opens start)
    (hpath : Path (Step base.Continues) ⟨start, none⟩ labels next) :
    Sound base start [] labels next := by
  have hstart : Sound base start [] [] ⟨start, none⟩ := ⟨hopens.books, fun _ _ h => nomatch h⟩
  exact hstart.path hopens hpath

end History

section Counts

variable {base : Settings} {start world : World} {lost : List String} {asked : List (Option Asked)}

/-- As many files have been sent as there are objects that have been counted. -/
theorem Books.sent_eq_countP (h : Books base start lost asked world) (hopens : base.Opens start)
    {row : Row} (hrow : find? world.table base.own = some row) :
    row.sent.getD 0 = (base.todo start).countP (· ∈ countedKeys asked) := by
  obtain ⟨found, hfound, -, hsent, -⟩ := h.row
  cases hrow.symm.trans hfound
  have hnodup : (base.todo start).Nodup := hopens.distinct.of_map _
  have hperm : (countedKeys asked).Perm ((base.todo start).filter (· ∈ countedKeys asked)) := by
    refine (List.perm_ext_iff_of_nodup h.countedOnce (hnodup.filter _)).2 fun key => ?_
    simp only [List.mem_filter, decide_eq_true_eq]
    exact ⟨fun hkey => ⟨(h.counted key hkey).1, hkey⟩, And.right⟩
  rw [hsent, hperm.length_eq, List.countP_eq_length_filter]

theorem Books.countP_counted_le (h : Books base start lost asked world) :
    (base.todo start).countP (· ∈ countedKeys asked) ≤
      (base.todo start).countP (base.hasMarker world) :=
  List.countP_mono_left fun key _ hcounted => (h.counted key (of_decide_eq_true hcounted)).2

theorem Books.countP_marked_le (h : Books base start lost asked world) :
    (base.todo start).countP (base.hasMarker world) ≤
      (base.todo start).countP (· ∈ acceptedKeys asked) :=
  List.countP_mono_left fun key hkey hmarker => decide_eq_true (h.accepted key hkey hmarker)

/-- A property that implies another one holds as often only if the other one implies it. -/
theorem countP_eq_countP_iff {α : Type} {p q : α → Bool} (h : ∀ x, p x → q x) (xs : List α) :
    xs.countP p = xs.countP q ↔ ∀ x ∈ xs, q x → p x := by
  constructor
  · intro heq x hx hq
    rw [List.countP_eq_length_filter, List.countP_eq_length_filter] at heq
    have hsame := (List.monotone_filter_right xs h).eq_of_length heq
    have hmem : x ∈ xs.filter p := hsame ▸ List.mem_filter.2 ⟨hx, hq⟩
    exact (List.mem_filter.1 hmem).2
  · intro hback
    exact Nat.le_antisymm (List.countP_mono_left fun x _ => h x) (List.countP_mono_left hback)

/-- The count agrees with the markers just if every object with a marker has been counted. -/
theorem Books.sent_eq_iff (h : Books base start lost asked world) (hopens : base.Opens start)
    {row : Row} (hrow : find? world.table base.own = some row) :
    row.sent.getD 0 = (base.todo start).countP (base.hasMarker world) ↔
      ∀ key ∈ base.todo start, key ∈ markedKeys asked → key ∈ countedKeys asked := by
  have hcounted (key : String) (hkey : decide (key ∈ countedKeys asked)) :
      base.hasMarker world key := (h.counted key (of_decide_eq_true hkey)).2
  rw [h.sent_eq_countP hopens hrow, Int.ofNat_inj, countP_eq_countP_iff hcounted]
  refine forall_congr' fun key => forall_congr' fun hkey => ?_
  rw [h.marked key hkey, decide_eq_true_iff]

end Counts

namespace History

variable {base : Settings} {start : World} {history : History} {labels : List (Option Asked)}

/-- In every state that runs of a collection can reach, however they are interrupted: as many files
    count as sent as there are markers at most, there are as many markers as accepted objects at
    most, and once the row is sent every object has been accepted. -/
theorem sent_le_marked_le_accepted (hopens : base.Opens start)
    (hpath : Path (Step base.Continues) ⟨start, none⟩ labels history) :
    ∃ row, find? history.world.table base.own = some row ∧
      row.sent.getD 0 ≤ (base.todo start).countP (base.hasMarker history.world) ∧
      (base.todo start).countP (base.hasMarker history.world) ≤
        (base.todo start).countP (· ∈ acceptedKeys labels) ∧
      (row.status = .sent → ∀ key ∈ base.todo start, key ∈ acceptedKeys labels) := by
  have hbooks := (Sound.of_path hopens hpath).books
  obtain ⟨row, hrow, hexported, hsent, hdone⟩ := hbooks.row
  have hcount := hbooks.sent_eq_countP hopens hrow
  have hmarked := hbooks.countP_counted_le
  have haccepted := hbooks.countP_marked_le
  refine ⟨row, hrow, ?_, haccepted, fun hstatus key hkey => ?_⟩
  · rw [hcount]
    exact Int.ofNat_le.2 hmarked
  · -- as many as there are have been counted, so all of them have been accepted
    have hle := hdone hstatus
    have hall : (base.todo start).countP (· ∈ acceptedKeys labels) = (base.todo start).length := by
      have hmost := List.countP_le_length (p := fun key => decide (key ∈ acceptedKeys labels))
        (l := base.todo start)
      omega
    exact of_decide_eq_true (List.countP_eq_length.1 hall key hkey)

end History

namespace Sample

theorem todo_of_objects {world : World} (h : world.objects = Sample.world.objects) :
    settings.todo world = [key] := by
  rw [Settings.todo, World.keys, h]
  simp only [Sample.world, List.map_cons, List.map_nil, List.mergeSort_singleton]
  decide +kernel

theorem opens {world : World} (hobjects : world.objects = Sample.world.objects)
    (htable : world.table = Sample.world.table) (hinterloper : world.interloper = none) :
    settings.Opens world := by
  have htodo := todo_of_objects hobjects
  refine ⟨⟨⟨.exported, some 1, none⟩, ?_, rfl, ?_, rfl⟩, ?_, ?_, hinterloper⟩
  · rw [htable]
    rfl
  · rw [htodo]
    rfl
  · rw [htodo]
    exact List.nodup_singleton _
  · rw [htodo]
    intro other hother
    obtain rfl := List.mem_singleton.1 hother
    rw [Settings.hasMarker, hobjects]
    decide +kernel

theorem continues : settings.Continues settings := ⟨rfl, rfl, rfl, rfl⟩

/-- The run has listed its object and works on it. -/
theorem exists_path_working (world : World) (hobjects : world.objects = Sample.world.objects)
    (hplanned : world.planned (.list settings.storage.folder) = none) :
    ∃ labels, Path (History.Step settings.Continues) ⟨world, none⟩ labels
      ⟨world.noted (.list settings.storage.folder),
        some (settings, .working ⟨tasks settings [key], [], .start 1⟩)⟩ := by
  have hanswer : world.answer (.list settings.storage.folder) =
      (.ok (world.keys.filter (Text.startsWith settings.storage.folder)),
        world.noted (.list settings.storage.folder)) := by
    rw [World.answer_eq_of_unplanned hplanned, World.perform, World.keys, World.noted_objects,
      ← World.keys]
  obtain ⟨labels, hpath⟩ := History.exists_path_of_list settings.Continues
    (congrArg (fun answered => (some answered.1, answered.2)) hanswer)
  have htodo := todo_of_objects hobjects
  rw [Settings.todo] at htodo
  rw [htodo] at hpath
  exact ⟨_, .cons (.begin world settings continues) hpath⟩

/-- The object has been delivered, marked and counted, and the row has been moved on. -/
theorem exists_path_sent :
    ∃ labels world, Path (History.Step settings.Continues) ⟨Sample.world, none⟩ labels
        ⟨world, none⟩ ∧
      find? world.table settings.own = some ⟨.sent, some 1, some 1⟩ := by
  obtain ⟨front, hfront⟩ := exists_path_working Sample.world rfl rfl
  have hdelivered : ((Item.process settings key).run.run World.answer World.pass
      (Sample.world.noted (.list settings.storage.folder))).1 = some (.ok .delivered) := by
    decide +kernel
  obtain ⟨middle, hmiddle⟩ := History.exists_path_of_lane settings.Continues settings [] [] [] key
    (.start 1) hdelivered
  have hsettled := hfront.append (hmiddle.append
    (.cons (.silent (.work (.settle [] [] [] key _ rfl)))
      (.cons (.silent (.worked (.finish _))) (.nil _))))
  have hclosed : ((Closing.afterRun settings (.ok ⟨1, 0, 1, 0⟩)).run.run World.answer World.pass
      ((Item.process settings key).run.run World.answer World.pass
        (Sample.world.noted (.list settings.storage.folder))).2).1 = some (.ok ()) := by
    decide +kernel
  obtain ⟨back, hback⟩ := History.exists_path_of_closing settings.Continues settings
    (.ok ⟨1, 0, 1, 0⟩) hclosed
  exact ⟨_, _, hsettled.append hback, by decide +kernel⟩

end Sample

namespace History

theorem sent_le_marked_le_accepted_sent :
    Sample.settings.Opens Sample.world ∧
    ∃ labels world row, Path (Step Sample.settings.Continues) ⟨Sample.world, none⟩ labels
        ⟨world, none⟩ ∧
      find? world.table Sample.settings.own = some row ∧ row.status = .sent ∧
      row.sent.getD 0 = 1 ∧
      row.sent.getD 0 ≤
        (Sample.settings.todo Sample.world).countP (Sample.settings.hasMarker world) ∧
      (Sample.settings.todo Sample.world).countP (Sample.settings.hasMarker world) ≤
        (Sample.settings.todo Sample.world).countP (· ∈ acceptedKeys labels) ∧
      ∀ key ∈ Sample.settings.todo Sample.world, key ∈ acceptedKeys labels := by
  have hopens := Sample.opens rfl rfl rfl
  obtain ⟨labels, world, hpath, hrow⟩ := Sample.exists_path_sent
  obtain ⟨row, hfound, hmarked, haccepted, hsent⟩ := sent_le_marked_le_accepted hopens hpath
  cases hrow.symm.trans hfound
  exact ⟨hopens, labels, world, _, hpath, hrow, rfl, rfl, hmarked, haccepted, hsent rfl⟩

variable {base : Settings} {start : World} {history : History} {labels : List (Option Asked)}

/-- The count and the markers agree just if every object that has been marked has been counted. An
    object that has been marked and not been counted when no run is in progress is never counted:
    from then on the count stays behind the markers, whatever runs follow. -/
theorem sent_eq_marked_iff (hopens : base.Opens start)
    (hpath : Path (Step base.Continues) ⟨start, none⟩ labels history) :
    ∃ row, find? history.world.table base.own = some row ∧
      (row.sent.getD 0 = (base.todo start).countP (base.hasMarker history.world) ↔
        ∀ key ∈ base.todo start, key ∈ markedKeys labels → key ∈ countedKeys labels) ∧
      ∀ key ∈ base.todo start, key ∈ markedKeys labels → key ∉ countedKeys labels →
        history.current = none → ∀ labels' later,
          Path (Step base.Continues) history labels' later →
          key ∉ countedKeys (labels ++ labels') ∧
          ∃ row', find? later.world.table base.own = some row' ∧
            row'.sent.getD 0 < (base.todo start).countP (base.hasMarker later.world) := by
  have hsound := Sound.of_path hopens hpath
  obtain ⟨row, hrow, -⟩ := hsound.books.row
  refine ⟨row, hrow, hsound.books.sent_eq_iff hopens hrow, ?_⟩
  intro key hkey hmarked hcounted hidle labels' later hlater
  have hlost : Sound base start [key] labels history := by
    refine ⟨{ hsound.books with lost := ?_ }, fun settings stage hcurrent => ?_⟩
    · intro other hother
      obtain rfl := List.mem_singleton.1 hother
      exact ⟨(hsound.books.marked other hkey).2 hmarked, hcounted⟩
    · cases hidle.symm.trans hcurrent
  have hbooks := (hlost.path hopens hlater).books
  obtain ⟨hmarker, hnever⟩ := hbooks.lost key List.mem_cons_self
  refine ⟨hnever, ?_⟩
  obtain ⟨row', hrow', -⟩ := hbooks.row
  refine ⟨row', hrow', ?_⟩
  have hne := mt (hbooks.sent_eq_iff hopens hrow').1 fun hall =>
    hnever (hall key hkey ((hbooks.marked key hkey).1 hmarker))
  have hle := hbooks.countP_counted_le
  have hcount := hbooks.sent_eq_countP hopens hrow'
  omega

end History

namespace Sample

/-- The object has been delivered and marked, the table has refused to count it, and the run is
    over. -/
theorem exists_path_countingFails :
    ∃ labels world, Path (History.Step settings.Continues) ⟨countingFails, none⟩ labels
        ⟨world, none⟩ ∧
      find? world.table settings.own = some ⟨.exported, some 1, none⟩ ∧
      settings.hasMarker world key := by
  obtain ⟨front, hfront⟩ := exists_path_working countingFails rfl rfl
  have hfailed : ((Item.process settings key).run.run World.answer World.pass
      (countingFails.noted (.list settings.storage.folder))).1 =
      some (.error ⟨.statusTable, .reported "throttled"⟩) := by
    decide +kernel
  obtain ⟨back, hback⟩ := History.exists_path_of_lane settings.Continues settings [] [] [] key
    (.start 1) hfailed
  have hend := hfront.append (hback.append (.cons (.silent (.worked (.stop [] [] [] key _ rfl)))
    (.cons (.die _ _ _) (.nil _))))
  exact ⟨_, _, hend, by decide +kernel, by decide +kernel⟩

/-- The count has fallen behind the markers, although no run is in progress. -/
theorem exists_idle_sent_ne_marked :
    settings.Opens countingFails ∧
    ∃ labels world row, Path (History.Step settings.Continues) ⟨countingFails, none⟩ labels
        ⟨world, none⟩ ∧
      find? world.table settings.own = some row ∧
      row.sent.getD 0 ≠ (settings.todo countingFails).countP (settings.hasMarker world) := by
  have htodo : settings.todo countingFails = [key] := todo_of_objects rfl
  obtain ⟨labels, world, hpath, hrow, hmarker⟩ := exists_path_countingFails
  refine ⟨opens rfl rfl rfl, labels, world, _, hpath, hrow, ?_⟩
  rw [htodo, List.countP_singleton, hmarker]
  decide

end Sample

namespace History

theorem sent_eq_marked_iff_countingFails :
    Sample.settings.Opens Sample.countingFails ∧
    ∃ labels world, Path (Step Sample.settings.Continues) ⟨Sample.countingFails, none⟩ labels
        ⟨world, none⟩ ∧
      Sample.key ∈ Sample.settings.todo Sample.countingFails ∧
      Sample.key ∈ markedKeys labels ∧ Sample.key ∉ countedKeys labels ∧
      ∀ labels' later, Path (Step Sample.settings.Continues) ⟨world, none⟩ labels' later →
        Sample.key ∉ countedKeys (labels ++ labels') ∧
        ∃ row', find? later.world.table Sample.settings.own = some row' ∧
          row'.sent.getD 0 <
            (Sample.settings.todo Sample.countingFails).countP
              (Sample.settings.hasMarker later.world) := by
  have hopens : Sample.settings.Opens Sample.countingFails := Sample.opens rfl rfl rfl
  have htodo : Sample.settings.todo Sample.countingFails = [Sample.key] :=
    Sample.todo_of_objects rfl
  obtain ⟨labels, world, hpath, hrow, hmarker⟩ := Sample.exists_path_countingFails
  obtain ⟨row, hfound, hiff, hnever⟩ := sent_eq_marked_iff hopens hpath
  cases hrow.symm.trans hfound
  have hkey : Sample.key ∈ Sample.settings.todo Sample.countingFails :=
    htodo ▸ List.mem_singleton_self _
  have hmarked := ((Sound.of_path hopens hpath).books.marked _ hkey).1 hmarker
  have hcounted : Sample.key ∉ countedKeys labels := by
    intro hcounted
    have heq := hiff.2 fun other hother _ => by
      obtain rfl := List.mem_singleton.1 (htodo ▸ hother)
      exact hcounted
    rw [htodo, List.countP_singleton, hmarker] at heq
    cases heq
  exact ⟨hopens, labels, world, hpath, hkey, hmarked, hcounted,
    hnever _ hkey hmarked hcounted rfl⟩

end History

end Courier
