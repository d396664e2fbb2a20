import Courier.Proofs.Item.Account
import Courier.Proofs.Program.Trace
import Courier.Proofs.Run.Notice
import Courier.Run.Summary
import Courier.Services.Connected

/-!
Reading page by page. Whatever the pages are and whichever request fails, what is read is made of
the entries of one complete pass, in order; and if it is tried again after a failure, nothing of the
passes that have failed is kept.
-/

namespace Courier

namespace Program

variable {Op Op' : Type} {Answer : Op → Type} {Answer' : Op' → Type} {α β ε : Type}

theorem serve_bind (server : (op : Op) → Program Answer' (Answer op)) (program : Program Answer α)
    (f : α → Program Answer β) :
    serve server (program.bind f) = (serve server program).bind fun value =>
      serve server (f value) := by
  induction program with
  | done value => rfl
  | ask op next ih =>
    refine (congrArg (bind (server op)) (funext ih)).trans ?_
    exact (bind_assoc _ _ _).symm
  | wait nanos next ih => exact congrArg (wait nanos) ih
  | halt => rfl

/-- What is tried again is what the operation has been replaced by. -/
theorem serve_retryFrom (server : (op : Op) → Program Answer' (Answer op))
    (delay : Nat → Option Nat) (again : ε → Bool) (operation : Program Answer (Except ε α))
    (left attempt : Nat) :
    serve server (retryFrom delay again operation left attempt) =
      retryFrom delay again (serve server operation) left attempt := by
  induction left generalizing attempt with
  | zero => rfl
  | succ left ih =>
    rw [retryFrom, retryFrom, serve_bind]
    refine congrArg (bind _) (funext fun result => ?_)
    cases result with
    | ok value => rfl
    | error e =>
      dsimp only
      split
      · cases delay attempt with
        | none => rfl
        | some nanos => exact congrArg (wait nanos) (ih (attempt + 1))
      · rfl

theorem Leads.ask_done_iff {op : Op} {f : Answer op → α} {turns : List (Turn Answer)} {value : α} :
    Leads (.ask op fun answer => .done (f answer)) turns (.done value) ↔
      ∃ answer, turns = [⟨op, answer⟩] ∧ value = f answer := by
  constructor
  · rintro (_ | ⟨answer, hnext⟩)
    obtain ⟨rfl, hdone⟩ := hnext.eq_of_done
    exact ⟨answer, rfl, done.inj hdone⟩
  · rintro ⟨answer, rfl, rfl⟩
    exact .ask answer (.here _)

end Program

namespace Services

open Program

section Pages

variable {Page Place Entry : Type} {next : Page → Option Place} {blank : Place}
  {place : Option Place} {answers : List (Except Refusal Page)} {entries : Page → List Entry}
  {failure : Failure}

/-- Each page but the last names the place of the next one; the last one names none, a blank one, or
    the place where it starts itself. -/
def Linked (next : Page → Option Place) (blank : Place) : Option Place → List Page → Prop
  | _, [] => False
  | place, [page] => next page = none ∨ next page = some blank ∨ next page = place
  | place, page :: pages =>
    (∃ start, next page = some start ∧ start ≠ blank ∧ some start ≠ place) ∧
      Linked next blank (next page) pages

/-- The requests have been answered by pages, up to the last page. -/
def Passage.Whole (passage : Passage next blank) (pages : List Page) : Prop :=
  passage.answers = pages.map .ok ∧ Linked next blank none pages

/-- The request for a page has been refused, and it is the last one. -/
def Passage.Broken (passage : Passage next blank) : Prop :=
  ∃ (pages : List Page) (refusal : Refusal), passage.answers = pages.map .ok ++ [.error refusal]

theorem Paged.whole_or_broken (h : Paged next blank place answers) :
    (∃ pages, answers = pages.map .ok ∧ Linked next blank place pages) ∨
      ∃ (pages : List Page) (refusal : Refusal), answers = pages.map .ok ++ [.error refusal] := by
  induction h with
  | refused place refusal => exact .inr ⟨[], refusal, rfl⟩
  | @last place page hlast => exact .inl ⟨[page], rfl, hlast⟩
  | @more place page start answers hnext hblank hmoves hrest ih =>
    obtain ⟨pages, rfl, hlinked⟩ | ⟨pages, refusal, rfl⟩ := ih
    · cases pages with
      | nil => exact absurd hlinked id
      | cons second pages =>
        refine .inl ⟨page :: second :: pages, rfl, ⟨start, hnext, hblank, hmoves⟩, ?_⟩
        rwa [hnext]
    · exact .inr ⟨page :: pages, refusal, rfl⟩

theorem Linked.paged {pages : List Page} (h : Linked next blank place pages) :
    Paged next blank place (pages.map .ok) := by
  induction pages generalizing place with
  | nil => exact absurd h id
  | cons page pages ih =>
    cases pages with
    | nil => exact .last h
    | cons second pages =>
      obtain ⟨⟨start, hnext, hblank, hmoves⟩, hlinked⟩ := h
      exact .more hnext hblank hmoves (ih (hnext ▸ hlinked))

/-- Pages that are linked are all pages of a reading. -/
theorem Linked.exists_whole {pages : List Page} (h : Linked next blank none pages) :
    ∃ passage : Passage next blank, passage.Whole pages := ⟨⟨_, h.paged⟩, rfl, h⟩

theorem Passage.whole_or_broken (passage : Passage next blank) :
    (∃ pages, passage.Whole pages) ∨ passage.Broken := passage.paged.whole_or_broken

theorem readPages_ok (pages : List Page) (read : List Entry) :
    readPages entries failure (pages.map .ok) read = .ok (read ++ pages.flatMap entries) := by
  induction pages generalizing read with
  | nil =>
    rw [List.flatMap_nil, List.append_nil]
    rfl
  | cons page pages ih => rw [List.map_cons, readPages, ih, List.flatMap_cons, List.append_assoc]

theorem readPages_error (pages : List Page) (refusal : Refusal) (read : List Entry) :
    readPages entries failure (pages.map .ok ++ [.error refusal]) read = .error failure := by
  induction pages generalizing read with
  | nil => rfl
  | cons page pages ih => exact ih _

theorem Passage.Whole.readPages_eq {passage : Passage next blank} {pages : List Page}
    (h : passage.Whole pages) :
    readPages entries failure passage.answers [] = .ok (pages.flatMap entries) := by
  rw [h.1, readPages_ok, List.nil_append]

theorem Passage.Broken.readPages_eq {passage : Passage next blank} (h : passage.Broken) :
    readPages entries failure passage.answers [] = .error failure := by
  obtain ⟨pages, refusal, hanswers⟩ := h
  rw [hanswers, readPages_error]

/-- A procedure that asks for pages once, and reads all of them or none. -/
def ReadsWhole (turn : Passage next blank → Turn Step.Answer) (entries : Page → List Entry)
    (failure : Failure) (procedure : Procedure (List Entry)) : Prop :=
  ∀ turns result, Leads procedure.run turns (.done result) ↔
    ∃ passage, turns = [turn passage] ∧
      ((∃ pages, passage.Whole pages ∧ result = .ok (pages.flatMap entries)) ∨
        passage.Broken ∧ result = .error failure)

/-- One reading of all pages, after readings that have broken off. -/
structure Retried (turn : Passage next blank → Turn Step.Answer) (policy : RetryPolicy)
    (turns : List (Turn Step.Answer)) (failed : List (Passage next blank)) (pages : List Page) :
    Prop where
  length_lt : failed.length < policy.attempts
  broken : ∀ passage ∈ failed, passage.Broken
  whole : ∃ last : Passage next blank, last.Whole pages ∧ turns = failed.map turn ++ [turn last]

variable {turn : Passage next blank → Turn Step.Answer} {procedure : Procedure (List Entry)}
  {policy : RetryPolicy} {turns : List (Turn Step.Answer)}

theorem ReadsWhole.of_readPages
    (h : ∀ turns result, Leads procedure.run turns (.done result) ↔
      ∃ passage, turns = [turn passage] ∧ result = readPages entries failure passage.answers []) :
    ReadsWhole turn entries failure procedure := by
  intro turns result
  rw [h]
  constructor
  · rintro ⟨passage, rfl, rfl⟩
    refine ⟨passage, rfl, ?_⟩
    obtain ⟨pages, hwhole⟩ | hbroken := passage.whole_or_broken
    · exact .inl ⟨pages, hwhole, hwhole.readPages_eq⟩
    · exact .inr ⟨hbroken, hbroken.readPages_eq⟩
  · rintro ⟨passage, rfl, ⟨pages, hwhole, rfl⟩ | ⟨hbroken, rfl⟩⟩
    · exact ⟨passage, rfl, hwhole.readPages_eq.symm⟩
    · exact ⟨passage, rfl, hbroken.readPages_eq.symm⟩

/-- The readings that have failed are those in which a page was refused. -/
theorem ReadsWhole.exists_failed (hreads : ReadsWhole turn entries failure procedure)
    {ways : List (List (Turn Step.Answer))}
    (h : ∀ way ∈ ways, ∃ failure, Leads procedure.run way (.done (.error failure))) :
    ∃ failed : List (Passage next blank), failed.length = ways.length ∧
      (∀ passage ∈ failed, passage.Broken) ∧ ways.flatten = failed.map turn := by
  induction ways with
  | nil => exact ⟨[], rfl, List.forall_mem_nil _, rfl⟩
  | cons way ways ih =>
    obtain ⟨⟨failure, hfailed⟩, hrest⟩ := List.forall_mem_cons.1 h
    obtain ⟨passage, rfl, ⟨-, -, ⟨⟩⟩ | ⟨hbroken, -⟩⟩ := (hreads _ _).1 hfailed
    obtain ⟨failed, hlength, hbrokens, hturns⟩ := ih hrest
    refine ⟨passage :: failed, congrArg Nat.succ hlength,
      List.forall_mem_cons.2 ⟨hbroken, hbrokens⟩, ?_⟩
    rw [List.flatten_cons, hturns]
    rfl

/-- Trying again keeps nothing of the readings that have failed. -/
theorem ReadsWhole.exists_retried (hreads : ReadsWhole turn entries failure procedure)
    {read : List Entry} (h : Leads (retry policy procedure).run turns (.done (.ok read))) :
    ∃ failed pages, Retried turn policy turns failed pages ∧ read = pages.flatMap entries := by
  obtain ⟨ways, last, rest, rfl, hattempts, hresult⟩ := Leads.of_retryFrom h
  obtain rfl := hresult _ rfl
  obtain ⟨failed, hlength, hbroken, hturns⟩ := hreads.exists_failed fun way hway =>
    let ⟨failure, _, hfailed⟩ := hattempts.again way hway
    ⟨failure, hfailed⟩
  obtain ⟨passage, rfl, ⟨pages, hwhole, hread⟩ | ⟨-, ⟨⟩⟩⟩ := (hreads _ _).1 hattempts.last
  refine ⟨failed, pages, ⟨?_, hbroken, passage, hwhole, by rw [hturns]⟩, Except.ok.inj hread⟩
  have hleft := hattempts.length_le
  have hone : 1 ≤ policy.attempts := Nat.le_max_right _ _
  omega

/-- All pages are read after readings that have broken off, if attempts are left. -/
theorem ReadsWhole.leads_retry (hreads : ReadsWhole turn entries failure procedure)
    (hdelays : policy.DelaysDefined) {failed : List (Passage next blank)} {pages : List Page}
    (h : Retried turn policy turns failed pages) :
    Leads (retry policy procedure).run turns (.done (.ok (pages.flatMap entries))) := by
  obtain ⟨hattempts, hbroken, last, hwhole, rfl⟩ := h
  have hlast := (hreads _ _).2 ⟨last, rfl, .inl ⟨pages, hwhole, rfl⟩⟩
  have hfailed : failed.map turn = (failed.map fun passage => [turn passage]).flatten := by
    rw [← List.flatMap_def]
    exact List.map_eq_flatMap
  rw [hfailed]
  refine Leads.retryFrom_ok (fun way hway => ?_) hlast ?_ ?_
  · obtain ⟨passage, hpassage, rfl⟩ := List.mem_map.1 hway
    exact ⟨failure, rfl, (hreads _ _).2 ⟨passage, rfl, .inr ⟨hbroken passage hpassage, rfl⟩⟩⟩
  · rw [List.length_map]
    exact Nat.le_pred_of_lt hattempts
  · intro n hone hn
    apply hdelays n hone
    omega

end Pages

theorem listFolder_readsWhole (bucket folder : String) :
    ReadsWhole (fun passage => ⟨.listPages bucket folder, passage⟩)
      (fun page => page.keys.filterMap id) ⟨.objectStore, .storeCall .list folder⟩
      (listFolder bucket folder) :=
  .of_readPages fun _ _ => Leads.ask_done_iff

theorem allRows_readsWhole (table correlationId : String) :
    ReadsWhole (fun passage => ⟨.queryPages table correlationId, passage⟩)
      (fun page => page.items.map recordOf) ⟨.statusTable, .tableCall .query⟩
      (allRows table correlationId) :=
  .of_readPages fun _ _ => Leads.ask_done_iff

section Connected

variable {settings : Settings} {turns : List (Turn Step.Answer)}

theorem connect_andThen {α β : Type} (first : Errand α) (f : α → Errand β) :
    connect settings (first >>= f) = connect settings first >>= fun value =>
      connect settings (f value) := by
  refine (Program.serve_bind _ first.run _).trans ?_
  refine congrArg (Program.bind _) (funext fun result => ?_)
  cases result <;> rfl

/-- A call is tried again as the procedure is that answers it. -/
theorem connect_retry (policy : RetryPolicy) (call : Call) :
    connect settings (retry policy call.errand) =
      retry policy (ExceptT.mk (answer settings call)) := by
  refine (Program.serve_retryFrom _ _ _ _ _ _).trans ?_
  refine congrArg (fun operation => retryFrom _ _ operation _ _) ?_
  exact Program.bind_done _

theorem connect_sendAll (settings : Settings) :
    connect settings (sendAll settings) =
      retry settings.retries.objectStore
          (listFolder settings.storage.bucket settings.storage.folder) >>= fun keys =>
        connect settings (sendObjects settings (candidates keys)) := by
  refine (connect_andThen _ _).trans ?_
  exact congrArg (fun first => first >>= _) (connect_retry _ (.list settings.storage.folder))

theorem connect_completion (settings : Settings) (tracker : Tracker) :
    connect settings tracker.completion =
      retry tracker.policy (allRows settings.run.statusTable tracker.correlationId) >>=
        fun records => pure (.ofStatuses (records.map StatusRecord.status)) := by
  refine (connect_andThen _ _).trans ?_
  exact congrArg (fun first => first >>= _) (connect_retry _ (.rows tracker.correlationId))

/-- The objects that a run works on are the encrypted ones of one complete listing of its folder.
    Before that listing there are only listings that have broken off. -/
theorem exists_retried_of_sendAll {rest : Program Step.Answer (Except Failure Summary)}
    (h : Leads (connect settings (sendAll settings)).run turns rest) :
    (∃ rest', Leads (retry settings.retries.objectStore
        (listFolder settings.storage.bucket settings.storage.folder)).run turns rest' ∧
      ∀ result, rest = .done result → ∃ failure, result = .error failure) ∨
    ∃ front back failed pages, turns = front ++ back ∧
      Retried (fun passage => ⟨.listPages settings.storage.bucket settings.storage.folder, passage⟩)
        settings.retries.objectStore front failed pages ∧
      Leads (connect settings (sendObjects settings
        ((pages.flatMap fun page => page.keys.filterMap id).filter fun key =>
          decide (".enc".toList <:+ key.toList)))).run back rest := by
  rw [connect_sendAll] at h
  obtain ⟨rest', hrest, hfails⟩ | ⟨front, back, keys, rfl, hfront, hback⟩ := Leads.of_andThen h
  · refine .inl ⟨rest', hrest, fun result hdone => ?_⟩
    obtain ⟨failure, -, hfailure⟩ := hfails result hdone
    exact ⟨failure, hfailure⟩
  · obtain ⟨failed, pages, hretried, rfl⟩ :=
      (listFolder_readsWhole _ _).exists_retried hfront
    rw [candidates_eq] at hback
    exact .inr ⟨front, back, failed, pages, rfl, hretried, hback⟩

/-- The completion of an export is that of the rows of one complete query. -/
theorem exists_retried_of_completion {tracker : Tracker} {completion : Completion}
    (h : Leads (connect settings tracker.completion).run turns (.done (.ok completion))) :
    ∃ failed pages, Retried
        (fun passage => ⟨.queryPages settings.run.statusTable tracker.correlationId, passage⟩)
        tracker.policy turns failed pages ∧
      completion = .ofStatuses ((pages.flatMap fun page => page.items.map recordOf).map
        StatusRecord.status) := by
  rw [connect_completion] at h
  obtain ⟨rest', hrest, hfails⟩ | ⟨front, back, records, rfl, hfront, hback⟩ := Leads.of_andThen h
  · obtain ⟨failure, -, ⟨⟩⟩ := hfails _ rfl
  · obtain ⟨rfl, hdone⟩ := hback.eq_of_done
    obtain ⟨failed, pages, hretried, rfl⟩ := (allRows_readsWhole _ _).exists_retried hfront
    rw [List.append_nil]
    exact ⟨failed, pages, hretried, Except.ok.inj (done.inj hdone)⟩

end Connected

/-- Listings and rows are read whole or not at all, on however many pages they come: each page but
    the last names the next one. A run works on the objects of one complete listing, and the
    completion of an export is that of all rows of one complete query, wherever in its pages they
    are. -/
theorem paged_reads_whole :
    (∀ pages, Linked KeyPage.next "" none pages →
      ∃ passage : Passage KeyPage.next "", passage.Whole pages) ∧
    (∀ pages, Linked ItemPage.next [] none pages →
      ∃ passage : Passage ItemPage.next [], passage.Whole pages) ∧
    (∀ bucket folder, ReadsWhole (fun passage => ⟨.listPages bucket folder, passage⟩)
      (fun page => page.keys.filterMap id) ⟨.objectStore, .storeCall .list folder⟩
      (listFolder bucket folder)) ∧
    (∀ table correlationId,
      ReadsWhole (fun passage => ⟨.queryPages table correlationId, passage⟩)
        (fun page => page.items.map recordOf) ⟨.statusTable, .tableCall .query⟩
        (allRows table correlationId)) ∧
    (∀ settings turns rest, Leads (connect settings (sendAll settings)).run turns rest →
      (∃ rest', Leads (retry settings.retries.objectStore
          (listFolder settings.storage.bucket settings.storage.folder)).run turns rest' ∧
        ∀ result, rest = .done result → ∃ failure, result = .error failure) ∨
      ∃ front back failed pages, turns = front ++ back ∧
        Retried
          (fun passage => ⟨.listPages settings.storage.bucket settings.storage.folder, passage⟩)
          settings.retries.objectStore front failed pages ∧
        Leads (connect settings (sendObjects settings
          ((pages.flatMap fun page => page.keys.filterMap id).filter fun key =>
            decide (".enc".toList <:+ key.toList)))).run back rest) ∧
    ∀ settings tracker completion turns,
      Leads (connect settings (Tracker.completion tracker)).run turns (.done (.ok completion)) →
      ∃ failed pages, Retried
          (fun passage => ⟨.queryPages settings.run.statusTable tracker.correlationId, passage⟩)
          tracker.policy turns failed pages ∧
        ∀ records : List StatusRecord,
          (pages.flatMap fun page => page.items.map recordOf).Perm records →
          completion = .ofStatuses (records.map StatusRecord.status) := by
  refine ⟨fun _ => Linked.exists_whole, fun _ => Linked.exists_whole, listFolder_readsWhole,
    allRows_readsWhole, fun settings turns rest h => ?_,
    fun settings tracker completion turns h => ?_⟩
  · exact exists_retried_of_sendAll h
  · obtain ⟨failed, pages, hretried, hcompletion⟩ := exists_retried_of_completion h
    refine ⟨failed, pages, hretried, fun records hperm => ?_⟩
    rw [hcompletion]
    exact Completion.ofStatuses_perm (hperm.map StatusRecord.status)

end Services

namespace Sample

open Program Services

/-- The first page of a listing, with a key and an entry without one. -/
def firstKeys : KeyPage := ⟨[some "exp/job/a.enc", none], some "there"⟩

def lastKeys : KeyPage := ⟨[some "exp/job/b.enc"], none⟩

/-- A listing in which the last page is refused. -/
def brokenListing : Passage KeyPage.next "" :=
  ⟨[.ok firstKeys, .error .failed], .more rfl (by decide) nofun (.refused _ _)⟩

def wholeListing : Passage KeyPage.next "" :=
  ⟨[.ok firstKeys, .ok lastKeys], .more rfl (by decide) nofun (.last (.inl rfl))⟩

/-- The first page of the rows of the export. -/
def firstPage : ItemPage :=
  ⟨[[(statusAttribute, .text "Sent")]], some [(collectionAttribute, .text "db.core.thing")]⟩

/-- The last page, with a collection that has failed. -/
def lastPage : ItemPage := ⟨[[(statusAttribute, .text "Export_Failed")]], none⟩

/-- A query in which the last page is refused. -/
def brokenQuery : Passage ItemPage.next [] :=
  ⟨[.ok firstPage, .error .failed], .more rfl (by decide) nofun (.refused _ _)⟩

def wholeQuery : Passage ItemPage.next [] :=
  ⟨[.ok firstPage, .ok lastPage], .more rfl (by decide) nofun (.last (.inl rfl))⟩

end Sample

namespace Services

open Program

/-- The keys of both pages are listed. The failed row counts, though it is on the last page and the
    first query has broken off. -/
theorem paged_reads_whole_lastPages :
    Leads (listFolder "bucket" "exp/job").run
      [⟨.listPages "bucket" "exp/job", Sample.wholeListing⟩]
      (.done (.ok ["exp/job/a.enc", "exp/job/b.enc"])) ∧
    Leads (listFolder "bucket" "exp/job").run
      [⟨.listPages "bucket" "exp/job", Sample.brokenListing⟩]
      (.done (.error ⟨.objectStore, .storeCall .list "exp/job"⟩)) ∧
    Leads (connect Sample.settings (Tracker.ofSettings Sample.settings).completion).run
      [⟨.queryPages "table" "id", Sample.brokenQuery⟩, ⟨.queryPages "table" "id", Sample.wholeQuery⟩]
      (.done (.ok .unsuccessful)) ∧
    ∃ failed pages, Retried (fun passage => ⟨.queryPages "table" "id", passage⟩)
        Sample.settings.retries.statusTable
        [⟨.queryPages "table" "id", Sample.brokenQuery⟩,
          ⟨.queryPages "table" "id", Sample.wholeQuery⟩] failed pages ∧
      ∀ records : List StatusRecord,
        (pages.flatMap fun page => page.items.map recordOf).Perm records →
        Completion.unsuccessful = .ofStatuses (records.map StatusRecord.status) := by
  obtain ⟨-, -, hlisting, hrows, -, hcompletion⟩ := paged_reads_whole
  have hdelays : Sample.settings.retries.statusTable.DelaysDefined := by
    intro attempt hone hlast
    obtain rfl : attempt = 1 := Nat.le_antisymm (Nat.le_of_lt_succ hlast) hone
    decide +kernel
  have hretried : Retried (fun passage => ⟨.queryPages "table" "id", passage⟩)
      Sample.settings.retries.statusTable
      [⟨.queryPages "table" "id", Sample.brokenQuery⟩,
        ⟨.queryPages "table" "id", Sample.wholeQuery⟩]
      [Sample.brokenQuery] [Sample.firstPage, Sample.lastPage] :=
    ⟨by decide, List.forall_mem_singleton.2 ⟨[Sample.firstPage], .failed, rfl⟩, Sample.wholeQuery,
      ⟨rfl, ⟨_, rfl, by decide, nofun⟩, .inl rfl⟩, rfl⟩
  have hread := (hrows "table" "id").leads_retry hdelays hretried
  have hverdict : Completion.ofStatuses (([Sample.firstPage, Sample.lastPage].flatMap
      fun page => page.items.map recordOf).map StatusRecord.status) = .unsuccessful := by decide
  have hleads : Leads (connect Sample.settings (Tracker.ofSettings Sample.settings).completion).run
      [⟨.queryPages "table" "id", Sample.brokenQuery⟩,
        ⟨.queryPages "table" "id", Sample.wholeQuery⟩] (.done (.ok .unsuccessful)) := by
    rw [connect_completion, ← hverdict, ← List.append_nil [_, _]]
    change Leads (retry Sample.settings.retries.statusTable (allRows "table" "id") >>= _).run _ _
    exact hread.bind (.here _)
  have hwhole : Sample.wholeListing.Whole [Sample.firstKeys, Sample.lastKeys] :=
    ⟨rfl, ⟨_, rfl, by decide, nofun⟩, .inl rfl⟩
  have hkeys : ["exp/job/a.enc", "exp/job/b.enc"] = [Sample.firstKeys, Sample.lastKeys].flatMap
      fun page => page.keys.filterMap id := by decide
  have hlisted := (hlisting "bucket" "exp/job" _ _).2
    ⟨Sample.wholeListing, rfl, .inl ⟨_, hwhole, congrArg Except.ok hkeys⟩⟩
  have hbroken := (hlisting "bucket" "exp/job" _ _).2
    ⟨Sample.brokenListing, rfl, .inr ⟨⟨[Sample.firstKeys], .failed, rfl⟩, rfl⟩⟩
  exact ⟨hlisted, hbroken, hleads, hcompletion _ _ _ _ hleads⟩

end Services

end Courier
