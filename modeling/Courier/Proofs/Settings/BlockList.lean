import Courier.Launch
import Courier.Proofs.Export.Topic
import Courier.Proofs.Fallible

/-!
The two ways of giving the block list. The variable holds entries, which are trimmed; the option
holds pieces, which are taken as they stand. No topic of a file has a blank, so a piece between
blanks blocks its topic in the variable and nothing in the option.
-/

namespace Courier

open Text ExportName

namespace Text

/-- The blanks by number. -/
def blankNumbers : List Nat :=
  [0x20, 0x85, 0xa0, 0x1680, 0x2028, 0x2029, 0x202f, 0x205f, 0x3000] ++ List.range' 0x09 5 ++
    List.range' 0x2000 11

theorem mem_blankNumbers {c : Char} (h : isBlank c = true) : c.toNat ∈ blankNumbers := by
  simp only [isBlank, Bool.or_eq_true, Bool.and_eq_true, decide_eq_true_eq, beq_iff_eq] at h
  simp only [blankNumbers, List.mem_append, List.mem_cons, List.not_mem_nil, or_false,
    List.mem_range'_1]
  omega

/-- No character of a word is blank. -/
theorem isBlank_of_isWord {c : Char} (h : isWord c = true) : isBlank c = false := by
  have hnone : ∀ n ∈ blankNumbers, inRanges wordRanges n = false := by decide +kernel
  refine Bool.eq_false_iff.2 fun hblank => ?_
  cases h.symm.trans (hnone _ (mem_blankNumbers hblank))

theorem isBlank_of_isWordOrHyphen {c : Char} (h : isWordOrHyphen c = true) : isBlank c = false := by
  obtain h | rfl : isWord c = true ∨ c = '-' := by simpa [isWordOrHyphen] using h
  · exact isBlank_of_isWord h
  · rfl

end Text

namespace Topic

variable {name : String} {topic : Topic}

/-- The topic of a file has no blank. -/
theorem isBlank_of_ofFileName? (h : ofFileName? name = some topic) :
    ∀ c ∈ topic.name.toList, isBlank c = false := by
  obtain ⟨⟨database, collection⟩, hread, rfl⟩ := Option.map_eq_some_iff.1 h
  obtain ⟨division, hdivides, rfl, hshortest⟩ := read?_eq_some_iff.1 hread
  intro c hc
  have hlabel : c ∈ (if startsWith keptLabel name then keptLabel else "").toList →
      isBlank c = false := by
    intro hc
    split at hc
    · have hkept : keptLabel.toList.all (! isBlank ·) = true := by decide
      simpa using List.all_eq_true.1 hkept c hc
    · cases hc
  simp only [String.toList_append, String.toList_ofList, List.mem_append] at hc
  obtain ((hc | hc) | hc) | hc := hc
  · exact hlabel hc
  · exact isBlank_of_isWordOrHyphen (hdivides.1.database.2 c hc)
  · obtain rfl := List.mem_singleton.1 hc
    rfl
  · exact isBlank_of_isWordOrHyphen (hshortest.1.1.2 c hc)

theorem trim_name (h : ofFileName? name = some topic) : trim topic.name = topic.name :=
  trim_eq_self (isBlank_of_ofFileName? h)

theorem name_ne_empty (h : ofFileName? name = some topic) : topic.name ≠ "" := by
  obtain ⟨⟨database, collection⟩, -, rfl⟩ := Option.map_eq_some_iff.1 h
  intro hempty
  have hdot := congrArg (fun s => '.' ∈ s.toList) hempty
  simp at hdot

end Topic

namespace Environment

variable {env : Environment} {name other s : String}

theorem raw?_set_of_ne (h : name ≠ other) (value : ByteArray) :
    (env.set other value).raw? name = env.raw? name := by
  rw [raw?, set, if_neg h, raw?]

/-- The entries of a variable are those of its text, also if that holds nothing. -/
theorem entries_of_raw? (h : env.raw? name = some s) : env.entries name = commaEntries (trim s) := by
  rw [entries, text?, h, Option.map_some]
  by_cases hempty : trim s = ""
  · rw [hempty]
    rfl
  · rw [Option.filter_some, if_pos (by simpa using hempty)]

end Environment

namespace EnvFile

/-- A variable that is set keeps its text. -/
theorem raw?_loadLines {env : Environment} {name s : String} (h : env.raw? name = some s)
    (given : List (String × String)) (lines : List (Option (List Char))) :
    (loadLines env given lines).1.raw? name = some s := by
  induction lines generalizing env given with
  | nil => exact h
  | cons line lines ih =>
    cases line with
    | none => exact h
    | some line =>
      rw [loadLines]
      split
      · exact h
      · exact ih h given
      · next other value _ =>
        refine ih ?_ _
        split
        · exact h
        · next hunset =>
          rw [Environment.raw?_set_of_ne, h]
          rintro rfl
          simp [h] at hunset

end EnvFile

namespace CommandLine

variable {env : Environment} {arguments : List String} {options : Options} {s : String}

/-- A variable that names the file of variables changes nothing else. -/
theorem blockedTopics_of_read (h : read env arguments = .ok options) :
    ∃ given, readFrom ⟨.none, none⟩ arguments = .ok given ∧
      options.blockedTopics = given.blockedTopics := by
  obtain ⟨given, hfrom, h⟩ := bind_eq_ok_iff.1 h
  refine ⟨given, hfrom, ?_⟩
  split at h
  · obtain ⟨path, -, hpath⟩ := bind_eq_ok_iff.1 h
    cases hpath
    rfl
  · cases h
    rfl

/-- The command line gives the option for blocked topics its value, behind an equals sign or in the
    next argument. -/
inductive Blocks (s : String) : List String → Prop
  | joined : Blocks s ["--blocked-topics=" ++ s]
  | apart : Blocks s ["--blocked-topics", s]

/-- An option that waits takes the next argument as its value, or the command line is refused. -/
theorem take_of_waiting {name : Name} {text : String} {progress : Progress}
    (h : Progress.take ⟨options, some (name, none)⟩ text = .ok progress) :
    progress = ⟨options, some (name, some text)⟩ := by
  -- whatever reads as an option or as letters first settles the one that waits, which is refused
  have hsettle : Progress.settle ⟨options, some (name, none)⟩ = .error .valueMissing := rfl
  unfold Progress.take at h
  split at h
  · next rest _ =>
    generalize Progress.splitWord rest = split at h
    dsimp only [Progress.takeWord] at h
    rw [hsettle] at h
    split at h <;> cases h
  · next c rest _ =>
    unfold Progress.takeLetters at h
    rw [hsettle] at h
    split at h <;> cases h
  · cases h
    rfl

theorem take_joined (s : String) : Progress.take ⟨.none, none⟩ ("--blocked-topics=" ++ s) =
    .ok ⟨{ Options.none with blockedTopics := some (commaPieces s) }, none⟩ := by
  have htext : ("--blocked-topics=" ++ s).toList =
      '-' :: '-' :: ("blocked-topics=".toList ++ s.toList) := by simp
  have hsplit : Progress.splitWord ("blocked-topics=".toList ++ s.toList) =
      ("blocked-topics", some s) := by simp [Progress.splitWord]
  simp only [Progress.take, htext, hsplit]
  rfl

/-- The option holds the pieces of its value. -/
theorem blockedTopics_of_blocks (h : Blocks s arguments)
    (hfrom : readFrom ⟨.none, none⟩ arguments = .ok options) :
    options.blockedTopics = some (commaPieces s) := by
  cases h with
  | joined =>
    have hargument : "--blocked-topics=" ++ s ≠ "--" := by
      intro h
      have hlist := congrArg String.toList h
      simp at hlist
    rw [readFrom, if_neg hargument, take_joined] at hfrom
    cases hfrom
    rfl
  | apart =>
    rw [readFrom, if_neg (by decide)] at hfrom
    obtain ⟨waiting, htake, hrest⟩ := bind_eq_ok_iff.1 hfrom
    have hwaiting : Progress.take ⟨.none, none⟩ "--blocked-topics" =
        .ok ⟨.none, some (.blockedTopics, none)⟩ := rfl
    obtain rfl := Except.ok.inj (hwaiting.symm.trans htake)
    rw [readFrom] at hrest
    split at hrest
    · cases hrest
    · obtain ⟨progress, htake, hlast⟩ := bind_eq_ok_iff.1 hrest
      obtain rfl := take_of_waiting htake
      cases hlast
      rfl

end CommandLine

/-- The settings block the entries of the variable. -/
theorem Settings.blockedTopics_of_read {env : Environment} {settings : Settings}
    (h : Settings.read env = .ok settings) :
    settings.handling.blockedTopics = env.entries "BLOCKED_TOPICS" := by
  have hhandling {handling : Handling} (h : Handling.read env = .ok handling) :
      handling.blockedTopics = env.entries "BLOCKED_TOPICS" := by
    obtain ⟨workers, -, h⟩ := bind_eq_ok_iff.1 h
    obtain ⟨skipLimit, -, h⟩ := bind_eq_ok_iff.1 h
    obtain ⟨indicatorOnly, -, h⟩ := bind_eq_ok_iff.1 h
    cases h
    rfl
  obtain ⟨storage, -, h⟩ := bind_eq_ok_iff.1 h
  obtain ⟨run, -, h⟩ := bind_eq_ok_iff.1 h
  obtain ⟨keyService, -, h⟩ := bind_eq_ok_iff.1 h
  obtain ⟨ingestion, -, h⟩ := bind_eq_ok_iff.1 h
  obtain ⟨handling, hread, h⟩ := bind_eq_ok_iff.1 h
  obtain ⟨retries, -, h⟩ := bind_eq_ok_iff.1 h
  cases h
  exact hhandling hread

namespace Launch

variable {machine : Machine} {ready : Ready} {s : String}

/-- A launch that gets ready has read the command line, the file of variables and the settings. -/
theorem of_prepare_eq_ok (h : prepare machine = .ok ready) : ∃ options env settings,
    CommandLine.read machine.environment machine.arguments = .ok options ∧
      readEnvFile machine options = .ok env ∧ Settings.read env = .ok settings ∧
      ready.settings = options.apply settings := by
  obtain ⟨⟨options, env, logging⟩, hlogging, h⟩ := bind_eq_ok_iff.1 h
  obtain ⟨filter, -, h⟩ := bind_eq_ok_iff.1 h
  obtain ⟨settings, hsettings, h⟩ := bind_eq_ok_iff.1 h
  obtain ⟨-, -, h⟩ := bind_eq_ok_iff.1 h
  cases h
  obtain ⟨_, hread, h⟩ := bind_eq_ok_iff.1 hlogging
  obtain ⟨_, hfile, h⟩ := bind_eq_ok_iff.1 h
  obtain ⟨_, -, h⟩ := bind_eq_ok_iff.1 h
  cases h
  exact ⟨options, env, settings, mapError_eq_ok_iff.1 hread, hfile,
    mapError_eq_ok_iff.1 hsettings, rfl⟩

/-- The file of variables does not change a variable that is set. -/
theorem raw?_of_readEnvFile {options : CommandLine.Options} {env : Environment} {name : String}
    (h : readEnvFile machine options = .ok env) (hset : machine.environment.raw? name = some s) :
    env.raw? name = some s := by
  have hloaded {loaded : Environment × Bool}
      (h : (machine.contentOf (envFileOf options)).map (EnvFile.load machine.environment) =
        some loaded) : loaded.1.raw? name = some s := by
    obtain ⟨content, -, rfl⟩ := Option.map_eq_some_iff.1 h
    exact EnvFile.raw?_loadLines hset _ _
  unfold readEnvFile at h
  dsimp only at h
  split at h
  · next hloads =>
    cases h
    exact hloaded hloads
  · cases h
    exact hset
  · next hloads =>
    cases h
    exact hloaded hloads
  · cases h

/-- The variable blocks its entries. -/
theorem blockedTopics_of_variable (h : prepare machine = .ok ready)
    (harguments : machine.arguments = [])
    (hset : machine.environment.raw? "BLOCKED_TOPICS" = some s) :
    ready.settings.handling.blockedTopics = commaEntries (trim s) := by
  obtain ⟨options, env, settings, hread, hfile, hsettings, hready⟩ := of_prepare_eq_ok h
  obtain ⟨given, hfrom, hblocked⟩ := CommandLine.blockedTopics_of_read hread
  rw [harguments] at hfrom
  cases hfrom
  have hentries := Environment.entries_of_raw? (raw?_of_readEnvFile hfile hset)
  rw [hready, ← hentries, ← Settings.blockedTopics_of_read hsettings]
  simp only [CommandLine.Options.apply, hblocked]
  rfl

/-- The option blocks its pieces. -/
theorem blockedTopics_of_option (h : prepare machine = .ok ready)
    (harguments : CommandLine.Blocks s machine.arguments) :
    ready.settings.handling.blockedTopics = commaPieces s := by
  obtain ⟨options, env, settings, hread, -, -, hready⟩ := of_prepare_eq_ok h
  obtain ⟨given, hfrom, hblocked⟩ := CommandLine.blockedTopics_of_read hread
  rw [CommandLine.blockedTopics_of_blocks harguments hfrom] at hblocked
  simp only [hready, CommandLine.Options.apply, hblocked, Option.getD_some]

/-- A file of this name would not be sent. -/
def Ready.Refuses (ready : Ready) (name : String) : Prop :=
  ∃ reason, Topic.resolve ready.settings.handling.blockedTopics name = .error reason

/-- The text is the topic of some file. -/
def IsTopic (text : String) : Prop :=
  ∃ name topic, Topic.ofFileName? name = some topic ∧ topic.name = text

/-- A topic of a file is an entry if it is a piece between blanks. -/
theorem mem_commaEntries_iff {text : String} (h : IsTopic text) :
    text ∈ commaEntries (trim s) ↔ ∃ piece ∈ commaPieces s, trim piece = text := by
  obtain ⟨name, topic, htopic, rfl⟩ := h
  rw [mem_commaEntries_trim, and_iff_right (Topic.name_ne_empty htopic)]

/-- One block list, given by the variable on one machine and by the option on another. The option
    refuses no file that the variable does not refuse. The two refuse the same files just if every
    topic of a file that stands in the list between blanks also stands in it without them. -/
theorem refuses_alike_iff {byVariable byOption : Machine} {fromVariable fromOption : Ready}
    (hvariable : prepare byVariable = .ok fromVariable) (harguments : byVariable.arguments = [])
    (hset : byVariable.environment.raw? "BLOCKED_TOPICS" = some s)
    (hoption : prepare byOption = .ok fromOption)
    (hblocks : CommandLine.Blocks s byOption.arguments) :
    (∀ name, fromOption.Refuses name → fromVariable.Refuses name) ∧
      ((∀ name, fromVariable.Refuses name ↔ fromOption.Refuses name) ↔
        ∀ piece ∈ commaPieces s, IsTopic (trim piece) → trim piece ∈ commaPieces s) := by
  have hentries : ∀ name, fromVariable.Refuses name ↔ ∀ topic, Topic.ofFileName? name = some topic →
      ∃ piece ∈ commaPieces s, trim piece = topic.name := by
    intro name
    rw [Ready.Refuses, Topic.exists_resolve_error_iff,
      blockedTopics_of_variable hvariable harguments hset]
    refine forall₂_congr fun topic htopic => ?_
    exact mem_commaEntries_iff ⟨name, topic, htopic, rfl⟩
  have hpieces : ∀ name, fromOption.Refuses name ↔ ∀ topic, Topic.ofFileName? name = some topic →
      topic.name ∈ commaPieces s := by
    intro name
    rw [Ready.Refuses, Topic.exists_resolve_error_iff, blockedTopics_of_option hoption hblocks]
  have hmore : ∀ name, fromOption.Refuses name → fromVariable.Refuses name := by
    intro name h
    rw [hentries]
    intro topic htopic
    exact ⟨topic.name, (hpieces name).1 h topic htopic, Topic.trim_name htopic⟩
  refine ⟨hmore, fun halike piece hpiece htopic => ?_, fun hbare name => ⟨fun h => ?_, hmore name⟩⟩
  · obtain ⟨name, topic, htopic, hname⟩ := htopic
    rw [← hname]
    refine (hpieces name).1 ((halike name).1 ((hentries name).2 fun other hother => ?_)) topic htopic
    obtain rfl := Option.some.inj (htopic.symm.trans hother)
    exact ⟨piece, hpiece, hname.symm⟩
  · rw [hpieces]
    intro topic htopic
    obtain ⟨piece, hpiece, htrim⟩ := (hentries name).1 h topic htopic
    have hfile : IsTopic (trim piece) := ⟨name, topic, htopic, htrim.symm⟩
    exact htrim ▸ hbare piece hpiece hfile

/-- A launch that gets as far as a block list. -/
theorem exists_ready {topics : List String}
    (h : (prepare machine).toOption.map (·.settings.handling.blockedTopics) = some topics) :
    ∃ ready, prepare machine = .ok ready ∧ ready.settings.handling.blockedTopics = topics := by
  cases hprepare : prepare machine with
  | error obstacle => simp [hprepare, Except.toOption] at h
  | ok ready =>
    rw [hprepare] at h
    exact ⟨ready, rfl, Option.some.inj h⟩

namespace Sample

/-- A machine with the variables that the settings need and these, and no files. -/
def machineWith (more : List (String × String)) (arguments : List String) : Machine where
  arguments
  environment name :=
    let required := [("CORRELATION_ID", "c1"), ("TOPIC_NAME", "db.core.thing"),
      ("EXPORT_DATE", "2020-01-01"), ("S3_BUCKET", "exports"), ("S3_PREFIX_FOLDER", "out/job"),
      ("S3_HTME_ROOT_FOLDER", "out"), ("S3_STATUS_FOLDER", "status"),
      ("DATA_KEY_SERVICE_URL", "http://dks"), ("NIFI_URL", "http://nifi")]
    ((more ++ required).lookup name).map String.toUTF8
  contentOf _ := none
  makeFolder _ := .ok ()

/-- A block list with a blank behind the comma. -/
def spacedList : String :=
  "db.a.b, db.c.d"

def byVariable : Machine :=
  machineWith [("BLOCKED_TOPICS", spacedList)] []

def byOption : Machine :=
  machineWith [] ["--blocked-topics", spacedList]

theorem exists_ready_byVariable : ∃ ready, prepare byVariable = .ok ready ∧
    ready.settings.handling.blockedTopics = ["db.a.b", "db.c.d"] :=
  exists_ready (by decide +kernel)

theorem exists_ready_byOption : ∃ ready, prepare byOption = .ok ready ∧
    ready.settings.handling.blockedTopics = ["db.a.b", " db.c.d"] :=
  exists_ready (by decide +kernel)

theorem ofFileName?_behind_blank :
    Topic.ofFileName? "db.c.d-1.a.b" = some ⟨"c", "d", "db.c.d"⟩ := by
  decide +kernel

end Sample

open Launch.Sample

theorem refuses_alike_iff_spacedList : ∃ fromVariable fromOption,
    prepare byVariable = .ok fromVariable ∧ prepare byOption = .ok fromOption ∧
      (∀ name, fromOption.Refuses name → fromVariable.Refuses name) ∧
      ¬ ∀ name, fromVariable.Refuses name ↔ fromOption.Refuses name := by
  obtain ⟨fromVariable, hvariable, -⟩ := exists_ready_byVariable
  obtain ⟨fromOption, hoption, -⟩ := exists_ready_byOption
  obtain ⟨hmore, halike⟩ := refuses_alike_iff (s := spacedList) hvariable rfl (by decide +kernel)
    hoption .apart
  refine ⟨fromVariable, fromOption, hvariable, hoption, hmore, fun h => ?_⟩
  have htrim : trim " db.c.d" = "db.c.d" := by decide +kernel
  have hbare := halike.1 h " db.c.d" (by decide +kernel)
  rw [htrim] at hbare
  exact absurd (hbare ⟨_, _, ofFileName?_behind_blank, rfl⟩) (by decide +kernel)

/-- The variable keeps the file behind the blank from being sent. The option lets it pass. -/
theorem blank_lets_pass : ∃ fromVariable fromOption,
    prepare byVariable = .ok fromVariable ∧ prepare byOption = .ok fromOption ∧
      fromVariable.Refuses "db.c.d-1.a.b" ∧ ¬ fromOption.Refuses "db.c.d-1.a.b" := by
  obtain ⟨fromVariable, hvariable, hblocked⟩ := exists_ready_byVariable
  obtain ⟨fromOption, hoption, hpassed⟩ := exists_ready_byOption
  refine ⟨fromVariable, fromOption, hvariable, hoption, ?_, ?_⟩
  · rw [Ready.Refuses, Topic.exists_resolve_error_iff, hblocked]
    intro topic htopic
    obtain rfl := Option.some.inj (ofFileName?_behind_blank.symm.trans htopic)
    decide
  · rw [Ready.Refuses, Topic.exists_resolve_error_iff, hpassed]
    intro h
    exact absurd (h _ ofFileName?_behind_blank) (by decide)

end Launch

end Courier
