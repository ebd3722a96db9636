import AccessSync.Program
import AccessSync.Proofs.Configuration.Loading
import AccessSync.Proofs.Json.Writable
import AccessSync.Proofs.Log.Settings
import AccessSync.Proofs.Sync.Integrity

/-!
# How a run ends

A run that is to sync ends with exit code 0 if its document has been written and with exit code 1
if it has not.  Between reading the configuration and syncing, and again when the document is
written, a fault is not turned into an exit code, and it ends the run itself.  The ways in which
that happens are the constructors of `Escapes`.
-/

namespace AccessSync.Program

/-! ## Parts of a run -/

def file (s : Surroundings) (options : Options) : String :=
  Configuration.fileToRead options.config s.environment

def loaded (s : Surroundings) (options : Options) : Except Fault (List (Key × Value)) :=
  Configuration.load (file s options) (s.read (file s options)) s.environment

def begun (s : Surroundings) : Session :=
  { Session.new with journal := [record .info ("Starting sync " ++ s.syncId)] }

/-- The configuration of a run, with the identifier of the sync. -/
def Prepares (s : Surroundings) (options : Options) (config : List (Key × Value)) : Prop :=
  ∃ plain, loaded s options = .ok plain ∧ withSyncId s.syncId plain = .ok config

/-- The run sets up its log and begins to sync. -/
structure Begins (s : Surroundings) (options : Options) (config : List (Key × Value))
    (loggers : Log.Loggers) : Prop where
  prepares : Prepares s options config
  configured : Log.Loggers.configure s.environment config Log.components [] = .ok loggers
  writable : ∀ file ∈ loggers.files, s.canWrite file = true

/-- The sync of the run returns the document. -/
def Syncs (s : Surroundings) (options : Options) (config : List (Key × Value))
    (document : SyncDocument) : Prop :=
  ∃ loggers t, Begins s options config loggers ∧
    sync s (.mapping config) (begun s) = (.ok document, t)

/-- What is written of a document. -/
def content (s : Surroundings) (document : SyncDocument) : Value :=
  document.toValue [("sync_id", .text s.syncId)]

/-- The sync of the run returns the document, which is written to the path. -/
def Delivers (s : Surroundings) (options : Options) (path : Value) (document : SyncDocument) :
    Prop :=
  ∃ config, Syncs s options config document ∧ path = outputPath options config ∧
    accepts s path = .ok true ∧ Json.Writable (content s document)

/-- The run ends with a fault. -/
inductive Escapes (s : Surroundings) (options : Options) : Prop where
  /-- The content of the file comes to no configuration and to no failure. -/
  | misread (content : String) (found : s.read (file s options) = some content)
      (misread : Configuration.Misread (file s options) content s.environment)
  /-- The extra fields of the log are no mapping that could take up the identifier. -/
  | extraFields (config logging : List (Key × Value)) (fields : Value)
      (loads : loaded s options = .ok config)
      (logged : lookup? "logging" config = some (.mapping logging))
      (given : lookup? "extra_fields" logging = some fields) (noMapping : fields.entries? = none)
  /-- The log cannot be set up. -/
  | log (config overrides : List (Key × Value)) (prepares : Prepares s options config)
      (logged : lookup? "logging" config = some (.mapping overrides))
      (refused : Log.Refused s.environment overrides)
  /-- The file of the log cannot be written. -/
  | logFile (config overrides given : List (Key × Value)) (logFile : String)
      (prepares : Prepares s options config)
      (logged : lookup? "logging" config = some (.mapping overrides))
      (gives : Log.environmentSettings s.environment = .ok given)
      (named : Configuration.setting (Log.withOverrides given overrides) "file" .null =
        .text logFile)
      (nonempty : logFile ≠ "") (unwritable : s.canWrite logFile = false)
  /-- There is a document, and its file cannot be written. -/
  | output (config : List (Key × Value)) (document : SyncDocument)
      (syncs : Syncs s options config document)
      (refused : accepts s (outputPath options config) ≠ .ok true)
  /-- There is a document, and something in it cannot be written. -/
  | content (config : List (Key × Value)) (document : SyncDocument)
      (syncs : Syncs s options config document)
      (unwritable : ¬ Json.Writable (content s document))

/-! ## The identifier of the sync -/

section SyncId

variable {syncId : String} {plain logging : List (Key × Value)}

theorem withSyncId_eq (logged : lookup? "logging" plain = some (.mapping logging)) :
    withSyncId syncId plain =
      (Configuration.setting logging "extra_fields" (.mapping [])).entries?.elim
        (.error .wrongKind) fun extra => .ok (setEntry "logging" (.mapping
          (setEntry "extra_fields" (.mapping (setEntry "sync_id" (.text syncId) extra)) logging))
          plain) := by
  rw [withSyncId, Configuration.setting, logged]
  simp only [Option.getD_some, Log.Format.entriesOf, bind, Except.bind]
  cases Configuration.setting logging "extra_fields" (.mapping []) <;> rfl

theorem exists_withSyncId_error_iff (logged : lookup? "logging" plain = some (.mapping logging)) :
    (∃ m, withSyncId syncId plain = .error m) ↔
      ∃ fields, lookup? "extra_fields" logging = some fields ∧ fields.entries? = none := by
  rw [withSyncId_eq logged, Configuration.setting]
  cases lookup? "extra_fields" logging with
  | none => simp [Value.entries?]
  | some fields => cases noMapping : fields.entries? <;> simp [noMapping]

theorem exists_logging_of_withSyncId {config : List (Key × Value)}
    (logged : lookup? "logging" plain = some (.mapping logging))
    (signed : withSyncId syncId plain = .ok config) :
    ∃ overrides, lookup? "logging" config = some (.mapping overrides) := by
  rw [withSyncId_eq logged] at signed
  cases given : (Configuration.setting logging "extra_fields" (.mapping [])).entries? with
  | none =>
    rw [given] at signed
    cases signed
  | some extra =>
    rw [given] at signed
    cases signed
    exact ⟨_, lookup?_setEntry_self⟩

end SyncId

theorem Prepares.exists_logging {s : Surroundings} {options : Options}
    {config : List (Key × Value)} (prepares : Prepares s options config) :
    ∃ overrides, lookup? "logging" config = some (.mapping overrides) := by
  obtain ⟨plain, loads, signed⟩ := prepares
  obtain ⟨logging, logged⟩ := Configuration.exists_logging_of_load loads
  exact exists_logging_of_withSyncId logged signed

/-! ## The course of a run -/

/-- What a run with these options may come to, by how far it gets. -/
inductive Course (s : Surroundings) (options : Options) : Except Fault Conclusion → Prop where
  | unloaded (fault : Fault) (stops : loaded s options = .error fault) :
      Course s options (refuse fault)
  | unsigned (plain : List (Key × Value)) (misuse : Misuse) (loads : loaded s options = .ok plain)
      (stops : withSyncId s.syncId plain = .error misuse) :
      Course s options (.error (.defect (.misuse misuse)))
  | unlogged (config : List (Key × Value)) (misuse : Misuse) (prepares : Prepares s options config)
      (stops : Log.Loggers.configure s.environment config Log.components [] = .error misuse) :
      Course s options (.error (.defect (.misuse misuse)))
  | unopened (config : List (Key × Value)) (loggers : Log.Loggers) (file : String)
      (prepares : Prepares s options config)
      (configured : Log.Loggers.configure s.environment config Log.components [] = .ok loggers)
      (member : file ∈ loggers.files) (unwritable : s.canWrite file = false) :
      Course s options (.error (.defect (.unwritable file)))
  | unsynced (config : List (Key × Value)) (loggers : Log.Loggers) (stop : SyncStop) (t : Session)
      (begins : Begins s options config loggers)
      (stops : sync s (.mapping config) (begun s) = (.error stop, t)) (c : Conclusion)
      (exit : c.exit = 1) (document : c.document = none) : Course s options (.ok c)
  | unwritten (config : List (Key × Value)) (document : SyncDocument) (fault : Fault)
      (syncs : Syncs s options config document)
      (stops : write s (outputPath options config) document = .error fault) :
      Course s options (.error fault)
  | written (config : List (Key × Value)) (document : SyncDocument) (written : String × Value)
      (syncs : Syncs s options config document)
      (writes : write s (outputPath options config) document = .ok written) (c : Conclusion)
      (exit : c.exit = 0) (delivered : c.document = some written) : Course s options (.ok c)

section Course

variable {s : Surroundings} {options : Options} {plain config : List (Key × Value)}
  {loggers : Log.Loggers}

theorem mapError_ok {ε δ α : Type} (f : ε → δ) (a : α) :
    (Except.ok a).mapError f = .ok a := rfl

theorem mapError_error {ε δ α : Type} (f : ε → δ) (e : ε) :
    (Except.error e : Except ε α).mapError f = .error (f e) := rfl

theorem runWith_of_unsigned {misuse : Misuse}
    (stops : withSyncId s.syncId plain = .error misuse) :
    runWith s options plain = .error (.defect (.misuse misuse)) := by
  simp only [runWith, stops, mapError_error, bind, Except.bind]

theorem runWith_of_unlogged {misuse : Misuse} (signed : withSyncId s.syncId plain = .ok config)
    (stops : Log.Loggers.configure s.environment config Log.components [] = .error misuse) :
    runWith s options plain = .error (.defect (.misuse misuse)) := by
  simp only [runWith, signed, stops, mapError_ok, mapError_error, bind, Except.bind]

section Configured

variable (signed : withSyncId s.syncId plain = .ok config)
  (configured : Log.Loggers.configure s.environment config Log.components [] = .ok loggers)

include signed configured

theorem runWith_of_unopened {file : String}
    (found : loggers.files.find? (!s.canWrite ·) = some file) :
    runWith s options plain = .error (.defect (.unwritable file)) := by
  simp only [runWith, signed, configured, mapError_ok, bind, Except.bind, found]

variable (opened : loggers.files.find? (!s.canWrite ·) = none)

include opened

theorem runWith_of_unsynced {stop : SyncStop} {t : Session}
    (stops : sync s (.mapping config) (begun s) = (.error stop, t)) :
    ∃ c, runWith s options plain = .ok c ∧ c.exit = 1 ∧ c.document = none := by
  simp only [begun] at stops
  simp only [runWith, signed, configured, mapError_ok, bind, Except.bind, opened, stops]
  exact ⟨_, rfl, rfl, rfl⟩

theorem runWith_of_unwritten {document : SyncDocument} {t : Session} {fault : Fault}
    (syncs : sync s (.mapping config) (begun s) = (.ok document, t))
    (stops : write s (outputPath options config) document = .error fault) :
    runWith s options plain = .error fault := by
  simp only [begun] at syncs
  simp only [runWith, signed, configured, mapError_ok, bind, Except.bind, opened, syncs, stops]

theorem runWith_of_written {document : SyncDocument} {t : Session} {written : String × Value}
    (syncs : sync s (.mapping config) (begun s) = (.ok document, t))
    (writes : write s (outputPath options config) document = .ok written) :
    ∃ c, runWith s options plain = .ok c ∧ c.exit = 0 ∧ c.document = some written := by
  simp only [begun] at syncs
  simp only [runWith, signed, configured, mapError_ok, bind, Except.bind, opened, syncs,
    writes]
  exact ⟨_, rfl, rfl, rfl⟩

end Configured

theorem run_of_unloaded {fault : Fault} (parsed : CommandLine.parse s.arguments = .sync options)
    (stops : loaded s options = .error fault) : run s = refuse fault := by
  simp only [loaded, file] at stops
  simp only [run, parsed, stops]

theorem run_of_loaded (parsed : CommandLine.parse s.arguments = .sync options)
    (loads : loaded s options = .ok plain) : run s = runWith s options plain := by
  simp only [loaded, file] at loads
  simp only [run, parsed, loads]

theorem find?_eq_none_iff :
    loggers.files.find? (!s.canWrite ·) = none ↔
      ∀ file ∈ loggers.files, s.canWrite file = true := by
  simp [List.find?_eq_none]

/-- Every run that is to sync takes one of the courses. -/
theorem course_run (parsed : CommandLine.parse s.arguments = .sync options) :
    Course s options (run s) := by
  -- The steps of the run in their order, each of which may be the last.
  cases loads : loaded s options with
  | error fault =>
    rw [run_of_unloaded parsed loads]
    exact .unloaded fault loads
  | ok plain =>
    rw [run_of_loaded parsed loads]
    cases signed : withSyncId s.syncId plain with
    | error misuse =>
      rw [runWith_of_unsigned signed]
      exact .unsigned plain misuse loads signed
    | ok config =>
      have prepares : Prepares s options config := ⟨plain, loads, signed⟩
      cases configured : Log.Loggers.configure s.environment config Log.components [] with
      | error misuse =>
        rw [runWith_of_unlogged signed configured]
        exact .unlogged config misuse prepares configured
      | ok loggers =>
        cases opened : loggers.files.find? (!s.canWrite ·) with
        | some file =>
          rw [runWith_of_unopened signed configured opened]
          refine .unopened config loggers file prepares configured
            (List.mem_of_find?_eq_some opened) ?_
          simpa using List.find?_some opened
        | none =>
          have begins : Begins s options config loggers :=
            ⟨prepares, configured, find?_eq_none_iff.mp opened⟩
          match synced : sync s (.mapping config) (begun s) with
          | (.error stop, t) =>
            obtain ⟨c, ends, exit, document⟩ : ∃ c, runWith s options plain = .ok c ∧
                c.exit = 1 ∧ c.document = none :=
              runWith_of_unsynced signed configured opened synced
            rw [ends]
            exact .unsynced config loggers stop t begins synced c exit document
          | (.ok document, t) =>
            have syncs : Syncs s options config document := ⟨loggers, t, begins, synced⟩
            cases wrote : write s (outputPath options config) document with
            | error fault =>
              rw [runWith_of_unwritten signed configured opened synced wrote]
              exact .unwritten config document fault syncs wrote
            | ok written =>
              obtain ⟨c, ends, exit, delivered⟩ :=
                runWith_of_written signed configured opened synced wrote
              rw [ends]
              exact .written config document written syncs wrote c exit delivered

end Course

/-! ## Faults that escape -/

section Escapes

variable {s : Surroundings} {options : Options} {config other : List (Key × Value)}

theorem conclusion_of_refuse {fault : Fault} {c : Conclusion} (reports : refuse fault = .ok c) :
    c.exit = 1 ∧ c.document = none := by
  rw [refuse.eq_def] at reports
  split at reports
  · cases reports
    exact ⟨rfl, rfl⟩
  · cases reports
    exact ⟨rfl, rfl⟩
  · cases reports

theorem exists_refuse_error_iff {fault : Fault} :
    (∃ raised, refuse fault = .error raised) ↔
      ∃ d, fault = .defect d ∧ ∀ missing, d ≠ .missingFile missing := by
  cases fault with
  | failure f => simp [refuse]
  | defect d => cases d <;> simp [refuse]

theorem exists_refused_iff :
    (∃ fault raised, loaded s options = .error fault ∧ refuse fault = .error raised) ↔
      ∃ content, s.read (file s options) = some content ∧
        Configuration.Misread (file s options) content s.environment := by
  constructor
  · rintro ⟨fault, raised, stops, refused⟩
    obtain ⟨d, rfl, present⟩ := exists_refuse_error_iff.mp ⟨raised, refused⟩
    rw [loaded] at stops
    cases found : s.read (file s options) with
    | none =>
      rw [found] at stops
      cases stops
      exact absurd rfl (present _)
    | some content =>
      rw [found] at stops
      exact ⟨content, rfl, Configuration.exists_load_defect_iff.mp ⟨d, stops⟩⟩
  · rintro ⟨content, found, misread⟩
    obtain ⟨d, stops⟩ := Configuration.exists_load_defect_iff.mpr misread
    have present (missing : String) : d ≠ .missingFile missing := by
      rintro rfl
      exact Configuration.load_ne_missingFile stops
    obtain ⟨raised, refused⟩ := exists_refuse_error_iff.mpr ⟨d, rfl, present⟩
    refine ⟨_, raised, ?_, refused⟩
    rw [loaded, found]
    exact stops

theorem write_ok_iff {path : Value} {document : SyncDocument} {written : String × Value} :
    write s path document = .ok written ↔
      (accepts s path = .ok true ∧ Json.Writable (content s document)) ∧
        written = (path.display, content s document) := by
  rw [write, ← Json.obstacle?_eq_none_iff, content]
  cases accepts s path with
  | error misuse => simp
  | ok accepted =>
    cases accepted with
    | false => simp
    | true =>
      cases Json.obstacle? (document.toValue [("sync_id", .text s.syncId)]) <;> simp [eq_comm]

theorem Prepares.unique (prepares : Prepares s options config)
    (preparesOther : Prepares s options other) : config = other := by
  obtain ⟨plain, loads, signed⟩ := prepares
  obtain ⟨plainOther, loadsOther, signedOther⟩ := preparesOther
  cases loads.symm.trans loadsOther
  exact Except.ok.inj (signed.symm.trans signedOther)

theorem escapes_of_run {fault : Fault} (parsed : CommandLine.parse s.arguments = .sync options)
    (ends : run s = .error fault) : Escapes s options := by
  have course := course_run parsed
  rw [ends] at course
  generalize outcome : (.error fault : Except Fault Conclusion) = result at course
  cases course with
  | unloaded raised stops =>
    obtain ⟨content, found, misread⟩ :=
      exists_refused_iff.mp ⟨raised, fault, stops, outcome.symm⟩
    exact .misread content found misread
  | unsigned plain misuse loads stops =>
    obtain ⟨logging, logged⟩ := Configuration.exists_logging_of_load loads
    obtain ⟨fields, given, noMapping⟩ := (exists_withSyncId_error_iff logged).mp ⟨misuse, stops⟩
    exact .extraFields plain logging fields loads logged given noMapping
  | unlogged config misuse prepares stops =>
    obtain ⟨overrides, logged⟩ := prepares.exists_logging
    exact .log config overrides prepares logged
      ((Log.Loggers.exists_configure_error_iff logged).mp ⟨misuse, stops⟩)
  | unopened config loggers file prepares configured member unwritable =>
    -- The loggers have been set up, and the file is the one that their settings name.
    obtain ⟨overrides, logged⟩ := prepares.exists_logging
    cases gives : Log.environmentSettings s.environment with
    | error misuse =>
      have misnumbered := Log.exists_environmentSettings_error_iff.mp ⟨misuse, gives⟩
      exact .log config overrides prepares logged (.number misnumbered)
    | ok given =>
      obtain ⟨named, nonempty⟩ :=
        (Log.Loggers.mem_files_iff logged configured gives).mp member
      exact .logFile config overrides given file prepares logged gives named nonempty unwritable
  | unsynced => cases outcome
  | unwritten config document raised syncs stops =>
    by_cases writable : Json.Writable (content s document)
    · refine .output config document syncs fun accepted => ?_
      cases stops.symm.trans (write_ok_iff.mpr ⟨⟨accepted, writable⟩, rfl⟩)
    · exact .content config document syncs writable
  | written => cases outcome

theorem exists_fault_of_unwritten {document : SyncDocument}
    (parsed : CommandLine.parse s.arguments = .sync options)
    (syncs : Syncs s options config document)
    (stops : ¬ (accepts s (outputPath options config) = .ok true ∧
      Json.Writable (content s document))) : ∃ fault, run s = .error fault := by
  obtain ⟨loggers, t, ⟨⟨plain, loads, signed⟩, configured, writable⟩, synced⟩ := syncs
  rw [run_of_loaded parsed loads]
  cases wrote : write s (outputPath options config) document with
  | error fault =>
    rw [runWith_of_unwritten signed configured (find?_eq_none_iff.mpr writable) synced wrote]
    exact ⟨_, rfl⟩
  | ok written => exact absurd (write_ok_iff.mp wrote).1 stops

theorem exists_fault_of_escapes (parsed : CommandLine.parse s.arguments = .sync options)
    (escapes : Escapes s options) : ∃ fault, run s = .error fault := by
  cases escapes with
  | misread content found misread =>
    obtain ⟨fault, raised, stops, refused⟩ := exists_refused_iff.mpr ⟨content, found, misread⟩
    rw [run_of_unloaded parsed stops]
    exact ⟨raised, refused⟩
  | extraFields config logging fields loads logged given noMapping =>
    obtain ⟨misuse, stops⟩ : ∃ m, withSyncId s.syncId config = .error m :=
      (exists_withSyncId_error_iff logged).mpr ⟨fields, given, noMapping⟩
    rw [run_of_loaded parsed loads, runWith_of_unsigned stops]
    exact ⟨_, rfl⟩
  | log config overrides prepares logged refused =>
    obtain ⟨plain, loads, signed⟩ := prepares
    obtain ⟨misuse, stops⟩ := (Log.Loggers.exists_configure_error_iff logged).mpr refused
    rw [run_of_loaded parsed loads, runWith_of_unlogged signed stops]
    exact ⟨_, rfl⟩
  | logFile config overrides given logFile prepares logged gives named nonempty unwritable =>
    -- Loggers that cannot be set up end the run before their file does.
    obtain ⟨plain, loads, signed⟩ := prepares
    rw [run_of_loaded parsed loads]
    cases configured : Log.Loggers.configure s.environment config Log.components [] with
    | error misuse =>
      rw [runWith_of_unlogged signed configured]
      exact ⟨_, rfl⟩
    | ok loggers =>
      have member : logFile ∈ loggers.files :=
        (Log.Loggers.mem_files_iff logged configured gives).mpr ⟨named, nonempty⟩
      cases opened : loggers.files.find? (!s.canWrite ·) with
      | some file =>
        rw [runWith_of_unopened signed configured opened]
        exact ⟨_, rfl⟩
      | none => cases unwritable.symm.trans (find?_eq_none_iff.mp opened logFile member)
  | output config document syncs refused =>
    exact exists_fault_of_unwritten parsed syncs fun wrote => refused wrote.1
  | content config document syncs unwritable =>
    exact exists_fault_of_unwritten parsed syncs fun wrote => unwritable wrote.2

end Escapes

/-! ## Exit codes -/

/-- A run that is to sync ends with a fault in the ways of `Escapes` and in no others.  Otherwise it
ends with exit code 0 and the document, written to the path that was chosen, or with exit code 1
and without a document if none was delivered.  (A sync that the limit on pages cuts off makes no
document.) -/
theorem run_ends (s : Surroundings) (options : Options)
    (parsed : CommandLine.parse s.arguments = .sync options) :
    ((∃ fault, run s = .error fault) ↔ Escapes s options) ∧
    ∀ c, run s = .ok c →
      (c.exit = 0 ∧ ∃ path document, Delivers s options path document ∧
        c.document = some (path.display, document.toValue [("sync_id", .text s.syncId)])) ∨
      (c.exit = 1 ∧ c.document = none ∧ ∀ path document, ¬ Delivers s options path document) := by
  refine ⟨⟨fun ⟨fault, ends⟩ => escapes_of_run parsed ends, exists_fault_of_escapes parsed⟩, ?_⟩
  intro c ends
  have course := course_run parsed
  rw [ends] at course
  generalize outcome : (.ok c : Except Fault Conclusion) = result at course
  cases course with
  | unloaded fault stops =>
    obtain ⟨exit, document⟩ := conclusion_of_refuse outcome.symm
    refine .inr ⟨exit, document, ?_⟩
    -- What is delivered presupposes a configuration, and there is none.
    rintro path made ⟨config, ⟨loggers, t, begins, -⟩, -⟩
    obtain ⟨plain, loads, -⟩ := begins.prepares
    cases stops.symm.trans loads
  | unsigned | unlogged | unopened | unwritten => cases outcome
  | unsynced config loggers stop t begins stops d exit document =>
    cases outcome
    refine .inr ⟨exit, document, ?_⟩
    rintro path made ⟨other, ⟨_, u, beginsOther, synced⟩, -⟩
    cases begins.prepares.unique beginsOther.prepares
    cases stops.symm.trans synced
  | written config document written syncs writes d exit delivered =>
    cases outcome
    obtain ⟨accepted, rfl⟩ := write_ok_iff.mp writes
    exact .inl ⟨exit, outputPath options config, document, ⟨config, syncs, rfl, accepted⟩,
      delivered⟩

/-- Services that know one record, and a configuration file of the given content. -/
def surroundings (environment : Environment) (content : String) : Surroundings where
  arguments := ["--config", "settings.yml", "--output=out.json"]
  environment
  read file := if file = "settings.yml" then some content else none
  canWrite _ := true
  canWriteTo _ := false
  world := Sync.oneRecord
  limit := 10
  host := "host"
  syncId := "1"

/-- With an empty configuration the run delivers. -/
theorem run_ends_oneRecord :
    let s := surroundings ⟨[]⟩ ""
    let options : Options := ⟨some "settings.yml", some "out.json"⟩
    CommandLine.parse s.arguments = .sync options ∧ ¬ Escapes s options ∧
      ∃ c, run s = .ok c ∧ c.exit = 0 ∧ ∃ path document, Delivers s options path document ∧
        c.document = some (path.display, document.toValue [("sync_id", .text "1")]) := by
  intro s options
  have parsed : CommandLine.parse s.arguments = .sync options := by decide +kernel
  have evaluated : (run s).toOption.map Conclusion.exit = some 0 := by decide +kernel
  obtain ⟨c, returned, exit⟩ := Option.map_eq_some_iff.mp evaluated
  have ends : run s = .ok c := eq_ok_of_toOption returned
  obtain ⟨escapes, codes⟩ := run_ends s options parsed
  refine ⟨parsed, fun escaped => ?_, c, ends, exit, ?_⟩
  · obtain ⟨fault, faulty⟩ := escapes.mpr escaped
    cases ends.symm.trans faulty
  · obtain ⟨-, delivered⟩ | ⟨failed, -⟩ := codes c ends
    · exact delivered
    · cases exit.symm.trans failed

/-- One variable that should hold a number and does not makes the same run end with a fault. -/
theorem exists_fault_misnumbered :
    let s := surroundings ⟨[("LOG_MAX_BYTES", "x")]⟩ ""
    CommandLine.parse s.arguments = .sync ⟨some "settings.yml", some "out.json"⟩ ∧
      ∃ fault, run s = .error fault := by
  intro s
  have parsed : CommandLine.parse s.arguments = .sync ⟨some "settings.yml", some "out.json"⟩ := by
    decide +kernel
  have evaluated : (run s).isOk = false := by decide +kernel
  refine ⟨parsed, ?_⟩
  cases ends : run s with
  | error fault => exact ⟨fault, rfl⟩
  | ok c =>
    rw [ends] at evaluated
    cases evaluated

end AccessSync.Program
