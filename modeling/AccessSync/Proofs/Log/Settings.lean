import AccessSync.Log.Settings
import AccessSync.Proofs.Returns

/-!
# When the log is refused

All loggers of a run have the same settings, so they are all set up or the first one already fails.
What makes it fail is a variable that should hold a number, or a setting that no logger can have.
-/

namespace AccessSync.Log

/-! ## The environment -/

def numberVariables : List String := ["LOG_MAX_BYTES", "LOG_BACKUP_COUNT"]

/-- A variable that holds a number is set to a text that is none. -/
def Misnumbered (env : Environment) : Prop :=
  ∃ name ∈ numberVariables, ∃ text, env.get? name = some text ∧ integerOfText? text = none

theorem exists_numberOf_error_iff {env : Environment} {name : String} {default : Int} :
    (∃ m, numberOf env name default = .error m) ↔
      ∃ text, env.get? name = some text ∧ integerOfText? text = none := by
  rw [numberOf]
  cases env.get? name with
  | none => simp
  | some text => cases number : integerOfText? text <;> simp [Value.toInteger, number, Except.map]

theorem exists_environmentSettings_error_iff {env : Environment} :
    (∃ m, environmentSettings env = .error m) ↔ Misnumbered env := by
  have never (given : List (Key × Value)) :
      (∃ m, (pure given : Except Misuse _) = .error m) ↔ False := by
    simp [pure, Except.pure]
  rw [environmentSettings, exists_bind_error_iff fun _ => exists_bind_error_iff fun _ => never _]
  simp [exists_numberOf_error_iff, Misnumbered, numberVariables]

/-! ## One logger -/

/-- A logger cannot have these settings. -/
inductive Unsuitable (given : List (Key × Value)) : Prop where
  /-- What the level names is no level. -/
  | level (misuse : Misuse)
      (taken : notLevels.lookup
        (Text.upper (Configuration.setting given "level" .null).display) = some misuse)
  /-- The template is no text with a named field. -/
  | template
      (fieldless : ∀ template,
        (Configuration.setting given "format" .null).orElse (.text Format.defaultTemplate) =
          .text template → Template.hasNamedField template = false)
  /-- The extra fields are no entries. -/
  | extra (misuse : Misuse)
      (refused : Format.entriesOf (Configuration.setting given "extra_fields" .null) =
        .error misuse)
  /-- There is a file, and a number that it needs is none. -/
  | size (key : String) (needed : key = "max_bytes" ∨ key = "backup_count") (misuse : Misuse)
      (kept : (Configuration.setting given "file" .null).holds = true)
      (refused : (Configuration.setting given key .null).toInteger = .error misuse)
  | file (kept : (Configuration.setting given "file" .null).holds = true)
      (nameless : ∀ file, Configuration.setting given "file" .null ≠ .text file)

theorem exists_levelOf_error_iff {v : Value} :
    (∃ m, levelOf v = .error m) ↔ ∃ m, notLevels.lookup (Text.upper v.display) = some m := by
  rw [levelOf]
  cases notLevels.lookup (Text.upper v.display) <;> simp

theorem asText_ok_iff {v : Value} {text : String} : v.asText = .ok text ↔ v = .text text := by
  cases v <;> simp [Value.asText]

theorem asText_error_iff {v : Value} {misuse : Misuse} :
    v.asText = .error misuse ↔ misuse = .wrongKind ∧ ∀ text, v ≠ .text text := by
  cases v <;> simp [Value.asText, eq_comm]

theorem exists_format_error_iff {template dateFormat extra : Value} :
    (∃ m, Format.ofSettings template dateFormat extra = .error m) ↔
      (∀ text, template.orElse (.text Format.defaultTemplate) = .text text →
        Template.hasNamedField text = false) ∨ ∃ m, Format.entriesOf extra = .error m := by
  rw [Format.ofSettings]
  cases read : (template.orElse (.text Format.defaultTemplate)).asText with
  | error misuse =>
    obtain ⟨-, nameless⟩ := asText_error_iff.mp read
    exact iff_of_true ⟨misuse, rfl⟩ (.inl fun text same => absurd same (nameless text))
  | ok text =>
    rw [asText_ok_iff.mp read]
    simp only [bind, Except.bind]
    cases named : Template.hasNamedField text with
    | false => exact iff_of_true ⟨.badContent, rfl⟩ (.inl fun _ same => by cases same; exact named)
    | true =>
      have fields : ¬ ∀ other, Value.text text = .text other →
          Template.hasNamedField other = false := by
        intro fieldless
        cases named.symm.trans (fieldless text rfl)
      rw [if_pos rfl, or_iff_right fields]
      cases Format.entriesOf extra <;> simp [pure, Except.pure]

theorem exists_fileOf_error_iff {given : List (Key × Value)} :
    (∃ m, Logger.fileOf given = .error m) ↔
      (Configuration.setting given "file" .null).holds = true ∧
        ((∃ m, (Configuration.setting given "max_bytes" .null).toInteger = .error m) ∨
          (∃ m, (Configuration.setting given "backup_count" .null).toInteger = .error m) ∨
          ∀ file, Configuration.setting given "file" .null ≠ .text file) := by
  have nameless (file : Value) : (∃ m, (some <$> file.asText) = .error m) ↔
      ∀ name, file ≠ .text name := by
    cases file <;> simp [Value.asText, Functor.map, Except.map]
  rw [Logger.fileOf, Value.holds]
  cases kept : (Configuration.setting given "file" .null).isEmpty with
  | true => simp [pure, Except.pure]
  | false =>
    simp only [Bool.not_false, true_and]
    exact exists_bind_error_iff fun _ => exists_bind_error_iff fun _ => nameless _

theorem exists_ofSettings_error_iff {name : String} {given : List (Key × Value)} :
    (∃ m, Logger.ofSettings name given = .error m) ↔ Unsuitable given := by
  have last (level : Int) (format : Format) :
      (∃ m, (do return { name, level, format, file := ← Logger.fileOf given } :
        Except Misuse Logger) = .error m) ↔ ∃ m, Logger.fileOf given = .error m := by
    cases Logger.fileOf given <;> simp [bind, Except.bind, pure, Except.pure]
  -- No part depends on the results of the others, so each may be refused on its own.
  rw [Logger.ofSettings, exists_bind_error_iff fun _ => exists_bind_error_iff fun _ => last _ _]
  constructor
  · intro fails
    obtain fails | fails | fails := fails
    · obtain ⟨misuse, taken⟩ := exists_levelOf_error_iff.mp fails
      exact .level misuse taken
    · obtain fieldless | ⟨misuse, refused⟩ := exists_format_error_iff.mp fails
      · exact .template fieldless
      · exact .extra misuse refused
    · obtain ⟨kept, ⟨misuse, refused⟩ | ⟨misuse, refused⟩ | nameless⟩ :=
        exists_fileOf_error_iff.mp fails
      · exact .size "max_bytes" (.inl rfl) misuse kept refused
      · exact .size "backup_count" (.inr rfl) misuse kept refused
      · exact .file kept nameless
  · intro unsuitable
    cases unsuitable with
    | level misuse taken => exact .inl (exists_levelOf_error_iff.mpr ⟨misuse, taken⟩)
    | template fieldless => exact .inr (.inl (exists_format_error_iff.mpr (.inl fieldless)))
    | extra misuse refused =>
      exact .inr (.inl (exists_format_error_iff.mpr (.inr ⟨misuse, refused⟩)))
    | size key needed misuse kept refused =>
      refine .inr (.inr (exists_fileOf_error_iff.mpr ⟨kept, ?_⟩))
      obtain rfl | rfl := needed
      · exact .inl ⟨misuse, refused⟩
      · exact .inr (.inl ⟨misuse, refused⟩)
    | file kept nameless =>
      exact .inr (.inr (exists_fileOf_error_iff.mpr ⟨kept, .inr (.inr nameless)⟩))

/-- The file of a logger is the one that its settings name. -/
theorem file_of_ofSettings {name : String} {given : List (Key × Value)} {logger : Logger}
    (made : Logger.ofSettings name given = .ok logger) : Logger.fileOf given = .ok logger.file := by
  obtain ⟨level, -, made⟩ := exists_of_bind_eq_ok made
  obtain ⟨format, -, made⟩ := exists_of_bind_eq_ok made
  obtain ⟨file, named, made⟩ := exists_of_bind_eq_ok made
  cases made
  exact named

theorem fileOf_eq_some_iff {given : List (Key × Value)} {kept : Option String} {file : String}
    (names : Logger.fileOf given = .ok kept) :
    kept = some file ↔ Configuration.setting given "file" .null = .text file ∧ file ≠ "" := by
  rw [Logger.fileOf] at names
  cases empty : (Configuration.setting given "file" .null).isEmpty with
  | true =>
    simp only [empty, if_true] at names
    cases names
    constructor
    · intro same
      cases same
    · rintro ⟨same, named⟩
      simp [same, Value.isEmpty, named] at empty
  | false =>
    simp only [empty, Bool.false_eq_true, if_false] at names
    obtain ⟨_, -, names⟩ := exists_of_bind_eq_ok names
    obtain ⟨_, -, names⟩ := exists_of_bind_eq_ok names
    obtain ⟨name, isText, names⟩ := exists_of_bind_eq_ok names
    cases names
    rw [asText_ok_iff] at isText
    rw [isText] at empty ⊢
    have named : name ≠ "" := by simpa [Value.isEmpty] using empty
    constructor
    · rintro ⟨⟩
      exact ⟨rfl, named⟩
    · rintro ⟨⟨⟩, -⟩
      rfl

/-! ## All loggers -/

/-- A run in this environment cannot set up its log with these settings laid over those of the
environment. -/
inductive Refused (env : Environment) (overrides : List (Key × Value)) : Prop where
  | number (misnumbered : Misnumbered env)
  | settings (given : List (Key × Value)) (gives : environmentSettings env = .ok given)
      (unsuitable : Unsuitable (withOverrides given overrides))

namespace Loggers

variable {env : Environment} {overrides : List (Key × Value)} {loggers : Loggers}

theorem settings_mapping :
    settings env (.mapping overrides) =
      (environmentSettings env).map (withOverrides · overrides) := by
  rw [settings]
  cases environmentSettings env with
  | error misuse => rfl
  | ok given => cases overrides <;> rfl

theorem exists_logger_error_iff {name : String} :
    (∃ m, settings env (.mapping overrides) >>= Logger.ofSettings name = .error m) ↔
      Refused env overrides := by
  rw [settings_mapping]
  cases gives : environmentSettings env with
  | error misuse =>
    have misnumbered : Misnumbered env := exists_environmentSettings_error_iff.mp ⟨misuse, gives⟩
    exact iff_of_true ⟨misuse, rfl⟩ (.number misnumbered)
  | ok given =>
    simp only [Except.map, bind, Except.bind, exists_ofSettings_error_iff]
    constructor
    · intro unsuitable
      exact .settings given gives unsuitable
    · intro refused
      cases refused with
      | number misnumbered =>
        obtain ⟨misuse, stops⟩ := exists_environmentSettings_error_iff.mpr misnumbered
        cases gives.symm.trans stops
      | settings others givesOthers unsuitable =>
        cases gives.symm.trans givesOthers
        exact unsuitable

theorem add_of_some {name : String} {logger : Logger} {v : Value}
    (known : loggers.find? name = some logger) : add env v loggers name = .ok loggers := by
  rw [add, known]

theorem add_of_none {name : String} {v : Value} (unknown : loggers.find? name = none) :
    add env v loggers name =
      (settings env v >>= Logger.ofSettings name).map (loggers ++ [·]) := by
  rw [add, unknown]
  show (do let given ← settings env v; let logger ← Logger.ofSettings name given;
           return loggers ++ [logger]) = _
  cases settings env v with
  | error misuse => rfl
  | ok given => cases made : Logger.ofSettings name given <;> simp [bind, Except.bind, made] <;> rfl

theorem refused_of_add {name : String} {misuse : Misuse}
    (fails : add env (.mapping overrides) loggers name = .error misuse) :
    Refused env overrides := by
  cases known : loggers.find? name with
  | some logger => cases (add_of_some known).symm.trans fails
  | none =>
    rw [add_of_none known] at fails
    cases made : settings env (.mapping overrides) >>= Logger.ofSettings name with
    | error misuse => exact exists_logger_error_iff.mp ⟨misuse, made⟩
    | ok logger =>
      rw [made] at fails
      cases fails

theorem refused_of_foldlM {names : List String} {misuse : Misuse}
    (fails : names.foldlM (add env (.mapping overrides)) loggers = .error misuse) :
    Refused env overrides := by
  induction names generalizing loggers with
  | nil => cases fails
  | cons name names inductionHypothesis =>
    rw [List.foldlM_cons] at fails
    cases added : add env (.mapping overrides) loggers name with
    | error misuse => exact refused_of_add added
    | ok others =>
      rw [added] at fails
      exact inductionHypothesis fails

theorem configure_of_logging {config : List (Key × Value)} {names : List String}
    (logging : lookup? "logging" config = some (.mapping overrides)) :
    configure env config names loggers = names.foldlM (add env (.mapping overrides)) loggers := by
  rw [configure, Configuration.setting, logging]
  rfl

/-- The log of a run is set up unless its settings are refused. -/
theorem exists_configure_error_iff {config : List (Key × Value)}
    (logging : lookup? "logging" config = some (.mapping overrides)) :
    (∃ m, configure env config components [] = .error m) ↔ Refused env overrides := by
  rw [configure_of_logging logging]
  constructor
  · rintro ⟨misuse, fails⟩
    exact refused_of_foldlM fails
  · intro refused
    -- Every logger is made from the same settings, so the first one fails already.
    have first : ∃ m, settings env (.mapping overrides) >>= Logger.ofSettings "SyncDriver" =
        .error m := exists_logger_error_iff.mpr refused
    obtain ⟨misuse, fails⟩ := first
    refine ⟨misuse, ?_⟩
    rw [components, List.foldlM_cons, add_of_none rfl, fails]
    rfl

theorem add_cases {name : String} {v : Value} {others : Loggers}
    (added : add env v loggers name = .ok others) :
    others = loggers ∨
      ∃ newcomer, settings env v >>= Logger.ofSettings name = .ok newcomer ∧
        others = loggers ++ [newcomer] := by
  cases known : loggers.find? name with
  | some logger =>
    cases (add_of_some known).symm.trans added
    exact .inl rfl
  | none =>
    rw [add_of_none known] at added
    cases made : settings env v >>= Logger.ofSettings name with
    | error misuse =>
      rw [made] at added
      cases added
    | ok newcomer =>
      rw [made] at added
      cases added
      exact .inr ⟨newcomer, rfl, rfl⟩

theorem mem_foldlM {names : List String} {v : Value} {result : Loggers} {logger : Logger}
    (sets : names.foldlM (add env v) loggers = .ok result) (member : logger ∈ loggers) :
    logger ∈ result := by
  induction names generalizing loggers with
  | nil =>
    cases sets
    exact member
  | cons name names inductionHypothesis =>
    rw [List.foldlM_cons] at sets
    obtain ⟨others, added, sets⟩ := exists_of_bind_eq_ok sets
    apply inductionHypothesis sets
    obtain rfl | ⟨newcomer, -, rfl⟩ := add_cases added
    · exact member
    · exact List.mem_append_left _ member

theorem file_of_foldlM {names : List String} {v : Value} {given : List (Key × Value)}
    {result : Loggers} (gives : settings env v = .ok given)
    (sets : names.foldlM (add env v) loggers = .ok result)
    (before : ∀ logger ∈ loggers, Logger.fileOf given = .ok logger.file) :
    ∀ logger ∈ result, Logger.fileOf given = .ok logger.file := by
  induction names generalizing loggers with
  | nil =>
    cases sets
    exact before
  | cons name names inductionHypothesis =>
    rw [List.foldlM_cons] at sets
    obtain ⟨others, added, sets⟩ := exists_of_bind_eq_ok sets
    apply inductionHypothesis sets
    obtain rfl | ⟨newcomer, made, rfl⟩ := add_cases added
    · exact before
    · simp only [gives, bind, Except.bind] at made
      intro logger member
      obtain known | rfl := List.mem_append.mp member |>.imp_right List.mem_singleton.mp
      · exact before logger known
      · exact file_of_ofSettings made

/-- The loggers of a run write to the one file that their settings name. -/
theorem mem_files_iff {config given : List (Key × Value)} {file : String}
    (logging : lookup? "logging" config = some (.mapping overrides))
    (sets : configure env config components [] = .ok loggers)
    (gives : environmentSettings env = .ok given) :
    file ∈ loggers.files ↔
      Configuration.setting (withOverrides given overrides) "file" .null = .text file ∧
        file ≠ "" := by
  have givesAll : settings env (.mapping overrides) = .ok (withOverrides given overrides) := by
    rw [settings_mapping, gives]
    rfl
  rw [configure_of_logging logging] at sets
  have named : ∀ logger ∈ loggers,
      Logger.fileOf (withOverrides given overrides) = .ok logger.file :=
    file_of_foldlM givesAll sets (by simp)
  have inhabited : ∃ logger, logger ∈ loggers := by
    rw [components, List.foldlM_cons] at sets
    obtain ⟨others, added, sets⟩ := exists_of_bind_eq_ok sets
    rw [add_of_none rfl] at added
    cases made : settings env (.mapping overrides) >>= Logger.ofSettings "SyncDriver" with
    | error misuse =>
      rw [made] at added
      cases added
    | ok first =>
      rw [made] at added
      cases added
      exact ⟨first, mem_foldlM sets List.mem_cons_self⟩
  obtain ⟨logger, member⟩ := inhabited
  rw [← fileOf_eq_some_iff (named logger member), files, List.mem_eraseDups, List.mem_filterMap]
  constructor
  -- Another logger has the same file, because both have the one that the settings name.
  · rintro ⟨other, memberOther, same⟩
    rw [← same]
    exact Except.ok.inj ((named logger member).symm.trans (named other memberOther))
  · intro same
    exact ⟨logger, member, same⟩

end Loggers

end AccessSync.Log
