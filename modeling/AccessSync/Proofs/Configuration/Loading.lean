import AccessSync.Proofs.Configuration.Validation

/-!
# How loading a configuration fails

Beside what validation lets pass, two things of a file are met with no failure: a scalar that is not
of the kind that its form or its tag says, and a key that is no text.
-/

namespace AccessSync.Configuration

/-! ## Loading -/

/-- A file of this content makes no configuration, and no failure says so. -/
inductive Misread (file content : String) (env : Environment) : Prop where
  /-- A scalar is not of the kind that its form or its tag says. -/
  | scalar (misuse : Misuse) (unreadable : Yaml.parse content = .error (.misuse misuse))
  /-- A key is no text. -/
  | key (entries : List (Key × Value)) (read : ofFile file (some content) = .ok entries)
      (foreign : areTextKeyed (overlay defaults entries) = false)
  /-- The settings cannot be judged. -/
  | settings (misuse : Misuse) (entries merged : List (Key × Value))
      (read : ofFile file (some content) = .ok entries)
      (replaced : withVariables env (overlay defaults entries) = .ok merged)
      (unjudged : Unjudged merged misuse)

section Load

variable {file content : String} {env : Environment} {entries : List (Key × Value)}

theorem ofFile_defect_iff {d : Defect} :
    ofFile file (some content) = .error (.defect d) ↔
      ∃ misuse, d = .misuse misuse ∧ Yaml.parse content = .error (.misuse misuse) := by
  cases parsed : Yaml.parse content with
  | error unreadable =>
    cases unreadable <;> simp [ofFile, parsed, refuse, eq_comm]
  | ok value => cases value <;> simp [ofFile, parsed, refuse]

theorem load_of_ofFile_ok (read : ofFile file (some content) = .ok entries) :
    load file (some content) env =
      match withVariables env (overlay defaults entries) with
      | .ok merged => validate merged
      | .error m => .error (.defect (.misuse m)) := by
  rw [load, read]
  rfl

theorem load_of_ofFile_error {fault : Fault} (unread : ofFile file (some content) = .error fault) :
    load file (some content) env = .error fault := by
  rw [load, unread]
  rfl

/-- Loading a file that is there fails with a failure, unless the file is misread. -/
theorem exists_load_defect_iff :
    (∃ d, load file (some content) env = .error (.defect d)) ↔ Misread file content env := by
  cases read : ofFile file (some content) with
  | error fault =>
    rw [load_of_ofFile_error read]
    constructor
    · rintro ⟨d, same⟩
      cases same
      obtain ⟨misuse, -, unreadable⟩ := ofFile_defect_iff.mp read
      exact .scalar misuse unreadable
    · rintro (⟨misuse, unreadable⟩ | ⟨entries, readOk, -⟩ | ⟨_, entries, merged, readOk, -, -⟩)
      · have raises : ofFile file (some content) = .error (.defect (.misuse misuse)) :=
          ofFile_defect_iff.mpr ⟨misuse, rfl, unreadable⟩
        exact ⟨_, read.symm.trans raises⟩
      · cases read.symm.trans readOk
      · cases read.symm.trans readOk
  | ok entries =>
    have keyed := isOk_withVariables env (overlay defaults entries)
    rw [load_of_ofFile_ok read]
    constructor
    · rintro ⟨d, raises⟩
      cases replaced : withVariables env (overlay defaults entries) with
      | error misuse =>
        rw [replaced] at keyed
        exact .key entries read keyed.symm
      | ok merged =>
        rw [replaced] at raises
        obtain ⟨misuse, -, unjudged⟩ := validate_defect_iff.mp raises
        exact .settings misuse entries merged read replaced unjudged
    · rintro (⟨misuse, unreadable⟩ | ⟨others, readOk, foreign⟩ |
        ⟨misuse, others, merged, readOk, replaced, unjudged⟩)
      · cases read.symm.trans (ofFile_defect_iff.mpr ⟨misuse, rfl, unreadable⟩)
      · cases read.symm.trans readOk
        cases replaced : withVariables env (overlay defaults entries) with
        | error misuse => exact ⟨_, rfl⟩
        | ok merged =>
          rw [replaced, foreign] at keyed
          cases keyed
      · cases read.symm.trans readOk
        rw [replaced]
        exact ⟨_, validate_of_unjudged unjudged⟩

/-- Only a file that is not there is a missing one. -/
theorem load_ne_missingFile {missing : String} :
    load file (some content) env ≠ .error (.defect (.missingFile missing)) := by
  intro raises
  cases read : ofFile file (some content) with
  | error fault =>
    rw [load_of_ofFile_error read] at raises
    cases raises
    obtain ⟨misuse, same, -⟩ := ofFile_defect_iff.mp read
    cases same
  | ok entries =>
    rw [load_of_ofFile_ok read] at raises
    split at raises
    · obtain ⟨misuse, same, -⟩ := validate_defect_iff.mp raises
      cases same
    · cases raises

theorem exists_logging_of_load {content : Option String} {config : List (Key × Value)}
    (loads : load file content env = .ok config) :
    ∃ logging, lookup? "logging" config = some (.mapping logging) := by
  obtain ⟨entries, -, loads⟩ := exists_of_bind_eq_ok loads
  dsimp only at loads
  split at loads
  · exact exists_logging_of_validate loads
  · cases loads

end Load

/-! ## What keeps a configuration from being judged -/

/-- A setting keeps the configuration from being judged. -/
inductive Obstacle (entries : List (Key × Value)) : Misuse → Prop where
  /-- It is an infinity in place of a whole number. -/
  | infinity {key : String} (member : key ∈ integerKeys)
      (endless : (effective entries key).toInteger = .error .tooLarge) : Obstacle entries .tooLarge
  /-- It is of the wrong kind, and a whole number in it is too long to be shown. -/
  | long {key : String} (member : key ∈ booleanKeys ++ integerKeys)
      (long : (effective entries key).isWritable = false) : Obstacle entries .badContent
  /-- It is a number below one that is too long to be shown. -/
  | low {key : String} {n : Int} (member : key ∈ positiveKeys)
      (whole : toWhole key (effective entries key) = .ok n) (low : n < 1)
      (long : isShort n = false) : Obstacle entries .badContent

section Obstacles

variable {entries : List (Key × Value)} {misuse : Misuse}

theorem obstacle_of_toWhole {key : String} (member : key ∈ integerKeys)
    (raises : toWhole key (effective entries key) = .error (.defect (.misuse misuse))) :
    Obstacle entries misuse := by
  obtain ⟨same, endless⟩ | ⟨same, -, long⟩ := toWhole_defect_iff.mp raises
  · cases same
    exact .infinity member endless
  · cases same
    exact .long (List.mem_append_right _ member) long

theorem Unjudged.obstacle (unjudged : Unjudged entries misuse) : Obstacle entries misuse := by
  cases unjudged with
  | truth raises =>
    obtain ⟨key, member, raises⟩ := raises.exists_raise
    obtain ⟨same, long⟩ := toBoolean_defect_iff.mp raises
    cases same
    exact .long (List.mem_append_left _ member) long
  | whole _ raises =>
    obtain ⟨key, member, raises⟩ := raises.exists_raise
    exact obstacle_of_toWhole member raises
  | positive _ wholes raises =>
    obtain ⟨key, member, raises⟩ := raises.exists_raise
    cases whole : toWhole key (effective entries key) with
    | error fault =>
      have isRead := wholes key (mem_integerKeys_of_positive member)
      rw [IsRead, whole] at isRead
      cases isRead
    | ok n =>
      rw [toPositive_of_ok whole] at raises
      split at raises
      next low =>
        obtain ⟨same, long⟩ := refuseShowing_defect_iff.mp raises
        cases same
        exact .low member whole low long
      next => cases raises

end Obstacles

/-- Settings that a file holds make a configuration or are refused, and nothing else is raised, with
two exceptions: a key that is no text, and a setting that keeps the others from being judged. -/
theorem load_judges {file content : String} {entries : List (Key × Value)}
    (read : ofFile file (some content) = .ok entries) (env : Environment) :
    areTextKeyed (overlay defaults entries) = false ∧
        load file (some content) env = .error (.defect (.misuse .notRecord)) ∨
    ∃ merged, withVariables env (overlay defaults entries) = .ok merged ∧
      ((∃ misuse, Unjudged merged misuse ∧ Obstacle merged misuse ∧
          load file (some content) env = .error (.defect (.misuse misuse))) ∨
        (∀ misuse, ¬ Unjudged merged misuse) ∧
          ((∃ config, load file (some content) env = .ok config) ∨
            ∃ cause, load file (some content) env = refuse cause)) := by
  have keyed := isOk_withVariables env (overlay defaults entries)
  rw [load_of_ofFile_ok read]
  -- Keys are looked at first, then the settings one after the other.
  cases replaced : withVariables env (overlay defaults entries) with
  | error misuse =>
    rw [replaced] at keyed
    cases withVariables_error env _ replaced
    exact .inl ⟨keyed.symm, rfl⟩
  | ok merged =>
    refine .inr ⟨merged, rfl, ?_⟩
    simp only
    cases judged : validate merged with
    | ok config =>
      refine .inr ⟨fun misuse unjudged => ?_, .inl ⟨config, rfl⟩⟩
      cases judged.symm.trans (validate_of_unjudged unjudged)
    | error fault =>
      obtain ⟨cause, rfl⟩ | ⟨misuse, rfl⟩ := raises_validate merged fault judged
      · refine .inr ⟨fun misuse unjudged => ?_, .inr ⟨cause, rfl⟩⟩
        cases judged.symm.trans (validate_of_unjudged unjudged)
      · have unjudged := unjudged_of_validate judged
        exact .inl ⟨misuse, unjudged, unjudged.obstacle, rfl⟩

def fails {α : Type} : Except Fault α → Bool
  | .error (.failure _) => true
  | _ => false

/-- Pages of no records are refused. -/
theorem load_judges_emptyPages :
    let content := "page_size: 0\n"
    ∃ entries merged, ofFile "settings.yml" (some content) = .ok entries ∧
      withVariables ⟨[]⟩ (overlay defaults entries) = .ok merged ∧
      (∀ misuse, ¬ Unjudged merged misuse) ∧
      ∃ cause, load "settings.yml" (some content) ⟨[]⟩ = refuse cause := by
  intro content
  have readable : (ofFile "settings.yml" (some content)).toOption.isSome = true := by
    decide +kernel
  have refused : fails (load "settings.yml" (some content) ⟨[]⟩) = true := by decide +kernel
  obtain ⟨entries, found⟩ := Option.isSome_iff_exists.mp readable
  have read := eq_ok_of_toOption found
  obtain ⟨-, stops⟩ | ⟨merged, replaced, ⟨misuse, -, -, stops⟩ | ⟨judged, ⟨config, loads⟩ |
      refusal⟩⟩ := load_judges read ⟨[]⟩
  · rw [stops] at refused
    cases refused
  · rw [stops] at refused
    cases refused
  · rw [loads] at refused
    cases refused
  · exact ⟨entries, merged, read, replaced, judged, refusal⟩

/-- A number as a key leads neither to a configuration nor to a refusal. -/
theorem exists_load_unjudged :
    ∃ content entries, Yaml.parse content = .ok (.mapping entries) ∧
      (∀ config, load "settings.yml" (some content) ⟨[]⟩ ≠ .ok config) ∧
      ∀ cause, load "settings.yml" (some content) ⟨[]⟩ ≠ refuse cause := by
  have parses : ((Yaml.parse "1: x\n").toOption.bind Value.entries?).isSome = true := by
    decide +kernel
  have unloaded : (load "settings.yml" (some "1: x\n") ⟨[]⟩).isOk = false := by decide +kernel
  have unrefused : fails (load "settings.yml" (some "1: x\n") ⟨[]⟩) = false := by decide +kernel
  obtain ⟨entries, found⟩ := Option.isSome_iff_exists.mp parses
  obtain ⟨value, parsed, isMapping⟩ := Option.bind_eq_some_iff.mp found
  cases value with
  | mapping others =>
    refine ⟨_, others, eq_ok_of_toOption parsed, fun config loads => ?_, fun cause refuses => ?_⟩
    · rw [loads] at unloaded
      cases unloaded
    · rw [refuses] at unrefused
      cases unrefused
  | null | bool | int | float | text | stamp | list => cases isMapping

end AccessSync.Configuration
