import AccessSync.Proofs.Configuration.Settings

/-!
# How validation fails

A configuration that cannot be used is refused with a failure, which says what is wrong with it.
Two things get past that: an infinity where a whole number belongs, and a whole number that is too
long to be shown in the words of a refusal.  They are told apart from everything else here, with the
order of the checks: an infinity is met only if the settings before it can be read.
-/

namespace AccessSync.Configuration

/-! ## Validation -/

def Refusal (fault : Fault) : Prop := ∃ cause, fault = .failure { cause := .configuration cause }

/-- The fault is a refusal, or a value that something cannot be done with. -/
def RefusalOrMisuse (fault : Fault) : Prop :=
  Refusal fault ∨ ∃ misuse, fault = .defect (.misuse misuse)

/-- If the result is a fault, the fault has the property. -/
def Raises {α : Type} (E : Fault → Prop) (result : Except Fault α) : Prop :=
  ∀ fault, result = .error fault → E fault

namespace Raises

variable {α β : Type} {E : Fault → Prop}

theorem ok (a : α) : Raises E (.ok a) := by
  intro fault same
  cases same

theorem error {fault : Fault} (holds : E fault) : Raises E (.error fault : Except Fault α) := by
  intro other same
  cases same
  exact holds

theorem refuse (cause : ConfigurationFault) :
    Raises Refusal (Configuration.refuse cause : Except Fault α) := error ⟨cause, rfl⟩

theorem bind {first : Except Fault α} {next : α → Except Fault β} (here : Raises E first)
    (there : ∀ a, Raises E (next a)) : Raises E (first >>= next) := by
  cases first with
  | error fault => exact error (here fault rfl)
  | ok a => exact there a

theorem ite {condition : Prop} [Decidable condition] {yes no : Except Fault α}
    (here : Raises E yes) (there : Raises E no) : Raises E (if condition then yes else no) := by
  split
  · exact here
  · exact there

theorem weaken {result : Except Fault α} (refuses : Raises Refusal result) :
    Raises RefusalOrMisuse result :=
  fun fault same => .inl (refuses fault same)

theorem refuseShowing (given : Value) (cause : ConfigurationFault) :
    Raises RefusalOrMisuse (Configuration.refuseShowing given cause : Except Fault α) :=
  ite (refuse cause).weaken (error (.inr ⟨_, rfl⟩))

end Raises

theorem raises_toBoolean (key : String) (v : Value) :
    Raises RefusalOrMisuse (toBoolean key v) := by
  rw [toBoolean.eq_def]
  split
  · exact .ok _
  · exact .ite (.error (.inr ⟨_, rfl⟩)) (.ite (.ok _) (.ite (.ok _) (Raises.refuse _).weaken))

theorem raises_toWhole (key : String) (v : Value) : Raises RefusalOrMisuse (toWhole key v) := by
  rw [toWhole.eq_def]
  split
  · exact (Raises.refuse _).weaken
  · split
    · exact .ok _
    · exact .error (.inr ⟨_, rfl⟩)
    · exact .refuseShowing _ _

theorem raises_withEach {α : Type} {E : Fault → Prop} {read : String → Value → Except Fault α}
    {make : α → Value} (reads : ∀ key v, Raises E (read key v)) (entries : List (Key × Value))
    (keys : List String) : Raises E (withEach read make entries keys) := by
  induction keys generalizing entries with
  | nil => exact .ok _
  | cons key keys inductionHypothesis =>
    cases here : read key (effective entries key) with
    | error fault =>
      rw [withEach_of_error here]
      exact .error (reads key _ fault here)
    | ok a =>
      rw [withEach_of_ok here]
      exact inductionHypothesis _

theorem raises_requirePositive (entries : List (Key × Value)) :
    ∀ keys, Raises RefusalOrMisuse (requirePositive entries keys)
  | [] => .ok ()
  | _ :: keys => .ite (.refuseShowing _ _) (raises_requirePositive entries keys)

theorem raises_requireCredentials (entries : List (Key × Value)) :
    Raises Refusal (requireCredentials entries) :=
  .ite (.refuse _) (.ite (.refuse _) (.ok _))

theorem refuseShowing_defect_iff {α : Type} {given : Value} {fault : ConfigurationFault}
    {d : Defect} :
    (refuseShowing given fault : Except Fault α) = .error (.defect d) ↔
      d = .misuse .badContent ∧ given.isWritable = false := by
  cases writable : given.isWritable <;> simp [refuseShowing, refuse, writable, eq_comm]

theorem toBoolean_defect_iff {key : String} {v : Value} {d : Defect} :
    toBoolean key v = .error (.defect d) ↔ d = .misuse .badContent ∧ v.isWritable = false := by
  rw [toBoolean.eq_def]
  split
  · simp [Value.isWritable]
  · cases writable : v.isWritable
    · simp [eq_comm]
    · simp only [Bool.not_true, Bool.false_eq_true, if_false, Bool.true_eq_false, and_false,
        iff_false]
      intro raises
      obtain ⟨cause, same⟩ := Raises.ite (.ok _) (.ite (.ok _) (.refuse _)) _ raises
      cases same

theorem toWhole_defect_iff {key : String} {v : Value} {d : Defect} :
    toWhole key v = .error (.defect d) ↔
      d = .misuse .tooLarge ∧ v.toInteger = .error .tooLarge ∨
        d = .misuse .badContent ∧ v.toInteger.isOk = false ∧ v.isWritable = false := by
  rw [toWhole.eq_def]
  split
  · simp [refuse, Value.toInteger, Value.isWritable]
  · cases outcome : v.toInteger with
    | ok n => simp [Except.isOk, Except.toBool]
    | error misuse =>
      cases misuse with
      | tooLarge =>
        have short : v.isWritable = true := by
          cases v with
          | float | text | null | bool | stamp => rfl
          | int | list | mapping => cases outcome
        simp only [short, Bool.true_eq_false, and_false, or_false, and_true, Except.error.injEq,
          Fault.defect.injEq]
        exact eq_comm
      | missingKey | wrongKind | notRecord | badContent =>
        simp [refuseShowing_defect_iff, Except.isOk, Except.toBool]

/-- The whole number of a setting that has to be at least one. -/
def toPositive (key : String) (v : Value) : Except Fault Int := do
  let n ← toWhole key v
  if n < 1 then refuseShowing (.int n) (.belowOne key n) else return n

theorem toPositive_of_ok {key : String} {v : Value} {n : Int} (whole : toWhole key v = .ok n) :
    toPositive key v =
      if n < 1 then refuseShowing (.int n) (.belowOne key n) else .ok n := by
  rw [toPositive, whole]
  rfl

theorem refuseShowing_error_iff {α β : Type} {given : Value} {fault : ConfigurationFault}
    {raised : Fault} :
    (refuseShowing given fault : Except Fault α) = .error raised ↔
      (refuseShowing given fault : Except Fault β) = .error raised := by
  cases writable : given.isWritable <;> simp [refuseShowing, refuse, writable]

/-- Numbers are required to be at least one, one after the other. -/
theorem requirePositive_error_iff {entries typed : List (Key × Value)} {fault : Fault}
    {keys : List String}
    (whole : ∀ key ∈ keys, toWhole key (effective entries key) = .ok (wholeOf typed key)) :
    requirePositive typed keys = .error fault ↔ FirstFault toPositive entries fault keys := by
  induction keys with
  | nil => constructor <;> intro absurdity <;> cases absurdity
  | cons key keys inductionHypothesis =>
    obtain ⟨here, there⟩ := List.forall_mem_cons.mp whole
    have judged := toPositive_of_ok here
    dsimp only [requirePositive]
    by_cases low : wholeOf typed key < 1
    · rw [if_pos low] at judged ⊢
      rw [refuseShowing_error_iff]
      constructor
      · intro raises
        exact .here (judged.trans raises)
      · rintro (⟨raises⟩ | ⟨isRead, -⟩)
        · exact judged.symm.trans raises
        · rw [IsRead, judged, refuseShowing] at isRead
          split at isRead <;> cases isRead
    · rw [if_neg low] at judged ⊢
      rw [inductionHypothesis there]
      constructor
      · exact .later (isRead_of_ok judged)
      · rintro (⟨raises⟩ | ⟨-, faulty⟩)
        · cases judged.symm.trans raises
        · exact faulty

/-- The settings are neither accepted nor refused. -/
inductive Unjudged (entries : List (Key × Value)) (misuse : Misuse) : Prop where
  /-- The first truth value that cannot be read is too long to be shown. -/
  | truth (raises : FirstFault toBoolean entries (.defect (.misuse misuse)) booleanKeys)
  /-- All truth values can be read, and the first whole number that cannot be is an infinity or too
  long to be shown. -/
  | whole (truths : ∀ key ∈ booleanKeys, IsRead toBoolean entries key)
      (raises : FirstFault toWhole entries (.defect (.misuse misuse)) integerKeys)
  /-- All settings can be read, and the first number that ought to be at least one and is not is too
  long to be shown. -/
  | positive (truths : ∀ key ∈ booleanKeys, IsRead toBoolean entries key)
      (wholes : ∀ key ∈ integerKeys, IsRead toWhole entries key)
      (raises : FirstFault toPositive entries (.defect (.misuse misuse)) positiveKeys)

theorem nodup_booleanKeys : booleanKeys.Nodup := by decide

theorem nodup_integerKeys : integerKeys.Nodup := by decide

theorem mem_integerKeys_of_positive {key : String} (member : key ∈ positiveKeys) :
    key ∈ integerKeys := by
  revert key
  decide

section Typed

variable {entries truths typed : List (Key × Value)} {key : String}

/-- No whole number is a truth value too, so the numbers are read from what was given. -/
theorem effective_withBooleans (truthsRead : withBooleans entries booleanKeys = .ok truths)
    (member : key ∈ integerKeys) : effective truths key = effective entries key :=
  effective_withEach truthsRead (by revert key; decide)

theorem exists_lookup?_withIntegers (truthsRead : withBooleans entries booleanKeys = .ok truths)
    (wholesRead : withIntegers truths integerKeys = .ok typed) (member : key ∈ integerKeys) :
    ∃ n, toWhole key (effective entries key) = .ok n ∧ lookup? key typed = some (.int n) := by
  rw [← effective_withBooleans truthsRead member]
  exact exists_lookup?_withEach wholesRead nodup_integerKeys member

theorem toWhole_eq_wholeOf (truthsRead : withBooleans entries booleanKeys = .ok truths)
    (wholesRead : withIntegers truths integerKeys = .ok typed) (member : key ∈ integerKeys) :
    toWhole key (effective entries key) = .ok (wholeOf typed key) := by
  obtain ⟨n, read, found⟩ := exists_lookup?_withIntegers truthsRead wholesRead member
  rw [read, wholeOf, found]

end Typed

/-- The checks that follow once the settings are typed. -/
def checked (typed : List (Key × Value)) : Except Fault (List (Key × Value)) := do
  let logged := withLogging typed
  if wholeOf logged "small_page_threshold" < 0 then refuse .negativeThreshold
  requireCredentials logged
  return logged

theorem raises_checked (typed : List (Key × Value)) : Raises Refusal (checked typed) :=
  .ite (.refuse _) ((raises_requireCredentials _).bind fun _ => .ok _)

theorem validate_eq (entries : List (Key × Value)) :
    validate entries = (do
      let typed ← withIntegers (← withBooleans entries booleanKeys) integerKeys
      requirePositive typed positiveKeys
      checked typed) := rfl

/-- Validation accepts a configuration, refuses it, or comes upon a value that keeps it from
judging. -/
theorem raises_validate (entries : List (Key × Value)) :
    Raises RefusalOrMisuse (validate entries) := by
  rw [validate_eq]
  refine Raises.bind (raises_withEach raises_toBoolean _ _) fun truths => ?_
  refine Raises.bind (raises_withEach raises_toWhole _ _) fun typed => ?_
  exact (raises_requirePositive _ _).bind fun _ => (raises_checked typed).weaken

section Stages

variable {entries truths typed : List (Key × Value)} {misuse : Misuse} {d : Defect}

theorem validate_of_truths (truthsRead : withBooleans entries booleanKeys = .ok truths) :
    validate entries = (do
      let typed ← withIntegers truths integerKeys
      requirePositive typed positiveKeys
      checked typed) := by
  rw [validate_eq, truthsRead]
  rfl

theorem validate_of_typed (truthsRead : withBooleans entries booleanKeys = .ok truths)
    (wholesRead : withIntegers truths integerKeys = .ok typed) :
    validate entries = (do
      requirePositive typed positiveKeys
      checked typed) := by
  rw [validate_of_truths truthsRead, wholesRead]
  rfl

theorem withIntegers_error_iff {fault : Fault}
    (truthsRead : withBooleans entries booleanKeys = .ok truths) :
    withIntegers truths integerKeys = .error fault ↔
      FirstFault toWhole entries fault integerKeys := by
  rw [withIntegers_eq, withEach_error_iff nodup_integerKeys]
  exact ⟨fun faulty => faulty.congr fun key member => effective_withBooleans truthsRead member,
    fun faulty => faulty.congr fun key member => (effective_withBooleans truthsRead member).symm⟩

theorem requirePositive_typed_error_iff {fault : Fault}
    (truthsRead : withBooleans entries booleanKeys = .ok truths)
    (wholesRead : withIntegers truths integerKeys = .ok typed) :
    requirePositive typed positiveKeys = .error fault ↔
      FirstFault toPositive entries fault positiveKeys := by
  exact requirePositive_error_iff fun key member =>
    toWhole_eq_wholeOf truthsRead wholesRead (mem_integerKeys_of_positive member)

theorem exists_withBooleans (truths : ∀ key ∈ booleanKeys, IsRead toBoolean entries key) :
    ∃ truths, withBooleans entries booleanKeys = .ok truths :=
  (exists_withEach_iff nodup_booleanKeys).mpr truths

theorem exists_withIntegers (truthsRead : withBooleans entries booleanKeys = .ok truths)
    (wholes : ∀ key ∈ integerKeys, IsRead toWhole entries key) :
    ∃ typed, withIntegers truths integerKeys = .ok typed := by
  refine (exists_withEach_iff nodup_integerKeys).mpr fun key member => ?_
  rw [IsRead, effective_withBooleans truthsRead member]
  exact wholes key member

theorem validate_of_unjudged (unjudged : Unjudged entries misuse) :
    validate entries = .error (.defect (.misuse misuse)) := by
  cases unjudged with
  | truth raises =>
    rw [validate_eq, withBooleans_eq, (withEach_error_iff nodup_booleanKeys).mpr raises]
    rfl
  | whole truths raises =>
    obtain ⟨_, truthsRead⟩ := exists_withBooleans truths
    rw [validate_of_truths truthsRead, (withIntegers_error_iff truthsRead).mpr raises]
    rfl
  | positive truths wholes raises =>
    obtain ⟨_, truthsRead⟩ := exists_withBooleans truths
    obtain ⟨_, wholesRead⟩ := exists_withIntegers truthsRead wholes
    rw [validate_of_typed truthsRead wholesRead,
      (requirePositive_typed_error_iff truthsRead wholesRead).mpr raises]
    rfl

theorem unjudged_of_validate (raises : validate entries = .error (.defect (.misuse misuse))) :
    Unjudged entries misuse := by
  -- In the order of validation: truth values, whole numbers, and the numbers that have to be
  -- positive. The checks after these refuse or accept.
  cases truthsRead : withBooleans entries booleanKeys with
  | error fault =>
    rw [validate_eq, truthsRead] at raises
    cases raises
    rw [withBooleans_eq, withEach_error_iff nodup_booleanKeys] at truthsRead
    exact .truth truthsRead
  | ok truths =>
    have truthsKnown := (exists_withEach_iff nodup_booleanKeys).mp ⟨truths, truthsRead⟩
    cases wholesRead : withIntegers truths integerKeys with
    | error fault =>
      rw [validate_of_truths truthsRead, wholesRead] at raises
      cases raises
      exact .whole truthsKnown ((withIntegers_error_iff truthsRead).mp wholesRead)
    | ok typed =>
      have wholesKnown (key : String) (member : key ∈ integerKeys) : IsRead toWhole entries key :=
        isRead_of_ok (toWhole_eq_wholeOf truthsRead wholesRead member)
      rw [validate_of_typed truthsRead wholesRead] at raises
      cases positive : requirePositive typed positiveKeys with
      | error fault =>
        rw [positive] at raises
        cases raises
        exact .positive truthsKnown wholesKnown
          ((requirePositive_typed_error_iff truthsRead wholesRead).mp positive)
      | ok _ =>
        rw [positive] at raises
        obtain ⟨cause, same⟩ := raises_checked typed _ raises
        cases same

/-- Validation accepts a configuration or refuses it with a failure, unless the settings cannot be
judged. -/
theorem validate_defect_iff :
    validate entries = .error (.defect d) ↔
      ∃ misuse, d = .misuse misuse ∧ Unjudged entries misuse := by
  constructor
  · intro raises
    obtain ⟨cause, same⟩ | ⟨misuse, same⟩ := raises_validate entries _ raises
    · cases same
    · cases same
      exact ⟨misuse, rfl, unjudged_of_validate raises⟩
  · rintro ⟨misuse, rfl, unjudged⟩
    exact validate_of_unjudged unjudged

end Stages

/-! ## What is valid -/

section Valid

variable {entries config : List (Key × Value)} {keys : List String} {key : String}

theorem lookup?_withLogging :
    lookup? "logging" (withLogging entries) =
      some (.mapping (((lookup? "logging" entries).bind Value.entries?).getD [])) := by
  rw [withLogging]
  split
  next found => rw [found]; rfl
  next unlike =>
    rw [lookup?_setEntry_self]
    cases found : lookup? "logging" entries with
    | none => rfl
    | some value =>
      cases value with
      | mapping logging => exact absurd found (unlike logging)
      | null | bool | int | float | text | stamp | list => rfl

/-- A valid configuration has passed every check. -/
theorem exists_of_validate (valid : validate entries = .ok config) :
    ∃ truths typed, withBooleans entries booleanKeys = .ok truths ∧
      withIntegers truths integerKeys = .ok typed ∧ requirePositive typed positiveKeys = .ok () ∧
      config = withLogging typed ∧ 0 ≤ wholeOf config "small_page_threshold" ∧
      requireCredentials config = .ok () := by
  obtain ⟨truths, truthsRead, valid⟩ := exists_of_bind_eq_ok valid
  obtain ⟨typed, wholesRead, valid⟩ := exists_of_bind_eq_ok valid
  obtain ⟨_, positive, valid⟩ := exists_of_bind_eq_ok valid
  dsimp only at valid
  split at valid
  · cases valid
  next notBelow =>
    obtain ⟨_, paired, valid⟩ := exists_of_bind_eq_ok valid
    cases valid
    exact ⟨truths, typed, truthsRead, wholesRead, positive, rfl, Int.not_lt.mp notBelow, paired⟩

/-- A valid configuration has a mapping for the log. -/
theorem exists_logging_of_validate (valid : validate entries = .ok config) :
    ∃ logging, lookup? "logging" config = some (.mapping logging) := by
  obtain ⟨_, typed, -, -, -, rfl, -⟩ := exists_of_validate valid
  exact ⟨_, lookup?_withLogging⟩

end Valid

end AccessSync.Configuration
