import AccessSync.Configuration
import AccessSync.Proofs.Entries
import AccessSync.Proofs.Returns

/-!
# The settings of a configuration

Which settings variables can be laid over, and what it comes to when settings are read and replaced
one after the other.
-/

namespace AccessSync.Configuration

/-! ## Variables -/

mutual

/-- The keys of the mappings in a value are texts. -/
def hasTextKeys : Value → Bool
  | .mapping entries => areTextKeyed entries
  | _ => true

/-- The keys of entries and of the mappings in them are texts. -/
def areTextKeyed : List (Key × Value) → Bool
  | [] => true
  | (.text _, value) :: rest => hasTextKeys value && areTextKeyed rest
  | _ :: _ => false

end

mutual

theorem isOk_withVariable (env : Environment) (name : String) :
    ∀ value, (withVariable env name value).isOk = hasTextKeys value
  | .mapping entries => by
    have entriesOk := isOk_withVariables env entries
    simp only [withVariable, hasTextKeys, ← entriesOk]
    cases withVariables env entries <;> rfl
  | .null | .bool _ | .int _ | .float _ | .text _ | .stamp _ | .list _ => rfl

/-- The variables are laid over settings with text keys, and over no others. -/
theorem isOk_withVariables (env : Environment) :
    ∀ entries, (withVariables env entries).isOk = areTextKeyed entries
  | [] => rfl
  | (.text key, value) :: rest => by
    have valueOk := isOk_withVariable env (Text.upper key) value
    have restOk := isOk_withVariables env rest
    simp only [withVariables, variableName, areTextKeyed, ← valueOk, ← restOk, bind, Except.bind]
    cases withVariable env (Text.upper key) value <;> cases withVariables env rest <;> rfl
  | (.null, _) :: _ | (.bool _, _) :: _ | (.int _, _) :: _ | (.float _, _) :: _
  | (.stamp _, _) :: _ => rfl

end

mutual

theorem withVariable_error (env : Environment) (name : String) {misuse : Misuse} :
    ∀ value, withVariable env name value = .error misuse → misuse = .notRecord
  | .mapping entries, raises => by
    rw [withVariable] at raises
    obtain raises | ⟨_, -, raises⟩ := error_of_bind_eq_error raises
    · exact withVariables_error env entries raises
    · cases raises
  | .null, raises | .bool _, raises | .int _, raises | .float _, raises | .text _, raises
  | .stamp _, raises | .list _, raises => by cases raises

/-- Variables cannot be laid over a setting whose key is no text. -/
theorem withVariables_error (env : Environment) {misuse : Misuse} :
    ∀ entries, withVariables env entries = .error misuse → misuse = .notRecord
  | [], raises => by cases raises
  | (.text key, value) :: rest, raises => by
    rw [withVariables] at raises
    obtain raises | ⟨_, -, raises⟩ := error_of_bind_eq_error raises
    · cases raises
    obtain raises | ⟨_, -, raises⟩ := error_of_bind_eq_error raises
    · exact withVariable_error env _ value raises
    obtain raises | ⟨_, -, raises⟩ := error_of_bind_eq_error raises
    · exact withVariables_error env rest raises
    · cases raises
  | (.null, _) :: _, raises | (.bool _, _) :: _, raises | (.int _, _) :: _, raises
  | (.float _, _) :: _, raises | (.stamp _, _) :: _, raises => by
    cases raises
    rfl

end

/-! ## Settings that are read one after the other -/

theorem effective_setEntry_of_ne {key other : String} (different : other ≠ key) (value : Value)
    (entries : List (Key × Value)) :
    effective (setEntry key value entries) other = effective entries other := by
  simp only [effective, setting, lookup?_setEntry_of_ne different]

section Each

variable {α : Type} (read : String → Value → Except Fault α) (make : α → Value)

/-- The settings with some of them replaced by what they are read as. -/
def withEach (entries : List (Key × Value)) (keys : List String) :
    Except Fault (List (Key × Value)) :=
  keys.foldlM (fun entries key => do
    return setEntry key (make (← read key (effective entries key))) entries) entries

/-- The setting of a key can be read. -/
def IsRead (entries : List (Key × Value)) (key : String) : Prop :=
  (read key (effective entries key)).isOk = true

/-- The fault arises at the first of the settings that cannot be read. -/
inductive FirstFault (entries : List (Key × Value)) (fault : Fault) : List String → Prop where
  | here {key : String} {keys : List String}
      (raises : read key (effective entries key) = .error fault) :
      FirstFault entries fault (key :: keys)
  | later {key : String} {keys : List String} (isRead : IsRead read entries key)
      (faulty : FirstFault entries fault keys) : FirstFault entries fault (key :: keys)

variable {read make} {entries typed : List (Key × Value)} {keys : List String} {key : String}

theorem withEach_of_ok {a : α} (here : read key (effective entries key) = .ok a) :
    withEach read make entries (key :: keys) =
      withEach read make (setEntry key (make a) entries) keys := by
  simp only [withEach, List.foldlM_cons, here]
  rfl

theorem withEach_of_error {fault : Fault}
    (here : read key (effective entries key) = .error fault) :
    withEach read make entries (key :: keys) = .error fault := by
  simp only [withEach, List.foldlM_cons, here]
  rfl

theorem lookup?_withEach {other : String} (returns : withEach read make entries keys = .ok typed)
    (untouched : other ∉ keys) : lookup? other typed = lookup? other entries := by
  induction keys generalizing entries with
  | nil =>
    cases returns
    rfl
  | cons key keys inductionHypothesis =>
    rw [List.mem_cons, not_or] at untouched
    obtain ⟨different, untouched⟩ := untouched
    cases here : read key (effective entries key) with
    | error fault => cases (withEach_of_error here).symm.trans returns
    | ok a =>
      rw [withEach_of_ok here] at returns
      rw [inductionHypothesis returns untouched, lookup?_setEntry_of_ne different]

theorem effective_withEach {other : String} (returns : withEach read make entries keys = .ok typed)
    (untouched : other ∉ keys) : effective typed other = effective entries other := by
  simp only [effective, setting, lookup?_withEach returns untouched]

/-- A setting that is replaced has been read. -/
theorem exists_lookup?_withEach (returns : withEach read make entries keys = .ok typed)
    (distinct : keys.Nodup) (member : key ∈ keys) :
    ∃ a, read key (effective entries key) = .ok a ∧ lookup? key typed = some (make a) := by
  induction keys generalizing entries with
  | nil => cases member
  | cons first keys inductionHypothesis =>
    obtain ⟨fresh, distinct⟩ := List.nodup_cons.mp distinct
    cases here : read first (effective entries first) with
    | error fault => cases (withEach_of_error here).symm.trans returns
    | ok a =>
      rw [withEach_of_ok here] at returns
      obtain rfl | member := List.mem_cons.mp member
      · exact ⟨a, here, (lookup?_withEach returns fresh).trans lookup?_setEntry_self⟩
      · obtain ⟨b, read, kept⟩ := inductionHypothesis returns distinct member
        rw [effective_setEntry_of_ne (ne_of_mem_of_not_mem member fresh)] at read
        exact ⟨b, read, kept⟩

theorem isRead_of_ok {a : α} (here : read key (effective entries key) = .ok a) :
    IsRead read entries key := by
  rw [IsRead, here]
  rfl

/-- All settings are replaced if and only if each of them can be read. -/
theorem exists_withEach_iff (distinct : keys.Nodup) :
    (∃ typed, withEach read make entries keys = .ok typed) ↔
      ∀ key ∈ keys, IsRead read entries key := by
  induction keys generalizing entries with
  | nil => simp [withEach, pure, Except.pure]
  | cons key keys inductionHypothesis =>
    obtain ⟨fresh, distinct⟩ := List.nodup_cons.mp distinct
    rw [List.forall_mem_cons]
    cases here : read key (effective entries key) with
    | error fault => simp [withEach_of_error here, IsRead, here, Except.isOk, Except.toBool]
    | ok a =>
      rw [withEach_of_ok here, inductionHypothesis distinct,
        and_iff_right (isRead_of_ok here)]
      refine forall₂_congr fun other member => ?_
      rw [IsRead, effective_setEntry_of_ne (ne_of_mem_of_not_mem member fresh), IsRead]

theorem FirstFault.congr {others : List (Key × Value)} {fault : Fault}
    (faulty : FirstFault read entries fault keys)
    (same : ∀ key ∈ keys, effective entries key = effective others key) :
    FirstFault read others fault keys := by
  induction faulty with
  | here raises =>
    rw [same _ List.mem_cons_self] at raises
    exact .here raises
  | later isRead _ inductionHypothesis =>
    rw [IsRead, same _ List.mem_cons_self] at isRead
    exact .later isRead (inductionHypothesis fun key member =>
      same key (List.mem_cons_of_mem _ member))

theorem FirstFault.exists_raise {fault : Fault} (faulty : FirstFault read entries fault keys) :
    ∃ key ∈ keys, read key (effective entries key) = .error fault := by
  induction faulty with
  | here raises => exact ⟨_, List.mem_cons_self, raises⟩
  | later _ _ inductionHypothesis =>
    obtain ⟨key, member, raises⟩ := inductionHypothesis
    exact ⟨key, List.mem_cons_of_mem _ member, raises⟩

/-- Replacing settings ends with a fault if and only if the first one that cannot be read raises
it. -/
theorem withEach_error_iff {fault : Fault} (distinct : keys.Nodup) :
    withEach read make entries keys = .error fault ↔ FirstFault read entries fault keys := by
  induction keys generalizing entries with
  | nil =>
    constructor <;> intro absurdity <;> cases absurdity
  | cons key keys inductionHypothesis =>
    obtain ⟨fresh, distinct⟩ := List.nodup_cons.mp distinct
    cases here : read key (effective entries key) with
    | error raised =>
      rw [withEach_of_error here, Except.error.injEq]
      constructor
      · rintro rfl
        exact .here here
      · rintro (⟨raises⟩ | ⟨isRead, -⟩)
        · exact Except.error.inj (here.symm.trans raises)
        · simp [IsRead, here, Except.isOk, Except.toBool] at isRead
    | ok a =>
      -- The keys that follow are others, so for them this setting makes no difference.
      have same (other : String) (member : other ∈ keys) :
          effective (setEntry key (make a) entries) other = effective entries other :=
        effective_setEntry_of_ne (ne_of_mem_of_not_mem member fresh) _ _
      rw [withEach_of_ok here, inductionHypothesis distinct]
      constructor
      · intro faulty
        exact .later (isRead_of_ok here) (faulty.congr same)
      · rintro (⟨raises⟩ | ⟨-, faulty⟩)
        · cases here.symm.trans raises
        · exact faulty.congr fun other member => (same other member).symm

end Each

theorem withBooleans_eq (entries : List (Key × Value)) (keys : List String) :
    withBooleans entries keys = withEach toBoolean .bool entries keys := rfl

theorem withIntegers_eq (entries : List (Key × Value)) (keys : List String) :
    withIntegers entries keys = withEach toWhole .int entries keys := rfl

end AccessSync.Configuration
