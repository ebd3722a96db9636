import AccessSync.Proofs.RoleIndex
import Mathlib.Data.List.Infix

/-!
# Patterns of operations

An asterisk in the name of an operation stands for any text.  A role that permits a pattern permits
all operations that the pattern covers, wherever the asterisk is.  The map of actions looks for an
asterisk in a few places only: alone, before a last segment, and after its own scope.  What it says
of a pattern with the asterisk there is what the pattern covers; any other pattern gives nothing,
and takes nothing back.
-/

namespace AccessSync

/-! ## Covering -/

def covers : List Char → List Char → Bool
  | [], text => text.isEmpty
  | c :: pattern, text =>
    if c = '*' then text.tails.any (covers pattern)
    else match text with
      | [] => false
      | first :: rest => c == first && covers pattern rest

section Covering

variable {pattern text : List Char}

theorem covers_asterisk :
    covers ('*' :: pattern) text = true ↔
      ∃ skipped rest, skipped ++ rest = text ∧ covers pattern rest = true := by
  simp only [covers, if_true, List.any_eq_true, List.mem_tails]
  constructor
  · rintro ⟨rest, ⟨skipped, same⟩, covered⟩
    exact ⟨skipped, rest, same, covered⟩
  · rintro ⟨skipped, rest, same, covered⟩
    exact ⟨rest, ⟨skipped, same⟩, covered⟩

/-- Without an asterisk a pattern stands for itself at the start of a text. -/
theorem covers_append {start : List Char} (literal : '*' ∉ start) :
    covers (start ++ pattern) text = true ↔
      ∃ rest, start ++ rest = text ∧ covers pattern rest = true := by
  induction start generalizing text with
  | nil => simp
  | cons c start inductionHypothesis =>
    simp only [List.mem_cons, not_or] at literal
    cases text with
    | nil => simp [covers, Ne.symm literal.1]
    | cons first text =>
      simp only [List.cons_append, covers, if_neg (Ne.symm literal.1), Bool.and_eq_true, beq_iff_eq,
        inductionHypothesis literal.2, List.cons.injEq]
      grind

theorem covers_literal (literal : '*' ∉ pattern) : covers pattern text = true ↔ pattern = text := by
  have whole : covers (pattern ++ []) text = true ↔ _ := covers_append literal
  simpa [covers] using whole

theorem covers_everything (text : List Char) : covers ['*'] text = true :=
  covers_asterisk.mpr ⟨text, [], by simp, rfl⟩

end Covering

/-- What follows the last occurrence of a character is determined. -/
theorem after_last_eq {c : Char} {before other after rest : List Char}
    (same : before ++ c :: after = other ++ c :: rest) (last : c ∉ after) (likewise : c ∉ rest) :
    after = rest := by
  induction before generalizing other with
  | nil =>
    cases other with
    | nil => simpa using same
    | cons d other =>
      simp only [List.nil_append, List.cons_append, List.cons.injEq] at same
      rw [same.2] at last
      simp at last
  | cons d before inductionHypothesis =>
    cases other with
    | nil =>
      simp only [List.nil_append, List.cons_append, List.cons.injEq] at same
      rw [← same.2] at likewise
      simp at likewise
    | cons e other =>
      simp only [List.cons_append, List.cons.injEq] at same
      exact inductionHypothesis same.2

namespace ActionMap

variable {m : ActionMap} {pattern action : String}

/-- The scope ends a segment, the actions are single segments, and none of them is a pattern. -/
structure Literal (m : ActionMap) : Prop where
  closed : ∃ above, m.scope.toList = above ++ ['/']
  scope : '*' ∉ m.scope.toList
  action : ∀ action ∈ m.exposed, '*' ∉ action.toList ∧ '/' ∉ action.toList

theorem literal_storageAccount : storageAccount.Literal :=
  ⟨⟨"Microsoft.Storage/storageAccounts".toList, by decide⟩, by decide, by decide⟩

theorem literal_container : container.Literal :=
  ⟨⟨"Microsoft.Storage/storageAccounts/blobServices/containers".toList, by decide⟩, by decide,
    by decide⟩

/-- The pattern has an asterisk, if any, where the map looks for one. -/
def Understood (m : ActionMap) (pattern : String) : Prop :=
  '*' ∉ pattern.toList ∨ pattern = "*" ∨ pattern = m.scope ++ "*" ∨
    ∃ action, pattern = "*/" ++ action ∧ '*' ∉ action.toList ∧ '/' ∉ action.toList

/-- The pattern covers the operation of an action. -/
def Covers (m : ActionMap) (pattern action : String) : Prop :=
  covers pattern.toList (m.scope ++ action).toList = true

instance : Decidable (m.Covers pattern action) :=
  inferInstanceAs (Decidable (covers _ _ = true))

/-! ## One pattern -/

theorem covered?_asterisk : m.covered? "*" = some m.exposed := by
  simp [covered?]

theorem covered?_segment (exposed : action ∈ m.exposed) :
    m.covered? ("*/" ++ action) = some [action] := by
  have longer : "*/" ++ action ≠ "*" := by
    intro same
    have lists := congrArg String.toList same
    simp at lists
  have rest : String.ofList (("*/" ++ action).toList.drop 2) = action := by simp
  have starts : ['*', '/'].isPrefixOf ("*/" ++ action).toList = true := by simp
  simp only [covered?, if_neg longer, starts, if_true, rest]
  simp [exposed]

theorem not_segment (literal : m.Literal) (rest : String) :
    m.scope ++ rest ≠ "*" ∧ ['*', '/'].isPrefixOf (m.scope ++ rest).toList = false := by
  obtain ⟨above, ends⟩ := literal.closed
  have plain := literal.scope
  -- The scope has a first character, and it is no asterisk.
  cases characters : m.scope.toList with
  | nil => simp [characters] at ends
  | cons first others =>
    have different : '*' ≠ first := by
      intro same
      simp [characters, ← same] at plain
    constructor
    · intro same
      have lists := congrArg String.toList same
      simp only [String.toList_append, characters, List.cons_append] at lists
      exact different (List.cons.inj lists).1.symm
    · simp [characters, List.isPrefixOf, different]

theorem covered?_within (literal : m.Literal) (rest : String) :
    m.covered? (m.scope ++ rest) =
      if rest = "*" then some m.exposed else if rest ∈ m.exposed then some [rest] else none := by
  obtain ⟨longer, elsewhere⟩ := not_segment literal rest
  have starts : m.scope.toList.isPrefixOf (m.scope ++ rest).toList = true := by simp
  have dropped : String.ofList ((m.scope ++ rest).toList.drop m.scope.toList.length) = rest := by
    simp
  simp only [covered?, if_neg longer, elsewhere, starts, dropped]
  simp

/-- An action that a pattern gives is exposed, and its operation is covered by the pattern. -/
theorem covers_of_covered (literal : m.Literal)
    (given : action ∈ (m.covered? pattern).getD []) :
    action ∈ m.exposed ∧ m.Understood pattern ∧ m.Covers pattern action := by
  obtain ⟨above, ends⟩ := literal.closed
  by_cases everything : pattern = "*"
  · subst everything
    rw [covered?_asterisk] at given
    exact ⟨given, .inr (.inl rfl), covers_everything _⟩
  by_cases segment : ['*', '/'].isPrefixOf pattern.toList = true
  · obtain ⟨rest, characters⟩ := List.isPrefixOf_iff_prefix.mp segment
    obtain rfl : pattern = "*/" ++ String.ofList rest := by
      apply String.toList_inj.mp
      simp [← characters]
    -- Nothing but the last segment itself can be given here.
    have named : String.ofList rest = action ∧ action ∈ m.exposed := by
      by_cases exposed : String.ofList rest ∈ m.exposed
      · rw [covered?_segment exposed] at given
        obtain rfl : action = String.ofList rest := by simpa using given
        exact ⟨rfl, exposed⟩
      · simp [covered?, everything, exposed] at given
    obtain ⟨rfl, exposed⟩ := named
    obtain ⟨star, slash⟩ := literal.action _ exposed
    refine ⟨exposed, .inr (.inr (.inr ⟨_, rfl, star, slash⟩)), ?_⟩
    have whole : covers ('*' :: '/' :: rest) (above ++ '/' :: rest) = true := by
      refine covers_asterisk.mpr ⟨above, '/' :: rest, rfl, ?_⟩
      exact (covers_literal (by simpa using star)).mpr rfl
    simpa [Covers, ends] using whole
  by_cases within : m.scope.toList.isPrefixOf pattern.toList = true
  · obtain ⟨rest, characters⟩ := List.isPrefixOf_iff_prefix.mp within
    obtain rfl : pattern = m.scope ++ String.ofList rest := by
      apply String.toList_inj.mp
      simp [← characters]
    rw [covered?_within literal] at given
    split at given
    next whole =>
      rw [whole]
      refine ⟨given, .inr (.inr (.inl rfl)), ?_⟩
      rw [Covers, String.toList_append, String.toList_append]
      exact (covers_append literal.scope).mpr ⟨_, rfl, covers_everything _⟩
    next =>
      split at given
      next exposed =>
        obtain rfl : action = String.ofList rest := by simpa using given
        have plain : '*' ∉ (m.scope ++ String.ofList rest).toList := by
          rw [String.toList_append, List.mem_append, not_or]
          exact ⟨literal.scope, (literal.action _ exposed).1⟩
        exact ⟨exposed, .inl plain, (covers_literal plain).mpr rfl⟩
      next => simp at given
  · simp [covered?, everything, segment, within] at given

theorem covered_of_covers (literal : m.Literal) (exposed : action ∈ m.exposed)
    (understood : m.Understood pattern) (covered : m.Covers pattern action) :
    action ∈ (m.covered? pattern).getD [] := by
  obtain ⟨star, slash⟩ := literal.action action exposed
  obtain plain | rfl | rfl | ⟨rest, rfl, plain, single⟩ := understood
  · have same := String.toList_inj.mp ((covers_literal plain).mp covered)
    have other : action ≠ "*" := by
      rintro rfl
      simp at star
    rw [same, covered?_within literal, if_neg other, if_pos exposed]
    simp
  · rw [covered?_asterisk]
    exact exposed
  · rw [covered?_within literal, if_pos rfl]
    exact exposed
  · obtain ⟨above, ends⟩ := literal.closed
    have whole : covers ('*' :: '/' :: rest.toList) (above ++ '/' :: action.toList) = true := by
      simpa [Covers, ends] using covered
    obtain ⟨skipped, tail, split, segment⟩ := covers_asterisk.mp whole
    obtain rfl := (covers_literal (by simpa using plain)).mp segment
    have same := String.toList_inj.mp (after_last_eq split single slash)
    rw [same, covered?_segment exposed]
    simp

/-- What the map says of a pattern is what the pattern covers, where the pattern is understood. -/
theorem mem_covered?_iff (literal : m.Literal) :
    action ∈ (m.covered? pattern).getD [] ↔
      action ∈ m.exposed ∧ m.Understood pattern ∧ m.Covers pattern action :=
  ⟨covers_of_covered literal, fun ⟨exposed, understood, covered⟩ =>
    covered_of_covers literal exposed understood covered⟩

theorem mem_coveredBy_iff (literal : m.Literal) {patterns : List String} :
    action ∈ m.coveredBy patterns ↔
      action ∈ m.exposed ∧
        ∃ pattern ∈ patterns, m.Understood pattern ∧ m.Covers pattern action := by
  simp only [coveredBy, List.mem_flatMap, mem_covered?_iff literal]
  grind

/-! ## Blocks of patterns -/

/-- The actions that a storage account or a container is said to give stand in ascending order, and
they are those that some permitted pattern covers and no excluded one.  Only patterns that are
understood count, the excluded ones too. -/
theorem mem_ofPermissions_iff {m : ActionMap} (shipped : m ∈ [storageAccount, container])
    (blocks : List Permission) :
    (m.ofPermissions blocks).Pairwise (· < ·) ∧
      ∀ action, action ∈ m.ofPermissions blocks ↔ action ∈ m.exposed ∧
        (∃ pattern ∈ blocks.flatMap Permission.actions,
          m.Understood pattern ∧ m.Covers pattern action) ∧
        ∀ pattern ∈ blocks.flatMap Permission.notActions,
          m.Understood pattern → ¬ m.Covers pattern action := by
  have literal : m.Literal := by
    simp only [List.mem_cons, List.not_mem_nil, or_false] at shipped
    obtain rfl | rfl := shipped
    · exact literal_storageAccount
    · exact literal_container
  refine ⟨strict_ofPermissions m blocks, fun action => ?_⟩
  have taken : action ∈ m.ofPermissions blocks ↔
      action ∈ m.coveredBy (blocks.flatMap Permission.actions) ∧
        action ∉ m.coveredBy (blocks.flatMap Permission.notActions) := by
    simp [ofPermissions, mem_ascending, List.mem_eraseDups]
  rw [taken, mem_coveredBy_iff literal, mem_coveredBy_iff literal]
  grind

/-- Reading everywhere and everything in containers, without deletion.  What is permitted and
excluded for the whole of the storage services has its asterisk where nobody looks for it. -/
def mixedBlocks : List Permission := [
  ⟨["*/read", "Microsoft.Storage/*"], ["Microsoft.Storage/*/write"]⟩,
  ⟨[container.scope ++ "*"], [container.scope ++ "delete"]⟩]

theorem mem_ofPermissions_iff_mixedBlocks :
    container ∈ [storageAccount, container] ∧ "write" ∈ container.ofPermissions mixedBlocks ∧
      "delete" ∉ container.ofPermissions mixedBlocks := by
  have shipped : container ∈ [storageAccount, container] := by simp
  obtain ⟨-, given⟩ := mem_ofPermissions_iff shipped mixedBlocks
  have permitted : container.scope ++ "*" ∈ mixedBlocks.flatMap Permission.actions := by
    simp [mixedBlocks]
  refine ⟨shipped, (given "write").mpr ⟨by decide, ?_, ?_⟩, fun member => ?_⟩
  · exact ⟨_, permitted, .inr (.inr (.inl rfl)), by decide +kernel⟩
  · intro pattern excluded understood
    simp only [mixedBlocks, List.flatMap_cons, List.flatMap_nil, List.mem_append, List.mem_cons,
      List.not_mem_nil, or_false] at excluded
    obtain rfl | rfl := excluded
    -- The first of the exclusions does cover writing, but it is not understood.
    · obtain plain | same | same | ⟨segment, same, -⟩ := understood
      · exact absurd (by decide) plain
      · exact absurd same (by decide)
      · exact absurd same (by decide +kernel)
      · have characters := congrArg String.toList same
        simp at characters
    · decide +kernel
  · have taken : container.scope ++ "delete" ∈ mixedBlocks.flatMap Permission.notActions := by
      simp [mixedBlocks]
    exact ((given "delete").mp member).2.2 _ taken (.inl (by decide)) (by decide +kernel)

/-- A pattern with its asterisk above the scope covers every operation of the scope, and gives no
action. -/
theorem exists_covered_not_given :
    ∃ m ∈ [storageAccount, container], ∃ blocks, ∃ action,
      ¬ (action ∈ m.ofPermissions blocks ↔ action ∈ m.exposed ∧
        (∃ pattern ∈ blocks.flatMap Permission.actions, m.Covers pattern action) ∧
        ∀ pattern ∈ blocks.flatMap Permission.notActions, ¬ m.Covers pattern action) := by
  refine ⟨storageAccount, by simp, [⟨["Microsoft.Storage/*"], []⟩], "read", fun exact => ?_⟩
  have covered : storageAccount.Covers "Microsoft.Storage/*" "read" := by decide +kernel
  have given := exact.mpr ⟨by decide, ⟨_, by simp, covered⟩, by simp⟩
  revert given
  decide +kernel

end ActionMap

end AccessSync
