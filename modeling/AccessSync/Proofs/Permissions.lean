import AccessSync.Proofs.RoleIndex
import Mathlib.Data.List.Sort

/-!
# Blocks of permissions

A role definition states its permissions in blocks, and the blocks are a matter of writing only.
What a role gives is a matter of two sets, the operations that some block permits and the operations
that some block excludes: more of the former give more, more of the latter give less.
-/

namespace AccessSync

/-! ## Lists in strictly ascending order -/

section Ascending

variable {texts others : List String}

/-- An ascending list with elements of another one only is the other one with some elements left
out. -/
theorem sublist_of_ascending (strict : texts.Pairwise (· < ·)) (strict' : others.Pairwise (· < ·))
    (within : texts ⊆ others) : texts.Sublist others := by
  have antisymmetric : Std.Antisymm (α := String) (· < ·) :=
    ⟨fun _ _ less more => absurd more (String.lt_asymm less)⟩
  have subperm : texts.Subperm others := List.subperm_of_subset (nodup_of_ascending strict) within
  exact List.sublist_of_subperm_of_pairwise subperm strict strict'

/-- What is in an ascending list determines the list. -/
theorem eq_of_ascending (strict : texts.Pairwise (· < ·)) (strict' : others.Pairwise (· < ·))
    (same : ∀ text, text ∈ texts ↔ text ∈ others) : texts = others := by
  have within := sublist_of_ascending strict strict' fun text => (same text).mp
  have around := sublist_of_ascending strict' strict fun text => (same text).mpr
  exact within.antisymm around

end Ascending

/-! ## What the blocks say together -/

def Permits (blocks : List Permission) (operation : String) : Prop :=
  ∃ block ∈ blocks, operation ∈ block.actions

def Excludes (blocks : List Permission) (operation : String) : Prop :=
  ∃ block ∈ blocks, operation ∈ block.notActions

/-- The blocks permit the same operations and exclude the same operations. -/
def SaySame (blocks others : List Permission) : Prop :=
  ∀ operation, (Permits blocks operation ↔ Permits others operation) ∧
    (Excludes blocks operation ↔ Excludes others operation)

/-- The block says what the two parts say, and no more. -/
structure Permission.Parts (whole part other : Permission) : Prop where
  actions : ∀ operation, operation ∈ whole.actions ↔
    operation ∈ part.actions ∨ operation ∈ other.actions
  notActions : ∀ operation, operation ∈ whole.notActions ↔
    operation ∈ part.notActions ∨ operation ∈ other.notActions

/-- The same permissions in other blocks: in another order, repeated, put together or taken
apart. -/
inductive Regrouped : List Permission → List Permission → Prop where
  | permuted {blocks others : List Permission} (permutation : blocks.Perm others) :
      Regrouped blocks others
  | repeated (block : Permission) (blocks : List Permission) :
      Regrouped (block :: blocks) (block :: block :: blocks)
  | merged {whole part other : Permission} (parts : whole.Parts part other)
      (blocks : List Permission) : Regrouped (part :: other :: blocks) (whole :: blocks)
  | symm {blocks others : List Permission} (regrouped : Regrouped blocks others) :
      Regrouped others blocks
  | trans {blocks others last : List Permission} (first : Regrouped blocks others)
      (second : Regrouped others last) : Regrouped blocks last

theorem permits_iff_mem_flatMap {blocks : List Permission} {operation : String} :
    operation ∈ blocks.flatMap Permission.actions ↔ Permits blocks operation := List.mem_flatMap

theorem excludes_iff_mem_flatMap {blocks : List Permission} {operation : String} :
    operation ∈ blocks.flatMap Permission.notActions ↔ Excludes blocks operation :=
  List.mem_flatMap

/-- By induction on the regrouping: each way to regroup moves operations between blocks only. -/
theorem Regrouped.saySame {blocks others : List Permission} (regrouped : Regrouped blocks others) :
    SaySame blocks others := by
  induction regrouped with
  | permuted permutation => simp [SaySame, Permits, Excludes, permutation.mem_iff]
  | repeated block blocks => simp [SaySame, Permits, Excludes]
  | merged parts blocks =>
    simp [SaySame, Permits, Excludes, parts.actions, parts.notActions, or_assoc]
  | symm _ inductionHypothesis =>
    exact fun operation => ⟨(inductionHypothesis operation).1.symm,
      (inductionHypothesis operation).2.symm⟩
  | trans _ _ first second =>
    exact fun operation => ⟨(first operation).1.trans (second operation).1,
      (first operation).2.trans (second operation).2⟩

namespace ActionMap

variable (m : ActionMap) {blocks others : List Permission} {action : String}

/-- The map takes the operation to the action, alone or among others. -/
def Maps (operation action : String) : Prop := action ∈ (m.covered? operation).getD []

instance (operation action : String) : Decidable (m.Maps operation action) :=
  inferInstanceAs (Decidable (action ∈ _))

theorem exposed_of_maps {m : ActionMap} {operation : String} (maps : m.Maps operation action) :
    action ∈ m.exposed := by
  unfold Maps covered? at maps
  grind

/-- An action is given if a permitted operation maps to it and no excluded one does. -/
theorem mem_ofPermissions :
    action ∈ m.ofPermissions blocks ↔
      (∃ operation, Permits blocks operation ∧ m.Maps operation action) ∧
        ∀ operation, Excludes blocks operation → ¬ m.Maps operation action := by
  have mem_coveredBy (operations : List String) :
      action ∈ m.coveredBy operations ↔ ∃ operation ∈ operations, m.Maps operation action :=
    List.mem_flatMap
  simp only [ofPermissions, mem_ascending, List.mem_eraseDups, List.mem_filter, mem_coveredBy,
    permits_iff_mem_flatMap, List.contains_eq_mem, Bool.not_eq_true', decide_eq_false_iff_not,
    excludes_iff_mem_flatMap, not_exists, not_and]

/-- Where no less is permitted and no more is excluded, no action is lost. -/
theorem ofPermissions_subset
    (permitted : ∀ operation, Permits blocks operation → Permits others operation)
    (excluded : ∀ operation, Excludes others operation → Excludes blocks operation) :
    m.ofPermissions blocks ⊆ m.ofPermissions others := by
  intro action given
  rw [mem_ofPermissions] at given ⊢
  obtain ⟨⟨operation, permits, maps⟩, kept⟩ := given
  exact ⟨⟨operation, permitted operation permits, maps⟩, fun other excludes =>
    kept other (excluded other excludes)⟩

/-- Blocks that say the same give the same list. -/
theorem ofPermissions_eq_of_saySame (same : SaySame blocks others) :
    m.ofPermissions blocks = m.ofPermissions others := by
  have within : m.ofPermissions blocks ⊆ m.ofPermissions others :=
    m.ofPermissions_subset (fun operation => (same operation).1.mp) fun operation =>
      (same operation).2.mpr
  have around : m.ofPermissions others ⊆ m.ofPermissions blocks :=
    m.ofPermissions_subset (fun operation => (same operation).1.mpr) fun operation =>
      (same operation).2.mp
  exact eq_of_ascending (strict_ofPermissions m blocks) (strict_ofPermissions m others)
    fun action => ⟨fun given => within given, fun given => around given⟩

/-- For any map, what blocks of permissions give is a list of exposed actions in strictly ascending
order: of those that a permitted operation maps to, the ones that no excluded operation maps to.  It
is a matter of the permitted and of the excluded operations alone, so it is the same however the
blocks are regrouped; and if more is permitted or less is excluded, it is what it was, with actions
put in between. -/
theorem ofPermissions_by_operations (m : ActionMap) (blocks : List Permission) :
    (m.ofPermissions blocks).Pairwise (· < ·) ∧
      (∀ action, action ∈ m.ofPermissions blocks ↔
        (∃ operation, Permits blocks operation ∧ m.Maps operation action) ∧
          ∀ operation, Excludes blocks operation → ¬ m.Maps operation action) ∧
      (∀ action ∈ m.ofPermissions blocks, action ∈ m.exposed) ∧
      ∀ others, (SaySame blocks others → m.ofPermissions blocks = m.ofPermissions others) ∧
        (Regrouped blocks others → m.ofPermissions blocks = m.ofPermissions others) ∧
        ((∀ operation, Permits blocks operation → Permits others operation) →
          (∀ operation, Excludes others operation → Excludes blocks operation) →
          (m.ofPermissions blocks).Sublist (m.ofPermissions others)) := by
  refine ⟨strict_ofPermissions m blocks, fun _ => m.mem_ofPermissions, fun action given => ?_,
    fun others => ⟨?saySame, ?regrouped, ?more⟩⟩
  · obtain ⟨⟨operation, -, maps⟩, -⟩ := m.mem_ofPermissions.mp given
    exact exposed_of_maps maps
  case saySame => exact m.ofPermissions_eq_of_saySame
  case regrouped => exact fun regrouped => m.ofPermissions_eq_of_saySame regrouped.saySame
  case more =>
    intro permitted excluded
    exact sublist_of_ascending (strict_ofPermissions m blocks) (strict_ofPermissions m others)
      (m.ofPermissions_subset permitted excluded)

def readBlock : Permission := ⟨["*/read"], []⟩

/-- Everything in storage accounts, without deletion. -/
def editBlock : Permission :=
  ⟨[storageAccount.scope ++ "*"], [storageAccount.scope ++ "delete"]⟩

/-- Both, in one block and in another order. -/
def readEditBlock : Permission :=
  ⟨[storageAccount.scope ++ "*", "*/read"], [storageAccount.scope ++ "delete"]⟩

theorem ofPermissions_by_operations_readEdit :
    Regrouped [readBlock, editBlock] [readEditBlock] ∧
      storageAccount.ofPermissions [readBlock, editBlock] =
        storageAccount.ofPermissions [readEditBlock] ∧
      (storageAccount.ofPermissions [editBlock]).Sublist
        (storageAccount.ofPermissions [readBlock, editBlock]) ∧
      "write" ∈ storageAccount.ofPermissions [editBlock] ∧
      "delete" ∉ storageAccount.ofPermissions [readBlock, editBlock] := by
  obtain ⟨-, given, -, other⟩ := ofPermissions_by_operations storageAccount [editBlock]
  obtain ⟨-, permitted, -, regroup⟩ :=
    ofPermissions_by_operations storageAccount [readBlock, editBlock]
  have parts : readEditBlock.Parts readBlock editBlock := by
    constructor <;> simp [readEditBlock, readBlock, editBlock, or_comm]
  have regrouped : Regrouped [readBlock, editBlock] [readEditBlock] := .merged parts []
  refine ⟨regrouped, (regroup _).2.1 regrouped, (other _).2.2 ?_ ?_, (given "write").mpr ?_,
    fun member => ((permitted "delete").mp member).2 (storageAccount.scope ++ "delete") ?_ ?_⟩
  · simp only [Permits, List.mem_cons, List.not_mem_nil, or_false, exists_eq_or_imp]
    exact fun operation edited => .inr edited
  · simp [Excludes, readBlock]
  · simp only [Permits, Excludes, editBlock, List.mem_singleton, exists_eq_left, forall_eq]
    decide
  · simp [Excludes, editBlock]
  · decide

end ActionMap

end AccessSync
