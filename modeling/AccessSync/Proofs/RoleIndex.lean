import AccessSync.RoleIndex

/-!
# Assignments filed by role

An index lists each role once, in order of its first assignment, and under it the assignments of the
role in the order of the service.  So what the index says of a role can be read off the list that it
was filed from, and the roles can be handed out in strictly ascending order.
-/

namespace AccessSync

/-! ## Texts in ascending order -/

namespace ActionMap

theorem nodup_eraseDups (texts : List String) : texts.eraseDups.Nodup := by
  induction size : texts.length using Nat.strongRecOn generalizing texts with
  | ind size inductionHypothesis =>
    cases texts with
    | nil => simp
    | cons text texts =>
      rw [List.eraseDups_cons, List.nodup_cons]
      refine ⟨by simp [List.mem_eraseDups], ?_⟩
      have shorter := List.length_filter_le (fun other => !other == text) texts
      exact inductionHypothesis _ (by simp at size; omega) _ rfl

theorem mem_ascending {text : String} {texts : List String} :
    text ∈ ascending texts ↔ text ∈ texts := List.mem_mergeSort

/-- Texts of which no two are the same stand in strictly ascending order. -/
theorem strict_ascending {texts : List String} (distinct : texts.Nodup) :
    (ascending texts).Pairwise (· < ·) := by
  have sorted : (ascending texts).Pairwise (· ≤ ·) := by
    have trans (a b c : String) (first : decide (a ≤ b) = true) (second : decide (b ≤ c) = true) :
        decide (a ≤ c) = true :=
      decide_eq_true (String.le_trans (of_decide_eq_true first) (of_decide_eq_true second))
    have total (a b : String) : (decide (a ≤ b) || decide (b ≤ a)) = true := by
      simpa using String.le_total a b
    exact (List.pairwise_mergeSort trans total texts).imp of_decide_eq_true
  -- Sorting gives the weak order only; that no text comes twice makes it strict.
  have different : (ascending texts).Nodup :=
    (List.mergeSort_perm texts _).nodup_iff.mpr distinct
  refine (sorted.and different).imp fun {a b} both => String.not_le.mp fun back => ?_
  exact both.2 (String.le_antisymm both.1 back)

/-- The actions that permissions give are each named once, in ascending order. -/
theorem strict_ofPermissions (m : ActionMap) (blocks : List Permission) :
    (m.ofPermissions blocks).Pairwise (· < ·) :=
  strict_ascending (nodup_eraseDups _)

end ActionMap

theorem nodup_of_ascending {texts : List String} (strict : texts.Pairwise (· < ·)) :
    texts.Nodup := by
  refine strict.imp fun {a b} less same => ?_
  subst same
  exact String.not_le.mpr less (String.le_refl a)

/-! ## Filing -/

/-- The role that an assignment names, if it is well-formed. -/
def RoleAssignment.role (a : RoleAssignment) : String :=
  (roleOfDefinitionId a.roleDefinitionId).toOption.getD ""

namespace AssignmentsByRole

/-- The index that a list of assignments is filed in. -/
def filed (assignments : List RoleAssignment) : AssignmentsByRole :=
  assignments.foldl (fun index a => index.add a.role a) []

variable {role other : String} {a : RoleAssignment} {index : AssignmentsByRole}

theorem ofRole_add (role : String) (a : RoleAssignment) (index : AssignmentsByRole) :
    (index.add role a).ofRole role = index.ofRole role ++ [a] := by
  -- On the entries: the assignment goes to the first one of its role, or makes a last one.
  induction index with
  | nil => simp [add, ofRole]
  | cons entry index inductionHypothesis =>
    obtain ⟨first, assignments⟩ := entry
    by_cases same : first = role
    · subst same
      simp [add, ofRole]
    · have skipped : (role == first) = false := beq_eq_false_iff_ne.mpr fun e => same e.symm
      simp only [ofRole] at inductionHypothesis ⊢
      simp [add, same, List.lookup_cons, skipped, inductionHypothesis]

theorem ofRole_add_of_ne (different : other ≠ role) (a : RoleAssignment)
    (index : AssignmentsByRole) : (index.add role a).ofRole other = index.ofRole other := by
  induction index with
  | nil => simp [add, ofRole, List.lookup_cons, beq_eq_false_iff_ne.mpr different]
  | cons entry index inductionHypothesis =>
    obtain ⟨first, assignments⟩ := entry
    by_cases same : first = role
    · subst same
      simp [add, ofRole, List.lookup_cons, beq_eq_false_iff_ne.mpr different]
    · simp only [ofRole] at inductionHypothesis ⊢
      simp only [add, same, if_false, List.lookup_cons]
      cases other == first with
      | true => rfl
      | false => exact inductionHypothesis

theorem keys_add (role : String) (a : RoleAssignment) (index : AssignmentsByRole) :
    (index.add role a).map Prod.fst =
      if role ∈ index.map Prod.fst then index.map Prod.fst else index.map Prod.fst ++ [role] := by
  induction index with
  | nil => rfl
  | cons entry index inductionHypothesis =>
    obtain ⟨first, assignments⟩ := entry
    by_cases same : first = role
    · subst same
      simp [add]
    · have later : role ∈ first :: index.map Prod.fst ↔ role ∈ index.map Prod.fst :=
        List.mem_cons.trans (or_iff_right fun e => same e.symm)
      simp only [add, same, if_false, List.map_cons, later]
      rw [inductionHypothesis]
      split <;> rfl

theorem mem_keys_add :
    other ∈ (index.add role a).map Prod.fst ↔ other ∈ index.map Prod.fst ∨ other = role := by
  rw [keys_add]
  split
  next known =>
    refine ⟨.inl, ?_⟩
    rintro (found | rfl)
    · exact found
    · exact known
  next => simp

theorem nodup_keys_add (distinct : (index.map Prod.fst).Nodup) :
    ((index.add role a).map Prod.fst).Nodup := by
  rw [keys_add]
  split
  next => exact distinct
  next fresh =>
    refine List.nodup_append.mpr ⟨distinct, by simp, ?_⟩
    rintro known member _ last rfl
    rw [List.mem_singleton.mp last] at member
    exact fresh member

/-! ## Reading a filed list -/

theorem ofRole_foldl (assignments : List RoleAssignment) (index : AssignmentsByRole)
    (role : String) :
    (assignments.foldl (fun index a => index.add a.role a) index).ofRole role =
      index.ofRole role ++ assignments.filter (·.role == role) := by
  -- From any index, as filing goes on from what is filed already.
  induction assignments generalizing index with
  | nil => simp
  | cons a assignments inductionHypothesis =>
    rw [List.foldl_cons, inductionHypothesis]
    by_cases same : a.role = role
    · subst same
      simp [ofRole_add]
    · simp [ofRole_add_of_ne (fun e : role = a.role => same e.symm), same]

/-- The index holds under a role the assignments of the role in their order. -/
theorem ofRole_filed (assignments : List RoleAssignment) (role : String) :
    (filed assignments).ofRole role = assignments.filter (·.role == role) := by
  rw [filed, ofRole_foldl]
  rfl

theorem head?_ofRole_filed (assignments : List RoleAssignment) (role : String) :
    ((filed assignments).ofRole role).head? = assignments.find? (·.role == role) := by
  rw [ofRole_filed, List.head?_filter]

theorem mem_keys_foldl {assignments : List RoleAssignment} {index : AssignmentsByRole} :
    role ∈ (assignments.foldl (fun index a => index.add a.role a) index).map Prod.fst ↔
      role ∈ index.map Prod.fst ∨ ∃ a ∈ assignments, a.role = role := by
  induction assignments generalizing index with
  | nil => simp
  | cons a assignments inductionHypothesis =>
    rw [List.foldl_cons, inductionHypothesis, mem_keys_add]
    simp [or_assoc, eq_comm]

theorem nodup_keys_foldl (assignments : List RoleAssignment) {index : AssignmentsByRole}
    (distinct : (index.map Prod.fst).Nodup) :
    ((assignments.foldl (fun index a => index.add a.role a) index).map Prod.fst).Nodup := by
  induction assignments generalizing index with
  | nil => exact distinct
  | cons a assignments inductionHypothesis => exact inductionHypothesis (nodup_keys_add distinct)

/-- The roles of the index are those that the assignments name. -/
theorem mem_roles_filed {assignments : List RoleAssignment} :
    role ∈ (filed assignments).roles ↔ ∃ a ∈ assignments, a.role = role := by
  rw [roles, ActionMap.mem_ascending, filed, mem_keys_foldl]
  simp

/-- The roles of the index are handed out in strictly ascending order. -/
theorem strict_roles_filed (assignments : List RoleAssignment) :
    (filed assignments).roles.Pairwise (· < ·) :=
  ActionMap.strict_ascending (nodup_keys_foldl assignments (by simp))

theorem perm_flatMap_add (role : String) (a : RoleAssignment) (index : AssignmentsByRole) :
    ((index.add role a).flatMap Prod.snd).Perm (index.flatMap Prod.snd ++ [a]) := by
  induction index with
  | nil => exact .refl _
  | cons entry index inductionHypothesis =>
    obtain ⟨first, assignments⟩ := entry
    by_cases same : first = role
    · simp only [add, same, if_true, List.flatMap_cons, List.append_assoc]
      exact (List.perm_append_comm).append_left assignments
    · simp only [add, same, if_false, List.flatMap_cons, List.append_assoc]
      exact inductionHypothesis.append_left assignments

/-- The lists of all roles together are the assignments in another order. -/
theorem perm_flatMap_filed (assignments : List RoleAssignment) :
    ((filed assignments).flatMap Prod.snd).Perm assignments := by
  have filing (index : AssignmentsByRole) :
      ((assignments.foldl (fun index a => index.add a.role a) index).flatMap Prod.snd).Perm
        (index.flatMap Prod.snd ++ assignments) := by
    induction assignments generalizing index with
    | nil => simp
    | cons a assignments inductionHypothesis =>
      refine (inductionHypothesis (index.add a.role a)).trans ?_
      rw [List.append_cons]
      exact (perm_flatMap_add a.role a index).append_right assignments
  exact filing []

theorem length_add_le (role : String) (a : RoleAssignment) (index : AssignmentsByRole) :
    (index.add role a).length ≤ index.length + 1 := by
  have keys := congrArg List.length (keys_add role a index)
  rw [List.length_map] at keys
  rw [keys]
  split <;> simp

/-- There are no more roles than assignments. -/
theorem length_roles_filed_le (assignments : List RoleAssignment) :
    (filed assignments).roles.length ≤ assignments.length := by
  have filing (index : AssignmentsByRole) :
      (assignments.foldl (fun index a => index.add a.role a) index).length ≤
        index.length + assignments.length := by
    induction assignments generalizing index with
    | nil => simp
    | cons a assignments inductionHypothesis =>
      have one := length_add_le a.role a index
      have others := inductionHypothesis (index.add a.role a)
      simp only [List.foldl_cons, List.length_cons]
      omega
  simpa [roles, ActionMap.ascending, filed] using filing []

end AssignmentsByRole

end AccessSync
