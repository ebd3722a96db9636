import AccessSync.Proofs.Catalog.Applications
import AccessSync.Proofs.Catalog.Learnt

/-!
# Where answers from memory come from

A connector answers from what it keeps, so a change of access that it makes itself has to be
followed by forgetting what the change outdates.  What it forgets, it has to learn again; what it
does not forget, it goes on answering from.
-/

namespace AccessSync.Catalog

variable {c : Connector} {t : Session}

/-! ## After a change -/

/-- A role was given or taken within the subscription. -/
def Role.Changes (c : Connector) (subscription : String) (s t : Session) : Prop :=
  (∃ principal entitlement role,
    splitRoleResourceId entitlement.resource.id = .ok (role, subscription) ∧
      Role.grant c principal entitlement s = (.ok (), t)) ∨
  ∃ grant role, splitRoleResourceId grant.resource.id = .ok (role, subscription) ∧
    Role.revoke c grant s = (.ok (), t)

/-- An entitlement of the application was given or taken. -/
def Application.Changes (c : Connector) (id : String) (s t : Session) : Prop :=
  (∃ principal entitlement, entitlement.resource.id = id ∧
    Application.grant c principal entitlement s = (.ok (), t)) ∨
  ∃ grant, grant.resource.id = id ∧ Application.revoke c grant s = (.ok (), t)

/-- The session keeps as much as is given of the scopes other than that of the subscription. -/
def Elsewhere (c : Connector) (subscription : String) (kept : Cache String AssignmentsByRole)
    (s : Session) : Prop :=
  ∀ scope, scope ≠ subscriptionScope subscription →
    (c.index.part.get s).get? scope = kept.get? scope

theorem ofMemory_elsewhere (subscription : String) (kept : Cache String AssignmentsByRole) :
    OfMemory (Elsewhere c subscription kept) := by
  intro s u holds _ shared own _ scope other
  rw [← c.index.part_get_congr shared own]
  exact holds scope other

section Changes

variable {s u : Session} {subscription id : String}

theorem elsewhere_of_changes (changes : Role.Changes c subscription s t) :
    Elsewhere c subscription (c.index.part.get s) t := by
  -- A change touches the entry of its own subscription only: it forgets it, and `revoke` may have
  -- taken it up before.
  have memory := ofMemory_elsewhere (c := c) subscription (c.index.part.get s)
  have forgets (u : Session) (holds : Elsewhere c subscription (c.index.part.get s) u) :
      Elsewhere c subscription (c.index.part.get s)
        (c.index.part.set ((c.index.part.get u).erase (subscriptionScope subscription)) u) := by
    intro scope other
    rw [RoleIndex.part_get_set, Cache.get?_erase, if_neg other]
    exact holds scope other
  have stores (u : Session) (entry : AssignmentsByRole)
      (holds : Elsewhere c subscription (c.index.part.get s) u) :
      Elsewhere c subscription (c.index.part.get s)
        (c.index.part.set ((c.index.part.get u).insert (subscriptionScope subscription) entry)
          u) := by
    intro scope other
    rw [RoleIndex.part_get_set, Cache.get?_insert_of_ne _ _ other]
    exact holds scope other
  obtain ⟨principal, entitlement, role, read, granted⟩ | ⟨grant, role, read, revoked⟩ := changes
  · refine (keeps_roleGrant memory.lasting fun other within same => ?_).kept (fun _ _ => rfl) granted
    cases read.symm.trans same
    exact forgets
  · refine (keeps_roleRevoke memory.lasting (fun other within same => ?_)
      fun other within same _ u entry _ _ => ?_).kept (fun _ _ => rfl) revoked
    · cases read.symm.trans same
      exact forgets
    · cases read.symm.trans same
      exact stores u entry

/-- The index keeps no entry of the scope. -/
def Unindexed (c : Connector) (scope : String) (s : Session) : Prop :=
  (c.index.part.get s).get? scope = none

/-- No record of the application is kept. -/
def Unrecorded (id : String) (s : Session) : Prop := s.objects.servicePrincipals.get? id = none

theorem ofMemory_unindexed (scope : String) : OfMemory (Unindexed c scope) := by
  intro s u unindexed _ shared own _
  rw [Unindexed, ← c.index.part_get_congr shared own]
  exact unindexed

theorem ofMemory_unrecorded (id : String) : OfMemory (Unrecorded id) := by
  intro s u unrecorded _ _ _ records
  rw [Unrecorded, ← records]
  exact unrecorded

theorem leaves_unindexed (subscription : String) :
    Leaves (Unindexed c (subscriptionScope subscription))
      (c.index.invalidate subscription none) := by
  refine Leaves.modify fun s => ?_
  rw [Unindexed, RoleIndex.part_get_set]
  exact (Cache.get?_erase _ _ _).trans (if_pos rfl)

theorem leaves_unrecorded (id message : String) : Leaves (Unrecorded id) (do
    Application.forget id
    Run.log .info ResourceType.enterpriseApplication.component message) :=
  Leaves.kept (Leaves.modify fun _ => (Cache.get?_erase _ _ _).trans (if_pos rfl))
    fun _ => keeps_report (ofMemory_unrecorded id).lasting _ _ _

/-- A change of a role forgets the entry of its subscription last but for a report. -/
theorem unindexed_of_changes (changes : Role.Changes c subscription s t) :
    Unindexed c (subscriptionScope subscription) t := by
  have memory := ofMemory_unindexed (c := c) (subscriptionScope subscription)
  obtain ⟨principal, entitlement, role, read, granted⟩ | ⟨grant, role, read, revoked⟩ := changes
  · have leaves : Leaves (Unindexed c (subscriptionScope subscription))
        (Role.grant c principal entitlement) := by
      refine Leaves.after fun _ => Leaves.after_decoding read (Leaves.after fun created => ?_)
      refine (leaves_unindexed subscription).kept fun _ => ?_
      cases created with
      | some assignment => exact keeps_report memory.lasting _ _ _
      | none => exact Ensures.pure trivial
    exact leaves s () t granted
  · have leaves : Leaves (Unindexed c (subscriptionScope subscription)) (Role.revoke c grant) := by
      refine Leaves.after fun _ => Leaves.after_decoding read (Leaves.after fun found => ?_)
      cases found with
      | none => exact Leaves.throw _
      | some assignment =>
        exact Leaves.after fun _ => (leaves_unindexed subscription).kept
          fun _ => keeps_report memory.lasting _ _ _
    exact leaves s () t revoked

/-- A change of an application forgets its record last but for a report. -/
theorem unrecorded_of_changes (changes : Application.Changes c id s t) : Unrecorded id t := by
  obtain ⟨principal, entitlement, rfl, granted⟩ | ⟨grant, rfl, revoked⟩ := changes
  · have leaves : Leaves (Unrecorded entitlement.resource.id)
        (Application.grant c principal entitlement) := by
      refine Leaves.after fun _ => ?_
      simp only
      split
      next => exact Leaves.after fun _ => leaves_unrecorded _ _
      next => split <;> exact Leaves.after fun _ => leaves_unrecorded _ _
    exact leaves s () t granted
  · have leaves : Leaves (Unrecorded grant.resource.id) (Application.revoke c grant) := by
      unfold Application.revoke
      simp only
      split
      next => exact Leaves.after fun _ => leaves_unrecorded _ _
      next =>
        split
        next => exact Leaves.after fun _ => leaves_unrecorded _ _
        next => exact Leaves.after fun _ => Leaves.after fun _ => leaves_unrecorded _ _
    exact leaves s () t revoked

/-- After a change of a role within a subscription, what the connector answers from the index at the
scope of the subscription was drained after the change; the entries of all other scopes it keeps.
After a change of an application, the records of the application that it answers from were fetched
after the change. -/
theorem answers_since_change (reached : Reaches c t u) :
    (∀ subscription, Role.Changes c subscription s t →
      Elsewhere c subscription (c.index.part.get s) t ∧
      ∀ other scope entry v, RoleIndex.scopeOr other scope = subscriptionScope subscription →
        c.index.assignmentsByRole other scope u = (.ok entry, v) →
        Drained c t (subscriptionScope subscription) entry) ∧
    ∀ id, Application.Changes c id s t → ∀ record v, Application.record c id u = (.ok record, v) →
      Fetched c t id record := by
  refine ⟨fun subscription changes => ⟨elsewhere_of_changes changes, ?_⟩, fun id changes => ?_⟩
  -- Right after the change nothing is kept of the scope, so all that is kept there later on has
  -- been learnt since, and what is handed out is kept.
  · intro other scope entry v place answered
    have now : Learnt c t (· = subscriptionScope subscription) (fun _ => False) t := by
      refine ⟨List.suffix_refl _, fun scope entry watched kept => ?_, fun _ _ never => never.elim⟩
      subst watched
      rw [unindexed_of_changes changes] at kept
      cases kept
    have later := (keeps_learnt_index other scope).kept (learnt_of_reaches now reached) answered
    refine later.drained _ _ rfl ?_
    have kept := Act.get?_of_cached c.index.part_get_set
      (fun _ _ => c.index.part_get_congr rfl rfl) answered
    rwa [place] at kept
  · intro record v answered
    have now : Learnt c t (fun _ => False) (· = id) t := by
      refine ⟨List.suffix_refl _, fun _ _ never => never.elim, fun other record watched kept => ?_⟩
      subst watched
      rw [unrecorded_of_changes changes] at kept
      cases kept
    have later := (keeps_learnt_record id).kept (learnt_of_reaches now reached) answered
    exact later.fetched id record rfl (Application.kept_of_record answered)

end Changes

/-- Services for a subscription where a second role is assigned as soon as somebody asks for it. -/
def provisionedWorld : World where
  answer history
    | .request _ => .ok ⟨200, [], "\x7b\x7d"⟩
    | .clientToken .. => .error (.unexpected "")
    | .credentialToken _ => .ok ""
    | .openClient _ => ()
    | .listPage (.roleAssignments _) _ =>
      .ok ⟨if history.any creates then [assigned "reader", assigned "writer"] else [assigned "reader"],
        none, none⟩
    | .listPage .. => .ok .none
    | .operate (.roleDefinition _) =>
      .ok (.record [("permissions", .list [.record
        [("actions", .list [.text "Microsoft.Storage/storageAccounts/read"])]])])
    | .operate _ => .ok (assigned "writer")
    | .freshName => ""
    | .sleep _ => .ok ()
    | .clock => (0 : Int)
  cancels _ _ := false
where
  creates : Call → Bool
    | .operate (.createAssignment ..) => true
    | _ => false
  assigned (role : String) : Value :=
    .record [("role_definition_id", .text (roleDefinitionId "sub1" role))]

/-- A user to give access to. -/
def newcomer : Resource := ⟨⟨.user, "u1"⟩, "", none, .null⟩

def writers : Entitlement := ⟨⟨.role, "writer:sub1"⟩, Slug.assigned, "", "", .assignment, []⟩

def applicationOwners : Entitlement :=
  ⟨⟨.enterpriseApplication, "app1"⟩, Slug.owners, "", "", .permission, []⟩

def account : Resource :=
  ⟨⟨.storageAccount, "sub1:rg1:Microsoft.Storage:storageAccounts:acct1"⟩, "", none, .null⟩

def accountScope : String :=
  subscriptionScope "sub1" ++ "/resourceGroups/rg1/providers/Microsoft.Storage/storageAccounts/acct1"

theorem isSome_ok {α : Type} {result : Except Stop α} (some : result.toOption.isSome = true) :
    ∃ a, result = .ok a := by
  obtain ⟨a, found⟩ := Option.isSome_iff_exists.mp some
  exact ⟨a, eq_ok_of_toOption found⟩

theorem answers_since_change_provisionedWorld :
    ∃ c, Connector.ofConfig provisionedWorld 5 (.mapping []) true = .ok c ∧
      (∃ t u entry v, Role.Changes c "sub1" Session.new t ∧ Reaches c t u ∧
        c.index.assignmentsByRole "sub1" none u = (.ok entry, v) ∧
        Drained c t (subscriptionScope "sub1") entry) ∧
      ∃ t record v, Application.Changes c "app1" Session.new t ∧
        Application.record c "app1" t = (.ok record, v) ∧ Fetched c t "app1" record := by
  let listed (c : Connector) (t : Session) : Session :=
    ((Demand.grants .role ⟨⟨.role, "writer:sub1"⟩, "", none, .null⟩ "").act c t).2
  have evaluated : ((Connector.ofConfig provisionedWorld 5 (.mapping []) true).toOption.map fun c =>
      let granted := Role.grant c newcomer writers Session.new
      let owned := Application.grant c newcomer applicationOwners Session.new
      (granted.1.toOption, owned.1.toOption,
        (c.index.assignmentsByRole "sub1" none (listed c granted.2)).1.toOption.isSome,
        (Application.record c "app1" owned.2).1.toOption.isSome)) =
      some (some (), some (), true, true) := by
    decide +kernel
  obtain ⟨c, created, outcomes⟩ := Option.map_eq_some_iff.mp evaluated
  simp only [Prod.mk.injEq] at outcomes
  obtain ⟨granted, owned, answered, fetched⟩ := outcomes
  obtain ⟨entry, indexed⟩ := isSome_ok answered
  obtain ⟨record, recorded⟩ := isSome_ok fetched
  have changes : Role.Changes c "sub1" Session.new (Role.grant c newcomer writers Session.new).2 :=
    .inl ⟨newcomer, writers, "writer", eq_ok_of_toOption (by decide +kernel),
      Prod.ext (eq_ok_of_toOption granted) rfl⟩
  have owner : Application.Changes c "app1" Session.new
      (Application.grant c newcomer applicationOwners Session.new).2 :=
    .inl ⟨newcomer, applicationOwners, rfl, Prod.ext (eq_ok_of_toOption owned) rfl⟩
  have reached : Reaches c (Role.grant c newcomer writers Session.new).2
      (listed c (Role.grant c newcomer writers Session.new).2) := .demand .refl _
  have entryReturns : c.index.assignmentsByRole "sub1" none
      (listed c (Role.grant c newcomer writers Session.new).2) = (.ok entry, _) :=
    Prod.ext indexed rfl
  have recordReturns : Application.record c "app1"
      (Application.grant c newcomer applicationOwners Session.new).2 = (.ok record, _) :=
    Prod.ext recorded rfl
  exact ⟨c, eq_ok_of_toOption created,
    ⟨_, _, entry, _, changes, reached, entryReturns,
      ((answers_since_change reached).1 "sub1" changes).2 "sub1" none entry _ rfl entryReturns⟩,
    _, record, _, owner, recordReturns,
      (answers_since_change .refl).2 "app1" owner record _ recordReturns⟩

set_option synthInstance.maxSize 400 in
/-- A role was given within a subscription, and the grants of a storage account of the subscription
are answered from an index entry that was drained before: the actions of the new role are missing,
though the service lists its assignment. -/
theorem exists_answer_before_change :
    ∃ c s t u entry delivered, Connector.ofConfig provisionedWorld 5 (.mapping []) true = .ok c ∧
      (c.drain (Storage.grants c .account c.context account) Session.new).2 = s ∧
      Role.Changes c "sub1" s t ∧
      (c.index.part.get s).get? accountScope = some entry ∧
      c.index.assignmentsByRole "sub1" (some accountScope) t = (.ok entry, t) ∧
      (c.index.build "sub1" accountScope t).1.toOption.map (List.map Prod.fst) =
        some ["reader", "writer"] ∧
      entry.map Prod.fst = ["reader"] ∧
      c.drain (Storage.grants c .account c.context account) t = (.ok delivered, u) ∧
      delivered.map (fun grant => (grant.slug, grant.principal.id)) =
        [("assignment", "reader:sub1"), ("assignment", "writer:sub1"), ("read", "reader:sub1")] := by
  have evaluated : ((Connector.ofConfig provisionedWorld 5 (.mapping []) true).toOption.map fun c =>
      let s := (c.drain (Storage.grants c .account c.context account) Session.new).2
      let granted := Role.grant c newcomer writers s
      (granted.1.toOption.isSome,
        ((c.index.part.get s).get? accountScope).map (List.map Prod.fst),
        (c.index.build "sub1" accountScope granted.2).1.toOption.map (List.map Prod.fst),
        (c.drain (Storage.grants c .account c.context account) granted.2).1.toOption.map fun found =>
          found.map fun grant => (grant.slug, grant.principal.id))) =
      some (true, some ["reader"], some ["reader", "writer"],
        some [("assignment", "reader:sub1"), ("assignment", "writer:sub1"),
          ("read", "reader:sub1")]) := by
    decide +kernel
  obtain ⟨c, created, outcomes⟩ := Option.map_eq_some_iff.mp evaluated
  simp only [Prod.mk.injEq] at outcomes
  obtain ⟨granted, kept, built, drained⟩ := outcomes
  obtain ⟨_, returned⟩ := isSome_ok granted
  obtain ⟨entry, stored, roles⟩ := Option.map_eq_some_iff.mp kept
  obtain ⟨delivered, drains, grants⟩ := Option.map_eq_some_iff.mp drained
  have changes : Role.Changes c "sub1"
      (c.drain (Storage.grants c .account c.context account) Session.new).2 _ :=
    .inl ⟨newcomer, writers, "writer", eq_ok_of_toOption (by decide +kernel),
      Prod.ext returned rfl⟩
  have still := (elsewhere_of_changes changes accountScope (by decide +kernel)).trans stored
  have nonempty : accountScope ≠ "" := by decide
  refine ⟨c, _, _, _, entry, delivered, eq_ok_of_toOption created, rfl, changes, stored, ?_, built,
    roles, Prod.ext (eq_ok_of_toOption drains) rfl, grants⟩
  rw [RoleIndex.assignmentsByRole, RoleIndex.scopeOr_some nonempty]
  exact Act.cached_of_known still

end AccessSync.Catalog
