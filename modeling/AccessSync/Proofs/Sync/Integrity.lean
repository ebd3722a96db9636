import AccessSync.Proofs.Catalog.Applications
import AccessSync.Proofs.Sync.Outcome
import AccessSync.Sync.Waves

/-!
# Grants and entitlements of a document

A document holds the grants of each resource beside its entitlements.  A grant names an entitlement
of the same resource, but for one case: an assignment of an application role that users cannot be
assigned is a grant, and no entitlement stands for its role.
-/

namespace AccessSync

namespace Catalog

namespace Application

/-! ## Grants of an application -/

theorem entitlementId_inj {resource : ResourceId} {slug other : String} :
    entitlementId resource slug = entitlementId resource other ↔ slug = other := by
  rw [entitlementId, entitlementId, String.append_right_inj]

theorem assignmentSlug_inj {role other : String} :
    assignmentSlug role = assignmentSlug other ↔ role = other := by
  rw [assignmentSlug, assignmentSlug, String.append_right_inj]

theorem owners_ne_assignmentSlug (role : String) : Slug.owners ≠ assignmentSlug role := by
  intro same
  have firsts := congrArg (fun slug => slug.toList.head?) same
  simp [Slug.owners, Slug.assignment, assignmentSlug] at firsts

/-- The grant is of a role that the record of the application, as the session keeps it, gives to
somebody without letting users be assigned it. -/
def Barred (app : Resource) (s : Session) (grant : Grant) : Prop :=
  ∃ record role, Kept app.id.id record s ∧ Assigned record role ∧ role ≠ defaultRole ∧
    ¬ UserAssignable record role ∧ grant.slug = assignmentSlug role

variable {c : Connector} {app : Resource} {record : Value} {s t : Session} {grant : Grant}
  {entitlements : List Entitlement}

theorem OfAssignment.resource (given : OfAssignment app record grant) :
    grant.resource = app.id := by
  obtain ⟨-, -, -, -, own, -⟩ := given
  exact own

theorem barred_iff (kept : Kept app.id.id record s) :
    Barred app s grant ↔ ∃ role, Assigned record role ∧ role ≠ defaultRole ∧
      ¬ UserAssignable record role ∧ grant.slug = assignmentSlug role := by
  constructor
  · rintro ⟨other, role, same, barred⟩
    obtain rfl : record = other := Option.some.inj (kept.symm.trans same)
    exact ⟨role, barred⟩
  · rintro ⟨role, barred⟩
    exact ⟨record, role, kept, barred⟩

theorem names_iff (returns : Application.entitlements c app s = (.ok entitlements, t))
    (kept : Kept app.id.id record t) (own : grant.resource = app.id) :
    Names entitlements grant ↔ grant.slug = Slug.owners ∨ grant.slug = assignmentSlug defaultRole ∨
      ∃ role, UserAssignable record role ∧ grant.slug = assignmentSlug role := by
  obtain ⟨other, same, resources, slugs⟩ := entitlements_slugs returns
  obtain rfl : record = other := Option.some.inj (kept.symm.trans same)
  rw [← slugs]
  constructor
  · rintro ⟨e, member, resource, id⟩
    rw [Entitlement.id, Grant.entitlementId, resource, entitlementId_inj] at id
    exact ⟨e, member, id⟩
  · rintro ⟨e, member, slug⟩
    exact names_of_slug member ((resources e member).trans own.symm) slug

/-- The grants of owners and of assignments name entitlements of the application, unless they are
barred. -/
theorem names_iff_not_barred (returns : Application.entitlements c app s = (.ok entitlements, t))
    (kept : Kept app.id.id record t) (own : grant.resource = app.id)
    (given : grant.slug = Slug.owners ∨ OfAssignment app record grant) :
    Names entitlements grant ↔ ¬ Barred app t grant := by
  rw [names_iff returns kept own, barred_iff kept]
  constructor
  · rintro entitled ⟨role, -, special, refused, slug⟩
    rw [slug] at entitled
    obtain owners | default | ⟨user, assignable, same⟩ := entitled
    · exact owners_ne_assignmentSlug role owners.symm
    · exact special (assignmentSlug_inj.mp default)
    · rw [assignmentSlug_inj.mp same] at refused
      exact refused assignable
  · intro allowed
    -- A role that is neither the default nor for users would bar the grant.
    obtain owners | ⟨assignment, role, ⟨assigned, listed, among⟩, named, -, slug⟩ := given
    · exact .inl owners
    · rw [Value.orElse] at slug
      split at slug
      next => exact .inr (.inl slug)
      next filled =>
        by_cases default : role.display = defaultRole
        · exact .inr (.inl (default ▸ slug))
        · by_cases assignable : UserAssignable record role.display
          · exact .inr (.inr ⟨role.display, assignable, slug⟩)
          · refine absurd ⟨role.display, ?_, default, assignable, slug⟩ allowed
            exact ⟨assigned, assignment, role, listed, among, named, by simpa using filled, rfl⟩

theorem drain_grants_named (returns : Application.entitlements c app s = (.ok entitlements, t))
    {grants : List Grant} {u : Session}
    (granted : c.drain (Application.grants c c.context app) t = (.ok grants, u)) :
    ∀ grant ∈ grants, grant.resource = app.id ∧
      (Names entitlements grant ↔ ¬ Barred app t grant) := by
  obtain ⟨record, kept, -, -⟩ := entitlements_slugs returns
  have each := Enumeration.ensures_drain (ensures_applicationGrants c app record) c.limit
  intro grant member
  obtain ⟨own, owners⟩ | given := each.returned kept granted grant member
  · exact ⟨own, names_iff_not_barred returns kept own (.inl owners)⟩
  · have own : grant.resource = app.id := given.resource
    exact ⟨own, names_iff_not_barred returns kept own (.inr given)⟩

end Application

/-! ## Grants of a resource -/

variable {c : Connector} {type : ResourceType} {resource : Resource} {s t u : Session}
  {entitlements : List Entitlement} {grants : List Grant}

/-- The grant is of the resource, and it names one of the entitlements just if it is not of a role
of an application that users cannot be assigned. -/
def Accounted (type : ResourceType) (resource : Resource) (entitlements : List Entitlement)
    (s : Session) (grant : Grant) : Prop :=
  grant.resource = resource.id ∧ (Names entitlements grant ↔
    ¬ (type = .enterpriseApplication ∧ Application.Barred resource s grant))

/-- Every kind but the applications has an entitlement for each of its grants. -/
theorem ensures_grants (other : type ≠ .enterpriseApplication)
    (returns : Catalog.entitlements c type resource s = (.ok entitlements, t)) (text : String) :
    Ensures (fun _ => True) (Catalog.grants c type c.context resource text) fun result =>
      ∀ grant ∈ result.1, Entitled resource entitlements grant := by
  cases type with
  | group =>
    cases returns
    exact ensures_groupGrants c resource text
  | enterpriseApplication => exact absurd rfl other
  | resourceGroup =>
    cases returns
    exact ensures_resourceGroupGrants c resource text
  | role =>
    cases returns
    exact ensures_roleGrants c resource text
  | storageAccount =>
    cases returns
    exact ensures_storageGrants c .account resource text
  | container =>
    cases returns
    exact ensures_storageGrants c .container resource text
  | user | managedIdentity | tenant | subscription => exact Ensures.pure (by simp)

theorem drain_accounted (returns : Catalog.entitlements c type resource s = (.ok entitlements, t))
    (granted : c.drain (Catalog.grants c type c.context resource) t = (.ok grants, u)) :
    ∀ grant ∈ grants, Accounted type resource entitlements t grant := by
  intro grant member
  by_cases application : type = .enterpriseApplication
  · subst application
    obtain ⟨own, named⟩ := Application.drain_grants_named returns granted grant member
    exact ⟨own, named.trans (by simp)⟩
  · have each := Enumeration.ensures_drain (ensures_grants application returns) c.limit
    obtain ⟨own, named⟩ := each.returned trivial granted grant member
    exact ⟨own, iff_of_true named fun barred => application barred.1⟩

end Catalog

namespace Sync

open Catalog (Accounted)

variable {c : Connector} {type : ResourceType} {s t : Session}

/-! ## Grants of a kind -/

/-- The grant was computed of the resource, the entitlements of the resource are among those given,
and they account for the grant. -/
def Traced (c : Connector) (type : ResourceType) (resource : Resource) (given : List Entitlement)
    (grant : Grant) : Prop :=
  ∃ before entitlements between grants after,
    Catalog.entitlements c type resource before = (.ok entitlements, between) ∧
    c.drain (Catalog.grants c type c.context resource) between = (.ok grants, after) ∧
    grant ∈ grants ∧ entitlements ⊆ given ∧ Accounted type resource entitlements between grant

theorem Traced.mono {resource : Resource} {given more : List Entitlement} {grant : Grant}
    (traced : Traced c type resource given grant) (within : given ⊆ more) :
    Traced c type resource more grant := by
  obtain ⟨before, entitlements, between, grants, after, entitled, granted, member, among, accounted⟩ :=
    traced
  exact ⟨before, entitlements, between, grants, after, entitled, granted, member,
    fun _ found => within (among found), accounted⟩

theorem accessTo_traced {resources : List Resource} {access : Access}
    (returns : accessTo c type resources s = (.ok access, t)) :
    ∀ grant ∈ access.2, ∃ resource ∈ resources, Traced c type resource access.1 grant := by
  induction resources generalizing s access with
  | nil =>
    cases returns
    simp
  | cons resource resources inductionHypothesis =>
    obtain ⟨entitlements, u, entitled, returns⟩ := Run.exists_of_bind returns
    obtain ⟨grants, v, granted, returns⟩ := Run.exists_of_bind returns
    obtain ⟨others, w, rest, returns⟩ := Run.exists_of_bind returns
    cases returns
    intro grant member
    -- The session between the two computations is where the record of an application is kept.
    obtain here | there := List.mem_append.mp member
    · exact ⟨resource, List.mem_cons_self, s, entitlements, u, grants, v, entitled, granted, here,
        List.subset_append_left _ _, Catalog.drain_accounted entitled granted grant here⟩
    · obtain ⟨owner, among, traced⟩ := inductionHypothesis rest grant there
      exact ⟨owner, List.mem_cons_of_mem _ among, traced.mono (List.subset_append_right _ _)⟩

theorem accessOfType_traced {resources : List (ResourceType × List Resource)} {access : Access}
    (returns : accessOfType c resources type s = (.ok access, t)) :
    ∀ grant ∈ access.2, ∃ resource ∈ listed resources type,
      Traced c type resource access.1 grant := by
  obtain ⟨found, u, collected, returns⟩ := Run.exists_of_bind returns
  obtain ⟨_, _, reported, returns⟩ := Run.exists_of_bind returns
  cases returns
  exact accessTo_traced collected

/-! ## Grants of a document -/

variable {workers : Int} {d : SyncDocument}

/-- What a document holds was listed first, and then the access to it was collected. -/
theorem exists_of_run (returns : run c workers s = (.ok d, t)) :
    ∃ before between after, listWaves c waves [] before = (.ok d.resources, between) ∧
      parallel c.context (d.resources.map Prod.fst) (accessOfType c d.resources) between =
        (.ok d.access, after) := by
  obtain ⟨started, u, -, returns⟩ := Run.exists_of_bind returns
  simp only at returns
  -- Without workers there is no document.
  split at returns
  next =>
    obtain ⟨_, _, stops, -⟩ := Run.exists_of_bind returns
    cases stops
  next =>
    obtain ⟨resources, v, waved, returns⟩ := Run.exists_of_bind returns
    obtain ⟨access, w, collected, returns⟩ := Run.exists_of_bind returns
    obtain ⟨ended, _, -, returns⟩ := Run.exists_of_bind returns
    obtain ⟨_, _, -, returns⟩ := Run.exists_of_bind returns
    obtain ⟨_, _, -, returns⟩ := Run.exists_of_bind returns
    cases returns
    exact ⟨_, v, w, waved, collected⟩

/-- Every grant of a document is of a resource of the document, and its kind computed it right after
the entitlements of the resource, all of which are in the document.  It names one of them, unless
it is of a role that an application does not let users be assigned. -/
theorem run_grants_named (returns : run c workers s = (.ok d, t)) {grant : Grant}
    (member : grant ∈ d.allGrants) :
    ∃ type, ∃ resource ∈ listed d.resources type,
      Traced c type resource d.allEntitlements grant := by
  obtain ⟨_, _, _, -, collected⟩ := exists_of_run returns
  obtain ⟨⟨type, access⟩, among, granted⟩ := List.mem_flatMap.mp member
  obtain ⟨_, _, worked⟩ := exists_of_parallel collected among
  obtain ⟨resource, found, traced⟩ := accessOfType_traced worked grant granted
  refine ⟨type, resource, found, traced.mono fun e entitled => ?_⟩
  exact List.mem_flatMap.mpr ⟨_, among, entitled⟩

/-- A directory that answers every request with the one record of a user, who is also a group, an
organization and an application of it.  The application gives the user a role that is not for
users. -/
def oneRecord : World where
  answer _
    | .request _ => .ok ⟨200, [],
        "\x7b\"value\":[\x7b\"id\":\"a\",\"@odata.type\":\"#microsoft.graph.user\"," ++
        "\"appOwnerOrganizationId\":\"a\"," ++
        "\"appRoles\":[\x7b\"id\":\"r\",\"allowedMemberTypes\":[\"Application\"]\x7d]," ++
        "\"appRoleAssignedTo\":[\x7b\"principalId\":\"a\",\"principalType\":\"User\"," ++
        "\"appRoleId\":\"r\"\x7d]\x7d]\x7d"⟩
    | .clientToken .. => .error (.unexpected "")
    | .credentialToken _ => .ok ""
    | .openClient _ => ()
    | .listPage .. => .ok .none
    | .operate _ => .ok .null
    | .freshName => ""
    | .sleep _ => .ok ()
    | .clock => (0 : Int)
  cancels _ _ := false

theorem run_oneRecord :
    ∃ c d t, Connector.ofConfig oneRecord 10 (.mapping []) true = .ok c ∧
      run c 4 Session.new = (.ok d, t) ∧
      d.allGrants.map Grant.entitlementId = ["group:a:owners", "group:a:members",
        "enterprise_application:a:owners", "enterprise_application:a:assignment:r"] ∧
      d.allEntitlements.map Entitlement.id = ["group:a:owners", "group:a:members",
        "enterprise_application:a:owners",
        "enterprise_application:a:assignment:00000000-0000-0000-0000-000000000000"] := by
  have evaluated : ((Connector.ofConfig oneRecord 10 (.mapping []) true).toOption.bind fun c =>
      (run c 4 Session.new).1.toOption.map fun d =>
        (d.allGrants.map Grant.entitlementId, d.allEntitlements.map Entitlement.id)) =
      some (["group:a:owners", "group:a:members", "enterprise_application:a:owners",
          "enterprise_application:a:assignment:r"],
        ["group:a:owners", "group:a:members", "enterprise_application:a:owners",
          "enterprise_application:a:assignment:00000000-0000-0000-0000-000000000000"]) := by
    decide +kernel
  obtain ⟨c, configured, ran⟩ := Option.bind_eq_some_iff.mp evaluated
  obtain ⟨d, returned, identifiers⟩ := Option.map_eq_some_iff.mp ran
  obtain ⟨grants, entitlements⟩ := Prod.mk.inj identifiers
  exact ⟨c, d, (run c 4 Session.new).2, eq_ok_of_toOption configured,
    Prod.ext (eq_ok_of_toOption returned) rfl, grants, entitlements⟩

theorem run_grants_named_oneRecord :
    ∃ c d t, run c 4 Session.new = (.ok d, t) ∧ d.allGrants ≠ [] ∧
      ∀ grant ∈ d.allGrants, ∃ type, ∃ resource ∈ listed d.resources type,
        Traced c type resource d.allEntitlements grant := by
  obtain ⟨c, d, t, -, returns, grants, -⟩ := run_oneRecord
  refine ⟨c, d, t, returns, ?_, fun grant member => run_grants_named returns member⟩
  intro none
  simp [none] at grants

/-- A grant of a role that is not for users names no entitlement of the document. -/
theorem exists_run_grant_unnamed :
    ∃ c d t, Connector.ofConfig oneRecord 10 (.mapping []) true = .ok c ∧
      run c 4 Session.new = (.ok d, t) ∧
      ∃ grant ∈ d.allGrants, ∀ e ∈ d.allEntitlements, e.id ≠ grant.entitlementId := by
  obtain ⟨c, d, t, configured, returns, grants, entitlements⟩ := run_oneRecord
  have listed : "enterprise_application:a:assignment:r" ∈ d.allGrants.map Grant.entitlementId := by
    rw [grants]
    decide
  obtain ⟨grant, member, names⟩ := List.mem_map.mp listed
  refine ⟨c, d, t, configured, returns, grant, member, fun e found same => ?_⟩
  have named : e.id ∈ d.allEntitlements.map Entitlement.id := List.mem_map_of_mem found
  rw [entitlements, same, names] at named
  revert named
  decide

end Sync

end AccessSync
