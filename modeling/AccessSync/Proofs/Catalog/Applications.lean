import AccessSync.Proofs.Cache
import AccessSync.Proofs.Catalog.Grants

/-!
# The record of an application

The entitlements of an application and the grants of its roles are both read from its record, which
is fetched at most once and kept.  So the two can be compared: the entitlements stand for the roles
that users can be assigned, and the grants for all roles that somebody is assigned.
-/

namespace AccessSync.Catalog.Application

def Kept (id : String) (record : Value) (s : Session) : Prop :=
  s.objects.servicePrincipals.get? id = some record

theorem readsRecords_kept (id : String) (record : Value) : ReadsRecords (Kept id record) := by
  intro s t same kept
  rw [Kept, ← same]
  exact kept

def UserAssignable (record : Value) (role : String) : Prop :=
  ∃ roles entry id allowed, record.listField "appRoles" = .ok roles ∧ entry ∈ roles ∧
    entry.require "id" = .ok id ∧ id.display = role ∧
    entry.field "allowedMemberTypes" = .ok allowed ∧
    Group.holdsText (allowed.orElse (.list [])) "User" = .ok true

/-- Somebody is assigned the role, by the record. -/
def Assigned (record : Value) (role : String) : Prop :=
  ∃ assigned assignment given, record.listField "appRoleAssignedTo" = .ok assigned ∧
    assignment ∈ assigned ∧ assignment.field "appRoleId" = .ok given ∧ given.isEmpty = false ∧
    given.display = role

variable {c : Connector} {id : String} {sp : Value} {s t : Session} {app : Resource}

/-! ## The kept record -/

theorem record_of_kept (kept : Kept id sp s) : record c id s = (.ok sp, s) :=
  Act.cached_of_known kept

theorem kept_of_record (returns : record c id s = (.ok sp, t)) : Kept id sp t :=
  Act.get?_of_cached (fun _ _ => rfl) (fun _ _ => rfl) returns

theorem ensures_record : Ensures (Kept id sp) (record c id) fun found => found = sp := by
  intro s kept
  rw [record_of_kept kept]
  exact ⟨kept, fun _ same => (Except.ok.inj same).symm⟩

/-! ## Entitlements -/

/-- What is left of a list after each element is read, once all of them could be. -/
theorem filterMap_reading {α β : Type} {f : α → Except Misuse (Option β)} {list : List α}
    {found : List β}
    (returns : Run.filterMap (fun a => (Run.reading (f a) : Act (Option β))) list s =
      (.ok found, t)) :
    t = s ∧ (∀ a ∈ list, ∃ result, f a = .ok result) ∧
      ∀ b, b ∈ found ↔ ∃ a ∈ list, f a = .ok (some b) := by
  induction list generalizing found s t with
  | nil =>
    cases returns
    simp
  | cons a list inductionHypothesis =>
    obtain ⟨first, u, here, rest⟩ := Run.exists_of_bind returns
    obtain ⟨others, v, there, ends⟩ := Run.exists_of_bind rest
    obtain ⟨rfl, readable, members⟩ := inductionHypothesis there
    cases read : f a with
    | error misuse =>
      simp only [read] at here
      cases here
    | ok result =>
      simp only [read] at here
      cases here
      cases ends
      refine ⟨rfl, List.forall_mem_cons.mpr ⟨⟨_, read⟩, readable⟩, fun b => ?_⟩
      cases first with
      | none => simp [read, members]
      | some e => simp [read, members, eq_comm]

theorem roleEntitlement_some {role : Value} {e : Entitlement}
    (listed : roleEntitlement app role = .ok (some e)) :
    ∃ id allowed, role.require "id" = .ok id ∧ role.field "allowedMemberTypes" = .ok allowed ∧
      Group.holdsText (allowed.orElse (.list [])) "User" = .ok true ∧ e.resource = app.id ∧
      e.slug = assignmentSlug id.display := by
  obtain ⟨allowed, types, listed⟩ := exists_of_bind_eq_ok listed
  obtain ⟨user, holds, listed⟩ := exists_of_bind_eq_ok listed
  split at listed
  next isUser =>
    obtain ⟨id, required, listed⟩ := exists_of_bind_eq_ok listed
    obtain ⟨_, -, listed⟩ := exists_of_bind_eq_ok listed
    obtain ⟨_, -, listed⟩ := exists_of_bind_eq_ok listed
    cases listed
    exact ⟨id, allowed, required, types, isUser ▸ holds, rfl, rfl⟩
  next => cases listed

theorem exists_roleEntitlement {role id allowed : Value} {result : Option Entitlement}
    (read : roleEntitlement app role = .ok result) (required : role.require "id" = .ok id)
    (types : role.field "allowedMemberTypes" = .ok allowed)
    (user : Group.holdsText (allowed.orElse (.list [])) "User" = .ok true) :
    ∃ e, result = some e ∧ e.slug = assignmentSlug id.display := by
  obtain ⟨_, same, read⟩ := exists_of_bind_eq_ok read
  rw [types] at same
  cases same
  obtain ⟨_, same, read⟩ := exists_of_bind_eq_ok read
  rw [user] at same
  cases same
  obtain ⟨_, same, read⟩ := exists_of_bind_eq_ok read
  rw [required] at same
  cases same
  obtain ⟨_, -, read⟩ := exists_of_bind_eq_ok read
  obtain ⟨_, -, read⟩ := exists_of_bind_eq_ok read
  cases read
  exact ⟨_, rfl, rfl⟩

/-- The entitlements of an application stand for owning it, for being assigned to it, and for the
roles that its record lets users be assigned. -/
theorem entitlements_slugs {entitlements : List Entitlement}
    (returns : Application.entitlements c app s = (.ok entitlements, t)) :
    ∃ record, Kept app.id.id record t ∧ (∀ e ∈ entitlements, e.resource = app.id) ∧
      ∀ slug, (∃ e ∈ entitlements, e.slug = slug) ↔
        slug = Slug.owners ∨ slug = assignmentSlug defaultRole ∨
          ∃ role, UserAssignable record role ∧ slug = assignmentSlug role := by
  obtain ⟨record, u, recorded, returns⟩ := Run.exists_of_bind returns
  have kept := kept_of_record recorded
  cases listed : record.listField "appRoles" with
  | error misuse =>
    rw [listed] at returns
    cases returns
  | ok roles =>
    rw [listed] at returns
    obtain ⟨_, _, same, returns⟩ := Run.exists_of_bind returns
    cases same
    obtain ⟨found, v, filtered, returns⟩ := Run.exists_of_bind returns
    cases returns
    obtain ⟨rfl, readable, members⟩ := filterMap_reading filtered
    -- Entitlements come in two parts: those that every application has, and those of its roles.
    have general (e : Entitlement) (member : e ∈ generalEntitlements app) :
        e.resource = app.id ∧ (e.slug = Slug.owners ∨ e.slug = assignmentSlug defaultRole) := by
      simp only [generalEntitlements, List.mem_cons, List.not_mem_nil, or_false] at member
      obtain rfl | rfl := member <;> simp
    have special (e : Entitlement) (member : e ∈ found) :
        e.resource = app.id ∧ ∃ role, UserAssignable record role ∧ e.slug = assignmentSlug role := by
      obtain ⟨entry, among, entitled⟩ := (members e).mp member
      obtain ⟨id, allowed, required, types, user, resource, slug⟩ := roleEntitlement_some entitled
      exact ⟨resource, id.display,
        ⟨roles, entry, id, allowed, listed, among, required, rfl, types, user⟩, slug⟩
    refine ⟨record, kept, ?_, fun slug => ⟨?_, ?_⟩⟩
    · exact List.forall_mem_append.mpr
        ⟨fun e member => (general e member).1, fun e member => (special e member).1⟩
    · rintro ⟨e, member, rfl⟩
      obtain first | later := List.mem_append.mp member
      · obtain owners | default := (general e first).2
        · exact .inl owners
        · exact .inr (.inl default)
      · exact .inr (.inr (special e later).2)
    · rintro (rfl | rfl | ⟨role, assignable, rfl⟩)
      · exact ⟨_, List.mem_append_left _ List.mem_cons_self, rfl⟩
      · exact ⟨_, List.mem_append_left _ (List.mem_cons_of_mem _ List.mem_cons_self), rfl⟩
      · obtain ⟨among, entry, id, allowed, same, member, required, rfl, types, user⟩ := assignable
        rw [listed] at same
        cases same
        -- All roles were read, this one too, or no entitlements would have been returned.
        obtain ⟨result, read⟩ := readable entry member
        obtain ⟨e, rfl, slug⟩ := exists_roleEntitlement read required types user
        exact ⟨e, List.mem_append_right _ ((members e).mpr ⟨entry, member, read⟩), slug⟩

/-! ## Grants -/

/-- The assignment is one of the record. -/
def Lists (record assignment : Value) : Prop :=
  ∃ assigned, record.listField "appRoleAssignedTo" = .ok assigned ∧ assignment ∈ assigned

/-- The grant is of the role that an assignment of the record names, or of the default role where
the assignment names none. -/
def OfAssignment (app : Resource) (record : Value) (grant : Grant) : Prop :=
  ∃ assignment given, Lists record assignment ∧ assignment.field "appRoleId" = .ok given ∧
    grant.resource = app.id ∧
    grant.slug = assignmentSlug (given.orElse (.text defaultRole)).display

theorem assignmentTo_ok {assignment : Value} {principal : ResourceId}
    {expansion : Option Expansion} {grant : Grant} (lists : Lists sp assignment)
    (granted : assignmentTo app assignment principal expansion = .ok grant) :
    OfAssignment app sp grant := by
  obtain ⟨given, named, granted⟩ := exists_of_bind_eq_ok granted
  obtain ⟨_, -, granted⟩ := exists_of_bind_eq_ok granted
  cases granted
  exact ⟨assignment, given, lists, named, rfl, rfl⟩

theorem ensures_assignmentGrant (c : Connector) {assignment : Value} (lists : Lists sp assignment) :
    Ensures (Kept id sp) (assignmentGrant c app assignment) fun found =>
      ∀ grant ∈ found, OfAssignment app sp grant := by
  have reads := readsRecords_kept id sp
  have granted (principal : ResourceId) (expansion : Option Expansion) :
      Ensures (Kept id sp) (do
        return some (← Run.reading (assignmentTo app assignment principal expansion)))
        fun found => ∀ grant ∈ found, OfAssignment app sp grant := by
    refine (Ensures.reading fun grant => assignmentTo_ok lists).bind fun grant holds => ?_
    exact Ensures.pure (by simpa using holds)
  have dropped (drop : Drop) : Ensures (Kept id sp)
      (Connector.settle .enterpriseApplication (.dropped drop)) fun found =>
        ∀ grant ∈ found, OfAssignment app sp grant :=
    keeps_settle reads _ _ fun grant same => by cases same
  unfold assignmentGrant
  refine (keeps_reading _).bind fun principal _ => ?_
  refine (keeps_reading _).bind fun type _ => ?_
  refine (keeps_reading _).bind fun recordId _ => ?_
  simp only
  split
  next => exact granted _ _
  next =>
    split
    next => exact granted _ _
    next =>
      split
      next =>
        refine (Directory.keeps_resolve reads c.world c.directory true principal).bind
          fun resolved _ => ?_
        refine (keeps_classify reads _ _ _ _ _).bind fun kind _ => ?_
        cases kind with
        | some kind => exact granted _ _
        | none => exact Ensures.pure (by simp)
      next => exact dropped _

theorem ensures_applicationGrants (c : Connector) (app : Resource) (record : Value)
    (text : String) :
    Ensures (Kept app.id.id record) (Application.grants c c.context app text) fun result =>
      ∀ grant ∈ result.1, (grant.resource = app.id ∧ grant.slug = Slug.owners) ∨
        OfAssignment app record grant := by
  have reads := readsRecords_kept app.id.id record
  refine (keeps_reading _).bind fun size _ => ?_
  refine Enumeration.ensures_step (stable_session reads c.world) ?_ text
  simp only [List.forall_mem_cons]
  refine ⟨?owners, ?assignments, by simp⟩
  case owners =>
    have phase := Connector.yields_directoryPhase reads c Slug.owners
      (Directory.url ["servicePrincipals", app.id.id, Slug.owners] (ownerParameters c) true)
      (ensures_translateMemberships reads .enterpriseApplication app.id Slug.owners true false)
    exact phase.weaken fun grant own => .inl own
  case assignments =>
    have loads : Ensures (Kept app.id.id record)
        (do Run.reading ((← Application.record c app.id.id).listField "appRoleAssignedTo"))
        fun assignments => ∀ assignment ∈ assignments, Lists record assignment := by
      -- The record is kept, so the assignments are those of the record and not of a newer one.
      refine ensures_record.bind fun found same => Ensures.reading fun assigned listed => ?_
      exact fun assignment member => ⟨assigned, same ▸ listed, member⟩
    have translates (assignment : Value) (lists : Lists record assignment) :
        Ensures (Kept app.id.id record) (assignmentGrant c app assignment) fun found =>
          ∀ grant ∈ found, OfAssignment app record grant :=
      ensures_assignmentGrant c lists
    have phase := Connector.yields_markerPhase Slug.assignment size loads
      fun assignments each => Ensures.filterMap fun assignment member =>
        translates assignment (each assignment member)
    exact phase.weaken fun grant own => .inr own

end AccessSync.Catalog.Application
