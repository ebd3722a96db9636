import AccessSync.Proofs.Catalog.Grants

/-!
# What is listed under a parent

Each component lists resources of its own kind only, and each of them names the parent that it was
listed under.  So where nothing but resources are handed out as parents, no resource names a parent
that does not exist.
-/

namespace AccessSync.Catalog

open Enumeration (Yields)

variable {c : Connector} {type : ResourceType} {parent : Option ResourceId} {r : Resource}
  {Q : Resource → Prop}

/-- The resource is of the kind, and it names the parent. -/
def Under (type : ResourceType) (parent : Option ResourceId) (r : Resource) : Prop :=
  r.id.type = type ∧ r.parent = parent

/-! ## Resources of records -/

theorem User.resource_under {user : Value} {accountType : String} :
    User.resource user parent accountType = .ok r → Under .user parent r := by
  refine forall_of_bind (fun profile => ?_) r
  repeat refine forall_of_bind fun _ => ?_
  rintro _ ⟨⟩
  exact ⟨rfl, rfl⟩

theorem Group.resource_under {group : Value} :
    Group.resource group parent = .ok r → Under .group parent r := by
  refine forall_of_bind (fun profile => ?_) r
  repeat refine forall_of_bind fun _ => ?_
  rintro _ ⟨⟩
  exact ⟨rfl, rfl⟩

theorem Application.resource_under {sp : Value} :
    Application.resource sp parent = .ok r → Under .enterpriseApplication parent r := by
  refine forall_of_bind (fun profile => ?_) r
  repeat refine forall_of_bind fun _ => ?_
  rintro _ ⟨⟩
  exact ⟨rfl, rfl⟩

theorem ManagedIdentity.resource_under {sp : Value} :
    ManagedIdentity.resource sp parent = .ok r → Under .managedIdentity parent r := by
  refine forall_of_bind (fun profile => ?_) r
  repeat refine forall_of_bind fun _ => ?_
  rintro _ ⟨⟩
  exact ⟨rfl, rfl⟩

theorem Tenant.resource_under {tenant : Value} :
    Tenant.resource tenant parent = .ok r → Under .tenant parent r := by
  refine forall_of_bind (fun id => ?_) r
  repeat refine forall_of_bind fun _ => ?_
  rintro _ ⟨⟩
  exact ⟨rfl, rfl⟩

theorem Subscription.resource_under {subscription : Value} :
    Subscription.resource subscription parent = .ok r → Under .subscription parent r := by
  refine forall_of_bind (fun id => ?_) r
  repeat refine forall_of_bind fun _ => ?_
  rintro _ ⟨⟩
  exact ⟨rfl, rfl⟩

theorem ResourceGroup.resource_under {subscription : ResourceId} {group : Value} :
    ResourceGroup.resource subscription group = .ok r →
      Under .resourceGroup (some subscription) r := by
  refine forall_of_bind (fun name => ?_) r
  repeat refine forall_of_bind fun _ => ?_
  rintro _ ⟨⟩
  exact ⟨rfl, rfl⟩

theorem Container.resource_under {account : ResourceId} {path : ResourcePath} {container : Value} :
    Container.resource account path container = .ok r → Under .container (some account) r := by
  refine forall_of_bind (fun name => ?_) r
  repeat refine forall_of_bind fun _ => ?_
  rintro _ ⟨⟩
  exact ⟨rfl, rfl⟩

/-! ## Pages of resources -/

/-- All resources that the run returns are of the kind and name the parent. -/
abbrev Finds (type : ResourceType) (parent : Option ResourceId) (run : Act (List Resource)) :
    Prop :=
  Ensures (fun _ => True) run fun found => ∀ r ∈ found, Under type parent r

theorem finds_reading {read : Value → Except Misuse Resource}
    (each : ∀ record r, read record = .ok r → Q r) (records : List Value) :
    Ensures (fun _ => True) (Run.reading (records.mapM read) : Act (List Resource)) fun found =>
      ∀ r ∈ found, Q r :=
  Ensures.reading fun _ returns => forall_of_mapM each returns

theorem yields_managementPhase {ρ : Type} (tag : String)
    (fetch : Option String → Act (Page ρ)) {translate : List ρ → Act (List Resource)}
    (each : ∀ records, Ensures (fun _ => True) (translate records) fun found =>
      ∀ r ∈ found, Q r) :
    Yields (fun _ => True) (Connector.managementPhase tag fetch translate) Q :=
  ⟨fun _ => True, fun _ => (keeps_true _).weaken fun _ _ _ _ => trivial, fun records _ =>
    each records⟩

theorem ensures_page {context : Context Session} {phase : Phase Session Resource}
    (yields : Yields (fun _ => True) phase Q) (cursor : String) :
    Ensures (fun _ => True) (c.step type context [phase] cursor) fun page =>
      ∀ r ∈ page.1, Q r :=
  Enumeration.ensures_step (Enumeration.stable_true _) (by simpa using yields) cursor

theorem User.finds_translate (users : List Value) :
    Finds .user parent (User.translate c parent users) := by
  refine Ensures.mapM fun user _ => ?_
  -- What the account is for is looked up or not; the kind and the parent are the same.
  simp only
  split
  next =>
    refine (keeps_true _).bind fun id _ => (keeps_true _).bind fun kind _ => ?_
    exact Ensures.reading fun _ => resource_under
  next => exact (keeps_true _).bind fun kind _ => Ensures.reading fun _ => resource_under

theorem Application.finds_takeUp (organizations : List String) (records : List Value) :
    Finds .enterpriseApplication parent
      (Run.filterMap (Application.takeUp organizations parent) records) := by
  refine Ensures.filterMap fun record _ => ?_
  refine (keeps_true _).bind fun owned _ => ?_
  split
  next =>
    refine (keeps_true _).bind fun id _ => (keeps_true _).bind fun _ _ => ?_
    refine Ensures.bind (Ensures.reading fun r => resource_under) fun r under => ?_
    exact Ensures.pure fun other same => Option.some.inj same ▸ under
  next => exact Ensures.pure (by simp)

theorem Subscription.finds_translate (records : List Value) :
    Finds .subscription parent (Subscription.translate parent records) := by
  refine (finds_reading (fun _ _ => resource_under) records).bind fun found under => ?_
  exact (keeps_true _).bind fun _ _ => Ensures.pure under

theorem StorageAccount.ensures_resource (subscription : ResourceId) (account : Value) :
    Ensures (fun _ => True) (StorageAccount.resource subscription account)
      (Under .storageAccount (some subscription)) := by
  refine (keeps_true _).bind fun text _ => (keeps_true _).bind fun path _ => ?_
  refine Ensures.reading fun r => ?_
  refine forall_of_bind (fun sku => ?_) r
  repeat refine forall_of_bind fun _ => ?_
  rintro _ ⟨⟩
  exact ⟨rfl, rfl⟩

theorem eq_of_parentSubscription? {subscription : ResourceId}
    (found : parentSubscription? parent = some subscription) : parent = some subscription :=
  (Option.filter_eq_some_iff.mp found).1

/-- All that is listed as a kind of resource under a parent is of the kind and names the parent. -/
theorem ensures_list (c : Connector) (type : ResourceType) (parent : Option ResourceId)
    (cursor : String) :
    Ensures (fun _ => True) (Catalog.list c type c.context parent cursor) fun page =>
      ∀ r ∈ page.1, Under type parent r := by
  have directory (tag url : String) {translate : List Value → Act (List Resource)}
      (each : ∀ records, Finds type parent (translate records)) :=
    Connector.yields_directoryPhase readsRecords_true c tag url each
  -- The kinds below a parent have nothing under any other one.
  cases type with
  | user => exact ensures_page (directory _ _ User.finds_translate) cursor
  | group =>
    exact ensures_page (directory _ _ (finds_reading fun _ _ => Group.resource_under)) cursor
  | enterpriseApplication =>
    refine (keeps_true _).bind fun organizations _ => ?_
    exact ensures_page (directory _ _ (Application.finds_takeUp organizations)) cursor
  | managedIdentity =>
    exact ensures_page (directory _ _ (finds_reading fun _ _ =>
      ManagedIdentity.resource_under)) cursor
  | tenant =>
    exact ensures_page (yields_managementPhase _ _ (finds_reading fun _ _ =>
      Tenant.resource_under)) cursor
  | subscription =>
    exact ensures_page (yields_managementPhase _ _ Subscription.finds_translate) cursor
  | resourceGroup =>
    change Ensures _ (ResourceGroup.list c c.context parent cursor) _
    unfold ResourceGroup.list
    split
    next => exact Ensures.pure (by simp)
    next subscription found =>
      rw [eq_of_parentSubscription? found]
      exact ensures_page (yields_managementPhase _ _ (finds_reading fun _ _ =>
        ResourceGroup.resource_under)) cursor
  | role =>
    change Ensures _ (Role.list c c.context parent cursor) _
    unfold Role.list
    split
    next => exact Ensures.pure (by simp)
    next subscription found =>
      rw [eq_of_parentSubscription? found]
      refine ensures_page (yields_managementPhase _ _ fun definitions => Ensures.pure ?_) cursor
      simp [Under, Role.resource]
  | storageAccount =>
    change Ensures _ (StorageAccount.list c c.context parent cursor) _
    unfold StorageAccount.list
    split
    next => exact Ensures.pure (by simp)
    next subscription found =>
      rw [eq_of_parentSubscription? found]
      exact ensures_page (yields_managementPhase _ _ fun accounts => Ensures.mapM fun account _ =>
        StorageAccount.ensures_resource subscription account) cursor
  | container =>
    change Ensures _ (Container.list c c.context parent cursor) _
    unfold Container.list
    split
    next => exact Ensures.pure (by simp)
    next account found =>
      rw [(Option.filter_eq_some_iff.mp found).1]
      refine (keeps_true _).bind fun path _ => ?_
      exact ensures_page (yields_managementPhase _ _ (finds_reading fun _ _ =>
        Container.resource_under)) cursor

end AccessSync.Catalog
