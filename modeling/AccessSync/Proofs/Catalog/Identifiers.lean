import AccessSync.Proofs.Catalog.Listed
import AccessSync.Proofs.Identifier

/-!
# Identifiers of what is listed

Roles, resource groups and containers are listed under identifiers that are put together from the
record and the parent, and these are all that a later question about the resource has.  What they
were put together from can be read from them again, unless a part is empty or has a colon in it.
-/

namespace AccessSync.Catalog

variable {context : Context Session} {parent : Option ResourceId} {r : Resource}

/-! ## Where the parts come from -/

/-- The resource is that of a role definition, in the subscription that it was listed under. -/
def Role.Listed (parent : Option ResourceId) (r : Resource) : Prop :=
  ∃ subscription definition, parent = some subscription ∧
    r = Role.resource subscription definition

/-- The resource is that of a group record, in the subscription that it was listed under. -/
def ResourceGroup.Listed (parent : Option ResourceId) (r : Resource) : Prop :=
  ∃ subscription group, parent = some subscription ∧
    ResourceGroup.resource subscription group = .ok r

/-- The resource is that of a container record, in the storage account that it was listed under. -/
def Container.Listed (parent : Option ResourceId) (r : Resource) : Prop :=
  ∃ storage account container, parent = some storage ∧
    ResourcePath.ofConnectorId storage.id = .ok account ∧
    Container.resource storage account container = .ok r

section Pages

variable (c : Connector) (cursor : String)

theorem Role.ensures_listed :
    Ensures (fun _ => True) (Role.list c context parent cursor) fun page =>
      ∀ r ∈ page.1, Role.Listed parent r := by
  unfold Role.list
  split
  next => exact Ensures.pure (by simp)
  next subscription found =>
    have under := eq_of_parentSubscription? found
    refine ensures_page (yields_managementPhase _ _ fun definitions => Ensures.pure ?_) cursor
    intro r member
    obtain ⟨definition, -, rfl⟩ := List.mem_map.mp member
    exact ⟨subscription, definition, under, rfl⟩

theorem ResourceGroup.ensures_listed :
    Ensures (fun _ => True) (ResourceGroup.list c context parent cursor) fun page =>
      ∀ r ∈ page.1, ResourceGroup.Listed parent r := by
  unfold ResourceGroup.list
  split
  next => exact Ensures.pure (by simp)
  next subscription found =>
    have under := eq_of_parentSubscription? found
    exact ensures_page (yields_managementPhase _ _ (finds_reading fun group _ made =>
      ⟨subscription, group, under, made⟩)) cursor

theorem Container.ensures_listed :
    Ensures (fun _ => True) (Container.list c context parent cursor) fun page =>
      ∀ r ∈ page.1, Container.Listed parent r := by
  unfold Container.list
  split
  next => exact Ensures.pure (by simp)
  next storage found =>
    have under := (Option.filter_eq_some_iff.mp found).1
    refine (Ensures.decoding fun account read => read).bind fun account read => ?_
    exact ensures_page (yields_managementPhase _ _ (finds_reading fun container _ made =>
      ⟨storage, account, container, under, read, made⟩)) cursor

end Pages

theorem ResourceGroup.name_of_resource {subscription : ResourceId} {group : Value}
    (made : ResourceGroup.resource subscription group = .ok r) :
    group.textField "name" "" = .ok r.displayName ∧
      r.id.id = resourceGroupId r.displayName subscription.id := by
  obtain ⟨name, named, made⟩ := exists_of_bind_eq_ok made
  let Named (r : Resource) := r.displayName = name ∧ r.id.id = resourceGroupId name subscription.id
  have carried : Named r := by
    refine forall_of_bind (fun properties => ?_) r made
    repeat refine forall_of_bind fun _ => ?_
    rintro _ ⟨⟩
    exact ⟨rfl, rfl⟩
  rw [carried.1]
  exact ⟨named, carried.2⟩

theorem Container.name_of_resource {storage : ResourceId} {account : ResourcePath}
    {container : Value} (made : Container.resource storage account container = .ok r) :
    container.textField "name" "" = .ok r.displayName ∧
      r.id.id = containerId account r.displayName := by
  obtain ⟨name, named, made⟩ := exists_of_bind_eq_ok made
  let Named (r : Resource) := r.displayName = name ∧ r.id.id = containerId account name
  have carried : Named r := by
    refine forall_of_bind (fun modified => ?_) r made
    repeat refine forall_of_bind fun _ => ?_
    rintro _ ⟨⟩
    exact ⟨rfl, rfl⟩
  rw [carried.1]
  exact ⟨named, carried.2⟩

/-! ## Reading the parts -/

/-- The resource is on a page of the resources of a kind under a parent. -/
def OnPage (c : Connector) (type : ResourceType) (context : Context Session)
    (parent : Option ResourceId) (r : Resource) : Prop :=
  ∃ cursor s page t, Catalog.list c type context parent cursor s = (.ok page, t) ∧ r ∈ page.1

variable {c : Connector}

theorem Role.listed_of_onPage (found : OnPage c .role context parent r) :
    Role.Listed parent r := by
  obtain ⟨cursor, s, page, t, listed, member⟩ := found
  exact (Role.ensures_listed c cursor).returned trivial listed r member

theorem ResourceGroup.listed_of_onPage (found : OnPage c .resourceGroup context parent r) :
    ResourceGroup.Listed parent r := by
  obtain ⟨cursor, s, page, t, listed, member⟩ := found
  exact (ResourceGroup.ensures_listed c cursor).returned trivial listed r member

theorem Container.listed_of_onPage (found : OnPage c .container context parent r) :
    Container.Listed parent r := by
  obtain ⟨cursor, s, page, t, listed, member⟩ := found
  exact (Container.ensures_listed c cursor).returned trivial listed r member

/-- Identifiers stand for what they were put together from.  A resource of a provider is read from
its five parts if no part has a colon in it, and from its path if no part has a slash in it, and it
is refused otherwise; what is read from a path is written as the same path again, but for the letter
case of the three fixed pieces.  Of the roles, resource groups and containers that are listed, the
identifier is split into the parts that the record and the parent gave, if these are not empty and
have no colons in them, which the name of a resource group may have. -/
theorem identifiers_read_back :
    (∀ p : ResourcePath,
      (p.Without ':' → ResourcePath.ofConnectorId p.connectorId = .ok p) ∧
      (¬ p.Without ':' → ResourcePath.ofConnectorId p.connectorId =
        .error (.badIdentifier .connectorResource p.connectorId)) ∧
      (p.Without '/' → ResourcePath.ofAzureId p.azureId = .ok p) ∧
      (¬ p.Without '/' → ResourcePath.ofAzureId p.azureId =
        .error (.badIdentifier .azureResource p.azureId))) ∧
    (∀ (path : String) (p : ResourcePath), ResourcePath.ofAzureId path = .ok p →
      ∃ subscriptions groups providers,
        ResourcePath.SameLetters subscriptions "subscriptions" ∧
        ResourcePath.SameLetters groups "resourceGroups" ∧
        ResourcePath.SameLetters providers "providers" ∧
        path = Text.joinWith '/' (p.pieces subscriptions groups providers) ∧
        p.azureId = Text.joinWith '/' (p.pieces "subscriptions" "resourceGroups" "providers")) ∧
    ∀ (c : Connector) (context : Context Session) (parent : Option ResourceId) (r : Resource),
      (OnPage c .role context parent r → ∃ subscription definition,
        parent = some subscription ∧ r = Role.resource subscription definition ∧
        (IsPart definition.name → IsPart subscription.id →
          splitRoleResourceId r.id.id = .ok (definition.name, subscription.id))) ∧
      (OnPage c .resourceGroup context parent r → ∃ subscription group,
        parent = some subscription ∧ ResourceGroup.resource subscription group = .ok r ∧
        group.textField "name" "" = .ok r.displayName ∧
        (r.displayName ≠ "" → IsPart subscription.id →
          splitResourceGroupId r.id.id = .ok (r.displayName, subscription.id))) ∧
      (OnPage c .container context parent r → ∃ storage account container,
        parent = some storage ∧ ResourcePath.ofConnectorId storage.id = .ok account ∧
        Container.resource storage account container = .ok r ∧
        container.textField "name" "" = .ok r.displayName ∧
        (IsPart r.displayName →
          splitContainerId r.id.id = .ok (account, r.displayName))) := by
  refine ⟨fun p => ⟨ResourcePath.ofConnectorId_connectorId,
      ResourcePath.ofConnectorId_connectorId_of_colon, ResourcePath.ofAzureId_azureId,
      ResourcePath.ofAzureId_azureId_of_slash⟩, fun path p read => ?_,
    fun c context parent r => ⟨fun found => ?role, fun found => ?group, fun found => ?container⟩⟩
  · obtain ⟨subscriptions, groups, providers, first, second, third, written⟩ :=
      ResourcePath.exists_pieces_of_ofAzureId read
    exact ⟨subscriptions, groups, providers, first, second, third, written, p.azureId_eq_joinWith⟩
  case role =>
    obtain ⟨subscription, definition, under, rfl⟩ := Role.listed_of_onPage found
    exact ⟨subscription, definition, under, rfl, splitRoleResourceId_roleResourceId⟩
  case group =>
    obtain ⟨subscription, group, under, made⟩ := ResourceGroup.listed_of_onPage found
    obtain ⟨named, identified⟩ := ResourceGroup.name_of_resource made
    rw [identified]
    exact ⟨subscription, group, under, made, named, splitResourceGroupId_resourceGroupId⟩
  case container =>
    obtain ⟨storage, account, container, under, read, made⟩ := Container.listed_of_onPage found
    obtain ⟨named, identified⟩ := Container.name_of_resource made
    rw [identified]
    exact ⟨storage, account, container, under, read, made, named, fun part =>
      splitContainerId_containerId (ResourcePath.without_of_ofConnectorId read) part⟩

/-- The management service has one container in every storage account. -/
def containerWorld : World where
  answer _
    | .listPage (.containers _) _ => .ok ⟨[.record [("name", .text "logs")]], none, none⟩
    | .listPage .. => .ok .none
    | .request _ => .ok ⟨200, [], ""⟩
    | .clientToken .. => .error (.unexpected "")
    | .credentialToken _ => .ok "token"
    | .openClient _ => ()
    | .operate _ => .ok (.mapping [])
    | .freshName => ""
    | .sleep _ => .ok ()
    | .clock => (0 : Int)
  cancels _ _ := false

def loggingAccount : ResourceId :=
  ⟨.storageAccount, "sub1:rg1:Microsoft.Storage:storageAccounts:acc1"⟩

theorem identifiers_read_back_containerWorld :
    ∃ c r account, OnPage c .container c.context (some loggingAccount) r ∧
      r.id.id = "sub1:rg1:Microsoft.Storage:storageAccounts:acc1:logs" ∧
      splitContainerId r.id.id = .ok (account, "logs") := by
  have evaluated : ((Connector.ofConfig containerWorld 5 (.mapping []) true).toOption.bind fun c =>
      (Catalog.list c .container c.context (some loggingAccount) "" Session.new).1.toOption.map
        fun page => page.1.map fun r => (r.id.id, r.displayName)) =
      some [("sub1:rg1:Microsoft.Storage:storageAccounts:acc1:logs", "logs")] := by
    decide +kernel
  obtain ⟨c, created, listed⟩ := Option.bind_eq_some_iff.mp evaluated
  obtain ⟨page, returned, shown⟩ := Option.map_eq_some_iff.mp listed
  obtain ⟨r, member, same⟩ := List.mem_map.mp (shown ▸ List.mem_singleton_self _)
  obtain ⟨identified, named⟩ := Prod.mk.inj same
  match run : Catalog.list c .container c.context (some loggingAccount) "" Session.new with
  | (outcome, t) =>
    rw [run] at returned
    have found : OnPage c .container c.context (some loggingAccount) r :=
      ⟨"", Session.new, page, t, run.trans (congrArg (·, t) (eq_ok_of_toOption returned)), member⟩
    obtain ⟨-, account, -, -, -, -, -, split⟩ :=
      (identifiers_read_back.2.2 c c.context (some loggingAccount) r).2.2 found
    rw [named] at split
    exact ⟨c, r, account, found, identified, split ⟨by decide, by decide⟩⟩

end AccessSync.Catalog
