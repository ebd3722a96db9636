import AccessSync.Connector

/-!
# Tenants and subscriptions

The top of the management hierarchy: the tenants that the credential can see, and the
subscriptions, which are the parents of resource groups, roles and storage accounts.
-/

namespace AccessSync.Catalog

namespace Tenant

def resource (tenant : Value) (parent : Option ResourceId) : Except Misuse Resource := do
  let id ← tenant.textField "tenant_id" ""
  return {
    id := ⟨.tenant, id⟩
    displayName := ← tenant.textField "display_name" id
    parent
    profile := .record [
      ("tenant_id", .text id),
      ("default_domain", ← tenant.field "default_domain"),
      ("country_code", ← tenant.field "country_code"),
      ("tenant_category", ← tenant.field "tenant_category")] }

def list (c : Connector) (context : Context Session) (parent : Option ResourceId)
    (cursor : String) : Act (List Resource × String) :=
  let translate (tenants : List Value) : Act (List Resource) :=
    Run.reading (tenants.mapM (resource · parent))
  c.step .tenant context
    [Connector.managementPhase "tenants" (Management.tenants c.world) translate] cursor

end Tenant

namespace Subscription

def resource (subscription : Value) (parent : Option ResourceId) : Except Misuse Resource := do
  let id ← subscription.textField "subscription_id" ""
  return {
    id := ⟨.subscription, id⟩
    displayName := ← subscription.textField "display_name" id
    parent
    profile := .record [
      ("subscription_id", .text id),
      ("tenant_id", ← subscription.field "tenant_id"),
      ("state", ← subscription.field "state")] }

def translate (parent : Option ResourceId) (subscriptions : List Value) : Act (List Resource) := do
  let resources ← Run.reading (subscriptions.mapM (resource · parent))
  Run.log .debug ResourceType.subscription.component
    ("Translated " ++ toString resources.length ++ " subscriptions")
  return resources

def list (c : Connector) (context : Context Session) (parent : Option ResourceId)
    (cursor : String) : Act (List Resource × String) :=
  c.step .subscription context
    [Connector.managementPhase "subscriptions" (Management.subscriptions c.world)
      (translate parent)] cursor

end Subscription

/-- The subscription that a parent is; nothing is listed under any other parent. -/
def parentSubscription? (parent : Option ResourceId) : Option ResourceId :=
  parent.filter fun p => p.type == .subscription

end AccessSync.Catalog
