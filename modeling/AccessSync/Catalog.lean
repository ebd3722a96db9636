import AccessSync.Catalog.Application
import AccessSync.Catalog.ManagedIdentity
import AccessSync.Catalog.ResourceGroup
import AccessSync.Catalog.Role
import AccessSync.Catalog.Storage
import AccessSync.Catalog.User

/-!
# The catalog

What can be done with each kind of resource: list it, name its entitlements, list its grants, and
give or take access where the kind allows it.
-/

namespace AccessSync.Catalog

variable (c : Connector)

/-- One page of the resources of a kind under a parent. -/
def list (type : ResourceType) (context : Context Session) (parent : Option ResourceId)
    (cursor : String) : Act (List Resource × String) :=
  match type with
  | .user => User.list c context parent cursor
  | .group => Group.list c context parent cursor
  | .enterpriseApplication => Application.list c context parent cursor
  | .managedIdentity => ManagedIdentity.list c context parent cursor
  | .tenant => Tenant.list c context parent cursor
  | .subscription => Subscription.list c context parent cursor
  | .resourceGroup => ResourceGroup.list c context parent cursor
  | .role => Role.list c context parent cursor
  | .storageAccount => StorageAccount.list c context parent cursor
  | .container => Container.list c context parent cursor

/-- The entitlements of a resource, by the rules of a kind. -/
def entitlements (type : ResourceType) (resource : Resource) : Act (List Entitlement) :=
  match type with
  | .group => return Group.entitlements resource
  | .enterpriseApplication => Application.entitlements c resource
  | .resourceGroup => return ResourceGroup.entitlements resource
  | .role => return Role.entitlements resource
  | .storageAccount => return Storage.entitlements .account resource
  | .container => return Storage.entitlements .container resource
  | .user | .managedIdentity | .tenant | .subscription => return []

def grants (type : ResourceType) (context : Context Session) (resource : Resource)
    (cursor : String) : Act (List Grant × String) :=
  match type with
  | .group => Group.grants c context resource cursor
  | .enterpriseApplication => Application.grants c context resource cursor
  | .resourceGroup => ResourceGroup.grants c context resource cursor
  | .role => Role.grants c context resource cursor
  | .storageAccount => Storage.grants c .account context resource cursor
  | .container => Storage.grants c .container context resource cursor
  | .user | .managedIdentity | .tenant | .subscription => return ([], "")

def grant (type : ResourceType) (principal : Resource) (entitlement : Entitlement) : Act Unit :=
  match type with
  | .group => Group.grant c principal entitlement
  | .enterpriseApplication => Application.grant c principal entitlement
  | .role => Role.grant c principal entitlement
  | type => Connector.noProvisioning type

def revoke (type : ResourceType) (grant : Grant) : Act Unit :=
  match type with
  | .group => Group.revoke c grant
  | .enterpriseApplication => Application.revoke c grant
  | .role => Role.revoke c grant
  | type => Connector.noProvisioning type

end AccessSync.Catalog
