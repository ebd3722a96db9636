import AccessSync.Cache
import AccessSync.Identifier
import AccessSync.Run
import AccessSync.Value.Literal

/-!
# From records to grants

A membership record or a resolved principal becomes a grant, is dropped because nothing can hold
the principal, or is refused. `Verdict` is that decision, made without any state; `settle` counts
the drops of one component and reports the first drop of each kind and value.
-/

namespace AccessSync

/-! ## Slugs and expansions -/

namespace Slug

def assignment : String := "assignment"

def owners : String := "owners"

def members : String := "members"

def assigned : String := "assigned"

end Slug

/-- A grant to a group reaches the members of the group. -/
def groupMembers (group : String) (shallow userOnly : Bool) : Expansion where
  entitlementIds := [entitlementId ⟨.group, group⟩ Slug.members]
  resourceTypeIds := if userOnly then [ResourceType.user.name] else []
  shallow

/-- A grant to a role reaches its owners and the principals it is assigned to. -/
def roleHolders (role : String) : Expansion where
  entitlementIds :=
    [entitlementId ⟨.role, role⟩ Slug.owners, entitlementId ⟨.role, role⟩ Slug.assigned]
  resourceTypeIds := []
  shallow := true

/-! ## Principals -/

inductive Principal where
  | user
  | group
  | servicePrincipal (subtype : Option String)
  | unknown
  deriving Inhabited, DecidableEq, Repr

namespace Principal

def kindName : Principal → String
  | user => "user"
  | group => "group"
  | servicePrincipal _ => "service_principal"
  | unknown => "unknown"

def subtype? : Principal → Option String
  | servicePrincipal subtype => subtype
  | _ => none

end Principal

def groupDiscriminator : String := "#microsoft.graph.group"

def userDiscriminator : String := "#microsoft.graph.user"

def servicePrincipalDiscriminator : String := "#microsoft.graph.servicePrincipal"

/-- The kind of resource that a service principal of a subtype is; other subtypes are none. -/
def resourceTypeOfSubtype? (subtype : String) : Option ResourceType :=
  if subtype = "Application" then some .enterpriseApplication
  else if subtype = "ManagedIdentity" then some .managedIdentity
  else none

/-! ## Decisions -/

inductive DropKind where
  | membershipType
  | servicePrincipalType
  deriving Inhabited, DecidableEq, Repr

def DropKind.name : DropKind → String
  | .membershipType => "membership_type"
  | .servicePrincipalType => "service_principal_type"

structure Drop where
  kind : DropKind
  value : String
  object : String
  /-- The identifier of the record, as the record gives it. -/
  recordId : Value
  deriving Inhabited

/-- The kind and value that a drop is counted under. -/
def Drop.key (d : Drop) : DropKind × String := (d.kind, d.value)

inductive Verdict where
  | granted (grant : Grant)
  | dropped (drop : Drop)
  /-- A principal of which nothing is known. -/
  | skipped (principal : String) (resource : ResourceId)
  /-- An owner whose type is not known. -/
  | refused (type slug : String) (resource : ResourceId) (member : String)
  deriving Inhabited

/-- The identifier of a grant that has none of its own. -/
def composedGrantId (resource : ResourceId) (slug : String) (principal : ResourceId) : String :=
  resource.text ++ ":" ++ slug ++ ":" ++ principal.text

def grantTo (resource : ResourceId) (slug : String) (principal : ResourceId) (grantId : String)
    (expansion : Option Expansion) : Grant where
  resource
  slug
  principal
  grantId := if grantId.isEmpty then composedGrantId resource slug principal else grantId
  expansion

/-- The kind of resource that a service principal is, or the drop of one whose subtype stands for
none. -/
def classifySubtype (subtype object : String) (recordId : Value) : Drop ⊕ ResourceType :=
  match resourceTypeOfSubtype? subtype with
  | some type => .inr type
  | none => .inl ⟨.servicePrincipalType, subtype, object, recordId⟩

def servicePrincipalVerdict (resource : ResourceId) (slug subtype principal : String)
    (grantId : String) (recordId : Value) : Verdict :=
  match classifySubtype subtype resource.id recordId with
  | .inr type => .granted (grantTo resource slug ⟨type, principal⟩ grantId none)
  | .inl drop => .dropped drop

structure Membership where
  discriminator : String
  member : String
  subtype : String
  recordId : Value
  deriving Inhabited

def Membership.ofValue (record : Value) : Except Misuse Membership := do
  let discriminator ← record.textField "@odata.type" ""
  return {
    discriminator
    member := memberText (← record.field "id")
    -- Other records may have anything in this field.
    subtype := ← if discriminator = servicePrincipalDiscriminator then
        record.textField "servicePrincipalType" ""
      else pure ""
    recordId := ← record.field "id" }
where
  memberText (id : Value) : String := if id.isEmpty then "" else id.display

/-- The decision on a membership record. Where groups are not accepted they count as unknown, and
on a strict list an unknown type is refused and not dropped. -/
def Membership.verdict (m : Membership) (resource : ResourceId) (slug : String)
    (strict acceptGroups : Bool) : Verdict :=
  if m.discriminator = groupDiscriminator && acceptGroups then
    .granted
      (grantTo resource slug ⟨.group, m.member⟩ "" (some (groupMembers m.member false false)))
  else if m.discriminator = userDiscriminator then
    .granted (grantTo resource slug ⟨.user, m.member⟩ "" none)
  else if m.discriminator = servicePrincipalDiscriminator then
    servicePrincipalVerdict resource slug m.subtype m.member "" m.recordId
  else if strict then .refused m.discriminator slug resource m.member
  else .dropped ⟨.membershipType, m.discriminator, resource.id, m.recordId⟩

def Principal.verdict (p : Principal) (resource : ResourceId) (slug id grantId : String) :
    Verdict :=
  match p with
  | .user => .granted (grantTo resource slug ⟨.user, id⟩ grantId none)
  | .group =>
    .granted (grantTo resource slug ⟨.group, id⟩ grantId (some (groupMembers id false false)))
  | .servicePrincipal subtype =>
    servicePrincipalVerdict resource slug (subtype.getD "") id grantId (.text id)
  | .unknown => .skipped id resource

/-! ## Role assignments -/

structure RoleAssignment where
  id : String
  name : String
  scope : String
  roleDefinitionId : String
  principalId : String
  principalType : Value
  deriving Inhabited

def RoleAssignment.grant (a : RoleAssignment) (resource : ResourceId) (subscription : String) :
    Except RecordFault Grant :=
  (roleOfDefinitionId a.roleDefinitionId).map fun role =>
    let holder := roleResourceId role subscription
    { resource
      slug := Slug.assignment
      principal := ⟨.role, holder⟩
      grantId := if a.id.isEmpty then a.name else a.id
      expansion := some (roleHolders holder) }

def roleActionGrant (resource : ResourceId) (action role : String) : Grant :=
  grantTo resource action ⟨.role, role⟩ "" (some (roleHolders role))

/-! ## Counting drops -/

/-- How many records were dropped, by kind and value, in the order of their first drops. -/
structure DropTally where
  counts : List ((DropKind × String) × Nat)
  /-- The kinds and values of which a drop has been reported. -/
  reported : List (DropKind × String)
  deriving Inhabited, DecidableEq

namespace DropTally

def empty : DropTally := ⟨[], []⟩

def count (t : DropTally) (key : DropKind × String) : Nat := (t.counts.lookup key).getD 0

def bump (key : DropKind × String) :
    List ((DropKind × String) × Nat) → List ((DropKind × String) × Nat)
  | [] => [(key, 1)]
  | (k, n) :: rest => if k = key then (k, n + 1) :: rest else (k, n) :: bump key rest

def add (t : DropTally) (key : DropKind × String) : DropTally :=
  { t with counts := bump key t.counts }

def report (t : DropTally) (key : DropKind × String) : DropTally :=
  { t with reported := key :: t.reported }

def keyLe (a b : (DropKind × String) × Nat) : Bool :=
  if a.1.1 = b.1.1 then decide (a.1.2 ≤ b.1.2) else decide (a.1.1.name ≤ b.1.1.name)

def sorted (t : DropTally) : List ((DropKind × String) × Nat) :=
  t.counts.mergeSort keyLe

end DropTally

structure Translator where
  label : String
  component : String

/-- What a drop is reported as. -/
def Drop.message (d : Drop) (label : String) : String :=
  let id := d.recordId.display
  match d.kind with
  | .servicePrincipalType =>
    label ++ ": unsupported servicePrincipalType " ++ Text.quoted d.value ++
      s!" on membership of {d.object} (record id={id})"
  | .membershipType =>
    label ++ ": unsupported membership type " ++ Text.quoted d.value ++
      s!" on {d.object} (record id={id})"

variable {σ : Type} [Journaled σ]

/-- Counts a drop, and reports it unless one of its kind and value has been reported. -/
def settleDrop (translator : Translator) (tally : Part σ DropTally) (drop : Drop) :
    Run σ Unit := do
  -- The drop counts even if a later record makes its page fail.
  modify fun s => tally.set ((tally.get s).add drop.key) s
  if drop.key ∉ (tally.get (← get)).reported then
    modify fun s => tally.set ((tally.get s).report drop.key) s
    Run.log .warning translator.component (drop.message translator.label)

def settle (translator : Translator) (tally : Part σ DropTally) (verdict : Verdict) :
    Run σ (Option Grant) := do
  match verdict with
  | .granted grant => return some grant
  | .dropped drop =>
    settleDrop translator tally drop
    return none
  | .skipped principal resource =>
    Run.log .debug translator.component
      (translator.label ++ s!": skipping unresolvable principal {principal} on " ++ resource.text)
    return none
  | .refused type slug resource member =>
    Run.fail (.unknownMembership type slug resource member)

/-! ## What policies are asked -/

def membershipGrant (translator : Translator) (tally : Part σ DropTally) (resource : ResourceId)
    (slug : String) (strict acceptGroups : Bool) (record : Value) : Run σ (Option Grant) := do
  let membership ← Run.reading (Membership.ofValue record)
  settle translator tally (membership.verdict resource slug strict acceptGroups)

def resolvedGrant (translator : Translator) (tally : Part σ DropTally) (resource : ResourceId)
    (slug id grantId : String) (principal : Principal) : Run σ (Option Grant) :=
  settle translator tally (principal.verdict resource slug id grantId)

def classify (translator : Translator) (tally : Part σ DropTally) (subtype : Option String)
    (object : String) (recordId : Value) : Run σ (Option ResourceType) :=
  match classifySubtype (subtype.getD "") object recordId with
  | .inr type => return some type
  | .inl drop => do
    let _ ← settle translator tally (.dropped drop)
    return none

end AccessSync
