import AccessSync.Proofs.Catalog.Coherence
import AccessSync.Proofs.Catalog.Storage
import AccessSync.Proofs.Directory.Evidence
import AccessSync.Proofs.Identifier
import Mathlib.Data.List.Basic

/-!
# Who holds a role

It takes several steps to find the holders of a role: the assignments of the subscription are filed
by role, those of the one role are cut into pages, and for each of them up to four endpoints of the
directory are asked what the principal is, unless that is known already.  Where the services answer
by the request alone, all of it comes to a plain function of the list of assignments.
-/

namespace AccessSync

/-! ## Sessions of a run that is not cancelled -/

variable {c : Connector}

/-- A session that keeps nothing but what a new one would be given, and is not cancelled. -/
def Sound (c : Connector) (s : Session) : Prop := Coherent c s ∧ s.cancelled = false

theorem Sound.new (c : Connector) : Sound c Session.new := ⟨Coherent.new c, rfl⟩

namespace Catalog.Role

open Enumeration (Course Settled seen settled_seen)

variable {role : Resource} {guid subscription : String} {tokens : List (Option String)}
  {assignments : List RoleAssignment}

/-- The role has a proper identifier.  At its subscription the management service lists the
assignments page by page, each with a well-formed role definition; for the holders of the role the
directory replies properly.  The connector may read as many pages as there are, and an offset among
the assignments of the role has no more digits than a number may be written with. -/
structure Readable (c : Connector) (role : Resource) (guid subscription : String)
    (tokens : List (Option String)) (assignments : List RoleAssignment) : Prop where
  named : role.id.id = roleResourceId guid subscription
  parts : IsPart guid ∧ IsPart subscription
  held : Management.Holds (fun token =>
    c.world.answer [] (.listPage (.roleAssignments (subscriptionScope subscription)) token)) none
    tokens assignments
  wellFormed : ∀ a ∈ assignments, ∃ name, roleOfDefinitionId a.roleDefinitionId = .ok name
  proper : ∀ a ∈ assignments, a.role = guid → ∀ endpoint ∈ Directory.lookupEndpoints,
    Directory.repliesProperly c.world c.directory a.principalId endpoint = true
  enough : max tokens.length (max 1 (assignments.filter (·.role == guid)).length) ≤ c.limit
  short : (assignments.filter (·.role == guid)).length ≤ 10 ^ maxWrittenDigits

section Drain

variable (unchanging : Unchanging c)
  (readable : Readable c role guid subscription tokens assignments)

include unchanging readable

variable (quiet : ∀ looks history, c.world.cancels looks history = false)
  (sameLimit : c.index.limit = c.limit)

include quiet sameLimit

end Drain

end Catalog.Role

end AccessSync
