import AccessSync.Proofs.Directory.Agreement
import AccessSync.RoleIndex

/-!
# Listings that agree

A page of the management service is what the service answers, whichever clients are open already.
So sessions in which it answers alike read the same pages and file the same index entries.
-/

namespace AccessSync

variable {R : Session → Session → Prop}

namespace Management

/-- The management service lists the same pages in related sessions, and opens clients in both. -/
structure Connected (R : Session → Session → Prop) (world : World) : Prop where
  page : ∀ listing token, Agrees R (Act.call world (.listPage listing token))
  client : ∀ client, Agrees R (withClient world client)
  blobs : ∀ accountUrl, Agrees R (Act.call world (.openClient (.blobs accountUrl)))
  silent : Silent R

variable {world : World}

/-- A property that neither calls nor open clients break goes along with all listings. -/
theorem Connected.along {P : Session → Prop}
    (called : ∀ call s, P s → P { s with history := call :: s.history })
    (recorded : ∀ record s, P s → P (Journaled.record record s))
    (opened : ∀ clients s, P s → P { s with clients }) : Connected (Along P) world where
  page _ _ := Directory.agrees_call_along called _
  client client := by
    refine Agree.read fun s t related => ?_
    obtain ⟨rfl, -⟩ := related
    split
    next =>
      refine (Directory.agrees_call_along called _).bind fun _ => ?_
      refine Agree.modify fun s t related => ?_
      obtain ⟨rfl, holds⟩ := related
      exact ⟨rfl, opened _ s holds⟩
    next => exact Agree.pure _
  blobs _ := Directory.agrees_call_along called _
  silent record s _ related := ⟨congrArg _ related.1, recorded record s related.2⟩

theorem agrees_refuse {ρ : Type} (operation : String) (e : ServiceError) :
    Agrees R (refuse operation e : Act ρ) := by
  unfold refuse
  split
  next => exact Agree.throw _
  next => exact Agree.throw _

/-- An error of the service is a value for nobody. -/
theorem refuse_ne_ok {ρ : Type} (operation : String) (e : ServiceError) (s : Session) (record : ρ) :
    (refuse operation e s).1 ≠ .ok record := by
  unfold refuse
  cases failureOf? operation e with
  | some fault => exact nofun
  | none => exact nofun

/-! ## Pages -/

section Pages

variable (connected : Connected R world)

include connected

theorem agrees_listPage {ρ : Type} (operation : String) (listing : Listing)
    (token : Option String) (convert : Value → Except Misuse ρ) :
    Agrees R (listPage world operation listing token convert) := by
  refine (connected.page listing _).bind fun answer => ?_
  cases answer with
  | error e => exact agrees_refuse operation e
  | ok page =>
    refine (Agree.reading _).bind fun records => ?_
    split
    next => exact agrees_refuse operation _
    next => exact Agree.pure _

theorem agrees_subscriptions (token : Option String) : Agrees R (subscriptions world token) :=
  (connected.client _).bind fun _ => agrees_listPage connected _ _ _ _

theorem agrees_tenants (token : Option String) : Agrees R (tenants world token) :=
  (connected.client _).bind fun _ => agrees_listPage connected _ _ _ _

theorem agrees_resourceGroups (subscription : String) (token : Option String) :
    Agrees R (resourceGroups world subscription token) :=
  (connected.client _).bind fun _ => agrees_listPage connected _ _ _ _

theorem agrees_storageAccounts (subscription : String) (token : Option String) :
    Agrees R (storageAccounts world subscription token) :=
  (connected.client _).bind fun _ => agrees_listPage connected _ _ _ _

theorem agrees_containers (account : String) (token : Option String) :
    Agrees R (containers world account token) :=
  (connected.blobs _).bind fun _ => agrees_listPage connected _ _ _ _

theorem agrees_roleDefinitions (subscription : String) (token : Option String) :
    Agrees R (roleDefinitions world subscription token) :=
  (connected.client _).bind fun _ => agrees_listPage connected _ _ _ _

theorem agrees_roleAssignments (subscription scope : String) (token : Option String) :
    Agrees R (roleAssignments world subscription scope token) :=
  (connected.client _).bind fun _ => agrees_listPage connected _ _ _ _

/-- The subscription of a listing only says which client makes the call. -/
theorem agree_roleAssignments {subscription other : String}
    (clients : Agree R (withClient world (.authorization subscription))
      (withClient world (.authorization other))) (scope : String) (token : Option String) :
    Agree R (roleAssignments world subscription scope token)
      (roleAssignments world other scope token) :=
  clients.bind fun _ => agrees_listPage connected _ _ _ _

theorem agree_foldRoleAssignments {α : Type} {subscription other : String}
    (clients : Agree R (withClient world (.authorization subscription))
      (withClient world (.authorization other))) (scope : String)
    {step : α → RoleAssignment → Act α} (each : ∀ acc a, Agrees R (step acc a)) (limit : Nat)
    (token : Option String) (acc : α) :
    Agree R (foldRoleAssignments world subscription scope step limit token acc)
      (foldRoleAssignments world other scope step limit token acc) := by
  induction limit generalizing token acc with
  | zero => exact Agree.throw _
  | succ limit inductionHypothesis =>
    refine (agree_roleAssignments connected clients scope token).bind fun page => ?_
    refine (Agree.foldlM each page.records acc).bind fun acc => ?_
    split
    next => exact Agree.pure acc
    next next _ => exact inductionHypothesis (some next) acc

/-- Asking for a role definition agrees if the service says the same of it. -/
theorem agrees_roleDefinition {path : String}
    (answers : Agrees R (Act.call world (.operate (.roleDefinition path)))) :
    Agrees R (roleDefinition world path) := by
  refine (connected.client _).bind fun _ => answers.bind fun answer => ?_
  cases answer with
  | error e => exact agrees_refuse _ e
  | ok record => exact Agree.reading _

end Pages

end Management

/-! ## Index entries -/

namespace RoleIndex

theorem agrees_file (entry : AssignmentsByRole) (a : RoleAssignment) : Agrees R (file entry a) :=
  (Agree.decoding _).bind fun _ => Agree.pure _

theorem agree_build {index : RoleIndex} (connected : Management.Connected R index.world)
    {subscription other : String}
    (clients : Agree R (Management.withClient index.world (.authorization subscription))
      (Management.withClient index.world (.authorization other))) (scope : String) :
    Agree R (index.build subscription scope) (index.build other scope) := by
  refine Agree.bind (Agree.onFault ?_ fun fault => ?_) fun entry => ?_
  · exact Management.agree_foldRoleAssignments connected clients scope agrees_file index.limit none []
  · cases fault with
    | failure f =>
      simp only
      split
      next => exact Agree.throw _
      next => exact Agree.throw _
    | defect d => exact Agree.throw _
  · exact (agrees_log connected.silent _ _ _).bind fun _ => Agree.pure entry

end RoleIndex

end AccessSync
