import AccessSync.Catalog
import AccessSync.Proofs.Returns

/-!
# Calls after the signal

Once the cancellation signal is given, a call for resources or grants does nothing.  Whatever comes
before the first look at the signal only reads: identifiers, the configuration, the cursor.  The
one exception is the listing of applications, which asks for the organizations of the tenant first;
it does nothing once they are known.
-/

namespace AccessSync

/-! ## Identifiers -/

inductive Decodes {α : Type} : Except RecordFault α → Prop where
  | value (a : α) : Decodes (.ok a)
  | refusal (kind : IdentifierKind) (id : String) : Decodes (.error (.badIdentifier kind id))

theorem Decodes.map {α β : Type} {result : Except RecordFault α} (decodes : Decodes result)
    (f : α → β) : Decodes (result.map f) := by
  cases decodes with
  | value a => exact .value (f a)
  | refusal kind id => exact .refusal kind id

theorem decodes_splitRoleResourceId (id : String) : Decodes (splitRoleResourceId id) := by
  unfold splitRoleResourceId
  split
  next => split <;> constructor
  next => constructor

theorem decodes_splitResourceGroupId (id : String) : Decodes (splitResourceGroupId id) := by
  unfold splitResourceGroupId
  split
  next => split <;> constructor
  next => constructor

theorem decodes_ofConnectorId (id : String) : Decodes (ResourcePath.ofConnectorId id) := by
  unfold ResourcePath.ofConnectorId
  split <;> constructor

theorem decodes_splitContainerId (id : String) : Decodes (splitContainerId id) := by
  unfold splitContainerId
  split
  next =>
    split
    next => constructor
    next => exact (decodes_ofConnectorId _).map _
  next => constructor

/-! ## Calls that do nothing -/

variable {ι : Type} {c : Connector} {s : Session} {context : Context Session}

/-- How a call for a page ends that does nothing. -/
inductive Idle (c : Connector) : Except Stop (List ι × String) → Prop where
  | cancelled : Idle c (.error (.fault (.failure { cause := .cancelled })))
  | badCursor (fault : CursorFault) : Idle c (.error (.fault (.failure { cause := .cursor fault })))
  | badIdentifier (kind : IdentifierKind) (id : String) :
      Idle c (.error (.fault (.failure { cause := .record (.badIdentifier kind id) })))
  | drained : Idle c (.ok ([], ""))
  /-- The page size of the configuration is no number. -/
  | badPageSize {misuse : Misuse} (unreadable : c.pageSize = .error misuse) :
      Idle c (.error (.fault (.defect (.misuse misuse))))

/-- From the session the call does nothing, apart from looking at the signal. -/
def Idles (c : Connector) (s : Session) (run : Act (List ι × String)) : Prop :=
  ∃ outcome looks, run s = (outcome, { s with looks }) ∧ Idle c outcome

/-- Looking at the signal finds it given, and does nothing else. -/
def Given (context : Context Session) (s : Session) : Prop :=
  ∃ looks, context.isCancelled s = (true, { s with looks })

namespace Idles

theorem fail {cause : Cause} (idle : Idle (ι := ι) c (.error (.fault (.failure { cause })))) :
    Idles c s (Run.fail cause : Act (List ι × String)) :=
  ⟨_, s.looks, rfl, idle⟩

theorem drained : Idles c s (pure ([], "") : Act (List ι × String)) := ⟨_, s.looks, rfl, .drained⟩

theorem decoding {α : Type} {result : Except RecordFault α} {next : α → Act (List ι × String)}
    (decodes : Decodes result) (others : ∀ a, Idles c s (next a)) :
    Idles c s (Run.decoding result >>= next) := by
  cases decodes with
  | value a => exact others a
  | refusal kind id => exact ⟨_, s.looks, rfl, .badIdentifier kind id⟩

theorem pageSize {next : Int → Act (List ι × String)} (others : ∀ size, Idles c s (next size)) :
    Idles c s (Run.reading c.pageSize >>= next) := by
  cases read : c.pageSize with
  | ok size => exact others size
  | error misuse => exact ⟨_, s.looks, rfl, .badPageSize read⟩

/-- A step comes to nothing before it looks at the signal, or goes no further than that. -/
theorem step (given : Given context s) (type : ResourceType) (phases : List (Phase Session ι))
    (text : String) : Idles c s (c.step type context phases text) := by
  unfold Connector.step Enumeration.step
  split
  next fault _ => exact fail (.badCursor fault)
  next cursor _ =>
    dsimp only
    split
    next => exact drained
    next position _ =>
      unfold Enumeration.stepFrom
      split
      next phase _ =>
        obtain ⟨looks, given⟩ := given
        have stops : context.check s =
            (.error (.fault (.failure { cause := .cancelled })), { s with looks }) := by
          rw [Context.check_apply, given]
          rfl
        exact ⟨_, looks, Run.bind_of_error stops, .cancelled⟩
      next => exact fail (.badCursor _)

end Idles

namespace Catalog

/-! ## The catalogue -/

theorem idles_storageGrants (given : Given context s) (kind : StorageKind) (resource : Resource)
    (decodes : Decodes (kind.scope resource.id.id)) (cursor : String) :
    Idles c s (Storage.grants c kind context resource cursor) :=
  Idles.decoding decodes fun (_, _) => Idles.pageSize fun _ => Idles.step given _ _ cursor

/-- Under a signal that is given, a call for grants does nothing. -/
theorem idles_grants (given : Given context s) (type : ResourceType) (resource : Resource)
    (cursor : String) : Idles c s (grants c type context resource cursor) := by
  cases type with
  | group => exact Idles.step given _ _ cursor
  | enterpriseApplication => exact Idles.pageSize fun _ => Idles.step given _ _ cursor
  | resourceGroup =>
    exact Idles.decoding (decodes_splitResourceGroupId _) fun (_, _) => Idles.step given _ _ cursor
  | role =>
    exact Idles.decoding (decodes_splitRoleResourceId _) fun (_, _) =>
      Idles.pageSize fun _ => Idles.step given _ _ cursor
  | storageAccount =>
    exact idles_storageGrants given .account resource ((decodes_ofConnectorId _).map _) cursor
  | container =>
    exact idles_storageGrants given .container resource ((decodes_splitContainerId _).map _) cursor
  | user => exact Idles.drained
  | managedIdentity => exact Idles.drained
  | tenant => exact Idles.drained
  | subscription => exact Idles.drained

/-- Applications are listed once the organizations of the tenant are known. -/
theorem idles_applications (given : Given context s) (known : s.organizations.isSome)
    (parent : Option ResourceId) (cursor : String) :
    Idles c s (Application.list c context parent cursor) := by
  obtain ⟨organizations, known⟩ := Option.isSome_iff_exists.mp known
  have asked : c.organizationIds s = (.ok organizations, s) := by
    have read : (get : Act Session) s = (.ok s, s) := rfl
    rw [Connector.organizationIds, Run.bind_of_ok read, known]
    rfl
  obtain ⟨outcome, looks, ends, idle⟩ := Idles.step (c := c) given .enterpriseApplication
    [c.directoryPhase "servicePrincipals" (Directory.url ["servicePrincipals"] [
      ("$select", Connector.fieldList Application.fields),
      ("$expand", "appRoleAssignedTo"),
      ("$filter", "servicePrincipalType eq 'Application'"),
      ("$top", "999")] true) (Run.filterMap (Application.takeUp organizations parent))] cursor
  exact ⟨outcome, looks, (Run.bind_of_ok asked).trans ends, idle⟩

/-- Under a signal that is given, a call for resources does nothing, unless the organizations of the
tenant have to be asked for first. -/
theorem idles_list (given : Given context s) (type : ResourceType)
    (known : type = .enterpriseApplication → s.organizations.isSome) (parent : Option ResourceId)
    (cursor : String) : Idles c s (list c type context parent cursor) := by
  -- A listing is one step, which looks at the signal first. Under an unsuitable parent there is
  -- not even that.
  cases type with
  | user => exact Idles.step given _ _ cursor
  | group => exact Idles.step given _ _ cursor
  | enterpriseApplication => exact idles_applications given (known rfl) parent cursor
  | managedIdentity => exact Idles.step given _ _ cursor
  | tenant => exact Idles.step given _ _ cursor
  | subscription => exact Idles.step given _ _ cursor
  | resourceGroup =>
    unfold list ResourceGroup.list
    dsimp only
    split
    next => exact Idles.drained
    next => exact Idles.step given _ _ cursor
  | role =>
    unfold list Role.list
    dsimp only
    split
    next => exact Idles.drained
    next => exact Idles.step given _ _ cursor
  | storageAccount =>
    unfold list StorageAccount.list
    dsimp only
    split
    next => exact Idles.drained
    next => exact Idles.step given _ _ cursor
  | container =>
    unfold list Container.list
    dsimp only
    split
    next => exact Idles.drained
    next =>
      exact Idles.decoding (decodes_ofConnectorId _) fun _ => Idles.step given _ _ cursor

theorem given_context (c : Connector) (cancelled : s.cancelled = true) : Given c.context s := by
  refine ⟨s.looks + 1, ?_⟩
  change (s.cancelled || c.world.cancels s.looks s.history, _) = _
  rw [cancelled, Bool.true_or, ← cancelled]

/-- Once the signal is given, no call for resources or grants does anything; only the listing of
applications has to know the organizations of the tenant for that. -/
theorem idles_once_given (c : Connector) (given : Given context s) (type : ResourceType)
    (cursor : String) :
    (∀ resource, Idles c s (grants c type context resource cursor)) ∧
      ((type = .enterpriseApplication → s.organizations.isSome) →
        ∀ parent, Idles c s (list c type context parent cursor)) :=
  ⟨fun resource => idles_grants given type resource cursor,
    fun known parent => idles_list given type known parent cursor⟩

def tenantWorld : World where
  answer _
    | .request _ => .ok ⟨200, [], "\x7b\"value\":[\x7b\"id\":\"org1\"\x7d]\x7d"⟩
    | .clientToken .. => .error (.unexpected "")
    | .credentialToken _ => .ok "token"
    | .openClient _ => ()
    | .listPage .. => .ok .none
    | .operate _ => .ok (.mapping [])
    | .freshName => ""
    | .sleep _ => .ok ()
    | .clock => (0 : Int)
  cancels _ _ := false

/-- A session that was cancelled before anything happened in it. -/
def cancelledSession : Session := { Session.new with cancelled := true }

theorem idles_once_given_tenantWorld :
    ∃ c, Connector.ofConfig tenantWorld 2 (.mapping []) true = .ok c ∧
      Given c.context cancelledSession ∧
      Idles c cancelledSession (grants c .enterpriseApplication c.context
        ⟨⟨.enterpriseApplication, "app"⟩, "app", none, .null⟩ "") ∧
      Idles c cancelledSession (list c .user c.context none "") := by
  have created : (Connector.ofConfig tenantWorld 2 (.mapping []) true).toOption.isSome = true := by
    decide +kernel
  obtain ⟨c, created⟩ := Option.isSome_iff_exists.mp created
  have given := given_context (s := cancelledSession) c rfl
  exact ⟨c, eq_ok_of_toOption created, given,
    (idles_once_given c given .enterpriseApplication "").1 _,
    (idles_once_given c given .user "").2 nofun none⟩

/-- The applications of a tenant whose organizations are not known are asked for under a signal that
is given, and a request is made before the call is cancelled. -/
theorem exists_request_once_given :
    ∃ c, Connector.ofConfig tenantWorld 2 (.mapping []) true = .ok c ∧
      Given c.context cancelledSession ∧
      ((list c .enterpriseApplication c.context none "" cancelledSession).2.history.any fun
        | .request request => request.url == "https://graph.microsoft.com/v1.0/organization"
        | _ => false) = true ∧
      ¬ Idles c cancelledSession (list c .enterpriseApplication c.context none "") := by
  have evaluated : ((Connector.ofConfig tenantWorld 2 (.mapping []) true).toOption.map fun c =>
      (list c .enterpriseApplication c.context none "" cancelledSession).2.history.any fun
        | .request request => request.url == "https://graph.microsoft.com/v1.0/organization"
        | _ => false) = some true := by
    decide +kernel
  obtain ⟨c, created, requested⟩ := Option.map_eq_some_iff.mp evaluated
  refine ⟨c, eq_ok_of_toOption created, given_context c rfl, requested, ?_⟩
  rintro ⟨outcome, looks, ends, -⟩
  rw [ends] at requested
  cases requested

end Catalog

end AccessSync
