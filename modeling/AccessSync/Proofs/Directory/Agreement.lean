import AccessSync.Directory.Principal
import AccessSync.Proofs.Agreement

/-!
# Requests that agree

What a request to the directory comes to is decided by the answers of the directory and by the
token that it is made with.  Sessions in which these are the same cannot be told apart by requests,
however often they are repeated, nor by what is worked out from their answers.
-/

namespace AccessSync

variable {R : Session → Session → Prop}

/-- Reports are of no account to the relation. -/
def Silent (R : Session → Session → Prop) : Prop :=
  ∀ record s t, R s t → R (Journaled.record record s) (Journaled.record record t)

theorem agrees_log (silent : Silent R) (severity : Severity) (component message : String) :
    Agrees R (Run.log severity component message : Act Unit) :=
  Agree.log silent severity component message

namespace Directory

/-- Related sessions have the same tokens to use, and the directory answers them alike. -/
structure Connected (R : Session → Session → Prop) (world : World) (settings : Settings) :
    Prop where
  token : Agrees R (token world settings defaultScopes)
  request : ∀ request, Agrees R (Act.call world (.request request))
  sleep : ∀ seconds, Agrees R (Act.call world (.sleep seconds))
  silent : Silent R

variable {world : World} {settings : Settings}

/-! ## Requests -/

theorem agrees_interpret (method url : String) (response : HttpResponse) :
    Agrees R (interpret method url response) := by
  unfold interpret
  simp only
  split
  next => exact Agree.throw _
  next =>
    split
    next => exact Agree.pure _
    next =>
      split
      next => exact Agree.pure _
      next => exact Agree.throw _

theorem agrees_conclude (request : HttpRequest) (attempt : Nat)
    (answer : Except TransportError HttpResponse) : Agrees R (conclude request attempt answer) := by
  cases answer with
  | ok response => exact agrees_interpret request.method request.url response
  | error e => exact Agree.throw _

theorem agrees_backOff (connected : Connected R world settings) (name : String) (attempt : Nat)
    (reason : String) : Agrees R (backOff world settings name attempt reason) := by
  refine (Agree.reading _).bind fun delay => ?_
  refine (agrees_log connected.silent _ _ _).bind fun _ => ?_
  exact (connected.sleep delay).bind fun _ => Agree.reading _

theorem agrees_send (connected : Connected R world settings) (request : HttpRequest)
    (attempt remaining : Nat) : Agrees R (send world settings request attempt remaining) := by
  -- On the attempts that remain, for an attempt of any number.
  induction remaining generalizing attempt with
  | zero =>
    exact (connected.request request).bind fun answer => agrees_conclude request attempt answer
  | succ remaining inductionHypothesis =>
    refine (connected.request request).bind fun answer => ?_
    split
    next =>
      exact (agrees_backOff connected _ attempt _).bind fun _ => inductionHypothesis (attempt + 1)
    next => exact agrees_conclude request attempt answer

theorem agrees_query (connected : Connected R world settings) (method url : String)
    (body : Option Value) : Agrees R (query world settings defaultScopes method url body) :=
  connected.token.bind fun _ => agrees_send connected _ _ _

theorem agrees_fetchPage (connected : Connected R world settings) (url : String) :
    Agrees R (fetchPage world settings url) := by
  refine (agrees_query connected _ _ _).bind fun body => ?_
  refine (Agree.reading _).bind fun records => ?_
  exact (Agree.reading _).bind fun nextLink => Agree.pure _

theorem agrees_organizationIds (connected : Connected R world settings) :
    Agrees R (organizationIds world settings) := by
  refine (agrees_query connected _ _ _).bind fun body => ?_
  refine (Agree.reading _).bind fun records => ?_
  refine (Agree.reading _).bind fun organizations => ?_
  exact Agree.filterMap fun organization _ => (Agree.reading _).bind fun id => Agree.reading _

/-! ## Principals -/

theorem agrees_lookUp (connected : Connected R world settings) (endpoint id : String) :
    Agrees R (lookUp world settings endpoint id) := by
  refine (agrees_query connected _ _ _).onFailure fun failure => ?_
  split
  next => exact (agrees_log connected.silent _ _ _).bind fun _ => Agree.pure _
  next => exact Agree.throw _

theorem agrees_askEndpoints (connected : Connected R world settings) (id : String) (partly : Bool)
    (endpoints : List String) : Agrees R (askEndpoints world settings id partly endpoints) := by
  induction endpoints generalizing partly with
  | nil =>
    unfold askEndpoints
    split
    next => exact Agree.pure _
    next => exact (agrees_log connected.silent _ _ _).bind fun _ => Agree.pure _
  | cons endpoint endpoints inductionHypothesis =>
    refine (agrees_lookUp connected endpoint id).bind fun body => ?_
    refine (Agree.reading _).bind fun evidence => ?_
    split
    next => exact Agree.pure _
    next => exact inductionHypothesis true
    next => exact inductionHypothesis partly

/-! ## Sessions that hold the same

Where related sessions get the same answers to all calls and hold the same tokens and principals,
they use and take up the same ones.
-/

/-- Related sessions are answered alike, and hold the same tokens. -/
structure Answering (R : Session → Session → Prop) (world : World) : Prop where
  call : ∀ call, Agrees R (Act.call world call)
  silent : Silent R
  tokens : ∀ s t, R s t → s.tokens = t.tokens
  holdTokens : ∀ tokens s t, R s t →
    R (Session.tokenPart.set tokens s) (Session.tokenPart.set tokens t)

/-- Related sessions hold the same principals too. -/
structure Faithful (R : Session → Session → Prop) (world : World) : Prop
    extends Answering R world where
  principals : ∀ s t, R s t → s.objects.principals = t.objects.principals
  holdPrincipals : ∀ principals s t, R s t →
    R (Session.principalPart.set principals s) (Session.principalPart.set principals t)

theorem agrees_call_along {P : Session → Prop}
    (called : ∀ call s, P s → P { s with history := call :: s.history }) (call : Call) :
    Agrees (Along P) (Act.call world call) := fun s _ related => by
  obtain ⟨rfl, holds⟩ := related
  exact ⟨rfl, rfl, called call s holds⟩

/-- A property that no request breaks goes along with all of them. -/
theorem Answering.along {P : Session → Prop}
    (called : ∀ call s, P s → P { s with history := call :: s.history })
    (recorded : ∀ record s, P s → P (Journaled.record record s))
    (holdTokens : ∀ tokens s, P s → P (Session.tokenPart.set tokens s)) :
    Answering (Along P) world where
  call := agrees_call_along called
  silent record s _ related := ⟨congrArg _ related.1, recorded record s related.2⟩
  tokens _ _ related := congrArg _ related.1
  holdTokens tokens s _ related := ⟨congrArg _ related.1, holdTokens tokens s related.2⟩

/-- A property that no use of the client breaks goes along with all that it does. -/
theorem Faithful.along {P : Session → Prop}
    (called : ∀ call s, P s → P { s with history := call :: s.history })
    (recorded : ∀ record s, P s → P (Journaled.record record s))
    (holdTokens : ∀ tokens s, P s → P (Session.tokenPart.set tokens s))
    (holdPrincipals : ∀ principals s, P s → P (Session.principalPart.set principals s)) :
    Faithful (Along P) world where
  toAnswering := .along called recorded holdTokens
  principals _ _ related := congrArg (fun s => s.objects.principals) related.1
  holdPrincipals principals s _ related :=
    ⟨congrArg _ related.1, holdPrincipals principals s related.2⟩

theorem agrees_lookup {κ ν : Type} [DecidableEq κ] {part : Part Session (Cache κ ν)}
    (same : ∀ s t, R s t → part.get s = part.get t) (key : κ) :
    Agrees R (Cache.lookup part key) :=
  Agree.read fun s t related => same s t related ▸ Agree.pure _

theorem agrees_store {κ ν : Type} [DecidableEq κ] {part : Part Session (Cache κ ν)}
    (same : ∀ s t, R s t → part.get s = part.get t)
    (set : ∀ entries s t, R s t → R (part.set entries s) (part.set entries t)) (key : κ)
    (value : ν) : Agrees R (Cache.store part key value) :=
  Agree.modify fun s t related => by
    rw [same s t related]
    exact set _ s t related

theorem agrees_issue (answering : Answering R world) (config : Value) (scopes : List String)
    (tenant client : Value) (account : Account) (now : Int) :
    Agrees R (clientToken.issue world config scopes tenant client account now) := by
  unfold clientToken.issue
  refine (Agree.reading _).bind fun secret => ?_
  refine (answering.call _).bind fun answer => ?_
  split
  next => exact Agree.throw _
  next => exact Agree.throw _
  next result =>
    refine (Agree.reading _).bind fun found => ?_
    split
    next => exact (Agree.reading _).bind fun _ => Agree.throw _
    next token =>
      refine (Agree.reading _).bind fun expires => ?_
      refine (agrees_store answering.tokens answering.holdTokens _ _).bind fun _ => ?_
      exact (agrees_log answering.silent _ _ _).bind fun _ => Agree.pure _

theorem agrees_clientToken (answering : Answering R world) (config : Value)
    (scopes : List String) : Agrees R (clientToken world config scopes) := by
  unfold clientToken
  refine (Agree.reading _).bind fun tenant => ?_
  refine (Agree.reading _).bind fun client => ?_
  refine (answering.call .clock).bind fun now => ?_
  refine (Agree.reading _).bind fun account => ?_
  refine (agrees_lookup answering.tokens _).bind fun known => ?_
  split
  next =>
    split
    next => exact (agrees_log answering.silent _ _ _).bind fun _ => Agree.pure _
    next => exact agrees_issue answering config scopes tenant client _ now
  next => exact agrees_issue answering config scopes tenant client _ now

theorem agrees_token (answering : Answering R world) (settings : Settings) (scopes : List String) :
    Agrees R (token world settings scopes) := by
  unfold token
  split
  next => exact agrees_clientToken answering settings.config scopes
  next =>
    split
    next => exact Agree.throw _
    next =>
      refine (answering.call _).bind fun answer => ?_
      split
      next => exact Agree.pure _
      next => split <;> exact Agree.throw _

theorem Answering.connected (answering : Answering R world) (settings : Settings) :
    Connected R world settings where
  token := agrees_token answering settings defaultScopes
  request _ := answering.call _
  sleep _ := answering.call _
  silent := answering.silent

theorem agrees_resolve (faithful : Faithful R world) (settings : Settings) (keep : Bool)
    (id : String) : Agrees R (resolve world settings keep id) := by
  have asked : Agrees R (do
      let principal ← askEndpoints world settings id false lookupEndpoints
      if keep && principal != .unknown then Cache.store Session.principalPart id principal
      return principal) := by
    refine (agrees_askEndpoints (faithful.connected settings) id false lookupEndpoints).bind
      fun principal => ?_
    split
    next =>
      exact (agrees_store faithful.principals faithful.holdPrincipals _ _).bind fun _ =>
        Agree.pure _
    next => exact Agree.pure _
  unfold resolve
  split
  next =>
    refine (agrees_lookup faithful.principals _).bind fun found => ?_
    cases found with
    | some principal => exact Agree.pure _
    | none => exact asked
  next => exact asked

end Directory

end AccessSync
