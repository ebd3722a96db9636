import AccessSync.Proofs.Catalog.Emitted
import AccessSync.Proofs.Catalog.References
import AccessSync.Proofs.Catalog.Revocation

/-!
# Giving and taking access again

Making a user a member who is one already changes nothing, nor does ending a membership that there
is none of, and both are to count as done.  For this the refusal of the directory has to be
understood: a sentence in it says that the reference exists already.  Where the sentence does not
begin and end in the part of the answer that is kept, the refusal is passed on as a failure,
although there is nothing left to do.
-/

namespace AccessSync.Catalog.Group

/-! ## Giving and taking access -/

/-- A user is made an owner or a member of a group, or is no longer to be one. -/
inductive Provision where
  | grant (principal : Resource) (entitlement : Entitlement)
  | revoke (record : Grant)

namespace Provision

/-- It is about a user, and about the owners or the members. -/
def Suitable : Provision → Prop
  | .grant principal entitlement =>
    principal.id.type = .user ∧
      (entitlement.slug = Slug.owners ∨ entitlement.slug = Slug.members)
  | .revoke record =>
    record.principal.type = .user ∧ (record.slug = Slug.owners ∨ record.slug = Slug.members)

def change : Provision → Change
  | .grant principal entitlement =>
    .add ⟨Directory.trimSlashes entitlement.resource.id, entitlement.slug,
      Directory.trimSlashes principal.id.id⟩
  | .revoke record =>
    .remove ⟨Directory.trimSlashes record.resource.id, record.slug,
      Directory.trimSlashes record.principal.id⟩

/-- The run that is to bring the change about. -/
def perform (c : Connector) : Provision → Act Unit
  | .grant principal entitlement => Group.grant c principal entitlement
  | .revoke record => Group.revoke c record

end Provision

/-- Performs one after the other, whatever comes of each. -/
def performAll (c : Connector) : List Provision → Session → List (Except Stop Unit) × Session
  | [], s => ([], s)
  | provision :: rest, s =>
    let (outcome, t) := provision.perform c s
    let (outcomes, u) := performAll c rest t
    (outcome :: outcomes, u)

/-- The latest call asked for a reference that exists, and the part of the answer that is kept does
not say so. -/
inductive Untold (world : World) (initial : Finset Reference) :
    List Call → HttpRequest → HttpResponse → Prop where
  | intro {earlier : List Call} {request : HttpRequest} {response : HttpResponse}
      {reference : Reference} (asks : change? request = some (.add reference))
      (existing : reference ∈ held initial earlier)
      (answer : world.answer earlier (.request request) = .ok response)
      (cut : Text.contains alreadyExists (Text.take 500 response.body) = false) :
      Untold world initial (.request request :: earlier) request response

/-- The failure that a refusal of the service comes to. -/
def refusal (request : HttpRequest) (response : HttpResponse) : Failure where
  cause := .request {
    kind := .other
    message := s!"{request.method} {request.url} failed with {response.status}: " ++
      Text.take 500 response.body
    status := some response.status
    url := some request.url }

/-- What comes of a change, by the calls up to its end: success, unless a refusal was not
understood. -/
inductive Concludes (world : World) (initial : Finset Reference) (history : List Call) :
    Except Stop Unit → Prop where
  | succeeds (told : ∀ request response, ¬ Untold world initial history request response) :
      Concludes world initial history (.ok ())
  | refused {request : HttpRequest} {response : HttpResponse}
      (untold : Untold world initial history request response) :
      Concludes world initial history (.error (.fault (.failure (refusal request response))))

/-- Changes between two histories with what comes of each.  Every one is made, whether it succeeds
or not. -/
inductive Settled (world : World) (initial : Finset Reference) :
    List Call → List Provision → List (Except Stop Unit) → List Call → Prop where
  | nil (history : List Call) : Settled world initial history [] [] history
  | cons {before after final : List Call} {provision : Provision} {rest : List Provision}
      {outcome : Except Stop Unit} {outcomes : List (Except Stop Unit)}
      (made : held initial after = provision.change.apply (held initial before))
      (concludes : Concludes world initial after outcome)
      (others : Settled world initial after rest outcomes final) :
      Settled world initial before (provision :: rest) (outcome :: outcomes) final

/-! ## One change -/

section

variable {c : Connector} {world : World} {initial : Finset Reference}
  {request : HttpRequest} {response : HttpResponse} {change : Change} {before after : List Call}

/-- What is not understood is the answer to the request. -/
theorem Asked.of_untold (asked : Asked world initial before change request response after)
    {other : HttpRequest} {answer : HttpResponse}
    (untold : Untold world initial after other answer) :
    Text.contains alreadyExists (Text.take 500 response.body) = false ∧
      ∃ reference ∈ Group.held initial before, change = .add reference := by
  obtain ⟨earlier, latest, same, answered⟩ := asked.calls
  obtain ⟨asks, existing, found, cut⟩ := untold
  obtain ⟨⟨⟩, rfl⟩ := List.cons.inj latest
  obtain ⟨⟩ := asked.asks.symm.trans asks
  obtain ⟨⟩ := answered.symm.trans found
  exact ⟨cut, _, same ▸ existing, rfl⟩

theorem Asked.untold {reference : Reference}
    (asked : Asked world initial before (.add reference) request response after)
    (existing : reference ∈ Group.held initial before)
    (cut : Text.contains alreadyExists (Text.take 500 response.body) = false) :
    Untold world initial after request response := by
  obtain ⟨earlier, rfl, same, answered⟩ := asked.calls
  exact .intro asked.asks (same ▸ existing) answered cut

theorem requireSlug_of_either {slug : String} (either : slug = Slug.owners ∨ slug = Slug.members)
    (s : Session) : requireSlug slug s = (.ok (), s) := by
  rw [requireSlug, if_pos (by simpa using either)]
  rfl

/-- Makes a request and passes over some refusals of it.  It returns whether there was one. -/
abbrev passOver (request : Act Value) (passable : Failure → Bool) : Act Bool :=
  (do
    let _ ← request
    return false).onFailure fun f => if passable f then return true else Run.raise f

theorem passOver_of_ok {request : Act Value} {value : Value} {s t : Session}
    (returns : request s = (.ok value, t)) (passable : Failure → Bool) :
    passOver request passable s = (.ok false, t) := by
  refine Run.onFailure_of_ok ?_
  rw [Run.bind_of_ok returns]
  rfl

theorem passOver_of_failure {request : Act Value} {f : Failure} {s t : Session}
    (fails : request s = (.error (.fault (.failure f)), t)) (passable : Failure → Bool) :
    passOver request passable s =
      (if passable f then .ok true else .error (.fault (.failure f)), t) := by
  rw [passOver, Run.onFailure_of_failure (Run.bind_of_error fails)]
  split <;> rfl

theorem conclude_of_existed (status : response.status = 400) (attempts : Nat) (s : Session) :
    Directory.conclude request attempts (.ok response) s =
      (.error (.fault (.failure (refusal request response))), s) := by
  have kind : Directory.refusalKind response = .other := by
    simp [Directory.refusalKind, status]
  rw [Directory.conclude_of_refused (by omega), kind]
  rfl

/-- A refusal is understood by the part of the answer that is kept. -/
theorem contains_message_refusal_iff (status : response.status = 400)
    (method : request.method = "POST") {segments : List String}
    (address : request.url = Directory.url segments [] false) :
    Text.contains alreadyExists (refusal request response).message = true ↔
      Text.contains alreadyExists (Text.take 500 response.body) = true := by
  have word : ' ' ∉ request.method.toList := by
    rw [method]
    decide
  have plain : ' ' ∉ request.url.toList := by
    rw [address]
    exact Directory.blank_not_mem_url
  have composed : (refusal request response).message =
      s!"{request.method} {request.url} failed with {(400 : Int)}: " ++
        Text.take 500 response.body := by
    rw [← status]
    rfl
  rw [composed, contains_refusal_iff word plain]

/-- Giving access fails exactly if the reference exists and the service does not say so in the part
of its answer that is kept. -/
theorem grant_asked (keeps : KeepsReferences c.world initial) (authorized : Authorized c)
    {principal : Resource} {entitlement : Entitlement}
    (suitable : (Provision.grant principal entitlement).Suitable) {reference : Reference}
    (wanted : (Provision.grant principal entitlement).change = .add reference) (s : Session) :
    ∃ request response,
      Asked c.world initial s.history (.add reference) request response
        (grant c principal entitlement s).2.history ∧
      (reference ∈ held initial s.history →
        Text.contains alreadyExists (Text.take 500 response.body) = false →
        (grant c principal entitlement s).1 =
          .error (.fault (.failure (refusal request response)))) ∧
      ((reference ∈ held initial s.history →
          Text.contains alreadyExists (Text.take 500 response.body) = true) →
        (grant c principal entitlement s).1 = .ok ()) := by
  obtain ⟨user, either⟩ := suitable
  obtain ⟨request, response, t, method, address, asked, queried⟩ := exists_asked keeps authorized
    (fun _ _ => change?_grant either entitlement.resource.id principal.id.id) s
  obtain ⟨⟩ := wanted
  refine ⟨request, response, ?_⟩
  rw [grant, Run.bind_of_ok (requireUser_of_user user _ _ s),
    Run.bind_of_ok (requireSlug_of_either either s)]
  cases asked.answers with
  | added missing accepts =>
    obtain ⟨value, concluded⟩ := conclude_of_accepts accepts 1 t
    rw [concluded] at queried
    rw [Run.bind_of_ok (passOver_of_ok queried _)]
    exact ⟨asked, fun existing => absurd existing missing, fun _ => rfl⟩
  | existed existing status _ =>
    -- The sentence is looked for in the failure, which holds no more of the body than is kept.
    rw [conclude_of_existed status] at queried
    have attempted := passOver_of_failure queried fun f =>
      f.request?.isSome && Text.contains alreadyExists f.message
    have understood : ((refusal request response).request?.isSome &&
        Text.contains alreadyExists (refusal request response).message) =
          Text.contains alreadyExists (Text.take 500 response.body) :=
      Bool.eq_iff_iff.mpr (contains_message_refusal_iff status method address)
    rw [understood] at attempted
    cases told : Text.contains alreadyExists (Text.take 500 response.body) with
    | true =>
      rw [told, if_pos rfl] at attempted
      rw [Run.bind_of_ok attempted]
      exact ⟨asked, nofun, fun _ => rfl⟩
    | false =>
      rw [told, if_neg (by decide)] at attempted
      rw [Run.bind_of_error attempted]
      exact ⟨asked, fun _ _ => rfl, fun always => absurd (always existing) (by decide)⟩

/-- Taking access is done when the reference is removed, and when there is none. -/
theorem revoke_asked (keeps : KeepsReferences c.world initial) (authorized : Authorized c)
    {record : Grant} (suitable : (Provision.revoke record).Suitable) (s : Session) :
    ∃ request response,
      Asked c.world initial s.history (Provision.revoke record).change request response
        (revoke c record s).2.history ∧
      (revoke c record s).1 = .ok () := by
  obtain ⟨user, either⟩ := suitable
  obtain ⟨request, response, t, -, -, asked, queried⟩ := exists_asked keeps authorized
    (fun _ _ => change?_revoke either record.resource.id record.principal.id) s
  refine ⟨request, response, ?_⟩
  rw [revoke, Run.bind_of_ok (requireUser_of_user user _ _ s),
    Run.bind_of_ok (requireSlug_of_either either s)]
  cases asked.answers with
  | removed existing accepts =>
    obtain ⟨value, concluded⟩ := conclude_of_accepts accepts 1 t
    rw [concluded] at queried
    rw [Run.bind_of_ok (passOver_of_ok queried _)]
    exact ⟨asked, rfl⟩
  | absent missing status =>
    have kind : Directory.refusalKind response = .notFound := by
      simp [Directory.refusalKind, status]
    rw [Directory.conclude_of_refused (by omega), kind] at queried
    rw [Run.bind_of_ok (passOver_of_failure queried _)]
    exact ⟨asked, rfl⟩

/-- What one change does, and what comes of it. -/
theorem perform_concludes (keeps : KeepsReferences c.world initial) (authorized : Authorized c)
    {provision : Provision} (suitable : provision.Suitable) (s : Session) :
    held initial (provision.perform c s).2.history =
        provision.change.apply (held initial s.history) ∧
      Concludes c.world initial (provision.perform c s).2.history (provision.perform c s).1 := by
  cases provision with
  | grant principal entitlement =>
    obtain ⟨request, response, asked, fails, succeeds⟩ :=
      grant_asked keeps authorized suitable rfl s
    refine ⟨asked.held, ?_⟩
    by_cases overlooked : ∃ request response, Untold c.world initial
        (grant c principal entitlement s).2.history request response
    · obtain ⟨_, _, untold⟩ := overlooked
      obtain ⟨cut, _, existing, ⟨⟩⟩ := asked.of_untold untold
      rw [Provision.perform, fails existing cut]
      exact .refused (asked.untold existing cut)
    · have told : ∀ request response, ¬ Untold c.world initial
          (grant c principal entitlement s).2.history request response :=
        fun request response untold => overlooked ⟨request, response, untold⟩
      rw [Provision.perform, succeeds fun existing => Bool.of_not_eq_false fun cut =>
        told request response (asked.untold existing cut)]
      exact .succeeds told
  | revoke record =>
    obtain ⟨request, response, asked, outcome⟩ := revoke_asked keeps authorized suitable s
    refine ⟨asked.held, ?_⟩
    rw [Provision.perform, outcome]
    refine .succeeds fun _ _ untold => ?_
    obtain ⟨-, _, -, ⟨⟩⟩ := asked.of_untold untold

end

/-! ## One change after the other -/

section

variable {c : Connector} {world : World} {initial : Finset Reference}
  {before final : List Call} {provisions : List Provision} {outcomes : List (Except Stop Unit)}

/-- The changes are made, whatever comes of each. -/
theorem Settled.held (settled : Settled world initial before provisions outcomes final) :
    held initial final =
      provisions.foldl (fun references provision => provision.change.apply references)
        (Group.held initial before) := by
  induction settled with
  | nil => rfl
  | cons made _ _ inductionHypothesis => rw [inductionHypothesis, made, List.foldl_cons]

/-- Where every refusal is understood, everything succeeds. -/
theorem Settled.succeeds (settled : Settled world initial before provisions outcomes final)
    (told : ∀ history request response, ¬ Untold world initial history request response) :
    ∀ outcome ∈ outcomes, outcome = .ok () := by
  induction settled with
  | nil => simp
  | cons _ concludes _ inductionHypothesis =>
    refine List.forall_mem_cons.mpr ⟨?_, inductionHypothesis⟩
    cases concludes with
    | succeeds => rfl
    | refused untold => exact absurd untold (told _ _ _)

theorem settled_performAll (keeps : KeepsReferences c.world initial) (authorized : Authorized c)
    (suitable : ∀ provision ∈ provisions, provision.Suitable) (s : Session) :
    Settled c.world initial s.history provisions (performAll c provisions s).1
      (performAll c provisions s).2.history := by
  -- On the list; a change that fails leaves a session from which the others go on all the same.
  induction provisions generalizing s with
  | nil => exact .nil _
  | cons provision provisions inductionHypothesis =>
    obtain ⟨first, others⟩ := List.forall_mem_cons.mp suitable
    obtain ⟨made, concludes⟩ := perform_concludes keeps authorized first s
    exact .cons made concludes (inductionHypothesis others _)

/-- Where the directory keeps references as sets, all changes are made in their order.  Each one
succeeds, unless it adds a reference that exists already and the directory says so beyond the part
of its answer that is kept: then it fails with the refusal. -/
theorem performAll_references (keeps : KeepsReferences c.world initial) (authorized : Authorized c)
    (suitable : ∀ provision ∈ provisions, provision.Suitable) (s : Session) :
    let outcomes := (performAll c provisions s).1
    let final := (performAll c provisions s).2.history
    Settled c.world initial s.history provisions outcomes final ∧
      held initial final = provisions.foldl
        (fun references provision => provision.change.apply references) (held initial s.history) ∧
      ((∀ history request response, ¬ Untold c.world initial history request response) →
        ∀ outcome ∈ outcomes, outcome = .ok ()) := by
  have settled := settled_performAll keeps authorized suitable s
  exact ⟨settled, settled.held, settled.succeeds⟩

end

/-- A directory that keeps references, and says this of one that exists already. -/
def referenceWorld (initial : Finset Reference) (sentence : String) : World where
  answer history
    | .request request => .ok <| match change? request with
      | some (.add reference) =>
        if reference ∈ held initial history then ⟨400, [], sentence⟩ else ⟨204, [], ""⟩
      | some (.remove reference) =>
        if reference ∈ held initial history then ⟨204, [], ""⟩ else ⟨404, [], ""⟩
      | none => ⟨404, [], ""⟩
    | .clientToken .. => .error (.unexpected "")
    | .credentialToken _ => .ok "token"
    | .openClient _ => ()
    | .listPage .. => .ok .none
    | .operate _ => .ok .null
    | .freshName => ""
    | .sleep _ => .ok ()
    | .clock => (0 : Int)
  cancels _ _ := false

section

variable {initial : Finset Reference} {sentence : String}

theorem keepsReferences_referenceWorld (told : Text.contains alreadyExists sentence = true) :
    KeepsReferences (referenceWorld initial sentence) initial := by
  have done : Accepts ⟨204, [], ""⟩ := ⟨by decide, .inl rfl⟩
  intro history request change asks
  refine ⟨_, rfl, ?_⟩
  simp only [asks]
  cases change with
  | add reference =>
    by_cases existing : reference ∈ held initial history
    · simp only [existing, if_true]
      exact .existed existing rfl told
    · simp only [existing, if_false]
      exact .added existing done
  | remove reference =>
    by_cases existing : reference ∈ held initial history
    · simp only [existing, if_true]
      exact .removed existing done
    · simp only [existing, if_false]
      exact .absent existing rfl

theorem body_of_existing {history : List Call} {request : HttpRequest} {response : HttpResponse}
    {reference : Reference} (asks : change? request = some (.add reference))
    (existing : reference ∈ held initial history)
    (answered : (referenceWorld initial sentence).answer history (.request request) =
      .ok response) : response.body = sentence := by
  simp only [referenceWorld, asks, existing, if_true] at answered
  cases answered
  rfl

theorem exists_authorized (initial : Finset Reference) (sentence : String) :
    ∃ c, Connector.ofConfig (referenceWorld initial sentence) 5 (.mapping []) true = .ok c ∧
      c.world = referenceWorld initial sentence ∧ Authorized c := by
  obtain ⟨c, configured, world, -, -, config, credential⟩ :=
    exists_configured (referenceWorld initial sentence) 5
  refine ⟨c, configured, world, fun s => ⟨.text "token", ?_⟩⟩
  have secretless :
      (Directory.entryOr (.mapping []) "azure_client_secret" .null).holds = false := rfl
  rw [Directory.token, config, credential, secretless, world]
  rfl

end

def memberships : Entitlement := ⟨⟨.group, "g1"⟩, Slug.members, "", "", .assignment, []⟩

def membership : Reference := ⟨"g1", "members", "u1"⟩

def joins : Provision := .grant newcomer memberships

/-- The user is no longer to be a member. -/
def leaves : Provision := .revoke ⟨⟨.group, "g1"⟩, Slug.members, newcomer.id, "", none⟩

theorem performAll_references_twice :
    ∃ c, Connector.ofConfig (referenceWorld ∅ alreadyExists) 5 (.mapping []) true = .ok c ∧
      (∀ outcome ∈ (performAll c [leaves, joins, joins] .new).1, outcome = .ok ()) ∧
      held ∅ (performAll c [leaves, joins, joins] .new).2.history = {membership} := by
  obtain ⟨c, configured, world, authorized⟩ := exists_authorized ∅ alreadyExists
  have keeps : KeepsReferences c.world ∅ :=
    world ▸ keepsReferences_referenceWorld (by decide)
  have suitable : ∀ provision ∈ [leaves, joins, joins], provision.Suitable := by
    simp only [List.forall_mem_cons]
    exact ⟨⟨rfl, .inr rfl⟩, ⟨rfl, .inr rfl⟩, ⟨rfl, .inr rfl⟩, by simp⟩
  obtain ⟨-, made, succeeds⟩ := performAll_references keeps authorized suitable .new
  refine ⟨c, configured, succeeds fun history request response untold => ?_, made.trans ?_⟩
  · rw [world] at untold
    obtain ⟨asks, existing, answered, cut⟩ := untold
    rw [body_of_existing asks existing answered] at cut
    exact absurd cut (by decide)
  · decide

/-- An answer that comes to the sentence after so many characters. -/
def lateSentence (n : Nat) : String := String.ofList (List.replicate n 'x') ++ alreadyExists

section

variable (n : Nat)

theorem toList_lateSentence :
    (lateSentence n).toList = List.replicate n 'x' ++ alreadyExists.toList := by
  rw [lateSentence, String.toList_append, String.toList_ofList]

theorem contains_lateSentence : Text.contains alreadyExists (lateSentence n) = true := by
  rw [Text.contains, Text.containsChars_iff, toList_lateSentence]
  exact (List.suffix_append (List.replicate n 'x') alreadyExists.toList).isInfix

theorem contains_take_lateSentence :
    Text.contains alreadyExists (Text.take n (lateSentence n)) = false := by
  rw [Text.contains, Text.take, String.toList_ofList, toList_lateSentence,
    List.take_left' List.length_replicate, Bool.eq_false_iff, ne_eq, Text.containsChars_iff]
  intro inside
  have first : 'a' ∈ List.replicate n 'x' := inside.subset (by decide)
  exact absurd (List.eq_of_mem_replicate first) (by decide)

end

/-- A user who is a member already is made one, and that fails: what the directory says of it comes
after the part of its answer that is kept. -/
theorem exists_grant_untold :
    ∃ c, Connector.ofConfig (referenceWorld {membership} (lateSentence 500)) 5 (.mapping []) true =
        .ok c ∧
      KeepsReferences c.world {membership} ∧ Authorized c ∧ joins.Suitable ∧
      ∃ failure, (joins.perform c .new).1 = .error (.fault (.failure failure)) := by
  obtain ⟨c, configured, world, authorized⟩ := exists_authorized {membership} (lateSentence 500)
  have keeps : KeepsReferences c.world {membership} :=
    world ▸ keepsReferences_referenceWorld (contains_lateSentence 500)
  have suitable : joins.Suitable := ⟨rfl, .inr rfl⟩
  have existing : membership ∈ held {membership} Session.new.history :=
    Finset.mem_singleton_self membership
  obtain ⟨request, response, asked, fails, -⟩ :=
    grant_asked keeps authorized suitable (by decide : joins.change = .add membership) .new
  obtain ⟨earlier, -, same, answered⟩ := asked.calls
  rw [world] at answered
  rw [body_of_existing asked.asks (same ▸ existing) answered] at fails
  exact ⟨c, configured, keeps, authorized, suitable, _,
    fails existing (contains_take_lateSentence 500)⟩

end AccessSync.Catalog.Group
