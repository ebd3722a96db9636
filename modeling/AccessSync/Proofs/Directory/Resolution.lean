import AccessSync.Proofs.Directory.Lookups

/-!
# The course of a resolution

A principal that is kept is handed out unasked.  For any other the endpoints are asked in their
order, once each, up to the first answer that settles what the object is.  A refusal counts as no
answer, except that the directory is not asked again when it wants fewer requests.
-/

namespace AccessSync.Directory

/-! ## Answers -/

/-- What a body says of an object. -/
inductive Says (body : Value) : Evidence → Prop where
  | empty (isEmpty : body.isEmpty = true) : Says body .none
  | user (kind : body.field "@odata.type" = .ok (.text userDiscriminator)) :
      Says body (.settled .user)
  | group (kind : body.field "@odata.type" = .ok (.text groupDiscriminator)) :
      Says body (.settled .group)
  | servicePrincipal {subtype : String}
      (kind : body.field "@odata.type" = .ok (.text servicePrincipalDiscriminator))
      (detail : body.field "servicePrincipalType" = .ok (.text subtype)) (given : subtype ≠ "") :
      Says body (.settled (.servicePrincipal (some subtype)))
  | untyped {detail : Value}
      (kind : body.field "@odata.type" = .ok (.text servicePrincipalDiscriminator))
      (read : body.field "servicePrincipalType" = .ok detail)
      (missing : detail = .null ∨ detail = .text "") : Says body .servicePrincipal
  | unmarked (kind : body.field "@odata.type" = .ok .null) : Says body .none
  | unrecognised {kind : String} (read : body.field "@odata.type" = .ok (.text kind))
      (other : kind ∉ [userDiscriminator, groupDiscriminator, servicePrincipalDiscriminator]) :
      Says body .none

/-- What is heard in a reply. -/
inductive Hears : Except Stop Value → Evidence → Prop where
  | said {body : Value} {found : Evidence} (speaks : Says body found) : Hears (.ok body) found
  | refused {failure : Failure} (upstream : failure.request?.isSome = true)
      (patient : failure.isRateLimited = false) : Hears (.error (.fault (.failure failure))) .none

/-- The stop is not passed over: the directory wants fewer requests, or it is no failure of a
request. -/
def Raises : Stop → Prop
  | .fault (.failure failure) => failure.isRateLimited = true ∨ failure.request? = none
  | .fault (.defect _) => True
  | .unfinished => True

/-! ## Lookups -/

structure Lookup where
  endpoint : String
  reply : Except Stop Value

/-- The reply leaves open what the object is. -/
def Lookup.Inconclusive (lookup : Lookup) : Prop :=
  Hears lookup.reply .none ∨ Hears lookup.reply .servicePrincipal

/-- The endpoints were asked for the object one after the other.  Each lookup is one query, and
nothing else was done but to report. -/
inductive Asked (world : World) (settings : Settings) (id : String) :
    Session → List Lookup → Session → Prop where
  | done (s : Session) : Asked world settings id s [] s
  | lookup {s t u : Session} {endpoint : String} {reply : Except Stop Value}
      {others : List Lookup}
      (asks : query world settings defaultScopes "GET" (url [endpoint, id] [] false) none s =
        (reply, t)) (rest : Asked world settings id t others u) :
      Asked world settings id s (⟨endpoint, reply⟩ :: others) u
  | reported {s u : Session} {lookups : List Lookup} (record : LogRecord)
      (rest : Asked world settings id (Journaled.record record s) lookups u) :
      Asked world settings id s lookups u

/-- What lookups come to.  If no endpoint settles it, they are all asked, and a service principal of
unknown subtype is better than nothing. -/
inductive Concludes (endpoints : List String) (otherwise : Principal) :
    List Lookup → Except Stop Principal → Prop where
  | settled {earlier : List Lookup} {last : Lookup} {principal : Principal}
      (inconclusive : ∀ lookup ∈ earlier, lookup.Inconclusive)
      (heard : Hears last.reply (.settled principal)) :
      Concludes endpoints otherwise (earlier ++ [last]) (.ok principal)
  | raised {earlier : List Lookup} {last : Lookup} {stop : Stop}
      (inconclusive : ∀ lookup ∈ earlier, lookup.Inconclusive)
      (stopped : last.reply = .error stop) (raises : Raises stop) :
      Concludes endpoints otherwise (earlier ++ [last]) (.error stop)
  | partly {lookups : List Lookup} (all : lookups.map Lookup.endpoint = endpoints)
      (inconclusive : ∀ lookup ∈ lookups, lookup.Inconclusive)
      (heard : ∃ lookup ∈ lookups, Hears lookup.reply .servicePrincipal) :
      Concludes endpoints otherwise lookups (.ok (.servicePrincipal none))
  | nothing {lookups : List Lookup} (all : lookups.map Lookup.endpoint = endpoints)
      (heard : ∀ lookup ∈ lookups, Hears lookup.reply .none) :
      Concludes endpoints otherwise lookups (.ok otherwise)

/-- The session after a resolution: a principal that is not unknown is kept. -/
def keeping (keep : Bool) (id : String) : Except Stop Principal → Session → Session
  | .ok principal, t =>
    if keep = true ∧ principal ≠ .unknown then
      Session.principalPart.set (t.objects.principals.insert id principal) t
    else t
  | .error _, t => t

section

variable (world : World) (settings : Settings)

/-- From the session on, what the endpoints return of the object is nothing, or a record whose
discriminators are texts if they are there. -/
def Legible (id : String) (s : Session) : Prop :=
  ∀ t, Leads world settings s t → ∀ endpoint ∈ lookupEndpoints, ∀ body,
    replyIn world settings id t endpoint = .ok body → discriminates body = true

end

variable {world : World} {settings : Settings} {id : String} {s t : Session}

/-- A legible body is read as what it says. -/
theorem says_of_evidenceOf {body : Value} {found : Evidence} (legible : discriminates body = true)
    (read : evidenceOf body = .ok found) : Says body found := by
  unfold evidenceOf at read
  by_cases empty : body.isEmpty
  · rw [if_pos empty] at read
    cases read
    exact .empty empty
  · rw [if_neg empty] at read
    simp only [discriminates, empty, Bool.false_or] at legible
    split at legible
    next kind subtype discriminator detail =>
      obtain ⟨isKind, isSubtype⟩ := Bool.and_eq_true_iff.mp legible
      simp only [discriminator, detail, bind, Except.bind] at read
      -- By the discriminator, which is compared with the known ones in turn; what other values it
      -- may have are no texts.
      cases kind with
      | null =>
        cases read
        exact .unmarked discriminator
      | text kind =>
        dsimp only at read
        split at read
        next same =>
          cases read
          exact .user (same ▸ discriminator)
        next noUser =>
          split at read
          next same =>
            cases read
            exact .group (same ▸ discriminator)
          next noGroup =>
            split at read
            next same =>
              subst same
              cases subtype with
              | null =>
                cases read
                exact .untyped discriminator detail (.inl rfl)
              | text subtype =>
                by_cases missing : subtype = ""
                · subst missing
                  cases read
                  exact .untyped discriminator detail (.inr rfl)
                · simp only [Value.nonemptyText?, Value.isEmpty, beq_iff_eq, missing, if_false]
                    at read
                  cases read
                  exact .servicePrincipal discriminator detail missing
              | bool _ | int _ | float _ | stamp _ | list _ | mapping _ => cases isSubtype
            next noServicePrincipal =>
              cases read
              exact .unrecognised discriminator
                (by simp [noUser, noGroup, noServicePrincipal])
      | bool _ | int _ | float _ | stamp _ | list _ | mapping _ => cases isKind
    next => cases legible

/-! ## One endpoint -/

/-- One lookup: its reply is heard, or raised. -/
theorem exists_hear (endpoint : String)
    (legible : ∀ body, replyIn world settings id s endpoint = .ok body →
      discriminates body = true) :
    ∃ reply outcome u, hear world settings id endpoint s = (outcome, u) ∧
      (∀ others t, Asked world settings id u others t →
        Asked world settings id s (⟨endpoint, reply⟩ :: others) t) ∧
      ((∃ found, outcome = .ok found ∧ Hears reply found) ∨
        ∃ stop, outcome = .error stop ∧ reply = .error stop ∧ Raises stop) := by
  -- By the outcome of the query; of all stops, only failures of requests may be passed over, and a
  -- lookup that is passed over is reported, so the next one does not start where the query ended.
  match asks : query world settings defaultScopes "GET" (url [endpoint, id] [] false) none s with
  | (.ok body, t) =>
    have clear : discriminates body = true := legible body (congrArg Prod.fst asks)
    obtain ⟨found, read⟩ := exists_evidenceOf clear
    have looked : lookUp world settings endpoint id s = (.ok body, t) := Run.onFailure_of_ok asks
    refine ⟨.ok body, .ok found, t, ?_, fun _ _ => .lookup asks,
      .inl ⟨found, rfl, .said (says_of_evidenceOf clear read)⟩⟩
    rw [hear, Run.bind_of_ok looked, read]
    rfl
  | (.error (.fault (.failure failure)), t) =>
    by_cases passed : (failure.request?.isSome && !failure.isRateLimited) = true
    · obtain ⟨record, looked⟩ : ∃ record, lookUp world settings endpoint id s =
          (.ok .null, Journaled.record record t) := by
        rw [lookUp, Run.onFailure_of_failure asks, if_pos passed]
        exact ⟨_, rfl⟩
      obtain ⟨upstream, patient⟩ := Bool.and_eq_true_iff.mp passed
      refine ⟨_, .ok .none, _, ?_, fun _ _ rest => .lookup asks (.reported record rest),
        .inl ⟨.none, rfl, .refused upstream (by simpa using patient)⟩⟩
      rw [hear, Run.bind_of_ok looked]
      rfl
    · have looked : lookUp world settings endpoint id s =
          (.error (.fault (.failure failure)), t) := by
        rw [lookUp, Run.onFailure_of_failure asks, if_neg passed]
        rfl
      have raises : Raises (.fault (.failure failure)) := by
        by_cases patient : failure.isRateLimited = true
        · exact .inl patient
        · exact .inr (by simpa [patient] using passed)
      exact ⟨_, _, t, Run.bind_of_error looked, fun _ _ => .lookup asks,
        .inr ⟨_, rfl, rfl, raises⟩⟩
  | (.error (.fault (.defect defect)), t) =>
    have looked : lookUp world settings endpoint id s = (.error (.fault (.defect defect)), t) :=
      Run.tryCatch_of_error asks
    exact ⟨_, _, t, Run.bind_of_error looked, fun _ _ => .lookup asks,
      .inr ⟨_, rfl, rfl, trivial⟩⟩
  | (.error .unfinished, t) =>
    have looked : lookUp world settings endpoint id s = (.error .unfinished, t) :=
      Run.tryCatch_of_error asks
    exact ⟨_, _, t, Run.bind_of_error looked, fun _ _ => .lookup asks,
      .inr ⟨_, rfl, rfl, trivial⟩⟩

theorem leads_hear (endpoint : String) :
    Keeps (Leads world settings s) (hear world settings id endpoint) :=
  (leads_lookUp endpoint).bind fun _ _ => keeps_reading _

/-! ## All endpoints -/

namespace Concludes

variable {endpoints : List String} {otherwise : Principal} {endpoint : String}
  {reply : Except Stop Value} {others : List Lookup} {outcome : Except Stop Principal}

/-- The first endpoint settles it. -/
theorem at_once {principal : Principal} (heard : Hears reply (.settled principal)) :
    Concludes endpoints otherwise [⟨endpoint, reply⟩] (.ok principal) :=
  have none : ∀ lookup ∈ ([] : List Lookup), lookup.Inconclusive := nofun
  .settled none heard

/-- The first reply is raised. -/
theorem at_first {stop : Stop} (raises : Raises stop) :
    Concludes endpoints otherwise [⟨endpoint, .error stop⟩] (.error stop) :=
  have none : ∀ lookup ∈ ([] : List Lookup), lookup.Inconclusive := nofun
  .raised none rfl raises

/-- Nothing was heard at first. -/
theorem after_none (heard : Hears reply .none)
    (rest : Concludes endpoints otherwise others outcome) :
    Concludes (endpoint :: endpoints) otherwise (⟨endpoint, reply⟩ :: others) outcome := by
  have undecided : Lookup.Inconclusive ⟨endpoint, reply⟩ := .inl heard
  cases rest with
  | settled inconclusive settles =>
    exact .settled (List.forall_mem_cons.mpr ⟨undecided, inconclusive⟩) settles
  | raised inconclusive stopped raises =>
    exact .raised (List.forall_mem_cons.mpr ⟨undecided, inconclusive⟩) stopped raises
  | partly all inconclusive partly =>
    obtain ⟨lookup, member, untyped⟩ := partly
    exact .partly (congrArg _ all) (List.forall_mem_cons.mpr ⟨undecided, inconclusive⟩)
      ⟨lookup, List.mem_cons_of_mem _ member, untyped⟩
  | nothing all nothing =>
    exact .nothing (congrArg _ all) (List.forall_mem_cons.mpr ⟨heard, nothing⟩)

/-- A service principal was heard of at first, so there is something to fall back on. -/
theorem after_servicePrincipal (heard : Hears reply .servicePrincipal)
    (rest : Concludes endpoints (.servicePrincipal none) others outcome) :
    Concludes (endpoint :: endpoints) otherwise (⟨endpoint, reply⟩ :: others) outcome := by
  have undecided : Lookup.Inconclusive ⟨endpoint, reply⟩ := .inr heard
  have fallBack (all : others.map Lookup.endpoint = endpoints)
      (inconclusive : ∀ lookup ∈ others, lookup.Inconclusive) :
      Concludes (endpoint :: endpoints) otherwise (⟨endpoint, reply⟩ :: others)
        (.ok (.servicePrincipal none)) :=
    .partly (congrArg _ all) (List.forall_mem_cons.mpr ⟨undecided, inconclusive⟩)
      ⟨_, List.mem_cons_self, heard⟩
  cases rest with
  | settled inconclusive settles =>
    exact .settled (List.forall_mem_cons.mpr ⟨undecided, inconclusive⟩) settles
  | raised inconclusive stopped raises =>
    exact .raised (List.forall_mem_cons.mpr ⟨undecided, inconclusive⟩) stopped raises
  | partly all inconclusive partly => exact fallBack all inconclusive
  | nothing all nothing => exact fallBack all fun lookup member => .inl (nothing lookup member)

end Concludes

/-- The endpoints are asked in their order, until what was heard is conclusive. -/
theorem askEndpoints_concludes (legible : Legible world settings id s)
    (leads : Leads world settings s t) {endpoints : List String}
    (known : ∀ endpoint ∈ endpoints, endpoint ∈ lookupEndpoints) (partly : Bool) :
    ∃ lookups outcome u, askEndpoints world settings id partly endpoints t = (outcome, u) ∧
      Asked world settings id t lookups u ∧ lookups.map Lookup.endpoint <+: endpoints ∧
      Concludes endpoints (if partly then .servicePrincipal none else .unknown) lookups
        outcome := by
  -- On the endpoints; what was heard before is in what the rest of them falls back on.
  induction endpoints generalizing t partly with
  | nil =>
    cases partly with
    | true => exact ⟨[], _, t, rfl, .done t, List.nil_prefix, .nothing rfl nofun⟩
    | false =>
      exact ⟨[], _, _, rfl, .reported _ (.done _), List.nil_prefix, .nothing rfl nofun⟩
  | cons endpoint endpoints inductionHypothesis =>
    obtain ⟨reply, outcome, u, hears, asked, found⟩ := exists_hear endpoint
      fun body replied => legible t leads endpoint (known endpoint List.mem_cons_self) body replied
    have later (partly : Bool) := inductionHypothesis ((leads_hear endpoint).kept leads hears)
      (fun other member => known other (List.mem_cons_of_mem endpoint member)) partly
    rw [askEndpoints_cons]
    obtain ⟨found, rfl, heard⟩ | ⟨stop, rfl, rfl, raises⟩ := found
    · rw [Run.bind_of_ok hears]
      cases found with
      | settled principal =>
        exact ⟨_, _, u, rfl, asked [] u (.done u), by simp, .at_once heard⟩
      | servicePrincipal =>
        obtain ⟨lookups, outcome, w, comes, rest, inOrder, concludes⟩ := later true
        exact ⟨_, outcome, w, comes, asked lookups w rest,
          List.prefix_cons_inj _ |>.mpr inOrder, .after_servicePrincipal heard concludes⟩
      | none =>
        obtain ⟨lookups, outcome, w, comes, rest, inOrder, concludes⟩ := later partly
        exact ⟨_, outcome, w, comes, asked lookups w rest,
          List.prefix_cons_inj _ |>.mpr inOrder, .after_none heard concludes⟩
    · rw [Run.bind_of_error hears]
      exact ⟨_, _, u, rfl, asked [] u (.done u), by simp, .at_first raises⟩

/-- Without a principal that is kept, a resolution asks the endpoints. -/
theorem resolve_of_unknown {keep : Bool}
    (absent : keep = true → s.objects.principals.get? id = none) {outcome : Except Stop Principal}
    (asked : askEndpoints world settings id false lookupEndpoints s = (outcome, t)) :
    resolve world settings keep id s = (outcome, keeping keep id outcome t) := by
  cases keep with
  | true =>
    rw [resolve_of_absent (absent rfl), asked]
    cases outcome with
    | ok principal => by_cases unknown : principal = .unknown <;> simp [keeping, unknown]
    | error stop => rfl
  | false =>
    have none : (Pure.pure none : Act (Option Principal)) s = (.ok none, s) := rfl
    rw [resolve, if_neg (by decide), Run.bind_of_ok none]
    cases outcome with
    | ok principal =>
      simp only [Run.bind_of_ok asked, keeping]
      rfl
    | error stop =>
      simp only
      rw [Run.bind_of_error asked]
      rfl

/-- A principal that is kept is handed out without a request.  Any other is looked up: the endpoints
are asked in order, once each, up to the first that settles it.  If none does, all of them have been
asked, and it is a service principal of unknown subtype or unknown.  Refusals are no answers, and
what is no refusal is raised at once, as is a rate limit.  What was kept before is still kept, and
nothing is added but a principal that is not unknown. -/
theorem resolve_concludes (legible : Legible world settings id s) (keep : Bool) :
    (∀ principal, keep = true → s.objects.principals.get? id = some principal →
      resolve world settings keep id s = (.ok principal, s)) ∧
    ((keep = true → s.objects.principals.get? id = none) →
      ∃ lookups outcome t, resolve world settings keep id s = (outcome, keeping keep id outcome t) ∧
        Asked world settings id s lookups t ∧
        lookups.map Lookup.endpoint <+: lookupEndpoints ∧
        Concludes lookupEndpoints .unknown lookups outcome ∧
        t.objects.principals = s.objects.principals) := by
  refine ⟨?_, fun absent => ?_⟩
  · rintro principal rfl known
    exact resolve_of_known known
  · obtain ⟨lookups, outcome, t, asks, asked, inOrder, concludes⟩ :=
      askEndpoints_concludes legible .here (fun _ member => member) false
    have principals :
        (askEndpoints world settings id false lookupEndpoints s).2.objects.principals =
          s.objects.principals :=
      principals_askEndpoints lookupEndpoints
    rw [asks] at principals
    exact ⟨lookups, outcome, t, resolve_of_unknown absent asks, asked, inOrder, concludes,
      principals⟩

theorem discriminates_appReply :
    ∀ endpoint ∈ lookupEndpoints, (appReply false endpoint).toOption.all discriminates = true := by
  decide +kernel

theorem legible_app (out : List String) (s : Session) :
    Legible (ailingWorld out) plainSettings "app" s := by
  intro t _ endpoint member body replies
  obtain ⟨refuses, same, -⟩ := exists_replyIn_ailing out t endpoint
  rw [same] at replies
  cases refuses with
  | true =>
    have refused := refused_appReply endpoint member
    rw [replies] at refused
    cases refused
  | false =>
    have clear := discriminates_appReply endpoint member
    rw [replies] at clear
    exact clear

/-- The endpoint that knows the subtype refuses, so all endpoints are asked, and the application is
kept as a service principal of unknown subtype. -/
theorem resolve_concludes_ailingWorld :
    Legible (ailingWorld ["servicePrincipals"]) plainSettings "app" .new ∧
      ∃ lookups t, Asked (ailingWorld ["servicePrincipals"]) plainSettings "app" .new lookups t ∧
        lookups.map Lookup.endpoint = lookupEndpoints ∧
        resolve (ailingWorld ["servicePrincipals"]) plainSettings true "app" .new =
          (.ok (.servicePrincipal none), Session.principalPart.set
            (Cache.insert .empty "app" (.servicePrincipal none)) t) := by
  refine ⟨legible_app _ _, ?_⟩
  have evaluated : (resolve (ailingWorld ["servicePrincipals"]) plainSettings true "app"
      .new).1.toOption = some (.servicePrincipal none) := by
    decide +kernel
  obtain ⟨lookups, outcome, t, resolves, asked, -, concludes, principals⟩ :=
    (resolve_concludes (legible_app ["servicePrincipals"] .new) true).2 fun _ => rfl
  obtain rfl : outcome = .ok (.servicePrincipal none) := by
    rw [resolves] at evaluated
    exact eq_ok_of_toOption evaluated
  refine ⟨lookups, t, asked, ?_, ?_⟩
  · cases concludes with
    | @settled earlier last _ inconclusive heard =>
      -- No body settles a service principal without a subtype.
      generalize last.reply = reply at heard
      cases heard with
      | said speaks => cases speaks
    | partly all => exact all
  · rw [resolves, keeping, if_pos (by decide), principals]
    rfl

end AccessSync.Directory
