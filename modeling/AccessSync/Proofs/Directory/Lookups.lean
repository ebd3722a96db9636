import AccessSync.Proofs.Cache
import AccessSync.Proofs.Directory.Agreement
import AccessSync.Proofs.Directory.Evidence
import Mathlib.Data.List.Induction

/-!
# Principals after failed lookups

An endpoint that refuses may be the one that knows the object, so what is concluded from the others
may fall short of what the directory knows.  A principal that remained unknown is not kept, and is
asked for again.  A service principal of unknown subtype is kept, though, and no later answer
corrects that.  This is the only way in which a refusal is felt later on.
-/

namespace AccessSync.Directory

/-- The evidence is of the principal, as far as it goes. -/
def Evidence.Fits (principal : Principal) : Evidence → Prop
  | .none => True
  | .servicePrincipal => ∃ subtype, principal = .servicePrincipal subtype
  | .settled other => other = principal

/-- Lookups of some objects lead from the one session to the other. -/
inductive Leads (world : World) (settings : Settings) (s : Session) : Session → Prop where
  | here : Leads world settings s s
  | asked {t : Session} (endpoint id : String) (leads : Leads world settings s t) :
    Leads world settings s (lookUp world settings endpoint id t).2
  | reported {t : Session} (record : LogRecord) (leads : Leads world settings s t) :
    Leads world settings s (Journaled.record record t)
  | kept {t : Session} (principals : Cache String Principal) (leads : Leads world settings s t) :
    Leads world settings s (Session.principalPart.set principals t)

/-- What no step of a lookup breaks is there wherever lookups lead. -/
theorem Leads.holds {world : World} {settings : Settings} {s t : Session} {P : Session → Prop}
    (leads : Leads world settings s t)
    (called : ∀ call s, P s → P { s with history := call :: s.history })
    (recorded : ∀ record s, P s → P (Journaled.record record s))
    (holdTokens : ∀ tokens s, P s → P (Session.tokenPart.set tokens s))
    (holdPrincipals : ∀ principals s, P s → P (Session.principalPart.set principals s))
    (holds : P s) : P t := by
  have answering : Answering (Along P) world := .along called recorded holdTokens
  induction leads with
  | here => exact holds
  | @asked t endpoint id _ before =>
    have looks := agrees_lookUp (answering.connected settings) endpoint id
    exact (keeps_iff_agrees.mpr looks t before).1
  | reported record _ before => exact recorded record _ before
  | kept principals _ before => exact holdPrincipals principals _ before

section

variable (world : World) (settings : Settings)

/-- From the session on, each endpoint has one word on the object for the times that it answers, and
all of them speak of one principal. -/
structure OneObject (id : String) (word : String → Evidence) (s : Session) : Prop where
  said : ∀ t, Leads world settings s t → ∀ endpoint ∈ lookupEndpoints, ∀ body,
    replyIn world settings id t endpoint = .ok body → evidenceOf body = .ok (word endpoint)
  principal : ∃ principal, ∀ endpoint ∈ lookupEndpoints, (word endpoint).Fits principal

/-- From the session on, each endpoint that has something to say of the object says it. -/
def Forthcoming (id : String) (word : String → Evidence) (s : Session) : Prop :=
  ∀ t, Leads world settings s t → ∀ endpoint ∈ lookupEndpoints,
    conveys (word endpoint) (replyIn world settings id t endpoint) = true

/-- The session after principals have been resolved one after the other. -/
def resolveAll (ids : List String) (s : Session) : Session :=
  ids.foldl (fun s id => (resolve world settings true id s).2) s

end

variable {world : World} {settings : Settings} {id : String} {word : String → Evidence}
  {s t : Session}

/-! ## Asking the endpoints -/

/-- The principal goes by what was heard. -/
def Backed (Heard : Evidence → Prop) (principal : Principal) : Prop :=
  Heard (.settled principal) ∨ principal = .servicePrincipal none ∧ Heard .servicePrincipal

/-- Some endpoint has this to say of the object. -/
def Told (word : String → Evidence) (found : Evidence) : Prop :=
  ∃ endpoint ∈ lookupEndpoints, word endpoint = found

section

variable {P : Session → Prop} {Heard : Evidence → Prop} {endpoints : List String}
  (recorded : ∀ record s, P s → P (Journaled.record record s))

include recorded

/-- A principal that is not unknown goes by what the endpoints say. -/
theorem ensures_askEndpoints
    (heard : ∀ endpoint ∈ endpoints, Ensures P (hear world settings id endpoint) fun found =>
      found = .none ∨ Heard found)
    {partly : Bool} (earlier : partly = true → Heard .servicePrincipal) :
    Ensures P (askEndpoints world settings id partly endpoints) fun principal =>
      principal ≠ .unknown → Backed Heard principal := by
  induction endpoints generalizing partly with
  | nil =>
    unfold askEndpoints
    cases partly with
    | true => exact Ensures.pure fun _ => .inr ⟨rfl, earlier rfl⟩
    | false =>
      refine (Ensures.log recorded _ _ _).bind fun _ _ => ?_
      exact Ensures.pure fun known => absurd rfl known
  | cons endpoint endpoints inductionHypothesis =>
    have later {partly : Bool} (earlier : partly = true → Heard .servicePrincipal) :=
      inductionHypothesis (fun other member => heard other (List.mem_cons_of_mem endpoint member))
        earlier
    rw [askEndpoints_cons]
    refine (heard endpoint List.mem_cons_self).bind fun found speaks => ?_
    cases found with
    | settled principal => exact Ensures.pure fun _ => .inl (speaks.resolve_left (by simp))
    | servicePrincipal => exact later fun _ => speaks.resolve_left (by simp)
    | none => exact later earlier

/-- Asking the endpoints keeps what each lookup keeps. -/
theorem keeps_askEndpoints (looks : ∀ endpoint, Keeps P (lookUp world settings endpoint id))
    (endpoints : List String) : Keeps P (askEndpoints world settings id false endpoints) := by
  have heard (endpoint : String) : Ensures P (hear world settings id endpoint) fun found =>
      found = .none ∨ True :=
    (looks endpoint).bind fun _ _ => Ensures.reading fun _ _ => .inr trivial
  have asked : Ensures P (askEndpoints world settings id false endpoints) _ :=
    ensures_askEndpoints recorded (fun endpoint _ => heard endpoint) fun _ => trivial
  exact asked.weaken fun _ _ => trivial

end

theorem leads_lookUp (endpoint : String) :
    Keeps (Leads world settings s) (lookUp world settings endpoint id) :=
  fun _ leads => ⟨.asked endpoint id leads, fun _ _ => trivial⟩

/-- Lookups leave the principals that are kept alone. -/
theorem principals_askEndpoints (endpoints : List String) :
    (askEndpoints world settings id false endpoints s).2.objects.principals =
      s.objects.principals := by
  let Same (t : Session) : Prop := t.objects.principals = s.objects.principals
  have answering : Answering (Along Same) world :=
    .along (fun _ _ same => same) (fun _ _ same => same) fun _ _ same => same
  have looks (endpoint : String) : Keeps Same (lookUp world settings endpoint id) :=
    keeps_iff_agrees.mpr (agrees_lookUp (answering.connected settings) endpoint id)
  exact (keeps_askEndpoints (fun _ _ same => same) looks endpoints s rfl).1

/-- An endpoint says nothing, or its word on the object. -/
theorem ensures_hear (object : OneObject world settings id word s) {endpoint : String}
    (member : endpoint ∈ lookupEndpoints) :
    Ensures (Leads world settings s) (hear world settings id endpoint) fun found =>
      found = .none ∨ Told word found := by
  have looked : Ensures (Leads world settings s) (lookUp world settings endpoint id) fun body =>
      ∀ found, evidenceOf body = .ok found → found = .none ∨ Told word found := by
    refine fun t leads => ⟨.asked endpoint id leads, fun body returns found read => ?_⟩
    have looked : lookUp world settings endpoint id t = (.ok body, _) := Prod.ext returns rfl
    obtain answered | ⟨failure, u, -, handled⟩ := Run.exists_of_onFailure looked
    · have spoken := object.said t leads endpoint member body (congrArg Prod.fst answered)
      exact .inr ⟨endpoint, member, Except.ok.inj (spoken.symm.trans read)⟩
    · split at handled
      next =>
        obtain ⟨_, _, -, handled⟩ := Run.exists_of_bind handled
        cases handled
        cases read
        exact .inl rfl
      next => cases handled
  exact looked.bind fun body reads => Ensures.reading reads

/-- Where an endpoint has something to say of the object, it says it. -/
theorem ends_hear (forthcoming : Forthcoming world settings id word s) {endpoint : String}
    (member : endpoint ∈ lookupEndpoints) :
    Ends (Leads world settings s) (hear world settings id endpoint) (.ok (word endpoint)) := by
  intro t leads
  obtain ⟨body, returns, read⟩ := exists_lookUp (forthcoming t leads endpoint member)
  have looked : lookUp world settings endpoint id t = (.ok body, _) := Prod.ext returns rfl
  rw [hear, Run.bind_of_ok looked, read]
  exact ⟨rfl, .asked endpoint id leads⟩

/-! ## Resolving -/

theorem resolve_of_known {principal : Principal}
    (known : s.objects.principals.get? id = some principal) :
    resolve world settings true id s = (.ok principal, s) := by
  have looked : Cache.lookup Session.principalPart id s = (.ok (some principal), s) := by
    rw [← known]
    rfl
  rw [resolve, if_pos rfl, Run.bind_of_ok looked]
  rfl

/-- A principal that is not known is asked for, and kept if it is found. -/
theorem resolve_of_absent (absent : s.objects.principals.get? id = none) :
    resolve world settings true id s =
      match askEndpoints world settings id false lookupEndpoints s with
      | (.ok principal, t) => (.ok principal, if principal = .unknown then t else
          Session.principalPart.set (t.objects.principals.insert id principal) t)
      | (.error stop, t) => (.error stop, t) := by
  have looked : Cache.lookup Session.principalPart id s = (.ok none, s) := by
    rw [← absent]
    rfl
  rw [resolve, if_pos rfl, Run.bind_of_ok looked]
  match asked : askEndpoints world settings id false lookupEndpoints s with
  | (.ok principal, t) =>
    simp only [Run.bind_of_ok asked, Bool.true_and]
    by_cases unknown : principal = .unknown
    · subst unknown
      rfl
    · rw [if_pos (bne_iff_ne.mpr unknown), if_neg unknown]
      rfl
  | (.error stop, t) =>
    simp only
    rw [Run.bind_of_error asked]

theorem fst_resolve_of_absent (absent : s.objects.principals.get? id = none) :
    (resolve world settings true id s).1 =
      (askEndpoints world settings id false lookupEndpoints s).1 := by
  rw [resolve_of_absent absent]
  split
  next asked => rw [asked]
  next asked => rw [asked]

theorem leads_resolve (leads : Leads world settings s t) (id : String) :
    Leads world settings s (resolve world settings true id t).2 := by
  have asked : Leads world settings s
      (askEndpoints world settings id false lookupEndpoints t).2 :=
    (keeps_askEndpoints (fun record _ leads => .reported record leads) leads_lookUp _ t leads).1
  cases known : t.objects.principals.get? id with
  | some principal =>
    rw [resolve_of_known known]
    exact leads
  | none =>
    rw [resolve_of_absent known]
    split
    next outcome =>
      rw [outcome] at asked
      split
      next => exact asked
      next => exact .kept _ asked
    next outcome =>
      rw [outcome] at asked
      exact asked

theorem leads_resolveAll (leads : Leads world settings s t) (ids : List String) :
    Leads world settings s (resolveAll world settings ids t) := by
  induction ids generalizing t with
  | nil => exact leads
  | cons id ids inductionHypothesis => exact inductionHypothesis (leads_resolve leads id)

/-- A principal that is kept after a resolution was kept before, or was found by it. -/
theorem kept_of_resolve {other : String} {principal : Principal}
    (kept : (resolve world settings true other s).2.objects.principals.get? id = some principal) :
    s.objects.principals.get? id = some principal ∨ other = id ∧ principal ≠ .unknown ∧
      s.objects.principals.get? id = none ∧
      (askEndpoints world settings id false lookupEndpoints s).1 = .ok principal := by
  cases known : s.objects.principals.get? other with
  | some _ =>
    rw [resolve_of_known known] at kept
    exact .inl kept
  | none =>
    have same : (askEndpoints world settings other false lookupEndpoints s).2.objects.principals =
        s.objects.principals := principals_askEndpoints lookupEndpoints
    rw [resolve_of_absent known] at kept
    -- Asking leaves the entries alone, so the one in question is new only if it was asked for.
    split at kept
    next found t asked =>
      rw [asked] at same
      by_cases unknown : found = .unknown
      · rw [if_pos unknown, same] at kept
        exact .inl kept
      · rw [if_neg unknown] at kept
        by_cases own : id = other
        · subst own
          have stored : some found = some principal := (Cache.get?_insert _ _ _).symm.trans kept
          cases stored
          exact .inr ⟨rfl, unknown, known, congrArg Prod.fst asked⟩
        · have before : t.objects.principals.get? id = some principal :=
            (Cache.get?_insert_of_ne _ _ own).symm.trans kept
          rw [same] at before
          exact .inl before
    next stop t asked =>
      rw [asked] at same
      rw [same] at kept
      exact .inl kept

/-- What is kept as the principal after resolutions was the answer to one of them, and goes by what
the endpoints say. -/
theorem kept_of_resolveAll (object : OneObject world settings id word s)
    (absent : s.objects.principals.get? id = none) {ids : List String} {principal : Principal}
    (kept : (resolveAll world settings ids s).objects.principals.get? id = some principal) :
    Backed (Told word) principal ∧ ∃ before later, ids = before ++ id :: later ∧
      (resolve world settings true id (resolveAll world settings before s)).1 = .ok principal := by
  -- On the resolutions from the last one; it is the one in question, or it left the entry alone.
  induction ids using List.reverseRecOn with
  | nil => exact absurd (absent.symm.trans kept) (by simp)
  | append_singleton ids other inductionHypothesis =>
    have last : resolveAll world settings (ids ++ [other]) s =
        (resolve world settings true other (resolveAll world settings ids s)).2 := by
      simp [resolveAll]
    rw [last] at kept
    obtain before | ⟨rfl, found, unknown, asked⟩ := kept_of_resolve kept
    · obtain ⟨backed, front, back, rfl, answered⟩ := inductionHypothesis before
      exact ⟨backed, front, back ++ [other], by simp, answered⟩
    · have finds : Ensures (Leads world settings s)
          (askEndpoints world settings other false lookupEndpoints) fun principal =>
            principal ≠ .unknown → Backed (Told word) principal :=
        ensures_askEndpoints (fun record _ leads => .reported record leads)
          (fun _ member => ensures_hear object member) nofun
      have backed := (finds _ (leads_resolveAll .here ids)).2 principal asked found
      refine ⟨backed, ids, [], rfl, ?_⟩
      rw [fst_resolve_of_absent unknown]
      exact asked

/-! ## What is kept -/

/-- What goes by the words on one principal is the conclusion from all of them, or it misses nothing
but the subtype of a service principal. -/
theorem conclusion_of_backed {principal : Principal}
    (one : ∃ object, ∀ endpoint ∈ lookupEndpoints, (word endpoint).Fits object)
    (backed : Backed (Told word) principal) :
    conclusion (lookupEndpoints.map word) .unknown = principal ∨
      principal = .servicePrincipal none ∧ ∃ subtype,
        conclusion (lookupEndpoints.map word) .unknown = .servicePrincipal (some subtype) := by
  obtain ⟨object, fits⟩ := one
  have fit {found : Evidence} (told : Told word found) : found.Fits object := by
    obtain ⟨endpoint, member, rfl⟩ := told
    exact fits endpoint member
  -- If anything is settled, it is settled as the one object, so only less than that can differ.
  cases settles : (lookupEndpoints.map word).findSome? Evidence.settled? with
  | some found =>
    have concluded : conclusion (lookupEndpoints.map word) .unknown = found := by
      rw [conclusion, settles]
      rfl
    have same : found = object := by
      obtain ⟨evidence, member, settled⟩ := List.exists_of_findSome?_eq_some settles
      have told : Told word evidence := by simpa [Told] using member
      cases evidence with
      | settled other =>
        cases settled
        exact fit told
      | none | servicePrincipal => cases settled
    rw [concluded, same]
    obtain told | ⟨rfl, told⟩ := backed
    · exact .inl (fit told).symm
    · obtain ⟨subtype, rfl⟩ := fit told
      cases subtype with
      | none => exact .inl rfl
      | some subtype => exact .inr ⟨rfl, subtype, rfl⟩
  | none =>
    have unsettled := List.findSome?_eq_none_iff.mp settles
    have listed {found : Evidence} (told : Told word found) :
        found ∈ lookupEndpoints.map word := by
      simpa [Told] using told
    obtain told | ⟨rfl, told⟩ := backed
    · cases unsettled _ (listed told)
    · left
      rw [conclusion, settles, if_pos (listed told)]
      rfl

/-- However often principals were resolved, and whatever lookups failed, once each endpoint that
has something to say of an object says it, the object is resolved as it would be with nothing kept:
to the conclusion from the words of the endpoints.  The one exception is a service principal whose
subtype was not had at some earlier time.  It goes on to be of unknown subtype. -/
theorem resolve_as_afresh {ids : List String} (object : OneObject world settings id word s)
    (absent : s.objects.principals.get? id = none)
    (history : resolveAll world settings ids s = t)
    (forthcoming : Forthcoming world settings id word t) :
    (resolve world settings true id (Session.principalPart.set .empty t)).1 =
        .ok (conclusion (lookupEndpoints.map word) .unknown) ∧
      ((resolve world settings true id t).1 =
          (resolve world settings true id (Session.principalPart.set .empty t)).1 ∨
        ∃ before later subtype, ids = before ++ id :: later ∧
          (resolve world settings true id (resolveAll world settings before s)).1 =
            .ok (.servicePrincipal none) ∧
          (resolve world settings true id t).1 = .ok (.servicePrincipal none) ∧
          conclusion (lookupEndpoints.map word) .unknown = .servicePrincipal (some subtype)) := by
  have asked : Ends (Leads world settings t)
      (askEndpoints world settings id false lookupEndpoints)
      (.ok (conclusion (lookupEndpoints.map word) .unknown)) :=
    ends_askEndpoints (fun record _ leads => .reported record leads)
      (fun _ member => ends_hear forthcoming member) false
  have afresh : (resolve world settings true id (Session.principalPart.set .empty t)).1 =
      .ok (conclusion (lookupEndpoints.map word) .unknown) := by
    rw [fst_resolve_of_absent rfl]
    exact (asked _ (.kept .empty .here)).1
  refine ⟨afresh, ?_⟩
  rw [afresh]
  -- What is kept is handed out unasked, so it is what was kept that has to be compared.
  cases known : t.objects.principals.get? id with
  | none =>
    left
    rw [fst_resolve_of_absent known]
    exact (asked t .here).1
  | some principal =>
    rw [resolve_of_known known]
    subst history
    obtain ⟨backed, before, later, split, answered⟩ := kept_of_resolveAll object absent known
    obtain rfl | ⟨rfl, subtype, concluded⟩ := conclusion_of_backed object.principal backed
    · exact .inl rfl
    · exact .inr ⟨before, later, subtype, split, answered, rfl, concluded⟩

/-! ### A directory that is partly out of order -/

abbrev appAddress (endpoint : String) : String := url [endpoint, "app"] [] false

/-- During the first eight calls, the directory refuses to answer at some endpoints.  It knows one
object, a service principal, whose subtype is given at one endpoint only. -/
def ailingWorld (out : List String) : World where
  answer history
    | .request request =>
      .ok (respond (history.length < 8 && (out.map appAddress).contains request.url) request.url)
    | .clientToken .. => .error (.unexpected "")
    | .credentialToken _ => .ok "token"
    | .openClient _ => ()
    | .listPage .. => .ok .none
    | .operate _ => .ok .null
    | .freshName => ""
    | .sleep _ => .ok ()
    | .clock => (0 : Int)
  cancels _ _ := false
where
  respond (refuses : Bool) (url : String) : HttpResponse :=
    if refuses then ⟨500, [], "try later"⟩
    else (bodies.lookup url).elim ⟨404, [], ""⟩ (⟨200, [], ·⟩)
  bodies : List (String × String) := [
    (appAddress "directoryObjects",
      "\x7b\"@odata.type\":\"#microsoft.graph.servicePrincipal\"\x7d"),
    (appAddress "servicePrincipals",
      "\x7b\"@odata.type\":\"#microsoft.graph.servicePrincipal\"," ++
        "\"servicePrincipalType\":\"Application\"\x7d")]

def plainSettings : Settings := ⟨.mapping [], true, 30, 1, 1⟩

/-- What the endpoints have to say of the application. -/
def appWord (endpoint : String) : Evidence :=
  if endpoint = "directoryObjects" then .servicePrincipal
  else if endpoint = "servicePrincipals" then .settled (.servicePrincipal (some "Application"))
  else .none

abbrev appReply (refuses : Bool) (endpoint : String) : Except Stop Value :=
  (interpret "GET" (appAddress endpoint) (ailingWorld.respond refuses (appAddress endpoint))
    Session.new).1

theorem exists_replyIn_ailing (out : List String) (s : Session) (endpoint : String) :
    ∃ refuses, replyIn (ailingWorld out) plainSettings "app" s endpoint =
      appReply refuses endpoint ∧ (8 ≤ s.history.length → refuses = false) := by
  -- The request is the second call of a lookup, after the one for a token.
  refine ⟨s.history.length + 1 < 8 && (out.map appAddress).contains (appAddress endpoint),
    (agrees_interpret (R := fun _ _ => True) _ _ _ _ _ trivial).1, fun late => ?_⟩
  rw [decide_eq_false (by omega), Bool.false_and]

theorem conveys_appReply :
    ∀ endpoint ∈ lookupEndpoints, conveys (appWord endpoint) (appReply false endpoint) = true := by
  decide +kernel

theorem refused_appReply :
    ∀ endpoint ∈ lookupEndpoints, (appReply true endpoint).toOption.isNone = true := by
  decide +kernel

theorem oneObject_app (out : List String) (s : Session) :
    OneObject (ailingWorld out) plainSettings "app" appWord s where
  said t _ endpoint member body replies := by
    obtain ⟨refuses, same, -⟩ := exists_replyIn_ailing out t endpoint
    rw [same] at replies
    cases refuses with
    | true =>
      have refused := refused_appReply endpoint member
      rw [replies] at refused
      cases refused
    | false =>
      have conveyed := conveys_appReply endpoint member
      rw [replies] at conveyed
      exact eq_ok_of_toOption (of_decide_eq_true conveyed)
  principal := ⟨.servicePrincipal (some "Application"), by
    simp [lookupEndpoints, appWord, Evidence.Fits]⟩

theorem forthcoming_app (out : List String) {s : Session} (late : 8 ≤ s.history.length) :
    Forthcoming (ailingWorld out) plainSettings "app" appWord s := by
  intro t leads endpoint member
  have later : 8 ≤ t.history.length :=
    leads.holds (P := fun u => 8 ≤ u.history.length) (fun _ _ => Nat.le_succ_of_le)
      (fun _ _ => id) (fun _ _ => id) (fun _ _ => id) late
  obtain ⟨refuses, same, answers⟩ := exists_replyIn_ailing out t endpoint
  rw [same, answers later]
  exact conveys_appReply endpoint member

/-- All endpoints refuse at first, so the application remains unknown.  It is what it is when it is
resolved again. -/
theorem resolve_as_afresh_ailingWorld :
    OneObject (ailingWorld lookupEndpoints) plainSettings "app" appWord Session.new ∧
      Session.new.objects.principals.get? "app" = none ∧
      (resolve (ailingWorld lookupEndpoints) plainSettings true "app" Session.new).1.toOption =
        some .unknown ∧
      ∃ t, resolveAll (ailingWorld lookupEndpoints) plainSettings ["app"] Session.new = t ∧
        Forthcoming (ailingWorld lookupEndpoints) plainSettings "app" appWord t ∧
        (resolve (ailingWorld lookupEndpoints) plainSettings true "app" t).1 =
          .ok (.servicePrincipal (some "Application")) := by
  have first : (resolve (ailingWorld lookupEndpoints) plainSettings true "app"
      Session.new).1.toOption = some .unknown := by
    decide +kernel
  have late : 8 ≤ (resolveAll (ailingWorld lookupEndpoints) plainSettings ["app"]
      Session.new).history.length := by
    decide +kernel
  refine ⟨oneObject_app _ _, rfl, first, _, rfl, forthcoming_app _ late, ?_⟩
  have history : resolveAll (ailingWorld lookupEndpoints) plainSettings ["app"] Session.new = _ :=
    rfl
  obtain ⟨afresh, same | ⟨before, later, subtype, split, partly, -⟩⟩ :=
    resolve_as_afresh (oneObject_app _ _) rfl history (forthcoming_app _ late)
  · rw [same, afresh]
    rfl
  · obtain rfl : before = [] := by
      cases before with
      | nil => rfl
      | cons _ _ => simp at split
    have known := (eq_ok_of_toOption first).symm.trans partly
    cases known

/-- One endpoint refuses at first, so the application is a service principal of unknown subtype.
That is kept, when the endpoint could be asked again. -/
theorem exists_subtype_missed :
    ∃ world settings id word s t ids, OneObject world settings id word s ∧
      s.objects.principals.get? id = none ∧ resolveAll world settings ids s = t ∧
      Forthcoming world settings id word t ∧
      (resolve world settings true id t).1 ≠
        (resolve world settings true id (Session.principalPart.set .empty t)).1 := by
  have late : 8 ≤ (resolveAll (ailingWorld ["servicePrincipals"]) plainSettings ["app"]
      Session.new).history.length := by
    decide +kernel
  have evaluated : (resolve (ailingWorld ["servicePrincipals"]) plainSettings true "app"
        (resolveAll (ailingWorld ["servicePrincipals"]) plainSettings ["app"]
          Session.new)).1.toOption = some (.servicePrincipal none) ∧
      (resolve (ailingWorld ["servicePrincipals"]) plainSettings true "app"
        (Session.principalPart.set .empty
          (resolveAll (ailingWorld ["servicePrincipals"]) plainSettings ["app"]
            Session.new))).1.toOption = some (.servicePrincipal (some "Application")) := by
    decide +kernel
  refine ⟨_, plainSettings, "app", appWord, Session.new, _, ["app"], oneObject_app _ _, rfl, rfl,
    forthcoming_app _ late, fun same => ?_⟩
  have both := evaluated.1.symm.trans ((congrArg Except.toOption same).trans evaluated.2)
  cases both

end AccessSync.Directory
