import AccessSync.Proofs.Cache
import AccessSync.Proofs.Directory.Accounts

/-!
# How a token is issued

A call looks for a token in the store and asks the identity service for one if there is none that is
to be used.  What it comes to and what it leaves in the store is told here from the outside: by what
the settings name, what the clock reads and what the service answers.
-/

namespace AccessSync.Directory

/-! ## Issues -/

/-- The settings name a client of a tenant. -/
structure Names (config tenant client : Value) : Prop where
  tenantGiven : config.require "azure_tenant_id" = .ok tenant
  clientGiven : config.require "azure_client_id" = .ok client
  named : SameName tenant tenant ∧ SameName client client

/-- What the identity service is asked. -/
def question (scopes : List String) (tenant client secret : Value) : Call :=
  .clientToken client ("https://login.microsoftonline.com/" ++ tenant.display) secret
    (if scopes.isEmpty then defaultScopes else scopes)

/-- A token that was issued to a client of a tenant at a time of the clock, for so many seconds. -/
structure Issue where
  tenant : Value
  client : Value
  time : Int
  lifetime : Int
  token : Value

namespace Issue

/-- The time that the token is used until. -/
def ending (issue : Issue) : Int := issue.time + issue.lifetime - 60

def held (issue : Issue) : HeldToken := ⟨issue.token, issue.ending⟩

/-- The token was issued to the client of the tenant, whichever way the two were written. -/
def IsFor (issue : Issue) (tenant client : Value) : Prop :=
  SameName issue.tenant tenant ∧ SameName issue.client client

end Issue

/-- The lifetime that comes with a token: as many seconds as are given, or an hour. -/
inductive LastsFor (result : Value) : Int → Prop where
  | given {seconds : Value} {lifetime : Int}
      (given : result.field? "expires_in" = .ok (some seconds))
      (readable : seconds.toInteger = .ok lifetime) : LastsFor result lifetime
  | hour (absent : result.field? "expires_in" = .ok none) : LastsFor result 3600

/-- The time is one that dates reach. -/
def Dated (time : Int) : Prop := startOfDates ≤ time ∧ time < endOfDates

/-- The answer issues the token. -/
structure Grants (answer : Except TokenError Value) (issue : Issue) : Prop where
  answered : ∃ result, answer = .ok result ∧
    result.field? "access_token" = .ok (some issue.token) ∧ LastsFor result issue.lifetime
  dated : Dated issue.ending

/-- Why the answer issues no token, and how the call ends then. -/
inductive Denies (tenant : Value) (now : Int) : Except TokenError Value → Stop → Prop where
  | transport (message : String) : Denies tenant now (.error (.transport message))
      (.fault (.failure ⟨.request ⟨.other,
        "Token request for tenant " ++ tenant.display ++ s!" failed: {message}", none, none⟩,
        none⟩))
  | unexpected (message : String) : Denies tenant now (.error (.unexpected message))
      (.fault (.defect (.unexpected message)))
  | noRecord {result : Value} (none : result.entries? = none) :
      Denies tenant now (.ok result) (.fault (.defect (.misuse .notRecord)))
  | noToken {result reason : Value} (without : result.field? "access_token" = .ok none)
      (given : refusal result = .ok reason) :
      Denies tenant now (.ok result) (.fault (.failure ⟨.request ⟨.unauthorized,
        "Failed to obtain Graph token for tenant " ++ tenant.display ++ ": " ++ reason.display,
        none, none⟩, none⟩))
  /-- No lifetime is given that leads to a date. -/
  | lifetime {result token : Value} (issued : result.field? "access_token" = .ok (some token))
      (unusable : ∀ lifetime, LastsFor result lifetime → ¬ Dated (now + lifetime - 60))
      (misuse : Misuse) : Denies tenant now (.ok result) (.fault (.defect (.misuse misuse)))

section Lifetime

variable {fields : List (Key × Value)} {now expires lifetime : Int} {misuse : Misuse}

theorem lastsFor_iff :
    LastsFor (.mapping fields) lifetime ↔
      (entryOr (.mapping fields) "expires_in" (.int 3600)).toInteger = .ok lifetime := by
  cases found : lookup? "expires_in" fields with
  | none =>
    have absent : (Value.mapping fields).field? "expires_in" = .ok none := congrArg _ found
    simp only [entryOr, absent, Value.toInteger, Except.ok.injEq]
    constructor
    · rintro (⟨given, -⟩ | -)
      · cases absent.symm.trans given
      · rfl
    · rintro rfl
      exact .hour absent
  | some seconds =>
    have present : (Value.mapping fields).field? "expires_in" = .ok (some seconds) :=
      congrArg _ found
    simp only [entryOr, present]
    constructor
    · rintro (⟨given, readable⟩ | absent)
      · cases present.symm.trans given
        exact readable
      · cases present.symm.trans absent
    · exact .given present

theorem expiry_eq (now : Int) (result : Value) :
    expiry now result = (entryOr result "expires_in" (.int 3600)).toInteger.bind fun lifetime =>
      if startOfDates ≤ now + (lifetime - 60) && now + (lifetime - 60) < endOfDates then
        .ok (now + (lifetime - 60))
      else .error .tooLarge := rfl

theorem exists_lifetime (lasts : expiry now (.mapping fields) = .ok expires) :
    ∃ lifetime, LastsFor (.mapping fields) lifetime ∧ expires = now + lifetime - 60 ∧
      Dated expires := by
  rw [expiry_eq] at lasts
  obtain ⟨lifetime, readable, lasts⟩ := exists_of_bind_eq_ok lasts
  split at lasts
  next dated =>
    cases lasts
    simp only [Bool.and_eq_true, decide_eq_true_eq] at dated
    exact ⟨lifetime, lastsFor_iff.mpr readable, by omega, dated⟩
  next => cases lasts

theorem not_dated (unusable : expiry now (.mapping fields) = .error misuse)
    (lasts : LastsFor (.mapping fields) lifetime) : ¬ Dated (now + lifetime - 60) := by
  rintro ⟨starts, ends⟩
  rw [expiry_eq, lastsFor_iff.mp lasts] at unusable
  have dated : (startOfDates ≤ now + (lifetime - 60) && now + (lifetime - 60) < endOfDates) =
      true := by
    simp only [Bool.and_eq_true, decide_eq_true_eq]
    omega
  simp only [Except.bind, dated, if_true] at unusable
  cases unusable

end Lifetime

/-! ## One call -/

def now (world : World) (s : Session) : Int := world.answer s.history .clock

/-- What the identity service answers if the call asks it. -/
def tokenAnswer (world : World) (scopes : List String) (tenant client secret : Value)
    (s : Session) : Except TokenError Value :=
  world.answer (.clock :: s.history) (question scopes tenant client secret)

/-- The store has the token for the client of the tenant. -/
def KeepsToken (s : Session) (tenant client : Value) (held : HeldToken) : Prop :=
  ∃ account, accountOf tenant client = .ok account ∧ s.tokens.get? account = some held

/-- The store has no token for the client of the tenant that is used at the time. -/
def Due (s : Session) (tenant client : Value) (now : Int) : Prop :=
  ∀ held, KeepsToken s tenant client held → ¬ now < held.expires

/-- The second store is the first one with the token that was issued. -/
def Stores (s t : Session) (issue : Issue) : Prop :=
  ∃ account, accountOf issue.tenant issue.client = .ok account ∧
    t.tokens = s.tokens.insert account issue.held

/-- What a call comes to and which session it leaves. -/
inductive Served (world : World) (config : Value) (scopes : List String) (s : Session) :
    Except Stop Value → Session → Prop where
  /-- No client is named, so there is nothing to ask for. -/
  | unnamed {t : Session} (unnamed : ∀ tenant client, ¬ Names config tenant client)
      (misuse : Misuse) (history : t.history = s.history ∨ t.history = .clock :: s.history)
      (same : t.tokens = s.tokens) :
      Served world config scopes s (.error (.fault (.defect (.misuse misuse)))) t
  | kept {tenant client : Value} {held : HeldToken} {t : Session}
      (names : Names config tenant client) (known : KeepsToken s tenant client held)
      (fresh : now world s < held.expires) (history : t.history = .clock :: s.history)
      (same : t.tokens = s.tokens) :
      Served world config scopes s (.ok held.token) t
  /-- There is no secret to ask with. -/
  | unready {tenant client : Value} {t : Session} (names : Names config tenant client)
      (due : Due s tenant client (now world s))
      {misuse : Misuse} (secretless : config.require "azure_client_secret" = .error misuse)
      (history : t.history = .clock :: s.history) (same : t.tokens = s.tokens) :
      Served world config scopes s (.error (.fault (.defect (.misuse misuse)))) t
  | issued {secret : Value} {issue : Issue} {t : Session}
      (names : Names config issue.tenant issue.client)
      (due : Due s issue.tenant issue.client (now world s))
      (given : config.require "azure_client_secret" = .ok secret)
      (timely : issue.time = now world s)
      (grants : Grants (tokenAnswer world scopes issue.tenant issue.client secret s) issue)
      (history : t.history =
        question scopes issue.tenant issue.client secret :: .clock :: s.history)
      (stored : Stores s t issue) :
      Served world config scopes s (.ok issue.token) t
  | denied {tenant client secret : Value} {stop : Stop} {t : Session}
      (names : Names config tenant client) (due : Due s tenant client (now world s))
      (given : config.require "azure_client_secret" = .ok secret)
      (denies : Denies tenant (now world s) (tokenAnswer world scopes tenant client secret s) stop)
      (history : t.history = question scopes tenant client secret :: .clock :: s.history)
      (same : t.tokens = s.tokens) :
      Served world config scopes s (.error stop) t

section Call

variable {world : World} {config : Value} {scopes : List String} {s : Session}

theorem store_then_return (account : Account) (token : Value) (expires : Int) (message : String)
    (s : Session) :
    ∃ t, (do
        Cache.store Session.tokenPart account ⟨token, expires⟩
        Run.log .debug component message
        return token : Act Value) s = (.ok token, t) ∧
      t.history = s.history ∧ t.tokens = s.tokens.insert account ⟨token, expires⟩ :=
  ⟨_, rfl, rfl, rfl⟩

/-- Asked for a token, the identity service issues one, which is stored, or it denies one. -/
theorem issue_ends (world : World) (scopes : List String) {secret : Value}
    (given : config.require "azure_client_secret" = .ok secret) (tenant client : Value)
    (account : Account) (time : Int) (s : Session) :
    (∃ issue t, issue.tenant = tenant ∧ issue.client = client ∧ issue.time = time ∧
      Grants (world.answer s.history (question scopes tenant client secret)) issue ∧
      clientToken.issue world config scopes tenant client account time s = (.ok issue.token, t) ∧
      t.history = question scopes tenant client secret :: s.history ∧
      t.tokens = s.tokens.insert account issue.held) ∨
    ∃ stop t, Denies tenant time
        (world.answer s.history (question scopes tenant client secret)) stop ∧
      clientToken.issue world config scopes tenant client account time s = (.error stop, t) ∧
      t.history = question scopes tenant client secret :: s.history ∧ t.tokens = s.tokens := by
  let asked : Session := { s with history := question scopes tenant client secret :: s.history }
  have reads {α : Type} (a : α) : (Run.reading (.ok a) : Act α) s = (.ok a, s) := rfl
  rw [clientToken.issue, given, Run.bind_of_ok (reads secret)]
  -- The answer is all that the rest of the call depends on.
  have called {answer : Except TokenError Value}
      (answered : world.answer s.history (question scopes tenant client secret) = answer) :
      Act.call world (question scopes tenant client secret) s = (.ok answer, asked) :=
    congrArg (fun answer => (Except.ok answer, asked)) answered
  match answered : world.answer s.history (question scopes tenant client secret) with
  | .error (.transport message) =>
    exact .inr ⟨_, asked, .transport message, Run.bind_of_ok (called answered), rfl, rfl⟩
  | .error (.unexpected message) =>
    exact .inr ⟨_, asked, .unexpected message, Run.bind_of_ok (called answered), rfl, rfl⟩
  | .ok (.mapping fields) =>
    cases found : lookup? "access_token" fields with
    | none =>
      have without : (Value.mapping fields).field? "access_token" = .ok none := congrArg _ found
      refine .inr ⟨_, asked, .noToken without rfl, (Run.bind_of_ok (called answered)).trans ?_, rfl,
        rfl⟩
      simp only [without]
      rfl
    | some token =>
      have issued : (Value.mapping fields).field? "access_token" = .ok (some token) :=
        congrArg _ found
      cases lasts : expiry time (.mapping fields) with
      | error misuse =>
        refine .inr ⟨_, asked, .lifetime issued (fun _ => not_dated lasts) misuse,
          (Run.bind_of_ok (called answered)).trans ?_, rfl, rfl⟩
        simp only [issued, lasts]
        rfl
      | ok expires =>
        obtain ⟨lifetime, lastsFor, rfl, dated⟩ := exists_lifetime lasts
        obtain ⟨t, stores, history, tokens⟩ := store_then_return account token
          (time + lifetime - 60) ("Graph token acquired for tenant " ++ tenant.display ++
            ", expires at " ++ Moment.international (time + lifetime - 60)) asked
        refine .inl ⟨⟨tenant, client, time, lifetime, token⟩, t, rfl, rfl, rfl,
          ⟨⟨_, rfl, issued, lastsFor⟩, dated⟩, (Run.bind_of_ok (called answered)).trans ?_, history,
          tokens⟩
        simp only [issued, lasts]
        exact stores
  | .ok .null | .ok (.bool _) | .ok (.int _) | .ok (.float _) | .ok (.text _) | .ok (.stamp _)
  | .ok (.list _) =>
    exact .inr ⟨_, asked, .noRecord rfl, Run.bind_of_ok (called answered), rfl, rfl⟩

def timed (s : Session) : Session := { s with history := .clock :: s.history }

section Named

variable {tenant client : Value} {account : Account} (names : Names config tenant client)
  (known : accountOf tenant client = .ok account)

include names known

/-- A client that is named is looked up in the store at the time of the clock. -/
theorem clientToken_of_names :
    clientToken world config scopes s =
      (match s.tokens.get? account with
        | some held =>
          if now world s < held.expires then do
            Run.log .debug component ("Using cached Graph token for tenant " ++ tenant.display)
            return held.token
          else clientToken.issue world config scopes tenant client account (now world s)
        | none => clientToken.issue world config scopes tenant client account (now world s))
        (timed s) := by
  have looked : Cache.lookup Session.tokenPart account (timed s) =
      (.ok (s.tokens.get? account), timed s) := rfl
  rw [clientToken, names.tenantGiven, names.clientGiven]
  refine (Run.bind_of_ok (t := s) rfl).trans ((Run.bind_of_ok (t := s) rfl).trans
    ((Run.bind_of_ok (t := timed s) rfl).trans ?_))
  rw [known]
  exact (Run.bind_of_ok (t := timed s) rfl).trans (Run.bind_of_ok looked)

theorem clientToken_of_fresh (scopes : List String) {held : HeldToken}
    (found : s.tokens.get? account = some held) (fresh : now world s < held.expires) :
    ∃ t, clientToken world config scopes s = (.ok held.token, t) ∧
      t.history = .clock :: s.history ∧ t.tokens = s.tokens := by
  rw [clientToken_of_names names known, found]
  simp only [fresh, if_true]
  exact ⟨_, rfl, rfl, rfl⟩

theorem clientToken_of_due (due : Due s tenant client (now world s)) :
    clientToken world config scopes s =
      clientToken.issue world config scopes tenant client account (now world s) (timed s) := by
  rw [clientToken_of_names names known]
  cases found : s.tokens.get? account with
  | none => rfl
  | some held => simp only [due held ⟨account, known, found⟩, if_false]

end Named

/-- Where no client is named, the call ends before the store is looked at. -/
theorem clientToken_of_unnamed (world : World) (scopes : List String) (s : Session)
    (unnamed : ∀ tenant client, ¬ Names config tenant client) :
    ∃ misuse t,
      clientToken world config scopes s = (.error (.fault (.defect (.misuse misuse))), t) ∧
      (t.history = s.history ∨ t.history = .clock :: s.history) ∧ t.tokens = s.tokens := by
  cases tenantGiven : config.require "azure_tenant_id" with
  | error misuse =>
    rw [clientToken, tenantGiven]
    exact ⟨misuse, s, rfl, .inl rfl, rfl⟩
  | ok tenant =>
    cases clientGiven : config.require "azure_client_id" with
    | error misuse =>
      rw [clientToken, tenantGiven, clientGiven]
      exact ⟨misuse, s, rfl, .inl rfl, rfl⟩
    | ok client =>
      cases known : accountOf tenant client with
      | error misuse =>
        refine ⟨misuse, timed s, ?_, .inr rfl, rfl⟩
        rw [clientToken, tenantGiven, clientGiven]
        refine (Run.bind_of_ok (t := s) rfl).trans ((Run.bind_of_ok (t := s) rfl).trans
          ((Run.bind_of_ok (t := timed s) rfl).trans ?_))
        rw [known]
        rfl
      | ok account =>
        have named := exists_accountOf_iff.mp ⟨account, known⟩
        exact absurd ⟨tenantGiven, clientGiven, named⟩ (unnamed tenant client)

/-- A call ends in one of the ways of `Served`. -/
theorem served (world : World) (config : Value) (scopes : List String) (s : Session) :
    Served world config scopes s (clientToken world config scopes s).1
      (clientToken world config scopes s).2 := by
  by_cases named : ∃ tenant client, Names config tenant client
  case neg =>
    have unnamed (tenant client : Value) : ¬ Names config tenant client :=
      fun names => named ⟨tenant, client, names⟩
    obtain ⟨misuse, t, ends, history, same⟩ :=
      clientToken_of_unnamed world scopes s unnamed
    rw [ends]
    exact .unnamed unnamed misuse history same
  case pos =>
    obtain ⟨tenant, client, names⟩ := named
    obtain ⟨account, known⟩ := exists_accountOf_iff.mpr names.named
    -- A token that has ended is no reason not to ask for another.
    by_cases stored : ∃ held, KeepsToken s tenant client held ∧ now world s < held.expires
    case pos =>
      obtain ⟨held, ⟨account, known, found⟩, fresh⟩ := stored
      obtain ⟨t, ends, history, same⟩ := clientToken_of_fresh names known scopes found fresh
      rw [ends]
      exact .kept names ⟨account, known, found⟩ fresh history same
    case neg =>
      have due : Due s tenant client (now world s) :=
        fun held keeps fresh => stored ⟨held, keeps, fresh⟩
      rw [clientToken_of_due names known due]
      cases given : config.require "azure_client_secret" with
      | error misuse =>
        rw [clientToken.issue, given]
        exact .unready names due given rfl rfl
      | ok secret =>
        obtain ⟨issue, t, rfl, rfl, timely, grants, ends, history, stored⟩ |
            ⟨stop, t, denies, ends, history, same⟩ :=
          issue_ends world scopes given tenant client account (now world s)
            (timed s)
        · rw [ends]
          exact .issued names due given timely grants history ⟨account, known, stored⟩
        · rw [ends]
          exact .denied names due given denies history same

end Call

/-! ## Calls one after the other -/

/-- In a call that leads from one session to the other, the identity service is asked. -/
def Asks (scopes : List String) (s t : Session) : Prop :=
  ∃ tenant client secret, t.history = question scopes tenant client secret :: .clock :: s.history

/-- In a call that leads from one session to the other, the identity service is asked and issues the
token to the client that the settings name. -/
def Issues (world : World) (config : Value) (scopes : List String) (s t : Session) (issue : Issue) :
    Prop :=
  Names config issue.tenant issue.client ∧ issue.time = now world s ∧
    ∃ secret, t.history = question scopes issue.tenant issue.client secret :: .clock :: s.history ∧
      Grants (tokenAnswer world scopes issue.tenant issue.client secret s) issue

section Uniqueness

variable {config tenant client result : Value} {answer : Except TokenError Value} {issue : Issue}

theorem Names.unique (names : Names config tenant client) {tenant' client' : Value}
    (others : Names config tenant' client') : tenant = tenant' ∧ client = client' := by
  cases names.tenantGiven.symm.trans others.tenantGiven
  cases names.clientGiven.symm.trans others.clientGiven
  exact ⟨rfl, rfl⟩

theorem LastsFor.unique {first second : Int} (one : LastsFor result first)
    (other : LastsFor result second) : first = second := by
  cases one with
  | given given readable =>
    cases other with
    | given again same =>
      cases given.symm.trans again
      exact Except.ok.inj (readable.symm.trans same)
    | hour absent => cases given.symm.trans absent
  | hour absent =>
    cases other with
    | given given => cases absent.symm.trans given
    | hour => rfl

/-- One answer issues one token at a time. -/
theorem Grants.unique (grants : Grants answer issue) {other : Issue} (again : Grants answer other)
    (sameTenant : issue.tenant = other.tenant) (sameClient : issue.client = other.client)
    (sameTime : issue.time = other.time) : issue = other := by
  obtain ⟨⟨result, answered, found, lasts⟩, -⟩ := grants
  obtain ⟨⟨result', answered', found', lasts'⟩, -⟩ := again
  cases answered.symm.trans answered'
  obtain ⟨tenant, client, time, lifetime, token⟩ := issue
  obtain ⟨tenant', client', time', lifetime', token'⟩ := other
  cases sameTenant
  cases sameClient
  cases sameTime
  cases lasts.unique lasts'
  cases found.symm.trans found'
  rfl

/-- An answer that issues no token issues none. -/
theorem Denies.not_grants {time : Int} {stop : Stop} (denies : Denies tenant time answer stop)
    (timely : issue.time = time) : ¬ Grants answer issue := by
  rintro ⟨⟨result, answered, found, lasts⟩, dated⟩
  cases denies with
  | transport | unexpected => cases answered
  | noRecord none =>
    cases answered
    cases result with
    | mapping fields => cases none
    | null | bool | int | float | text | stamp | list => cases found
  | noToken without =>
    cases answered
    cases without.symm.trans found
  | lifetime issued unusable =>
    cases answered
    subst timely
    exact unusable issue.lifetime lasts dated

end Uniqueness

section Served

variable {world : World} {config : Value} {scopes : List String} {s t : Session}
  {outcome : Except Stop Value}

theorem not_asks (history : t.history = s.history ∨ t.history = .clock :: s.history) :
    ¬ Asks scopes s t := by
  rintro ⟨tenant, client, secret, asked⟩
  have longer := congrArg List.length asked
  obtain same | timed := history
  · simp only [same, List.length_cons] at longer
    omega
  · simp [timed] at longer

theorem Issues.asks {issue : Issue} (issues : Issues world config scopes s t issue) :
    Asks scopes s t := by
  obtain ⟨-, -, secret, history, -⟩ := issues
  exact ⟨_, _, secret, history⟩

/-- The question tells the secret, so what a call issues can be told from the sessions. -/
theorem Issues.unique {issue other : Issue} (issues : Issues world config scopes s t issue)
    (again : Issues world config scopes s t other) : issue = other := by
  obtain ⟨names, timely, secret, history, grants⟩ := issues
  obtain ⟨names', timely', secret', history', grants'⟩ := again
  obtain ⟨sameTenant, sameClient⟩ := names.unique names'
  have same := history.symm.trans history'
  rw [← sameTenant, ← sameClient] at same grants'
  simp only [question, List.cons.injEq, Call.clientToken.injEq, and_true, true_and] at same
  subst same
  exact grants.unique grants' sameTenant sameClient (timely.trans timely'.symm)

/-- A call stores the token that is issued in it, and if none is, it leaves the store alone. -/
theorem Served.stores (served : Served world config scopes s outcome t) :
    (∃ issue, Issues world config scopes s t issue ∧ outcome = .ok issue.token ∧
      Stores s t issue) ∨
    (∀ issue, ¬ Issues world config scopes s t issue) ∧ t.tokens = s.tokens := by
  cases served with
  | unnamed _ _ history same =>
    exact .inr ⟨fun _ issues => not_asks history issues.asks, same⟩
  | kept _ _ _ history same | unready _ _ _ history same =>
    exact .inr ⟨fun _ issues => not_asks (.inr history) issues.asks, same⟩
  | issued names _ _ timely grants history stored =>
    exact .inl ⟨_, ⟨names, timely, _, history, grants⟩, rfl, stored⟩
  | denied names _ _ denies history same =>
    refine .inr ⟨?_, same⟩
    rintro issue ⟨others, timely, secret', history', grants⟩
    obtain ⟨sameTenant, sameClient⟩ := names.unique others
    have asked := history.symm.trans history'
    rw [← sameTenant, ← sameClient] at asked grants
    simp only [question, List.cons.injEq, Call.clientToken.injEq, and_true, true_and] at asked
    subst asked
    exact denies.not_grants timely grants

/-- Where a client and its secret are given, the identity service is asked just when no token of the
client is to be used. -/
theorem Served.asks_iff (served : Served world config scopes s outcome t)
    {tenant client secret : Value} (names : Names config tenant client)
    (given : config.require "azure_client_secret" = .ok secret) :
    Asks scopes s t ↔ Due s tenant client (now world s) := by
  cases served with
  | unnamed unnamed => exact absurd names (unnamed tenant client)
  | kept others known fresh history =>
    obtain ⟨rfl, rfl⟩ := names.unique others
    exact iff_of_false (not_asks (.inr history)) fun due => due _ known fresh
  | unready _ _ secretless => cases given.symm.trans secretless
  | issued others due _ _ _ history | denied others due _ _ history =>
    obtain ⟨rfl, rfl⟩ := names.unique others
    exact iff_of_true ⟨_, _, _, history⟩ due

end Served

end AccessSync.Directory
