import AccessSync.Proofs.Directory.Issues

/-!
# Which token is handed out

All tenants share one store of tokens, which holds the latest one that was issued to each client of
each tenant.  It is handed out until a minute before its lifetime ends, to the same client of the
same tenant and to nobody else, and the identity service is asked for another one as soon as it is
not, whatever the clock does in between.  A call that fails leaves the store alone.
-/

namespace AccessSync.Directory

/-- The latest one of the issues that are for the client of the tenant, the latest issue coming
first. -/
inductive Latest (tenant client : Value) : List Issue → Issue → Prop where
  | here {issue : Issue} {issues : List Issue} (own : issue.IsFor tenant client) :
      Latest tenant client (issue :: issues) issue
  | earlier {other issue : Issue} {issues : List Issue} (foreign : ¬ other.IsFor tenant client)
      (latest : Latest tenant client issues issue) : Latest tenant client (other :: issues) issue

/-- Calls were made since the store was empty, and the tokens were issued in them, the latest one
first.  Nothing else changes the store in between. -/
inductive Course (world : World) : List Issue → Session → Prop where
  | start {s : Session} (empty : s.tokens = .empty) : Course world [] s
  | elsewhere {issues : List Issue} {s t : Session} (course : Course world issues s)
      (same : t.tokens = s.tokens) : Course world issues t
  | issued {issues : List Issue} {s t : Session} (course : Course world issues s) {config : Value}
      {scopes : List String} {outcome : Except Stop Value} {issue : Issue}
      (ends : clientToken world config scopes s = (outcome, t))
      (issued : Issues world config scopes s t issue) : Course world (issue :: issues) t
  | unissued {issues : List Issue} {s t : Session} (course : Course world issues s) {config : Value}
      {scopes : List String} {outcome : Except Stop Value}
      (ends : clientToken world config scopes s = (outcome, t))
      (unissued : ∀ issue, ¬ Issues world config scopes s t issue) : Course world issues t

/-! ## The store -/

section Store

variable {tenant client : Value} {held : HeldToken} {issue : Issue} {issues : List Issue}
  {s t : Session}

theorem not_keeps_of_empty (empty : s.tokens = .empty) : ¬ KeepsToken s tenant client held := by
  rintro ⟨account, -, found⟩
  rw [empty] at found
  cases found

/-- A token that is stored takes the place of those for the same client of the same tenant, and of
no other one. -/
theorem keeps_of_stores (stores : Stores s t issue) :
    KeepsToken t tenant client held ↔
      issue.IsFor tenant client ∧ issue.held = held ∨
        ¬ issue.IsFor tenant client ∧ KeepsToken s tenant client held := by
  obtain ⟨account, known, stored⟩ := stores
  constructor
  · rintro ⟨other, known', found⟩
    rw [stored] at found
    by_cases same : other = account
    · rw [same, Cache.get?_insert, Option.some.injEq] at found
      exact .inl ⟨(account_eq_iff known known').mp same.symm, found⟩
    · rw [Cache.get?_insert_of_ne _ _ same] at found
      have foreign : ¬ issue.IsFor tenant client :=
        fun own => same ((account_eq_iff known known').mpr own).symm
      exact .inr ⟨foreign, other, known', found⟩
  · rintro (⟨own, rfl⟩ | ⟨foreign, other, known', found⟩)
    · refine ⟨account, accountOf_of_sameName known own.1 own.2, ?_⟩
      rw [stored, Cache.get?_insert]
    · refine ⟨other, known', ?_⟩
      have different : other ≠ account :=
        fun same => foreign ((account_eq_iff known known').mp same.symm)
      rw [stored, Cache.get?_insert_of_ne _ _ different, found]

/-- The store holds the latest token that was issued to each client of each tenant. -/
theorem Course.keeps_iff {world : World} (course : Course world issues s) (tenant client : Value)
    (held : HeldToken) :
    KeepsToken s tenant client held ↔
      ∃ issue, Latest tenant client issues issue ∧ issue.held = held := by
  -- On the calls: one that issues a token makes it the latest of its client and of no other one.
  induction course with
  | start empty =>
    refine iff_of_false (not_keeps_of_empty empty) ?_
    rintro ⟨issue, latest, -⟩
    cases latest
  | elsewhere _ same inductionHypothesis => rw [KeepsToken, same, ← KeepsToken, inductionHypothesis]
  | @issued issues s t course config scopes outcome issue ends issued inductionHypothesis =>
    have ended := served world config scopes s
    rw [ends] at ended
    obtain ⟨other, again, -, stores⟩ | ⟨unissued, -⟩ := ended.stores
    · cases issued.unique again
      rw [keeps_of_stores stores, inductionHypothesis]
      constructor
      · rintro (⟨own, rfl⟩ | ⟨foreign, other, latest, rfl⟩)
        · exact ⟨issue, .here own, rfl⟩
        · exact ⟨other, .earlier foreign latest, rfl⟩
      · rintro ⟨other, latest, rfl⟩
        cases latest with
        | here own => exact .inl ⟨own, rfl⟩
        | earlier foreign latest => exact .inr ⟨foreign, other, latest, rfl⟩
    · exact absurd issued (unissued issue)
  | @unissued issues s t course config scopes outcome ends unissued inductionHypothesis =>
    have ended := served world config scopes s
    rw [ends] at ended
    obtain ⟨issue, issues, -⟩ | ⟨-, same⟩ := ended.stores
    · exact absurd issues (unissued issue)
    · rw [KeepsToken, same, ← KeepsToken, inductionHypothesis]

end Store

/-- The latest token for a client is handed out while it is used. -/
theorem Course.handsOut {world : World} (course : Course world issues s) {config : Value}
    (names : Names config tenant client) (latest : Latest tenant client issues issue)
    (fresh : now world s < issue.ending) (scopes : List String) :
    ∃ t, clientToken world config scopes s = (.ok issue.token, t) ∧ ¬ Asks scopes s t ∧
      t.history = .clock :: s.history ∧ Course world issues t := by
  obtain ⟨account, known, found⟩ := (course.keeps_iff tenant client _).mpr ⟨issue, latest, rfl⟩
  obtain ⟨t, called, history, same⟩ := clientToken_of_fresh names known scopes found fresh
  exact ⟨t, called, not_asks (.inr history), history, .elsewhere course same⟩

section Latest

variable {world : World} {config : Value} {scopes : List String} {s t : Session}
  {outcome : Except Stop Value} {issues : List Issue}
  (keeps : ∀ tenant client held, KeepsToken s tenant client held ↔
    ∃ issue, Latest tenant client issues issue ∧ issue.held = held)
  (served : Served world config scopes s outcome t)

include keeps served

/-- A token that is returned is issued just now or is the latest one that was issued to the same
client of the same tenant before. -/
theorem returned_of_keeps {token : Value} (returns : outcome = .ok token) :
    (∃ issue, Issues world config scopes s t issue ∧ issue.token = token) ∨
      ¬ Asks scopes s t ∧ ∃ tenant client issue, Names config tenant client ∧
        Latest tenant client issues issue ∧ issue.token = token ∧
        now world s < issue.time + issue.lifetime - 60 := by
  cases served with
  | unnamed | unready | denied => cases returns
  | issued names _ _ timely grants history =>
    cases returns
    exact .inl ⟨_, ⟨names, timely, _, history, grants⟩, rfl⟩
  | @kept tenant client held _ names known fresh history =>
    cases returns
    obtain ⟨issue, latest, rfl⟩ := (keeps tenant client held).mp known
    exact .inr ⟨not_asks (.inr history), tenant, client, issue, names, latest, rfl, fresh⟩

theorem asks_iff_of_keeps {tenant client secret : Value} (names : Names config tenant client)
    (given : config.require "azure_client_secret" = .ok secret) :
    Asks scopes s t ↔ ∀ issue, Latest tenant client issues issue →
      ¬ now world s < issue.time + issue.lifetime - 60 := by
  rw [served.asks_iff names given, Due]
  constructor
  · intro due issue latest
    exact due issue.held ((keeps tenant client issue.held).mpr ⟨issue, latest, rfl⟩)
  · intro past held known
    obtain ⟨issue, latest, rfl⟩ := (keeps tenant client held).mp known
    exact past issue latest

end Latest

/-- A token that a call returns was issued in the call, or it is the latest one that was issued to
the same client of the same tenant before and the clock says that a minute of its lifetime is left
at least.  The identity service is asked just when there is no such token.  A call that fails leaves
the store as it was. -/
theorem token_within_lifetime {world : World} {issues : List Issue} {s : Session}
    (course : Course world issues s) (config : Value) (scopes : List String) :
    let ended := clientToken world config scopes s
    Served world config scopes s ended.1 ended.2 ∧
    (∀ tenant client held, KeepsToken s tenant client held ↔
      ∃ issue, Latest tenant client issues issue ∧ issue.held = held) ∧
    (∀ token, ended.1 = .ok token →
      (∃ issue, Issues world config scopes s ended.2 issue ∧ issue.token = token) ∨
      ¬ Asks scopes s ended.2 ∧ ∃ tenant client issue, Names config tenant client ∧
        Latest tenant client issues issue ∧ issue.token = token ∧
        now world s < issue.time + issue.lifetime - 60) ∧
    (∀ tenant client secret, Names config tenant client →
      config.require "azure_client_secret" = .ok secret →
      (Asks scopes s ended.2 ↔ ∀ issue, Latest tenant client issues issue →
        ¬ now world s < issue.time + issue.lifetime - 60)) ∧
    ∀ stop, ended.1 = .error stop → ended.2.tokens = s.tokens := by
  intro ended
  have keeps := course.keeps_iff
  have ends : Served world config scopes s ended.1 ended.2 := served world config scopes s
  refine ⟨ends, keeps, fun token returns => returned_of_keeps keeps ends returns,
    fun _ _ _ names given => asks_iff_of_keeps keeps ends names given, fun stop stops => ?_⟩
  obtain ⟨issue, -, returns, -⟩ | ⟨-, same⟩ := ends.stores
  · cases stops.symm.trans returns
  · exact same

/-- Two tenants have a client of one name.  Tokens that last for a hundred seconds are issued to
both at first; after that, the identity service cannot be reached.  The clock reads 0, 0, 39, 39 and
40. -/
def hastyWorld : World where
  answer history
    | .clock => ([0, 0, 39, 39, 40].getD (history.countP fun | .clock => true | _ => false) 0 : Int)
    | .clientToken _ authority .. =>
      if history.length < 4 then
        .ok (.record [("access_token", .text authority), ("expires_in", .int 100)])
      else .error (.transport "no route to host")
    | .request _ => .error ⟨.other, ""⟩
    | .credentialToken _ => .ok ""
    | .openClient _ => ()
    | .listPage .. => .ok .none
    | .operate _ => .ok .null
    | .freshName => ""
    | .sleep _ => .ok ()
  cancels _ _ := false
where
  settings (tenant : String) : Value := .record [("azure_tenant_id", .text tenant),
    ("azure_client_id", .text "c"), ("azure_client_secret", .text "s")]
  first (tenant : String) : Issue :=
    ⟨.text tenant, .text "c", 0, 100, .text ("https://login.microsoftonline.com/" ++ tenant)⟩

/-- Each tenant is given its own token at 39.  At 40 another one is asked for in vain. -/
theorem token_within_lifetime_hastyWorld :
    ∃ s t u v stop, Course hastyWorld [hastyWorld.first "b", hastyWorld.first "a"] s ∧
      clientToken hastyWorld (hastyWorld.settings "a") [] s =
        (.ok (.text "https://login.microsoftonline.com/a"), t) ∧
      ¬ Asks [] s t ∧ now hastyWorld s = 39 ∧
      clientToken hastyWorld (hastyWorld.settings "b") [] t =
        (.ok (.text "https://login.microsoftonline.com/b"), u) ∧
      ¬ Asks [] t u ∧ now hastyWorld t = 39 ∧
      clientToken hastyWorld (hastyWorld.settings "a") [] u = (.error stop, v) ∧
      Asks [] u v ∧ now hastyWorld u = 40 ∧ v.tokens = u.tokens := by
  have names (tenant : String) :
      Names (hastyWorld.settings tenant) (.text tenant) (.text "c") :=
    ⟨rfl, rfl, .text tenant, .text "c"⟩
  let r := (clientToken hastyWorld (hastyWorld.settings "a") [] .new).2
  let s := (clientToken hastyWorld (hastyWorld.settings "b") [] r).2
  have issuedA : Issues hastyWorld (hastyWorld.settings "a") [] .new r (hastyWorld.first "a") :=
    ⟨names "a", rfl, .text "s", rfl, ⟨_, rfl, rfl, .given rfl rfl⟩, by decide, by decide⟩
  have issuedB : Issues hastyWorld (hastyWorld.settings "b") [] r s (hastyWorld.first "b") :=
    ⟨names "b", rfl, .text "s", rfl, ⟨_, rfl, rfl, .given rfl rfl⟩, by decide, by decide⟩
  have course : Course hastyWorld [hastyWorld.first "b", hastyWorld.first "a"] s :=
    .issued (.issued (.start rfl) rfl issuedA) rfl issuedB
  have own (tenant : String) : (hastyWorld.first tenant).IsFor (.text tenant) (.text "c") :=
    ⟨.text tenant, .text "c"⟩
  have foreign : ¬ (hastyWorld.first "b").IsFor (.text "a") (.text "c") :=
    fun same => absurd (sameName_text_iff.mp same.1) (by decide)
  have early : now hastyWorld s = 39 := rfl
  obtain ⟨t, given, unasked, history, course'⟩ :=
    course.handsOut (names "a") (.earlier foreign (.here (own "a"))) (by rw [early]; decide) []
  have early' : now hastyWorld t = 39 := by
    rw [now, history]
    rfl
  obtain ⟨u, given', unasked', history', course''⟩ :=
    course'.handsOut (names "b") (.here (own "b")) (by rw [early']; decide) []
  have late : now hastyWorld u = 40 := by
    rw [now, history', history]
    rfl
  obtain ⟨-, -, returned, asked, failed⟩ :=
    token_within_lifetime course'' (hastyWorld.settings "a") []
  have asks := (asked _ _ _ (names "a") rfl).mpr fun issue latest => by
    rw [late]
    cases latest with
    | here same => exact absurd same foreign
    | earlier _ latest =>
      cases latest with
      | here => decide
      | earlier _ latest => cases latest
  rcases outcome : clientToken hastyWorld (hastyWorld.settings "a") [] u with ⟨stop | token, v⟩
  · rw [outcome] at asks failed
    exact ⟨s, t, u, v, stop, course, given, unasked, early, given', unasked', early', outcome, asks,
      late, failed stop rfl⟩
  · obtain ⟨issue, ⟨-, -, secret, -, ⟨result, answered, -⟩, -⟩, -⟩ | ⟨unasked, -⟩ :=
      returned token (by rw [outcome])
    · have long : ¬ (Call.clock :: u.history).length < 4 := by
        rw [history', history]
        exact (by decide : ¬ 7 < 4)
      have refused : tokenAnswer hastyWorld [] issue.tenant issue.client secret u =
          .error (.transport "no route to host") := if_neg long
      cases refused.symm.trans answered
    · exact absurd asks unasked

end AccessSync.Directory
