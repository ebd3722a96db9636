import AccessSync.Proofs.Returns
import AccessSync.Session

/-!
# What a policy drops

A policy counts the records that it drops by kind and value, and it reports the first of each kind
and value.  The counts and the kinds and values that have been reported are kept apart.  That they
belong together, and that the log tells of all first drops and of no other, is what every call of
the policy keeps.
-/

namespace AccessSync

/-! ## Tallies -/

theorem DropTally.lookup_bump (key other : DropKind × String)
    (counts : List ((DropKind × String) × Nat)) :
    ((bump key counts).lookup other).getD 0 =
      (counts.lookup other).getD 0 + if other = key then 1 else 0 := by
  induction counts with
  | nil =>
    by_cases same : other = key
    · simp [bump, same]
    · have skipped : (other == key) = false := beq_eq_false_iff_ne.mpr same
      simp [bump, List.lookup_cons, skipped, same]
  | cons entry counts inductionHypothesis =>
    obtain ⟨first, n⟩ := entry
    by_cases same : other = first
    · subst same
      by_cases here : other = key
      · subst here
        simp [bump]
      · simp [bump, here]
    · have skipped : (other == first) = false := beq_eq_false_iff_ne.mpr same
      by_cases here : first = key
      · subst here
        simp [bump, List.lookup_cons, skipped, same]
      · simpa [bump, List.lookup_cons, skipped, here] using inductionHypothesis

/-- One drop more is one more of its own kind and value. -/
theorem DropTally.count_add (t : DropTally) (key other : DropKind × String) :
    (t.add key).count other = t.count other + if other = key then 1 else 0 :=
  lookup_bump key other t.counts

@[simp] theorem DropTally.reported_add (t : DropTally) (key : DropKind × String) :
    (t.add key).reported = t.reported := rfl

@[simp] theorem DropTally.count_report (t : DropTally) (key other : DropKind × String) :
    (t.report key).count other = t.count other := rfl

@[simp] theorem DropTally.reported_report (t : DropTally) (key : DropKind × String) :
    (t.report key).reported = key :: t.reported := rfl

/-! ## Calls -/

/-- What a policy can be asked. -/
inductive PolicyCall where
  /-- The grant of a membership record. -/
  | membership (resource : ResourceId) (slug : String) (record : Value)
    (strict acceptGroups : Bool)
  /-- The grant to a principal whose kind has been looked up. -/
  | resolved (resource : ResourceId) (slug id grantId : String) (principal : Principal)
  /-- The kind of resource that a service principal is. -/
  | classify (subtype : Option String) (object : String) (recordId : Value)
  /-- To drop a record of a type that stands for nothing. -/
  | drop (discriminator object : String) (recordId : Value)

/-- A service principal is dropped under its subtype, unless it is an application or a managed
identity. -/
def subtypeDrop? (subtype object : String) (recordId : Value) : Option Drop :=
  if subtype = "Application" ∨ subtype = "ManagedIdentity" then none
  else some ⟨.servicePrincipalType, subtype, object, recordId⟩

/-- A membership record of a service principal is dropped under its subtype.  Any other one is
dropped under its type, unless that is accepted or the list is strict. -/
def Membership.drop? (m : Membership) (object : String) (strict acceptGroups : Bool) :
    Option Drop :=
  if m.discriminator = "#microsoft.graph.servicePrincipal" then
    subtypeDrop? m.subtype object m.recordId
  else if m.discriminator = "#microsoft.graph.user" ∨
      m.discriminator = "#microsoft.graph.group" ∧ acceptGroups ∨ strict then none
  else some ⟨.membershipType, m.discriminator, object, m.recordId⟩

namespace PolicyCall

/-- The drop that the call comes to, if it comes to one.  Of principals that have been looked up,
only service principals are dropped. -/
def drop? : PolicyCall → Option Drop
  | .membership resource _ record strict acceptGroups =>
    (Membership.ofValue record).toOption.bind (·.drop? resource.id strict acceptGroups)
  | .resolved resource _ id _ (.servicePrincipal subtype) =>
    subtypeDrop? (subtype.getD "") resource.id (.text id)
  | .resolved .. => none
  | .classify subtype object recordId => subtypeDrop? (subtype.getD "") object recordId
  | .drop discriminator object recordId => some ⟨.membershipType, discriminator, object, recordId⟩

variable (translator : Translator) (type : ResourceType)

def act : PolicyCall → Act Unit
  | .membership resource slug record strict acceptGroups =>
    discard (membershipGrant translator (Session.tallyPart type) resource slug strict acceptGroups
      record)
  | .resolved resource slug id grantId principal =>
    discard (resolvedGrant translator (Session.tallyPart type) resource slug id grantId principal)
  | .classify subtype object recordId =>
    discard (AccessSync.classify translator (Session.tallyPart type) subtype object recordId)
  | .drop discriminator object recordId =>
    settleDrop translator (Session.tallyPart type)
      ⟨.membershipType, discriminator, object, recordId⟩

/-- The session after calls one after the other.  A call that fails is not the last one. -/
def actAll (calls : List PolicyCall) (s : Session) : Session :=
  calls.foldl (fun s call => (call.act translator type s).2) s

end PolicyCall

/-! ## Decisions -/

/-- The drop that a decision is, if it is one. -/
def Verdict.drop? : Verdict → Option Drop
  | .dropped drop => some drop
  | _ => none

theorem getLeft?_classifySubtype (subtype object : String) (recordId : Value) :
    (classifySubtype subtype object recordId).getLeft? = subtypeDrop? subtype object recordId := by
  unfold classifySubtype resourceTypeOfSubtype? subtypeDrop?
  by_cases application : subtype = "Application"
  · simp [application]
  · by_cases identity : subtype = "ManagedIdentity"
    · simp [identity]
    · simp [application, identity]

theorem drop?_servicePrincipalVerdict (resource : ResourceId)
    (slug subtype principal grantId : String) (recordId : Value) :
    (servicePrincipalVerdict resource slug subtype principal grantId recordId).drop? =
      subtypeDrop? subtype resource.id recordId := by
  rw [← getLeft?_classifySubtype, servicePrincipalVerdict]
  cases classifySubtype subtype resource.id recordId <;> rfl

/-- A membership record is dropped just when its own fields say so. -/
theorem Membership.drop?_verdict (m : Membership) (resource : ResourceId) (slug : String)
    (strict acceptGroups : Bool) :
    (m.verdict resource slug strict acceptGroups).drop? =
      m.drop? resource.id strict acceptGroups := by
  unfold verdict drop?
  rw [← groupDiscriminator, ← userDiscriminator, ← servicePrincipalDiscriminator]
  by_cases service : m.discriminator = servicePrincipalDiscriminator
  · have notGroup : m.discriminator ≠ groupDiscriminator := by rw [service]; decide
    have notUser : m.discriminator ≠ userDiscriminator := by rw [service]; decide
    rw [if_neg (by simp [notGroup]), if_neg notUser, if_pos service, if_pos service]
    exact drop?_servicePrincipalVerdict _ _ _ _ _ _
  · by_cases group : m.discriminator = groupDiscriminator ∧ acceptGroups = true
    · rw [if_pos (by simp [group]), if_neg service, if_pos (.inr (.inl group))]
      rfl
    · by_cases user : m.discriminator = userDiscriminator
      · rw [if_neg (by simpa using group), if_pos user, if_neg service, if_pos (.inl user)]
        rfl
      · rw [if_neg (by simpa using group), if_neg user, if_neg service, if_neg service]
        cases strict with
        | true => simp [Verdict.drop?]
        | false => simp [user, group, Verdict.drop?]

theorem Principal.drop?_verdict (p : Principal) (resource : ResourceId)
    (slug id grantId : String) :
    (p.verdict resource slug id grantId).drop? =
      (PolicyCall.resolved resource slug id grantId p).drop? := by
  cases p with
  | servicePrincipal subtype => exact drop?_servicePrincipalVerdict _ _ _ _ _ _
  | user | group | unknown => rfl

/-! ## Accounts -/

/-- What is written of a drop that is reported. -/
def Drop.report (translator : Translator) (drop : Drop) : LogRecord :=
  ⟨.warning, translator.component, drop.message translator.label⟩

/-- The warnings written since an earlier session are those given, in this order. -/
def Warned (earlier s : Session) (warnings : List LogRecord) : Prop :=
  ∃ records, s.journal = records ++ earlier.journal ∧
    records.reverse.filter (·.severity == .warning) = warnings

/-- The reported drops are the first one of each kind and value. -/
def FirstDrops (drops reported : List Drop) : Prop :=
  ∀ key, reported.filter (·.key == key) = (drops.find? (·.key == key)).toList

variable {translator : Translator} {type : ResourceType} {earlier s : Session} {drops : List Drop}

theorem FirstDrops.nil : FirstDrops [] [] := fun _ => rfl

/-- A drop of a kind and value that was seen before is not the first of any. -/
theorem FirstDrops.repeated {reported : List Drop} (first : FirstDrops drops reported) {drop : Drop}
    (seen : drop.key ∈ drops.map Drop.key) : FirstDrops (drops ++ [drop]) reported := by
  intro key
  rw [first key, List.find?_append]
  by_cases same : drop.key = key
  · obtain ⟨other, member, equal⟩ := List.mem_map.mp seen
    have found : (drops.find? (·.key == key)).isSome := by
      rw [List.find?_isSome]
      exact ⟨other, member, by simp [equal, same]⟩
    rw [Option.or_of_isSome found]
  · simp [same]

theorem FirstDrops.fresh {reported : List Drop} (first : FirstDrops drops reported) {drop : Drop}
    (unseen : drop.key ∉ drops.map Drop.key) :
    FirstDrops (drops ++ [drop]) (reported ++ [drop]) := by
  intro key
  rw [List.filter_append, first key, List.find?_append]
  by_cases same : drop.key = key
  · have missing : drops.find? (·.key == key) = none := by
      rw [List.find?_eq_none]
      intro other member equal
      apply unseen
      exact List.mem_map.mpr ⟨other, member, (beq_iff_eq.mp equal).trans same.symm⟩
    simp [missing, same]
  · simp [same]

theorem Warned.refl (s : Session) : Warned s s [] := ⟨[], rfl, rfl⟩

theorem Warned.next {warnings : List LogRecord} {t : Session} (warned : Warned earlier s warnings)
    (record : LogRecord) (written : t.journal = record :: s.journal) :
    Warned earlier t (warnings ++ if record.severity = .warning then [record] else []) := by
  obtain ⟨records, journal, rfl⟩ := warned
  refine ⟨record :: records, by rw [written, journal, List.cons_append], ?_⟩
  by_cases severe : record.severity = .warning <;> simp [severe]

/-- The session is one in which the policy has dropped the given records: they are counted by kind
and value, the kinds and values that were reported are those of the drops, and the warnings tell of
the first drop of each. -/
structure Accounts (translator : Translator) (type : ResourceType) (earlier : Session)
    (drops : List Drop) (s : Session) : Prop where
  counted : ∀ key, (s.tallies type).count key = drops.countP (·.key == key)
  known : ∀ key, key ∈ (s.tallies type).reported ↔ key ∈ drops.map Drop.key
  warned : ∃ reported, FirstDrops drops reported ∧
    Warned earlier s (reported.map (Drop.report translator))

namespace Accounts

theorem start (fresh : s.tallies type = .empty) : Accounts translator type s [] s where
  counted key := by simp [fresh, DropTally.empty, DropTally.count]
  known key := by simp [fresh, DropTally.empty]
  warned := ⟨[], .nil, .refl s⟩

end Accounts

def counting (type : ResourceType) (drop : Drop) (s : Session) : Session :=
  (Session.tallyPart type).set ((s.tallies type).add drop.key) s

def reporting (translator : Translator) (type : ResourceType) (drop : Drop) (s : Session) :
    Session :=
  Journaled.record (drop.report translator)
    ((Session.tallyPart type).set ((s.tallies type).report drop.key) s)

@[simp] theorem tallies_counting (type : ResourceType) (drop : Drop) (s : Session) :
    (counting type drop s).tallies type = (s.tallies type).add drop.key := by
  simp [counting, Session.tallyPart]

@[simp] theorem tallies_reporting (translator : Translator) (type : ResourceType) (drop : Drop)
    (s : Session) :
    (reporting translator type drop s).tallies type = (s.tallies type).report drop.key := by
  simp [reporting, Session.tallyPart, Journaled.record]

theorem settleDrop_apply (translator : Translator) (type : ResourceType) (drop : Drop)
    (s : Session) :
    settleDrop translator (Session.tallyPart type) drop s =
      (.ok (), if drop.key ∈ (s.tallies type).reported then counting type drop s
        else reporting translator type drop (counting type drop s)) := by
  have counts : (modify fun s => (Session.tallyPart type).set
      (((Session.tallyPart type).get s).add drop.key) s : Act Unit) s =
      (.ok (), counting type drop s) := rfl
  have looks : (get : Act Session) (counting type drop s) = (.ok (counting type drop s), _) := rfl
  rw [settleDrop, Run.bind_of_ok counts, Run.bind_of_ok looks]
  have same : ((Session.tallyPart type).get (counting type drop s)).reported =
      (s.tallies type).reported := by
    change ((counting type drop s).tallies type).reported = _
    simp
  rw [same]
  by_cases known : drop.key ∈ (s.tallies type).reported
  · rw [if_neg (not_not_intro known), if_pos known]
    rfl
  · rw [if_pos known, if_neg known]
    rfl

section Settle

variable (translator : Translator) (type : ResourceType) (s : Session)

theorem settle_granted (grant : Grant) :
    settle translator (Session.tallyPart type) (.granted grant) s = (.ok (some grant), s) := rfl

theorem settle_dropped (drop : Drop) :
    settle translator (Session.tallyPart type) (.dropped drop) s =
      (.ok none, (settleDrop translator (Session.tallyPart type) drop s).2) := by
  rw [settleDrop_apply, settle, Run.bind_of_ok (settleDrop_apply translator type drop s)]
  rfl

theorem settle_skipped (principal : String) (resource : ResourceId) :
    settle translator (Session.tallyPart type) (.skipped principal resource) s =
      (.ok none, Journaled.record ⟨.debug, translator.component, translator.label ++
        s!": skipping unresolvable principal {principal} on " ++ resource.text⟩ s) := rfl

theorem settle_refused (discriminator slug : String) (resource : ResourceId) (member : String) :
    settle translator (Session.tallyPart type) (.refused discriminator slug resource member) s =
      (.error (.fault (.failure ⟨.unknownMembership discriminator slug resource member, none⟩)),
        s) := rfl

end Settle

theorem discard_snd {α : Type} (run : Act α) (s : Session) : (discard run s).2 = (run s).2 := by
  match outcome : run s with
  | (.ok a, t) =>
    simp only [discard, Functor.discard, Functor.mapConst, ExceptT.map, ExceptT.mk, bind,
      StateT.bind, Function.comp, outcome]
    rfl
  | (.error stop, t) =>
    simp only [discard, Functor.discard, Functor.mapConst, ExceptT.map, ExceptT.mk, bind,
      StateT.bind, Function.comp, outcome]
    rfl

namespace Accounts

theorem settleDrop (accounts : Accounts translator type earlier drops s) (drop : Drop) :
    Accounts translator type earlier (drops ++ [drop])
      (AccessSync.settleDrop translator (Session.tallyPart type) drop s).2 := by
  have counted (key : DropKind × String) : ((s.tallies type).add drop.key).count key =
      (drops ++ [drop]).countP (·.key == key) := by
    rw [DropTally.count_add, accounts.counted, List.countP_append]
    by_cases same : drop.key = key
    · simp [same]
    · simp [same, Ne.symm same]
  obtain ⟨reported, first, warned⟩ := accounts.warned
  rw [settleDrop_apply]
  by_cases seen : drop.key ∈ drops.map Drop.key
  · rw [if_pos ((accounts.known drop.key).mpr seen)]
    refine ⟨fun key => ?_, fun key => ?_, reported, first.repeated seen, warned⟩
    · simpa using counted key
    · rw [tallies_counting, DropTally.reported_add, accounts.known, List.map_append]
      by_cases same : key = drop.key
      · simp [same, seen]
      · simp [same]
  · rw [if_neg (mt (accounts.known drop.key).mp seen)]
    refine ⟨fun key => ?_, fun key => ?_, reported ++ [drop], first.fresh seen, ?_⟩
    · simpa using counted key
    · simp only [tallies_reporting, tallies_counting, DropTally.reported_report,
        DropTally.reported_add, List.mem_cons, accounts.known, List.map_append, List.mem_append,
        List.map_cons, List.map_nil, List.not_mem_nil, or_false]
      exact or_comm
    · rw [List.map_append]
      exact warned.next (drop.report translator) rfl

theorem recorded (accounts : Accounts translator type earlier drops s) {record : LogRecord}
    (mild : record.severity ≠ .warning) :
    Accounts translator type earlier drops (Journaled.record record s) where
  counted := accounts.counted
  known := accounts.known
  warned := by
    obtain ⟨reported, first, warned⟩ := accounts.warned
    refine ⟨reported, first, ?_⟩
    simpa [mild] using warned.next record rfl

theorem settle (accounts : Accounts translator type earlier drops s) (verdict : Verdict) :
    Accounts translator type earlier (drops ++ verdict.drop?.toList)
      (AccessSync.settle translator (Session.tallyPart type) verdict s).2 := by
  cases verdict with
  | granted grant =>
    rw [settle_granted]
    simpa [Verdict.drop?] using accounts
  | dropped drop =>
    rw [settle_dropped]
    exact accounts.settleDrop drop
  | skipped principal resource =>
    rw [settle_skipped]
    simpa [Verdict.drop?] using accounts.recorded (by decide : Severity.debug ≠ .warning)
  | refused discriminator slug resource member =>
    rw [settle_refused]
    simpa [Verdict.drop?] using accounts

theorem classify (accounts : Accounts translator type earlier drops s) (subtype : Option String)
    (object : String) (recordId : Value) :
    Accounts translator type earlier
      (drops ++ (subtypeDrop? (subtype.getD "") object recordId).toList)
      (AccessSync.classify translator (Session.tallyPart type) subtype object recordId s).2 := by
  rw [AccessSync.classify, ← getLeft?_classifySubtype]
  cases classifySubtype (subtype.getD "") object recordId with
  | inr found =>
    rw [Sum.getLeft?, Option.toList_none, List.append_nil]
    exact accounts
  | inl drop =>
    change Accounts translator type earlier (drops ++ [drop])
      ((AccessSync.settle translator (Session.tallyPart type) (.dropped drop) >>= fun _ =>
        pure none) s).2
    rw [Run.bind_of_ok (settle_dropped translator type s drop)]
    exact accounts.settleDrop drop

theorem act (accounts : Accounts translator type earlier drops s) (call : PolicyCall) :
    Accounts translator type earlier (drops ++ call.drop?.toList)
      (call.act translator type s).2 := by
  cases call with
  | membership resource slug record strict acceptGroups =>
    rw [PolicyCall.act, discard_snd, membershipGrant, PolicyCall.drop?]
    cases Membership.ofValue record with
    | error misuse =>
      rw [Except.toOption, Option.bind_none, Option.toList_none, List.append_nil]
      exact accounts
    | ok m =>
      rw [Except.toOption, Option.bind_some, ← m.drop?_verdict resource slug]
      exact accounts.settle (m.verdict resource slug strict acceptGroups)
  | resolved resource slug id grantId principal =>
    rw [PolicyCall.act, discard_snd, ← principal.drop?_verdict]
    exact accounts.settle (principal.verdict resource slug id grantId)
  | classify subtype object recordId =>
    rw [PolicyCall.act, discard_snd]
    exact accounts.classify subtype object recordId
  | drop discriminator object recordId => exact accounts.settleDrop _

/-- By induction on the calls, each of which adds its own drop to those before it. -/
theorem actAll (calls : List PolicyCall) (accounts : Accounts translator type earlier drops s) :
    Accounts translator type earlier (drops ++ calls.filterMap PolicyCall.drop?)
      (PolicyCall.actAll translator type calls s) := by
  induction calls generalizing drops s with
  | nil => simpa [PolicyCall.actAll] using accounts
  | cons call calls inductionHypothesis =>
    have rest := inductionHypothesis (accounts.act call)
    rw [List.append_assoc] at rest
    have together : (call :: calls).filterMap PolicyCall.drop? =
        call.drop?.toList ++ calls.filterMap PolicyCall.drop? := by
      cases dropped : call.drop? <;> simp [dropped]
    rw [together]
    exact rest

end Accounts

/-! ## Membership records -/

/-- The type fields of the record are texts or absent. -/
def Membership.isTyped (record : Value) : Bool :=
  match record.field "@odata.type", record.field "servicePrincipalType" with
  | .ok discriminator, .ok subtype => discriminator.isTextOrAbsent && subtype.isTextOrAbsent
  | _, _ => false

theorem exists_textOr {v : Value} (optional : v.isTextOrAbsent = true) (default : String) :
    ∃ text, v.textOr default = .ok text := by
  cases v with
  | text t =>
    by_cases empty : t = ""
    · exact ⟨default, by simp [Value.textOr, Value.isEmpty, empty]⟩
    · exact ⟨t, by simp [Value.textOr, Value.isEmpty, Value.asText, empty]⟩
  | null => exact ⟨default, rfl⟩
  | _ => cases optional

namespace Membership

/-- What a record is dropped for: the subtype of a service principal, else its type. -/
def dropKey (m : Membership) : DropKind × String :=
  if m.discriminator = servicePrincipalDiscriminator then (.servicePrincipalType, m.subtype)
  else (.membershipType, m.discriminator)

theorem exists_ofValue {record : Value} (typed : isTyped record = true) :
    ∃ m, ofValue record = .ok m := by
  cases record with
  | mapping entries =>
    simp only [isTyped, Value.field, Value.field?, bind, Except.bind, pure, Except.pure,
      Bool.and_eq_true] at typed
    obtain ⟨discriminator, type⟩ := exists_textOr typed.1 ""
    obtain ⟨subtype, detail⟩ := exists_textOr typed.2 ""
    simp only [ofValue, Value.textField, Value.field, Value.field?, bind, Except.bind, pure,
      Except.pure, type, detail]
    by_cases service : discriminator = servicePrincipalDiscriminator <;> simp [service]
  | _ => cases typed

theorem verdict_cases (m : Membership) (resource : ResourceId) (slug : String)
    (strict acceptGroups : Bool) :
    (∃ grant, m.verdict resource slug strict acceptGroups = .granted grant) ∨
      (∃ drop, m.verdict resource slug strict acceptGroups = .dropped drop ∧
        drop.key = m.dropKey) ∨
      strict = true ∧ m.verdict resource slug strict acceptGroups =
        .refused m.discriminator slug resource m.member := by
  unfold verdict
  by_cases group : (decide (m.discriminator = groupDiscriminator) && acceptGroups) = true
  · simp only [group, if_true]
    exact .inl ⟨_, rfl⟩
  · simp only [group]
    by_cases user : m.discriminator = userDiscriminator
    · simp only [user, if_true]
      exact .inl ⟨_, rfl⟩
    · simp only [user, if_false]
      by_cases service : m.discriminator = servicePrincipalDiscriminator
      · simp only [service, if_true, servicePrincipalVerdict, classifySubtype]
        cases resourceTypeOfSubtype? m.subtype with
        | some type => exact .inl ⟨_, rfl⟩
        | none => exact .inr (.inl ⟨_, rfl, by simp [Drop.key, dropKey, service]⟩)
      · simp only [service, if_false]
        cases strict with
        | true => exact .inr (.inr ⟨rfl, rfl⟩)
        | false => exact .inr (.inl ⟨_, rfl, by simp [Drop.key, dropKey, service]⟩)

end Membership

/-- A policy that nothing was asked before accounts for what it drops.  After any calls, the count
of a kind and value is the number of the calls that dropped a record of that kind and value, and the
warnings written are one for each kind and value that was dropped, on its first drop.  A membership
record is granted, is dropped and counted once under what it was not recognised by, or is refused on
a strict list; only a drop leaves anything behind. -/
theorem policy_accounts_for_drops (translator : Translator) (type : ResourceType)
    (calls : List PolicyCall) (s : Session) (fresh : s.tallies type = .empty) :
    (∀ key, ((PolicyCall.actAll translator type calls s).tallies type).count key =
      (calls.filterMap PolicyCall.drop?).countP (·.key == key)) ∧
    (∃ reported, FirstDrops (calls.filterMap PolicyCall.drop?) reported ∧
      Warned s (PolicyCall.actAll translator type calls s)
        (reported.map (Drop.report translator))) ∧
    ∀ (u : Session) (resource : ResourceId) (slug : String) (record : Value)
      (strict acceptGroups : Bool), Membership.isTyped record = true →
      ∃ m, Membership.ofValue record = .ok m ∧
        let call : PolicyCall := .membership resource slug record strict acceptGroups
        let answer := membershipGrant translator (Session.tallyPart type) resource slug strict
          acceptGroups record u
        (∃ grant, answer = (.ok (some grant), u) ∧ call.drop? = none) ∨
        (∃ t drop, answer = (.ok none, t) ∧ call.drop? = some drop ∧ drop.key = m.dropKey ∧
          ∀ key, (t.tallies type).count key =
            (u.tallies type).count key + if key = m.dropKey then 1 else 0) ∨
        strict = true ∧ call.drop? = none ∧
          answer = (.error (.fault (.failure
            ⟨.unknownMembership m.discriminator slug resource m.member, none⟩)), u) := by
  have start : Accounts translator type s [] s := .start fresh
  -- Counts and warnings are those of the account of all calls.
  have accounts := start.actAll calls
  rw [List.nil_append] at accounts
  refine ⟨accounts.counted, accounts.warned, ?_⟩
  intro u resource slug record strict acceptGroups typed
  obtain ⟨m, read⟩ := Membership.exists_ofValue typed
  -- A record that can be read is settled by what its fields say of it.
  have settled : membershipGrant translator (Session.tallyPart type) resource slug strict
      acceptGroups record u = settle translator (Session.tallyPart type)
        (m.verdict resource slug strict acceptGroups) u := by
    rw [membershipGrant, read]
    rfl
  have spoken : (PolicyCall.membership resource slug record strict acceptGroups).drop? =
      (m.verdict resource slug strict acceptGroups).drop? := by
    rw [PolicyCall.drop?, read, m.drop?_verdict]
    rfl
  refine ⟨m, read, ?_⟩
  dsimp only
  rw [settled, spoken]
  obtain ⟨grant, granted⟩ | ⟨drop, dropped, key⟩ | ⟨severe, refused⟩ :=
    m.verdict_cases resource slug strict acceptGroups
  · rw [granted]
    exact .inl ⟨grant, rfl, rfl⟩
  · rw [dropped, settle_dropped, settleDrop_apply]
    refine .inr (.inl ⟨_, drop, rfl, rfl, key, fun other => ?_⟩)
    dsimp only
    split
    · rw [tallies_counting, DropTally.count_add, key]
    · rw [tallies_reporting, DropTally.count_report, tallies_counting, DropTally.count_add, key]
  · rw [refused]
    exact .inr (.inr ⟨severe, rfl, rfl⟩)

def socialRecord : Value := .record [
  ("@odata.type", .text servicePrincipalDiscriminator),
  ("id", .text "sp1"),
  ("servicePrincipalType", .text "SocialIdp")]

def socialCalls : List PolicyCall := [
  .membership ⟨.group, "g1"⟩ Slug.members socialRecord false true,
  .classify none "app1" .null,
  .resolved ⟨.role, "r1"⟩ Slug.assigned "u1" "" .user,
  .resolved ⟨.role, "r1"⟩ Slug.assigned "sp2" "" (.servicePrincipal (some "SocialIdp"))]

theorem policy_accounts_for_social_drops :
    Session.new.tallies .group = .empty ∧ Membership.isTyped socialRecord = true ∧
      ((PolicyCall.actAll ⟨"Groups", "Groups"⟩ .group socialCalls Session.new).tallies
        .group).count (.servicePrincipalType, "SocialIdp") = 2 ∧
      ∃ t, membershipGrant ⟨"Groups", "Groups"⟩ (Session.tallyPart .group) ⟨.group, "g1"⟩
          Slug.owners true true socialRecord Session.new = (.ok none, t) ∧
        (t.tallies .group).count (.servicePrincipalType, "SocialIdp") = 1 := by
  obtain ⟨counted, -, settled⟩ :=
    policy_accounts_for_drops ⟨"Groups", "Groups"⟩ .group socialCalls Session.new rfl
  have typed : Membership.isTyped socialRecord = true := by decide
  have dropped : (PolicyCall.membership ⟨.group, "g1"⟩ Slug.owners socialRecord true true).drop?.map
      Drop.key = some (.servicePrincipalType, "SocialIdp") := by decide
  refine ⟨rfl, typed, (counted _).trans (by decide), ?_⟩
  obtain ⟨m, -, ⟨grant, -, none⟩ | ⟨t, drop, answer, some, key, counts⟩ | ⟨-, none, -⟩⟩ :=
    settled Session.new ⟨.group, "g1"⟩ Slug.owners socialRecord true true typed
  · rw [none] at dropped
    cases dropped
  · rw [some, Option.map_some, key, Option.some_inj] at dropped
    refine ⟨t, answer, ?_⟩
    rw [counts, dropped, if_pos rfl]
    rfl
  · rw [none] at dropped
    cases dropped

end AccessSync
