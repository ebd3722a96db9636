import AccessSync.Catalog.Group
import AccessSync.Proofs.GrantPolicy

/-!
# Strict and lenient lists of members

A strict list refuses a record of unknown type, where a lenient one drops and counts it.  There is
no other difference: a service principal of an unknown subtype is dropped on both.  A page of a
strict list that meets an unknown type is given up there, while the lenient one goes on, so the two
are compared by what the lenient one has counted in the end.
-/

namespace AccessSync

/-! ## One record -/

namespace Membership

/-- The type stands for nothing, or for groups where these are not accepted. -/
def IsUnknown (m : Membership) (acceptGroups : Bool) : Prop :=
  (m.discriminator = groupDiscriminator → acceptGroups = false) ∧
    m.discriminator ≠ userDiscriminator ∧ m.discriminator ≠ servicePrincipalDiscriminator

/-- What becomes of a record of unknown type. -/
def unknownVerdict (m : Membership) (resource : ResourceId) (slug : String) (strict : Bool) :
    Verdict :=
  if strict then .refused m.discriminator slug resource m.member
  else .dropped ⟨.membershipType, m.discriminator, resource.id, m.recordId⟩

variable {m : Membership} {acceptGroups : Bool}

theorem verdict_of_unknown (unknown : m.IsUnknown acceptGroups) (resource : ResourceId)
    (slug : String) (strict : Bool) :
    m.verdict resource slug strict acceptGroups = m.unknownVerdict resource slug strict := by
  obtain ⟨group, user, service⟩ := unknown
  have refused : ¬ (m.discriminator = groupDiscriminator ∧ acceptGroups = true) := by
    rintro ⟨same, accepted⟩
    rw [group same] at accepted
    cases accepted
  simp [verdict, unknownVerdict, refused, user, service]

theorem verdict_of_service (service : m.discriminator = servicePrincipalDiscriminator)
    (resource : ResourceId) (slug : String) (strict acceptGroups : Bool) :
    m.verdict resource slug strict acceptGroups =
      servicePrincipalVerdict resource slug m.subtype m.member "" m.recordId := by
  have group : servicePrincipalDiscriminator ≠ groupDiscriminator := by decide
  have user : servicePrincipalDiscriminator ≠ userDiscriminator := by decide
  simp [verdict, service, group, user]

/-- A record of a known type is granted or has an unknown subtype, however strict the list is. -/
theorem verdict_of_known (known : ¬ m.IsUnknown acceptGroups) (resource : ResourceId)
    (slug : String) :
    (∃ grant, ∀ strict, m.verdict resource slug strict acceptGroups = .granted grant) ∨
      ∃ drop : Drop, drop.kind = .servicePrincipalType ∧
        ∀ strict, m.verdict resource slug strict acceptGroups = .dropped drop := by
  by_cases group : m.discriminator = groupDiscriminator ∧ acceptGroups = true
  · refine .inl ⟨grantTo resource slug ⟨.group, m.member⟩ ""
      (some (groupMembers m.member false false)), fun strict => ?_⟩
    simp [verdict, group]
  by_cases user : m.discriminator = userDiscriminator
  · have other : userDiscriminator ≠ groupDiscriminator := by decide
    refine .inl ⟨grantTo resource slug ⟨.user, m.member⟩ "" none, fun strict => ?_⟩
    simp [verdict, user, other]
  by_cases service : m.discriminator = servicePrincipalDiscriminator
  · simp only [verdict_of_service service, servicePrincipalVerdict, classifySubtype]
    cases resourceTypeOfSubtype? m.subtype with
    | some type => exact .inl ⟨_, fun _ => rfl⟩
    | none => exact .inr ⟨_, rfl, fun _ => rfl⟩
  · refine absurd ⟨fun same => ?_, user, service⟩ known
    simpa [same] using group

theorem verdict_of_not_group (other : m.discriminator ≠ groupDiscriminator) (resource : ResourceId)
    (slug : String) (strict : Bool) :
    m.verdict resource slug strict false = m.verdict resource slug strict true := by
  simp [verdict, other]

end Membership

/-! ## What is counted on the way -/

variable {type : ResourceType} {s t u : Session}

/-- No drop has been taken back. -/
def CountsOn (type : ResourceType) (s t : Session) : Prop :=
  ∀ key, (s.tallies type).count key ≤ (t.tallies type).count key

/-- From `s` to `t`, a record of unknown type was counted. -/
def CountsUnknown (type : ResourceType) (s t : Session) : Prop :=
  ∃ value, (s.tallies type).count (.membershipType, value) <
    (t.tallies type).count (.membershipType, value)

theorem CountsOn.refl (type : ResourceType) (s : Session) : CountsOn type s s :=
  fun _ => Nat.le_refl _

theorem CountsOn.trans (here : CountsOn type s t) (there : CountsOn type t u) :
    CountsOn type s u :=
  fun key => Nat.le_trans (here key) (there key)

theorem not_countsUnknown_refl (type : ResourceType) (s : Session) : ¬ CountsUnknown type s s := by
  rintro ⟨value, more⟩
  exact Nat.lt_irrefl _ more

/-- On the way over a session between, a record is counted before or after it. -/
theorem countsUnknown_iff_of_between (here : CountsOn type s t) (there : CountsOn type t u) :
    CountsUnknown type s u ↔ CountsUnknown type s t ∨ CountsUnknown type t u := by
  constructor
  · rintro ⟨value, more⟩
    by_cases early : (s.tallies type).count (.membershipType, value) <
        (t.tallies type).count (.membershipType, value)
    · exact .inl ⟨value, early⟩
    · exact .inr ⟨value, Nat.lt_of_le_of_lt (Nat.le_of_not_lt early) more⟩
  · rintro (⟨value, more⟩ | ⟨value, more⟩)
    · exact ⟨value, Nat.lt_of_lt_of_le more (there _)⟩
    · exact ⟨value, Nat.lt_of_le_of_lt (here _) more⟩

theorem count_settleDrop (translator : Translator) (type : ResourceType) (drop : Drop)
    (s : Session) (key : DropKind × String) :
    ((settleDrop translator (Session.tallyPart type) drop s).2.tallies type).count key =
      (s.tallies type).count key + if key = drop.key then 1 else 0 := by
  rw [settleDrop_apply]
  dsimp only
  split
  · rw [tallies_counting, DropTally.count_add]
  · rw [tallies_reporting, DropTally.count_report, tallies_counting, DropTally.count_add]

theorem countsOn_settleDrop (translator : Translator) (type : ResourceType) (drop : Drop)
    (s : Session) :
    CountsOn type s (settleDrop translator (Session.tallyPart type) drop s).2 := by
  intro key
  rw [count_settleDrop]
  exact Nat.le_add_right _ _

theorem countsUnknown_settleDrop_iff (translator : Translator) (type : ResourceType) (drop : Drop)
    (s : Session) :
    CountsUnknown type s (settleDrop translator (Session.tallyPart type) drop s).2 ↔
      drop.kind = .membershipType := by
  constructor
  · rintro ⟨value, more⟩
    rw [count_settleDrop] at more
    by_cases same : (DropKind.membershipType, value) = drop.key
    · exact (congrArg Prod.fst same).symm
    · simp [same] at more
  · intro kind
    refine ⟨drop.value, ?_⟩
    rw [count_settleDrop]
    simp [Drop.key, kind]

/-! ## Runs that differ in strictness -/

/-- From `s`, the lenient run comes to `a` in `t`.  So does the strict one, unless a record of unknown
type was counted on the way, which the strict one stops at. -/
structure Tightens {α : Type} (type : ResourceType) (strict lenient : Act α) (s : Session) (a : α)
    (t : Session) : Prop where
  returns : lenient s = (.ok a, t)
  counted : CountsOn type s t
  stops : CountsUnknown type s t → ∃ stop, (strict s).1 = .error stop
  same : ¬ CountsUnknown type s t → strict s = (.ok a, t)

namespace Tightens

variable {α β : Type} {strict lenient : Act α} {a : α}

theorem pure (a : α) : Tightens type (Pure.pure a) (Pure.pure a) s a s :=
  ⟨rfl, .refl type s, fun unknown => absurd unknown (not_countsUnknown_refl type s), fun _ => rfl⟩

theorem bind {strictNext lenientNext : α → Act β} {b : β}
    (here : Tightens type strict lenient s a t)
    (there : Tightens type (strictNext a) (lenientNext a) t b u) :
    Tightens type (strict >>= strictNext) (lenient >>= lenientNext) s b u where
  returns := by rw [Run.bind_of_ok here.returns, there.returns]
  counted := here.counted.trans there.counted
  stops unknown := by
    by_cases early : CountsUnknown type s t
    · obtain ⟨stop, stopped⟩ := here.stops early
      exact ⟨stop, by rw [Run.bind_of_error (Prod.ext stopped rfl)]⟩
    · rw [Run.bind_of_ok (here.same early)]
      rw [countsUnknown_iff_of_between here.counted there.counted] at unknown
      exact there.stops (unknown.resolve_left early)
  same known := by
    rw [countsUnknown_iff_of_between here.counted there.counted, not_or] at known
    rw [Run.bind_of_ok (here.same known.1), there.same known.2]

theorem returns_iff (tightens : Tightens type strict lenient s a t) :
    (∃ b, (strict s).1 = .ok b) ↔ ¬ CountsUnknown type s t := by
  constructor
  · rintro ⟨b, returned⟩ unknown
    obtain ⟨stop, stopped⟩ := tightens.stops unknown
    rw [returned] at stopped
    cases stopped
  · intro known
    exact ⟨a, by rw [tightens.same known]⟩

end Tightens

/-- By induction on the list: what was counted up to an element is kept by those after it. -/
theorem exists_tightens_filterMap {α β : Type} {strict lenient : α → Act (Option β)} {list : List α}
    (each : ∀ a ∈ list, ∀ s, ∃ found t, Tightens type (strict a) (lenient a) s found t)
    (s : Session) :
    ∃ results t,
      Tightens type (Run.filterMap strict list) (Run.filterMap lenient list) s results t := by
  induction list generalizing s with
  | nil => exact ⟨[], s, .pure []⟩
  | cons a list inductionHypothesis =>
    obtain ⟨found, t, here⟩ := each a List.mem_cons_self s
    obtain ⟨others, u, there⟩ :=
      inductionHypothesis (fun other member => each other (List.mem_cons_of_mem a member)) t
    exact ⟨_, u, here.bind (there.bind (.pure _))⟩

/-! ## Membership records -/

section Records

variable (translator : Translator) (type : ResourceType) (resource : ResourceId) (slug : String)

theorem membershipGrant_of_read {record : Value} {m : Membership}
    (read : Membership.ofValue record = .ok m) (strict acceptGroups : Bool) :
    membershipGrant translator (Session.tallyPart type) resource slug strict acceptGroups record =
      settle translator (Session.tallyPart type)
        (m.verdict resource slug strict acceptGroups) := by
  rw [membershipGrant, read]
  rfl

theorem settle_of_unknown {m : Membership} {acceptGroups : Bool}
    (unknown : m.IsUnknown acceptGroups) (s : Session) :
    settle translator (Session.tallyPart type) (m.verdict resource slug true acceptGroups) s =
        (.error (.fault (.failure
          ⟨.unknownMembership m.discriminator slug resource m.member, none⟩)), s) ∧
      ∃ t, settle translator (Session.tallyPart type)
          (m.verdict resource slug false acceptGroups) s = (.ok none, t) ∧
        CountsOn type s t ∧ CountsUnknown type s t := by
  rw [m.verdict_of_unknown unknown, m.verdict_of_unknown unknown]
  refine ⟨settle_refused translator type s _ _ _ _, _, settle_dropped translator type s _, ?_, ?_⟩
  · exact countsOn_settleDrop translator type _ s
  · exact (countsUnknown_settleDrop_iff translator type _ s).mpr rfl

theorem settle_of_known {m : Membership} {acceptGroups : Bool} (known : ¬ m.IsUnknown acceptGroups)
    (s : Session) :
    ∃ found t, (∀ strict, settle translator (Session.tallyPart type)
        (m.verdict resource slug strict acceptGroups) s = (.ok found, t)) ∧
      CountsOn type s t ∧ ¬ CountsUnknown type s t := by
  obtain ⟨grant, granted⟩ | ⟨drop, kind, dropped⟩ := m.verdict_of_known known resource slug
  · simp only [granted]
    exact ⟨some grant, s, fun _ => rfl, .refl type s, not_countsUnknown_refl type s⟩
  · simp only [dropped]
    refine ⟨none, _, fun _ => settle_dropped translator type s drop,
      countsOn_settleDrop translator type drop s, ?_⟩
    simp [countsUnknown_settleDrop_iff, kind]

theorem exists_tightens_membershipGrant {record : Value} (typed : Membership.isTyped record = true)
    (acceptGroups : Bool) (s : Session) :
    ∃ found t, Tightens type
      (membershipGrant translator (Session.tallyPart type) resource slug true acceptGroups record)
      (membershipGrant translator (Session.tallyPart type) resource slug false acceptGroups record)
      s found t := by
  obtain ⟨m, read⟩ := Membership.exists_ofValue typed
  simp only [membershipGrant_of_read translator type resource slug read]
  by_cases unknown : m.IsUnknown acceptGroups
  · obtain ⟨refused, t, dropped, counted, more⟩ :=
      settle_of_unknown translator type resource slug unknown s
    exact ⟨none, t, dropped, counted, fun _ => ⟨_, congrArg Prod.fst refused⟩,
      fun none => absurd more none⟩
  · obtain ⟨found, t, settled, counted, none⟩ :=
      settle_of_known translator type resource slug unknown s
    exact ⟨found, t, settled false, counted, fun more => absurd more none, fun _ => settled true⟩

end Records

/-- On a strict list, a record whose type fields are texts or absent is refused exactly if it is
counted as one of unknown type on a lenient list; else both lists answer the same and leave the same
behind.  To accept no groups makes a difference to groups only, and these get what an unknown type
gets.  So a strict page is translated exactly if the lenient one counts no unknown type, and then
both have the same grants. -/
theorem strict_memberships (type : ResourceType) (resource : ResourceId) (slug : String) :
    (∀ (translator : Translator) (record : Value), Membership.isTyped record = true →
      ∃ m, Membership.ofValue record = .ok m ∧
        let answer (strict acceptGroups : Bool) : Act (Option Grant) := membershipGrant translator
          (Session.tallyPart type) resource slug strict acceptGroups record
        (∀ acceptGroups s, ∃ found t, answer false acceptGroups s = (.ok found, t) ∧
          (CountsUnknown type s t → found = none ∧ answer true acceptGroups s =
            (.error (.fault (.failure
              ⟨.unknownMembership m.discriminator slug resource m.member, none⟩)), s)) ∧
          (¬ CountsUnknown type s t → answer true acceptGroups s = (.ok found, t))) ∧
        (m.discriminator ≠ groupDiscriminator →
          ∀ strict, answer strict false = answer strict true) ∧
        (m.discriminator ∉ [userDiscriminator, servicePrincipalDiscriminator] →
          ∀ strict, answer strict false = settle translator (Session.tallyPart type)
            (m.unknownVerdict resource slug strict))) ∧
    ∀ (records : List Value), (∀ record ∈ records, Membership.isTyped record = true) →
      let page (strict acceptGroups : Bool) : Act (List Grant) :=
        Catalog.Group.translateMemberships type resource slug strict acceptGroups records
      ∀ acceptGroups s, ∃ grants t, page false acceptGroups s = (.ok grants, t) ∧
        ((∃ found, (page true acceptGroups s).1 = .ok found) ↔ ¬ CountsUnknown type s t) ∧
        (¬ CountsUnknown type s t → page true acceptGroups s = (.ok grants, t)) := by
  constructor
  · intro translator record typed
    obtain ⟨m, read⟩ := Membership.exists_ofValue typed
    refine ⟨m, read, ?_⟩
    simp only [membershipGrant_of_read translator type resource slug read]
    refine ⟨fun acceptGroups s => ?_, fun other strict => ?_, fun other strict => ?_⟩
    · by_cases unknown : m.IsUnknown acceptGroups
      · obtain ⟨refused, t, dropped, -, more⟩ :=
          settle_of_unknown translator type resource slug unknown s
        exact ⟨none, t, dropped, fun _ => ⟨rfl, refused⟩, fun none => absurd more none⟩
      · obtain ⟨found, t, settled, -, none⟩ :=
          settle_of_known translator type resource slug unknown s
        exact ⟨found, t, settled false, fun more => absurd more none, fun _ => settled true⟩
    · rw [Membership.verdict_of_not_group other]
    · have unknown : m.IsUnknown false := by
        simpa [Membership.IsUnknown] using other
      rw [m.verdict_of_unknown unknown]
  · intro records typed page acceptGroups s
    -- Record by record, the strict run follows the lenient one up to the first unknown type.
    obtain ⟨grants, t, tightens⟩ := exists_tightens_filterMap
      (fun record member => exists_tightens_membershipGrant (Connector.translator type) type
        resource slug (typed record member) acceptGroups) s
    exact ⟨grants, t, tightens.returns, tightens.returns_iff, tightens.same⟩

/-- A membership record of a type that stands for nothing. -/
def deviceRecord : Value := .record [
  ("@odata.type", .text "#microsoft.graph.device"),
  ("id", .text "d1")]

/-- Of two records that are dropped, a strict page stops at the one of unknown type, and a strict
page without it has what a lenient one has. -/
theorem strict_memberships_device :
    let page (strict : Bool) (records : List Value) : Act (List Grant) :=
      Catalog.Group.translateMemberships .group ⟨.group, "g1"⟩ Slug.owners strict true records
    Membership.isTyped socialRecord = true ∧ Membership.isTyped deviceRecord = true ∧
      (∃ t, page false [socialRecord, deviceRecord] Session.new = (.ok [], t) ∧
        CountsUnknown .group Session.new t ∧
        ¬ ∃ found, (page true [socialRecord, deviceRecord] Session.new).1 = .ok found) ∧
      ∃ t, page false [socialRecord] Session.new = (.ok [], t) ∧
        page true [socialRecord] Session.new = (.ok [], t) := by
  intro page
  have social : Membership.isTyped socialRecord = true := by decide
  have device : Membership.isTyped deviceRecord = true := by decide
  obtain ⟨-, pages⟩ := strict_memberships .group ⟨.group, "g1"⟩ Slug.owners
  refine ⟨social, device, ?_, ?_⟩
  · obtain ⟨grants, t, returns, finishes, -⟩ :=
      pages [socialRecord, deviceRecord] (by simp [social, device]) true Session.new
    obtain rfl : [] = grants := Except.ok.inj (congrArg Prod.fst returns)
    obtain rfl := congrArg Prod.snd returns
    have counted : CountsUnknown .group Session.new
        (page false [socialRecord, deviceRecord] Session.new).2 :=
      ⟨"#microsoft.graph.device", Nat.zero_lt_one⟩
    exact ⟨_, returns, counted, mt finishes.mp (not_not_intro counted)⟩
  · obtain ⟨grants, t, returns, finishes, same⟩ :=
      pages [socialRecord] (by simp [social]) true Session.new
    obtain rfl : [] = grants := Except.ok.inj (congrArg Prod.fst returns)
    exact ⟨t, returns, same (finishes.mp ⟨[], rfl⟩)⟩

end AccessSync
