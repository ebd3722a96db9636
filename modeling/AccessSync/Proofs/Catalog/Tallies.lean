import AccessSync.Proofs.Cache
import AccessSync.Proofs.Catalog.Agreement
import AccessSync.Proofs.Catalog.Memberships

/-!
# What translating records counts

Records are translated one after the other, and each drop is counted when its record is met.  All
that is read on the way counts nothing, and neither does a record that a grant is made of or one
that the translation stops at.  `Sifting` is the account of a list of records: it says which drops
were counted by the time that the translation came to its end, or to a stop.
-/

namespace AccessSync

variable {type : ResourceType} {s t u : Session}

/-! ## Drops between two sessions -/

theorem countP_key_eq_zero_iff {drops : List Drop} :
    (∀ key, drops.countP (·.key == key) = 0) ↔ drops = [] := by
  constructor
  · intro uncounted
    cases drops with
    | nil => rfl
    | cons drop others =>
      have first := List.countP_eq_zero.mp (uncounted drop.key) drop List.mem_cons_self
      exact absurd (beq_self_eq_true drop.key) first
  · rintro rfl key
    rfl

/-- From `s` to `t` the drops were counted for a kind of resource, and nothing for other kinds. -/
structure Counts (type : ResourceType) (drops : List Drop) (s t : Session) : Prop where
  others : ∀ other, other ≠ type → t.tallies other = s.tallies other
  own : ∀ key, (t.tallies type).count key =
    (s.tallies type).count key + drops.countP (·.key == key)

namespace Counts

variable {drops more : List Drop}

theorem of_same (same : t.tallies = s.tallies) : Counts type [] s t where
  others other _ := congrFun same other
  own key := by simp [same]

theorem trans (here : Counts type drops s t) (there : Counts type more t u) :
    Counts type (drops ++ more) s u where
  others other different := (there.others other different).trans (here.others other different)
  own key := by rw [there.own, here.own, List.countP_append, Nat.add_assoc]

theorem then_same (counts : Counts type drops s t) (same : u.tallies = t.tallies) :
    Counts type drops s u := by
  simpa using counts.trans (of_same same)

theorem after_same (same : t.tallies = s.tallies) (counts : Counts type drops t u) :
    Counts type drops s u :=
  (of_same same).trans counts

/-- The counts are the same again only if nothing was dropped. -/
theorem eq_nil_iff (counts : Counts type drops s t) :
    (∀ key, (t.tallies type).count key = (s.tallies type).count key) ↔ drops = [] := by
  rw [← countP_key_eq_zero_iff]
  refine forall_congr' fun key => ?_
  rw [counts.own key]
  omega

theorem settleDrop (translator : Translator) (type : ResourceType) (drop : Drop) (s : Session) :
    Counts type [drop] s (AccessSync.settleDrop translator (Session.tallyPart type) drop s).2 where
  others other different := by
    have counted : (counting type drop s).tallies other = s.tallies other := by
      simp [counting, Session.tallyPart, different]
    rw [settleDrop_apply]
    dsimp only
    split
    · exact counted
    · simp [reporting, Session.tallyPart, Journaled.record, different, counted]
  own key := by
    rw [count_settleDrop]
    by_cases same : key = drop.key
    · simp [same]
    · simp [same, Ne.symm same]

end Counts

/-! ## What is read -/

/-- The tallies are these. -/
def HasTallies (tallies : ResourceType → DropTally) (s : Session) : Prop := s.tallies = tallies

section Reading

variable (c : Connector) (tallies : ResourceType → DropTally)

theorem faithful_tallied (world : World) : Directory.Faithful (Along (HasTallies tallies)) world :=
  .along (fun _ _ holds => holds) (fun _ _ holds => holds) (fun _ _ holds => holds)
    fun _ _ holds => holds

theorem managed_tallied (world : World) : Management.Connected (Along (HasTallies tallies)) world :=
  .along (fun _ _ holds => holds) (fun _ _ holds => holds) fun _ _ holds => holds

theorem connected_tallied : Directory.Connected (Along (HasTallies tallies)) c.world c.directory :=
  (faithful_tallied tallies c.world).connected c.directory

theorem keeps_principal_tallied (id : String) : Keeps (HasTallies tallies) (c.principal id) :=
  keeps_iff_agrees.mpr
    (Directory.agrees_resolve (faithful_tallied tallies c.world) c.directory true id)

theorem part_set_tallies (index : RoleIndex) (entries : Cache String AssignmentsByRole)
    (s : Session) : (index.part.set entries s).tallies = s.tallies := by
  unfold RoleIndex.part
  split <;> rfl

theorem keeps_index_tallied (subscription : String) (scope : Option String) :
    Keeps (HasTallies tallies) (c.index.assignmentsByRole subscription scope) := by
  refine Act.keeps_cached (keeps_iff_agrees.mpr ?_)
    (fun _ u _ _ _ holds => (part_set_tallies c.index _ u).trans holds) fun _ _ holds => holds
  have managed := managed_tallied tallies c.index.world
  exact RoleIndex.agree_build managed (managed.client _) _

theorem keeps_definition_tallied (path : String) :
    Keeps (HasTallies tallies) (Catalog.Storage.roleDefinition c path) :=
  Act.keeps_cached
    (keeps_iff_agrees.mpr (Management.agrees_roleDefinition (managed_tallied tallies c.world)
      ((faithful_tallied tallies c.world).call _)))
    (fun _ _ _ _ _ holds => holds) fun _ _ holds => holds

theorem keeps_record_tallied (id : String) :
    Keeps (HasTallies tallies) (Catalog.Application.record c id) := by
  refine Act.keeps_cached (keeps_iff_agrees.mpr ?_) (fun _ _ _ _ _ holds => holds)
    fun _ _ holds => holds
  exact (Directory.agrees_query (connected_tallied c tallies) _ _ _).bind fun _ => Agree.pure _

end Reading

/-! ## One record -/

/-- The run counts nothing, or it comes to nothing and counts one drop. -/
def CountsOnce {α : Type} (type : ResourceType) (run : Act (Option α)) : Prop :=
  ∀ s, (run s).2.tallies = s.tallies ∨
    (run s).1 = .ok none ∧ ∃ drop, Counts type [drop] s (run s).2

namespace CountsOnce

variable {α β : Type}

theorem of_keeps {run : Act (Option α)} (keeps : ∀ tallies, Keeps (HasTallies tallies) run) :
    CountsOnce type run :=
  fun s => .inl (keeps s.tallies s rfl).1

theorem bind {first : Act α} {next : α → Act (Option β)}
    (keeps : ∀ tallies, Keeps (HasTallies tallies) first) (once : ∀ a, CountsOnce type (next a)) :
    CountsOnce type (first >>= next) := by
  intro s
  have same : (first s).2.tallies = s.tallies := (keeps s.tallies s rfl).1
  match outcome : first s with
  | (.error stop, t) =>
    rw [outcome] at same
    rw [Run.bind_of_error outcome]
    exact .inl same
  | (.ok a, t) =>
    rw [outcome] at same
    rw [Run.bind_of_ok outcome]
    obtain unchanged | ⟨nothing, drop, counts⟩ := once a t
    · exact .inl (unchanged.trans same)
    · exact .inr ⟨nothing, drop, counts.after_same same⟩

/-- What is left of a drop is made nothing of. -/
theorem bind_kept {first : Act (Option α)} {next : Option α → Act (Option β)}
    (once : CountsOnce type first) (nothing : next none = pure none)
    (others : ∀ a tallies, Keeps (HasTallies tallies) (next (some a))) :
    CountsOnce type (first >>= next) := by
  intro s
  obtain unchanged | ⟨dropped, drop, counts⟩ := once s
  · match outcome : first s with
    | (.error stop, t) =>
      rw [outcome] at unchanged
      rw [Run.bind_of_error outcome]
      exact .inl unchanged
    | (.ok none, t) =>
      rw [outcome] at unchanged
      rw [Run.bind_of_ok outcome, nothing]
      exact .inl unchanged
    | (.ok (some a), t) =>
      rw [outcome] at unchanged
      rw [Run.bind_of_ok outcome]
      exact .inl ((others a t.tallies t rfl).1.trans unchanged)
  · have outcome : first s = (.ok none, (first s).2) := Prod.ext dropped rfl
    rw [Run.bind_of_ok outcome, nothing]
    exact .inr ⟨rfl, drop, counts⟩

theorem settle (translator : Translator) (type : ResourceType) (verdict : Verdict) :
    CountsOnce type (AccessSync.settle translator (Session.tallyPart type) verdict) := by
  intro s
  cases verdict with
  | granted grant => exact .inl rfl
  | dropped drop =>
    rw [settle_dropped]
    exact .inr ⟨rfl, drop, .settleDrop translator type drop s⟩
  | skipped principal resource => exact .inl rfl
  | refused type slug resource member => exact .inl rfl

theorem classify (translator : Translator) (type : ResourceType) (subtype : Option String)
    (object : String) (recordId : Value) :
    CountsOnce type
      (AccessSync.classify translator (Session.tallyPart type) subtype object recordId) := by
  unfold AccessSync.classify
  split
  next => exact of_keeps fun _ => Ensures.pure trivial
  next drop _ =>
    intro s
    rw [Run.bind_of_ok (settle_dropped translator type s drop)]
    exact .inr ⟨rfl, drop, .settleDrop translator type drop s⟩

end CountsOnce

namespace Catalog

variable (c : Connector)

theorem countsOnce_membershipGrant (translator : Translator) (type : ResourceType)
    (resource : ResourceId) (slug : String) (strict acceptGroups : Bool) (record : Value) :
    CountsOnce type (membershipGrant translator (Session.tallyPart type) resource slug strict
      acceptGroups record) :=
  .bind (fun _ => keeps_reading _) fun _ => .settle translator type _

theorem countsOnce_holderGrant (role : ResourceId) (assignment : RoleAssignment) :
    CountsOnce .role (Role.holderGrant c role assignment) :=
  .bind (fun tallies => keeps_principal_tallied c tallies _) fun _ => .settle _ .role _

theorem countsOnce_assignmentGrant (app : Resource) (assignment : Value) :
    CountsOnce .enterpriseApplication (Application.assignmentGrant c app assignment) := by
  have granted (principal : ResourceId) (expansion : Option Expansion)
      (tallies : ResourceType → DropTally) : Keeps (HasTallies tallies) (do
        return some (← Run.reading (Application.assignmentTo app assignment principal expansion)) :
          Act (Option Grant)) :=
    (keeps_reading _).bind fun _ _ => Ensures.pure trivial
  refine .bind (fun _ => keeps_reading _) fun id => ?_
  refine .bind (fun _ => keeps_reading _) fun kind => ?_
  refine .bind (fun _ => keeps_reading _) fun recordId => ?_
  dsimp only
  split
  next => exact .of_keeps (granted _ _)
  split
  next => exact .of_keeps (granted _ _)
  split
  next =>
    refine .bind (fun tallies => keeps_principal_tallied c tallies id) fun principal => ?_
    exact (CountsOnce.classify _ .enterpriseApplication _ _ _).bind_kept rfl fun kind => granted _ _
  next => exact .settle _ .enterpriseApplication _

end Catalog

/-! ## A list of records -/

/-- Translating the records one after the other from a session comes to the result and leaves the
last session, and the drops are counted on the way.  At a record that the translation stops at
nothing is counted any more. -/
inductive Sifting {ρ ι : Type} (type : ResourceType) (translate : ρ → Act (Option ι)) :
    List ρ → Session → Except Stop (List ι) → List Drop → Session → Prop where
  | done {s : Session} : Sifting type translate [] s (.ok []) [] s
  | stopped {record : ρ} {records : List ρ} {s t : Session} {stop : Stop}
      (stops : translate record s = (.error stop, t)) (same : t.tallies = s.tallies) :
      Sifting type translate (record :: records) s (.error stop) [] t
  | passed {record : ρ} {records : List ρ} {found : Option ι} {s t u : Session}
      {result : Except Stop (List ι)} {drops : List Drop}
      (returns : translate record s = (.ok found, t)) (same : t.tallies = s.tallies)
      (rest : Sifting type translate records t result drops u) :
      Sifting type translate (record :: records) s (result.map (found.toList ++ ·)) drops u
  | dropped {record : ρ} {records : List ρ} {drop : Drop} {s t u : Session}
      {result : Except Stop (List ι)} {drops : List Drop}
      (returns : translate record s = (.ok none, t)) (counts : Counts type [drop] s t)
      (rest : Sifting type translate records t result drops u) :
      Sifting type translate (record :: records) s result (drop :: drops) u

namespace Sifting

variable {ρ ι : Type} {translate : ρ → Act (Option ι)} {records : List ρ}
  {result : Except Stop (List ι)} {drops : List Drop}

/-- The drops of the account are those that are counted. -/
theorem counts (sifting : Sifting type translate records s result drops t) :
    Counts type drops s t := by
  induction sifting with
  | done => exact .of_same rfl
  | stopped _ same => exact .of_same same
  | passed _ same _ inductionHypothesis => exact inductionHypothesis.after_same same
  | dropped _ counted _ inductionHypothesis => exact counted.trans inductionHypothesis

theorem filterMap_cons_of_ok {record : ρ} {found : Option ι}
    (returns : translate record s = (.ok found, t))
    (rest : Run.filterMap translate records t = (result, u)) :
    Run.filterMap translate (record :: records) s = (result.map (found.toList ++ ·), u) := by
  rw [Run.filterMap, Run.bind_of_ok returns]
  cases result with
  | error stop =>
    rw [Run.bind_of_error rest]
    rfl
  | ok others =>
    rw [Run.bind_of_ok rest]
    cases found <;> rfl

/-- Where each record counts one drop at most, the translation of a list has an account. -/
theorem exists_of_countsOnce (each : ∀ record, CountsOnce type (translate record))
    (ends : Run.filterMap translate records s = (result, t)) :
    ∃ drops, Sifting type translate records s result drops t := by
  induction records generalizing s result with
  | nil =>
    cases ends
    exact ⟨[], .done⟩
  | cons record records inductionHypothesis =>
    have once := each record s
    rcases outcome : translate record s with ⟨stop | found, u⟩
    · rw [outcome] at once
      rw [Run.filterMap, Run.bind_of_error outcome] at ends
      cases ends
      obtain same | ⟨⟨⟩, -⟩ := once
      exact ⟨[], .stopped outcome same⟩
    · rw [outcome] at once
      rcases rest : Run.filterMap translate records u with ⟨others, v⟩
      cases (filterMap_cons_of_ok outcome rest).symm.trans ends
      obtain ⟨drops, sifting⟩ := inductionHypothesis rest
      obtain same | ⟨nothing, drop, counts⟩ := once
      · exact ⟨drops, .passed outcome same sifting⟩
      · cases nothing
        refine ⟨drop :: drops, ?_⟩
        have unchanged : others.map (none.toList ++ ·) = others := by
          cases others <;> rfl
        rw [unchanged]
        exact .dropped outcome counts sifting

end Sifting

end AccessSync
