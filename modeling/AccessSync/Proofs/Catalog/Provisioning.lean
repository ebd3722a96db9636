import AccessSync.Proofs.Catalog.Emitted

/-!
# What provisioning accepts

Access is given and taken by slug.  Groups and applications look at the slug first and decline what
no grant of theirs can have, without having asked anybody anything.  Roles do not look at it:
whatever the slug says, the role itself is given or taken.
-/

namespace AccessSync.Catalog

/-! ## Declining -/

/-- The run fails for a reason of provisioning.  It calls nobody, and it changes nothing but the
log. -/
def Declines (run : Act Unit) : Prop :=
  ∀ s, ∃ fault records, run s =
    (.error (.fault (.failure ⟨.provisioning fault, none⟩)), { s with journal := records })

namespace Declines

theorem fail (fault : ProvisioningFault) : Declines (Run.fail (.provisioning fault)) :=
  fun s => ⟨fault, s.journal, rfl⟩

theorem bind {first : Act Unit} (declines : Declines first) (next : Unit → Act Unit) :
    Declines (first >>= next) := by
  intro s
  obtain ⟨fault, records, stops⟩ := declines s
  exact ⟨fault, records, Run.bind_of_error stops⟩

theorem after_log {next : Unit → Act Unit} (declines : Declines (next ()))
    (severity : Severity) (component message : String) :
    Declines (Run.log severity component message >>= next) := by
  intro s
  obtain ⟨fault, records, stops⟩ :=
    declines (Journaled.record ⟨severity, component, message⟩ s)
  exact ⟨fault, records, stops⟩

/-- Where only users will do, other principals are declined already. -/
theorem after_requireUser {next : Unit → Act Unit} (declines : Declines (next ()))
    (type : ResourceType) (principal : ResourceId) (target : String) :
    Declines (Connector.requireUser type principal target >>= next) := by
  unfold Connector.requireUser
  split
  next => exact ((fail _).after_log _ _ _).bind next
  next => exact declines

end Declines

/-! ## Slugs -/

theorem roleOfSlug?_some {slug role : String}
    (named : Application.roleOfSlug? slug = some role) :
    slug = Application.assignmentSlug role ∧ role ≠ "" := by
  simp only [Application.roleOfSlug?, Option.filter_eq_some_iff] at named
  obtain ⟨dropped, nonempty⟩ := named
  unfold Text.dropStart? at dropped
  split at dropped
  next starts =>
    obtain ⟨rest, same⟩ := List.isPrefixOf_iff_prefix.mp starts
    cases dropped
    refine ⟨?_, by simpa [String.isEmpty_iff] using nonempty⟩
    apply String.toList_inj.mp
    simp [← same, Application.assignmentSlug]
  next => cases dropped

section Guards

variable (c : Connector)

theorem declines_requireSlug {slug : String}
    (neither : ¬ (slug = Slug.owners ∨ slug = Slug.members)) (next : Unit → Act Unit) :
    Declines (Group.requireSlug slug >>= next) := by
  have unsupported : Group.requireSlug slug =
      Run.fail (.provisioning (.unsupported "group" slug)) := by
    rw [Group.requireSlug, if_neg (by simpa using neither)]
  rw [unsupported]
  exact (Declines.fail _).bind next

/-- The slug is neither that of the owners nor that of a role. -/
theorem unnamed_of_not_emittable {resource : ResourceId} {slug : String}
    (never : ¬ Emittable .enterpriseApplication resource slug) :
    slug ≠ Slug.owners ∧ Application.roleOfSlug? slug = none := by
  constructor
  · intro owners
    have some : Application.defaultRole ≠ "" := by decide
    exact never (emittable_application resource some (.inl owners))
  · cases named : Application.roleOfSlug? slug with
    | none => rfl
    | some role =>
      obtain ⟨same, nonempty⟩ := roleOfSlug?_some named
      exact absurd (emittable_application resource nonempty (.inr same)) never

theorem declines_grant {type : ResourceType}
    (looks : type = .group ∨ type = .enterpriseApplication)
    {principal : Resource} {entitlement : Entitlement}
    (never : ¬ Emittable type entitlement.resource entitlement.slug) :
    Declines (grant c type principal entitlement) := by
  obtain rfl | rfl := looks
  · rw [emittable_group_iff] at never
    exact (declines_requireSlug never _).after_requireUser _ _ _
  · obtain ⟨notOwners, unnamed⟩ := unnamed_of_not_emittable never
    apply Declines.after_requireUser
    simp only [notOwners, if_false, unnamed]
    exact (Declines.fail _).bind _

theorem declines_revoke {type : ResourceType}
    (looks : type = .group ∨ type = .enterpriseApplication) {record : Grant}
    (never : ¬ Emittable type record.resource record.slug) :
    Declines (revoke c type record) := by
  obtain rfl | rfl := looks
  · rw [emittable_group_iff] at never
    exact (declines_requireSlug never _).after_requireUser _ _ _
  · obtain ⟨notOwners, unnamed⟩ := unnamed_of_not_emittable never
    rw [revoke, Application.revoke]
    simp only [notOwners, if_false, unnamed, Option.isSome_none, Bool.false_eq_true]
    apply Declines.after_log
    exact (Declines.fail _).bind _

end Guards

/-- Groups and applications decline to give and to take what no grant of theirs can have.  The
grants of a role have one slug, and giving or taking a role is done under every other slug as it is
under this one. -/
theorem provisioning_by_slug (c : Connector) :
    (∀ type, type = .group ∨ type = .enterpriseApplication →
      (∀ principal entitlement, ¬ Emittable type entitlement.resource entitlement.slug →
        Declines (grant c type principal entitlement)) ∧
      ∀ record, ¬ Emittable type record.resource record.slug → Declines (revoke c type record)) ∧
    (∀ resource slug, Emittable .role resource slug → slug = Slug.assigned) ∧
    (∀ principal entitlement, grant c .role principal entitlement =
      grant c .role principal { entitlement with slug := Slug.assigned }) ∧
    ∀ record, revoke c .role record = revoke c .role { record with slug := Slug.assigned } := by
  refine ⟨fun type looks => ⟨?_, ?_⟩, ?_, fun _ _ => rfl, fun _ => rfl⟩
  · exact fun principal entitlement never => declines_grant c looks never
  · exact fun record never => declines_revoke c looks never
  · exact fun resource slug emittable => assigned_of_emittable emittable

/-- An entitlement of a group that there is no such thing as. -/
def groupGuests : Entitlement := ⟨⟨.group, "g1"⟩, "guests", "", "", .permission, []⟩

theorem provisioning_by_slug_groupGuests :
    ∃ c, Connector.ofConfig provisionedWorld 5 (.mapping []) true = .ok c ∧
      ¬ Emittable .group groupGuests.resource groupGuests.slug ∧
      Declines (grant c .group newcomer groupGuests) ∧
      Emittable .group groupGuests.resource Slug.members := by
  obtain ⟨c, configured, -⟩ := exists_configured provisionedWorld 5
  have never : ¬ Emittable .group groupGuests.resource groupGuests.slug := by
    rw [emittable_group_iff]
    decide
  have declines := ((provisioning_by_slug c).1 .group (.inl rfl)).1 newcomer groupGuests never
  exact ⟨c, configured, never, declines, emittable_group _ (.inr rfl)⟩

/-- The call changes something upstream. -/
def isChange : Call → Bool
  | .request request => request.method != "GET"
  | .operate (.createAssignment ..) | .operate (.deleteAssignment ..) => true
  | _ => false

/-- The owners of the role of the subscription. -/
def roleOwners : Entitlement := { writers with slug := Slug.owners }

/-- Being an owner is an entitlement of a role that no grant of it can have.  Who is made an owner
gets the role: the assignment is created upstream. -/
theorem exists_role_given_unlisted :
    ∃ c t, Connector.ofConfig provisionedWorld 5 (.mapping []) true = .ok c ∧
      ¬ Emittable .role roleOwners.resource roleOwners.slug ∧
      grant c .role newcomer roleOwners Session.new = (.ok (), t) ∧
      t.history.any isChange = true := by
  have evaluated : ((Connector.ofConfig provisionedWorld 5 (.mapping []) true).toOption.map fun c =>
      let granted := grant c .role newcomer roleOwners Session.new
      (granted.1.toOption, granted.2.history.any isChange)) = some (some (), true) := by
    decide +kernel
  obtain ⟨c, created, outcome⟩ := Option.map_eq_some_iff.mp evaluated
  simp only [Prod.mk.injEq] at outcome
  obtain ⟨granted, changed⟩ := outcome
  refine ⟨c, _, eq_ok_of_toOption created, fun emittable => ?_,
    Prod.ext (eq_ok_of_toOption granted) rfl, changed⟩
  exact absurd (assigned_of_emittable emittable) (by decide)

end AccessSync.Catalog
