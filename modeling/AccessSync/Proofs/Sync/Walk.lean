import AccessSync.Proofs.Catalog.Listed
import AccessSync.Proofs.Sync.Calls
import AccessSync.Proofs.Sync.Independence

/-!
# The walk of a sync

A sync asks for every page that there is: under each parent, of each kind, wave by wave, and then
of the access to each resource.  The relations here say which calls these are and what they come
to, and know neither of tasks nor of sessions.  A document holds what the calls of its sync came to.
-/

namespace AccessSync.Sync

/-! ## Pages -/

/-- The calls ask for page after page, each with the cursor that came with the page before, up to a
page that came with none.  The items are those of all pages. -/
inductive Drains {ι : Type} (page : String → List ι × String → Made) :
    String → List Made → List ι → Prop where
  | last {cursor items} : Drains page cursor [page cursor (items, "")] items
  | more {cursor items next rest others} : next ≠ "" → Drains page next rest others →
      Drains page cursor (page cursor (items, next) :: rest) (items ++ others)

/-- The calls list what is under the parents, one parent after the other. -/
inductive ListsUnder (type : ResourceType) :
    List (Option ResourceId) → List Made → List Resource → Prop where
  | nil : ListsUnder type [] [] []
  | cons {parent parents made found later others} :
      Drains (fun cursor answer => ⟨type, .list parent cursor, answer⟩) "" made found →
      ListsUnder type parents later others →
      ListsUnder type (parent :: parents) (made ++ later) (found ++ others)

/-- The calls ask for the access to the resources, one resource after the other: its entitlements
first, then its grants. -/
inductive CollectsFrom (type : ResourceType) : List Resource → List Made → Access → Prop where
  | nil : CollectsFrom type [] [] ([], [])
  | cons {resource resources made grants later others} {entitlements : List Entitlement} :
      Drains (fun cursor answer => ⟨type, .grants resource cursor, answer⟩) "" made grants →
      CollectsFrom type resources later others →
      CollectsFrom type (resource :: resources)
        (⟨type, .entitlements resource, entitlements⟩ :: made ++ later)
        (entitlements ++ others.1, grants ++ others.2)

/-- The calls list a kind under its parents among the resources, and report how many there are. -/
def Lists (resources : List (ResourceType × List Resource)) (type : ResourceType)
    (made : List Made) (found : List Resource) : Prop :=
  ∃ calls, ListsUnder type (parents resources type) calls found ∧
    made = calls ++ [⟨type, .report ("Listed " ++ toString found.length ++ " " ++ type.name ++
      " resources"), ()⟩]

/-- The calls collect the access to the resources of a kind, and report how much there is. -/
def Collects (resources : List (ResourceType × List Resource)) (type : ResourceType)
    (made : List Made) (access : Access) : Prop :=
  ∃ calls, CollectsFrom type (listed resources type) calls access ∧
    made = calls ++ [⟨type, .report ("Collected " ++ toString access.1.length ++
      " entitlements and " ++ toString access.2.length ++ " grants for " ++ type.name), ()⟩]

/-- The calls are made wave by wave. -/
inductive Staged : List (List ResourceType) → List Made → Prop where
  | nil : Staged [] []
  | cons {wave rest made later} : (∀ m ∈ made, m.type ∈ wave) → Staged rest later →
      Staged (wave :: rest) (made ++ later)

/-- The document holds what the calls of the listing and of the collection came to. -/
structure Walk (d : SyncDocument) (listing collecting : List Made) : Prop where
  staged : Staged waves listing
  kinds : d.resources.map Prod.fst = waves.flatten
  lists : ∀ type found, (type, found) ∈ d.resources →
    Lists d.resources type (own type listing) found
  accessed : d.access.map Prod.fst = waves.flatten
  collects : ∀ type access, (type, access) ∈ d.access →
    Collects d.resources type (own type collecting) access

variable {α ι : Type} {c : Connector} {type : ResourceType} {s t : Session} {made : List Made}
  {limit : Nat}

/-! ## Walks of tasks -/

theorem Task.Leads.of_call {call : PageCall} {answer : call.Answer}
    (leads : (Task.call call).Leads type made (.done answer)) : made = [⟨type, call, answer⟩] := by
  cases leads with
  | ask leads =>
    obtain ⟨rfl, rfl⟩ := leads.of_done
    rfl

theorem drains_of_leads {page : String → List ι × String → Made}
    {operation : String → Task (List ι × String)}
    (single : ∀ cursor made answer, (operation cursor).Leads type made (.done answer) →
      made = [page cursor answer])
    {cursor : String} {items : List ι}
    (leads : (Task.drainFrom operation limit cursor).Leads type made (.done items)) :
    Drains page cursor made items := by
  induction limit generalizing cursor made items with
  | zero => cases leads
  | succ limit inductionHypothesis =>
    obtain ⟨⟨first, next⟩, asked, later, rfl, here, goes⟩ := leads.of_bind
    obtain rfl := single _ _ _ here
    simp only at goes
    split at goes
    next last =>
      obtain ⟨rfl, rfl⟩ := goes.of_done
      obtain rfl := String.isEmpty_iff.mp last
      exact .last
    next more =>
      obtain ⟨others, rest, none, rfl, there, ends⟩ := goes.of_bind
      obtain ⟨rfl, rfl⟩ := ends.of_done
      rw [List.append_nil]
      exact .more (fun last => more (String.isEmpty_iff.mpr last)) (inductionHypothesis there)

theorem listsUnder_of_leads {parents : List (Option ResourceId)} {found : List Resource}
    (leads : (Task.listUnder limit parents).Leads type made (.done found)) :
    ListsUnder type parents made found := by
  induction parents generalizing made found with
  | nil =>
    obtain ⟨rfl, rfl⟩ := leads.of_done
    exact .nil
  | cons parent parents inductionHypothesis =>
    obtain ⟨first, calls, later, rfl, here, leads⟩ := leads.of_bind
    obtain ⟨others, rest, none, rfl, there, leads⟩ := leads.of_bind
    obtain ⟨rfl, rfl⟩ := leads.of_done
    rw [List.append_nil]
    exact .cons (drains_of_leads (fun _ _ _ => Task.Leads.of_call) here) (inductionHypothesis there)

theorem lists_of_leads {resources : List (ResourceType × List Resource)} {found : List Resource}
    (leads : (Task.listType limit resources type).Leads type made (.done found)) :
    Lists resources type made found := by
  obtain ⟨first, calls, report, rfl, here, leads⟩ := leads.of_bind
  cases leads with
  | ask leads =>
    obtain ⟨rfl, rfl⟩ := leads.of_done
    exact ⟨calls, listsUnder_of_leads here, rfl⟩

theorem collectsFrom_of_leads {resources : List Resource} {access : Access}
    (leads : (Task.accessTo limit resources).Leads type made (.done access)) :
    CollectsFrom type resources made access := by
  induction resources generalizing made access with
  | nil =>
    obtain ⟨rfl, rfl⟩ := leads.of_done
    exact .nil
  | cons resource resources inductionHypothesis =>
    cases leads with
    | ask leads =>
      obtain ⟨grants, calls, later, rfl, here, leads⟩ := leads.of_bind
      obtain ⟨others, rest, none, rfl, there, leads⟩ := leads.of_bind
      obtain ⟨rfl, rfl⟩ := leads.of_done
      rw [List.append_nil]
      exact .cons (drains_of_leads (fun _ _ _ => Task.Leads.of_call) here)
        (inductionHypothesis there)

theorem collects_of_leads {resources : List (ResourceType × List Resource)} {access : Access}
    (leads : (Task.accessOfType limit resources type).Leads type made (.done access)) :
    Collects resources type made access := by
  obtain ⟨first, calls, report, rfl, here, leads⟩ := leads.of_bind
  cases leads with
  | ask leads =>
    obtain ⟨rfl, rfl⟩ := leads.of_done
    exact ⟨calls, collectsFrom_of_leads here, rfl⟩

/-! ## Waves -/

theorem Staged.among {waves : List (List ResourceType)} (staged : Staged waves made) :
    ∀ m ∈ made, m.type ∈ waves.flatten := by
  induction staged with
  | nil => simp
  | cons here _ inductionHypothesis =>
    intro m member
    rw [List.flatten_cons]
    obtain earlier | later := List.mem_append.mp member
    · exact List.mem_append_left _ (here m earlier)
    · exact List.mem_append_right _ (inductionHypothesis m later)

/-- The kinds under whose resources a kind is listed come in earlier waves, or are known before. -/
def ParentsFirst : List ResourceType → List (List ResourceType) → Prop
  | _, [] => True
  | known, wave :: rest => (∀ type ∈ wave, ∀ parent ∈ parentType? type, parent ∈ known) ∧
      ParentsFirst (known ++ wave) rest

theorem parentsFirst_waves : ParentsFirst [] waves :=
  ⟨by decide, by decide, by decide, trivial⟩

/-- What is listed later adds no parents to kinds whose parents are listed. -/
theorem parents_append {resources : List (ResourceType × List Resource)}
    (known : ∀ parent ∈ parentType? type, parent ∈ resources.map Prod.fst)
    (found : List (ResourceType × List Resource)) :
    parents (resources ++ found) type = parents resources type := by
  unfold parents
  split
  next => rfl
  next parent above =>
    obtain ⟨entry, member, rfl⟩ := List.mem_map.mp (known parent above)
    have listed : (resources.lookup entry.1).isSome := by
      rw [List.lookup_isSome_iff]
      exact ⟨entry, member, beq_self_eq_true _⟩
    rw [Sync.listed, Sync.listed, List.lookup_append, Option.or_of_isSome listed]

theorem listWavesIn_walks {waves : List (List ResourceType)} {schedules : List (List Nat)}
    {resources all : List (ResourceType × List Resource)}
    (order : ParentsFirst (resources.map Prod.fst) waves) (distinct : waves.flatten.Nodup)
    (returns : listWavesIn c waves schedules resources s = (.ok all, t)) :
    ∃ made found, all = resources ++ found ∧ found.map Prod.fst = waves.flatten ∧
      Passes c s made t ∧ Staged waves made ∧
      ∀ type listed, (type, listed) ∈ found → Lists all type (own type made) listed := by
  -- On the waves: what a wave lists is known to the later ones, and these make no calls for its
  -- kinds.
  induction waves generalizing schedules resources s with
  | nil =>
    cases returns
    exact ⟨[], [], by simp, rfl, .refl _, .nil, by simp⟩
  | cons wave rest inductionHypothesis =>
    obtain ⟨found, u, phase, returns⟩ := Run.exists_of_bind returns
    obtain ⟨above, order⟩ := order
    rw [List.flatten_cons, List.nodup_append] at distinct
    obtain ⟨unique, further, apart⟩ := distinct
    have kinds := interleave_kinds phase
    obtain ⟨calls, passes, among, leads⟩ := interleave_leads unique phase
    have known : (resources ++ found).map Prod.fst = resources.map Prod.fst ++ wave := by
      rw [List.map_append, kinds]
    obtain ⟨made, others, rfl, later, onwards, staged, lists⟩ :=
      inductionHypothesis (known ▸ order) further returns
    refine ⟨calls ++ made, found ++ others, by rw [List.append_assoc], by simp [kinds, later],
      passes.trans onwards, .cons among staged, fun type listed member => ?_⟩
    rw [own_append]
    obtain here | there := List.mem_append.mp member
    · have inside : type ∈ wave := kinds ▸ List.mem_map_of_mem here
      have none : own type made = [] := own_of_none fun m member same =>
        apart type inside m.type (staged.among m member) same.symm
      have covered : ∀ parent ∈ parentType? type, parent ∈ resources.map Prod.fst :=
        above type inside
      have lists := lists_of_leads (leads type listed here)
      unfold Lists at lists ⊢
      rwa [none, List.append_nil, List.append_assoc, parents_append covered]
    · have beyond : type ∈ rest.flatten := later ▸ List.mem_map_of_mem there
      have none : own type calls = [] := own_of_none fun m member =>
        apart m.type (among m member) type beyond
      rw [none, List.nil_append]
      exact lists type listed there

theorem listing_walks {schedules : List (List Nat)} {all : List (ResourceType × List Resource)}
    (returns : listWavesIn c waves schedules [] s = (.ok all, t)) :
    ∃ made, all.map Prod.fst = waves.flatten ∧ Passes c s made t ∧ Staged waves made ∧
      ∀ type listed, (type, listed) ∈ all → Lists all type (own type made) listed := by
  have order : ParentsFirst (([] : List (ResourceType × List Resource)).map Prod.fst) waves :=
    parentsFirst_waves
  obtain ⟨made, found, rfl, kinds, rest⟩ := listWavesIn_walks order (by decide) returns
  exact ⟨made, kinds, rest⟩

/-! ## Documents -/

variable {schedule : Schedule} {workers : Int} {d : SyncDocument}

/-- What a document holds was listed first, then the access to it was collected, and the drops were
counted in the end. -/
theorem exists_of_runIn (returns : runIn c schedule workers s = (.ok d, t)) :
    ∃ u v, listWavesIn c waves schedule.waves [] (now c s).2 = (.ok d.resources, u) ∧
      interleave c schedule.access (d.resources.map Prod.fst)
        (Task.accessOfType c.limit d.resources) u = (.ok d.access, v) ∧
      d.drops = drops v.tallies ∧ t = (report d (now c v).2).2 := by
  obtain ⟨started, begun, first, returns⟩ := Run.exists_of_bind returns
  cases first
  simp only at returns
  -- Without workers there is no document.
  split at returns
  next =>
    obtain ⟨_, _, stops, -⟩ := Run.exists_of_bind returns
    cases stops
  next =>
    obtain ⟨resources, u, waved, returns⟩ := Run.exists_of_bind returns
    obtain ⟨access, v, collected, returns⟩ := Run.exists_of_bind returns
    obtain ⟨ended, _, last, returns⟩ := Run.exists_of_bind returns
    cases last
    obtain ⟨_, _, same, returns⟩ := Run.exists_of_bind returns
    cases same
    obtain ⟨_, _, reported, returns⟩ := Run.exists_of_bind returns
    cases returns
    exact ⟨u, v, waved, collected, rfl, (congrArg Prod.snd (lift_ok reported)).symm⟩

/-- A report adds to the log and to nothing else. -/
theorem report_journal (d : SyncDocument) (s : Session) :
    ∃ journal, report d s = (.ok (), { s with journal }) := by
  unfold report
  rw [Run.bind_of_ok (Run.log_apply _ _ _)]
  split
  next => exact ⟨_, rfl⟩
  next => exact ⟨_, rfl⟩

theorem runIn_walk (returns : runIn c schedule workers s = (.ok d, t)) :
    ∃ listing collecting, Passes c s (listing ++ collecting) t ∧ Walk d listing collecting := by
  obtain ⟨u, v, waved, collected, -, rfl⟩ := exists_of_runIn returns
  obtain ⟨listing, kinds, listed, staged, lists⟩ := listing_walks waved
  have unique : (d.resources.map Prod.fst).Nodup := by
    rw [kinds]
    decide
  obtain ⟨collecting, passes, -, leads⟩ := interleave_leads unique collected
  have last : Passes c v [] (report d (now c v).2).2 := .clock (.report d (.refl _))
  refine ⟨listing, collecting, ?_, staged, kinds, lists, ?_, fun type access member => ?_⟩
  · have onwards := (listed.trans passes).trans last
    rw [List.append_nil] at onwards
    exact .clock onwards
  · rw [interleave_kinds collected, kinds]
  · exact collects_of_leads (leads type access member)

/-! ### Parents -/

theorem Drains.forall {page : String → List ι × String → Made} {Q : ι → Prop} {cursor : String}
    {items : List ι} (drains : Drains page cursor made items)
    (each : ∀ cursor answer, page cursor answer ∈ made → ∀ item ∈ answer.1, Q item) :
    ∀ item ∈ items, Q item := by
  induction drains with
  | last => exact each _ _ List.mem_cons_self
  | more _ _ inductionHypothesis =>
    refine List.forall_mem_append.mpr ⟨each _ _ List.mem_cons_self, ?_⟩
    exact inductionHypothesis fun cursor answer member =>
      each cursor answer (List.mem_cons_of_mem _ member)

/-- What is listed is of its kind, and under one of the parents. -/
theorem ListsUnder.under {parents : List (Option ResourceId)} {found : List Resource}
    (lists : ListsUnder type parents made found)
    (answered : ∀ m ∈ made, m.Answered c) :
    ∀ r ∈ found, ∃ parent ∈ parents, Catalog.Under type parent r := by
  induction lists with
  | nil => simp
  | @cons parent parents made found later others drains _ inductionHypothesis =>
    obtain ⟨here, there⟩ := List.forall_mem_append.mp answered
    intro r member
    obtain first | other := List.mem_append.mp member
    · refine ⟨parent, List.mem_cons_self, drains.forall (fun cursor answer asked => ?_) r first⟩
      obtain ⟨before, after, performed⟩ := here _ asked
      exact (Catalog.ensures_list c type parent cursor).returned trivial performed
    · obtain ⟨above, among, under⟩ := inductionHypothesis there r other
      exact ⟨above, List.mem_cons_of_mem _ among, under⟩

namespace Walk

variable {listing collecting : List Made}

theorem listed_eq (walk : Walk d listing collecting) {found : List Resource}
    (member : (type, found) ∈ d.resources) : listed d.resources type = found := by
  have unique : (d.resources.map Prod.fst).Nodup := by
    rw [walk.kinds]
    decide
  obtain ⟨before, after, split⟩ := List.append_of_mem member
  rw [split, List.map_append, List.map_cons, List.nodup_append] at unique
  have known : d.resources.lookup type = some found := by
    refine List.lookup_eq_some_iff.mpr ⟨before, after, split, fun entry earlier => ?_⟩
    have different := unique.2.2 entry.1 (List.mem_map_of_mem earlier) type List.mem_cons_self
    simpa using different.symm
  rw [listed, known, Option.getD_some]

theorem exists_listed (walk : Walk d listing collecting) {r : Resource}
    (member : r ∈ listed d.resources type) : (type, listed d.resources type) ∈ d.resources := by
  unfold listed at member
  cases known : d.resources.lookup type with
  | none => simp [known] at member
  | some found =>
    obtain ⟨before, after, split, -⟩ := List.lookup_eq_some_iff.mp known
    have among : (type, found) ∈ d.resources := by simp [split]
    rwa [walk.listed_eq among]

theorem under (walk : Walk d listing collecting) (passes : Passes c s (listing ++ collecting) t)
    {r : Resource} (member : r ∈ listed d.resources type) :
    ∃ parent ∈ parents d.resources type, Catalog.Under type parent r := by
  obtain ⟨calls, lists, split⟩ := walk.lists type _ (walk.exists_listed member)
  have answered : ∀ m ∈ calls, m.Answered c := fun m asked => by
    have made : m ∈ own type listing := split ▸ List.mem_append_left _ asked
    exact passes.answered (List.mem_append_left _ (List.mem_filter.mp made).1)
  exact lists.under answered r member

/-- A resource that has a parent has one of the document, of the kind that it belongs under. -/
theorem exists_parent (walk : Walk d listing collecting)
    (passes : Passes c s (listing ++ collecting) t) {r : Resource} (member : r ∈ d.allResources)
    {p : ResourceId} (parent : r.parent = some p) :
    ∃ kind, parentType? r.id.type = some kind ∧
      ∃ owner ∈ d.allResources, owner.id.type = kind ∧ owner.id = p := by
  obtain ⟨⟨type, found⟩, among, here⟩ := List.mem_flatMap.mp member
  obtain ⟨above, possible, own, named⟩ := walk.under passes ((walk.listed_eq among).symm ▸ here)
  obtain rfl := named.symm.trans parent
  subst own
  unfold parents at possible
  split at possible
  next => simp at possible
  next kind known =>
    obtain ⟨owner, listed, same⟩ := List.mem_map.mp possible
    obtain ⟨_, -, kindly, -⟩ := walk.under passes listed
    refine ⟨kind, known, owner, ?_, kindly, Option.some.inj same⟩
    exact List.mem_flatMap.mpr ⟨_, walk.exists_listed listed, listed⟩

end Walk

/-! ### Numbers -/

/-- The value gives the counts of each component that dropped something. -/
def Tallied (tallies : ResourceType → DropTally) (drops : Value) : Prop :=
  ∃ counts : ResourceType → List ((DropKind × String) × Nat),
    (∀ type, (counts type).Perm (tallies type).counts) ∧
    drops = .record (ResourceType.all.filterMap fun type =>
      if (counts type).isEmpty then none
      else some (type.component, .record ((counts type).map fun ((kind, value), n) =>
        (kind.name ++ ":" ++ value, .int n))))

theorem tallied_drops (tallies : ResourceType → DropTally) : Tallied tallies (drops tallies) := by
  have sorted (type : ResourceType) : (tallies type).sorted.Perm (tallies type).counts :=
    List.mergeSort_perm _ _
  refine ⟨fun type => (tallies type).sorted, sorted, ?_⟩
  have empty (type : ResourceType) :
      (tallies type).sorted.isEmpty = (tallies type).counts.isEmpty := by
    rw [Bool.eq_iff_iff, List.isEmpty_iff, List.isEmpty_iff]
    exact ⟨fun none => (none ▸ sorted type).nil_eq.symm, fun none => (none ▸ sorted type).eq_nil⟩
  simp only [drops, empty]
  rfl

/-- A document holds what its sync listed and collected: the calls that were answered on the way
are, kind by kind, those of the walk.  Each resource that has a parent has one in the document, and
the summary counts what the document holds and what each component dropped. -/
theorem runIn_walks (returns : runIn c schedule workers s = (.ok d, t)) :
    (∃ listing collecting, Passes c s (listing ++ collecting) t ∧ Walk d listing collecting) ∧
      (∀ r ∈ d.allResources, ∀ p, r.parent = some p → ∃ kind, parentType? r.id.type = some kind ∧
        ∃ owner ∈ d.allResources, owner.id.type = kind ∧ p.text = kind.name ++ ":" ++ owner.id.id) ∧
      (∃ dropped, Tallied t.tallies dropped ∧ d.summary = [
        ("resources", .record (d.resources.map fun (type, found) =>
          (type.name, .int found.length))),
        ("entitlements", .int d.allEntitlements.length),
        ("grants", .int d.allGrants.length),
        ("soft_drops", dropped),
        ("elapsed_seconds", .float d.elapsed)]) ∧
      runIn c ⟨[], []⟩ workers = run c workers := by
  obtain ⟨listing, collecting, passes, walk⟩ := runIn_walk returns
  obtain ⟨u, v, -, -, counted, rfl⟩ := exists_of_runIn returns
  obtain ⟨journal, reported⟩ := report_journal d (now c v).2
  refine ⟨⟨listing, collecting, passes, walk⟩, fun r member p parent => ?_, ⟨d.drops, ?_, rfl⟩,
    runIn_nil c workers⟩
  · obtain ⟨kind, known, owner, among, kindly, rfl⟩ := walk.exists_parent passes member parent
    refine ⟨kind, known, owner, among, kindly, ?_⟩
    rw [ResourceId.text, kindly]
  · rw [counted, reported]
    exact tallied_drops (now c v).2.tallies

theorem runIn_walks_storageWorld :
    ∃ c d t listing collecting, Connector.ofConfig storageWorld 5 (.mapping []) true = .ok c ∧
      runIn c mixed 4 Session.new = (.ok d, t) ∧
      d.allResources.map (fun r => r.parent.isSome) = [false, true, true] ∧
      Passes c Session.new (listing ++ collecting) t ∧ Walk d listing collecting := by
  have evaluated : ((Connector.ofConfig storageWorld 5 (.mapping []) true).toOption.bind fun c =>
      (runIn c mixed 4 Session.new).1.toOption.map fun d =>
        d.allResources.map fun r => r.parent.isSome) = some [false, true, true] := by
    decide +kernel
  obtain ⟨c, configured, ran⟩ := Option.bind_eq_some_iff.mp evaluated
  obtain ⟨d, returned, parents⟩ := Option.map_eq_some_iff.mp ran
  cases ended : runIn c mixed 4 Session.new with
  | mk outcome t =>
    rw [ended] at returned
    obtain rfl := eq_ok_of_toOption returned
    obtain ⟨⟨listing, collecting, passes, walk⟩, -⟩ := runIn_walks ended
    exact ⟨c, d, t, listing, collecting, eq_ok_of_toOption configured, ended, parents, passes, walk⟩

end AccessSync.Sync
