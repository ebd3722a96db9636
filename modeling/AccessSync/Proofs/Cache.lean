import AccessSync.Proofs.Agreement
import AccessSync.Proofs.Ends
import AccessSync.Proofs.Ensures
import AccessSync.Session

/-!
# Cached objects

What the caches of a session hand out is what they keep from then on.
-/

namespace AccessSync

namespace Cache

variable {σ κ ν : Type} [DecidableEq κ] {part : Part σ (Cache κ ν)} {key : κ}
  {producer : Run σ ν} {value : ν} {s t : σ}

@[simp] theorem get?_insert (c : Cache κ ν) (key : κ) (value : ν) :
    (c.insert key value).get? key = some value := by
  simp [insert, get?]

theorem get?_erase (c : Cache κ ν) (key other : κ) :
    (c.erase key).get? other = if other = key then none else c.get? other := by
  simp only [erase, get?]
  induction c.entries with
  | nil => simp
  | cons entry entries inductionHypothesis =>
    obtain ⟨first, value⟩ := entry
    by_cases erased : first = key
    · subst erased
      rw [List.filter_cons_of_neg (by simp), inductionHypothesis]
      by_cases same : other = first
      · rw [if_pos same, if_pos same]
      · rw [if_neg same, if_neg same, List.lookup_cons, beq_eq_false_iff_ne.mpr same]
    · rw [List.filter_cons_of_pos (by simpa using erased), List.lookup_cons, List.lookup_cons,
        inductionHypothesis]
      by_cases same : other = first
      · subst same
        simp [erased]
      · rw [beq_eq_false_iff_ne.mpr same]

theorem get?_insert_of_ne (c : Cache κ ν) {key other : κ} (value : ν) (different : other ≠ key) :
    (c.insert key value).get? other = c.get? other := by
  have skipped : (other == key) = false := beq_eq_false_iff_ne.mpr different
  have rest := get?_erase c key other
  rw [if_neg different] at rest
  simpa [insert, get?, List.lookup_cons, skipped] using rest

theorem contains_insert (c : Cache κ ν) (key other : κ) (value : ν) :
    (c.insert key value).contains other = if key = other then true else c.contains other := by
  by_cases same : key = other
  · subst same
    simp [contains]
  · simp [contains, get?_insert_of_ne c value (Ne.symm same), same]

theorem contains_erase (c : Cache κ ν) (key other : κ) :
    (c.erase key).contains other = if key = other then false else c.contains other := by
  by_cases same : key = other
  · simp [contains, get?_erase, same]
  · simp [contains, get?_erase, same, Ne.symm same]

/-- What holds of a new entry and of all others holds of the entries with the new one. -/
theorem forall_insert {c : Cache κ ν} {key : κ} {value : ν} {Q : κ → ν → Prop}
    (others : ∀ other kept, c.get? other = some kept → Q other kept) (new : Q key value) :
    ∀ other kept, (c.insert key value).get? other = some kept → Q other kept := by
  intro other kept stored
  by_cases same : other = key
  · subst same
    rw [get?_insert] at stored
    exact Option.some.inj stored ▸ new
  · rw [get?_insert_of_ne _ _ same] at stored
    exact others other kept stored

theorem forall_erase {c : Cache κ ν} {key : κ} {Q : κ → ν → Prop}
    (all : ∀ other kept, c.get? other = some kept → Q other kept) :
    ∀ other kept, (c.erase key).get? other = some kept → Q other kept := by
  intro other kept stored
  rw [get?_erase] at stored
  split at stored
  next => cases stored
  next => exact all other kept stored

theorem getOrSet_of_known (known : (part.get s).get? key = some value) :
    getOrSet part key producer s = (.ok value, s) := by
  have looked : (get : Run σ σ) s = (.ok s, s) := rfl
  rw [getOrSet, Run.bind_of_ok looked, known]
  rfl

theorem getOrSet_of_produced (unknown : (part.get s).get? key = none)
    (produced : producer s = (.ok value, t)) : getOrSet part key producer s =
      (.ok value, part.set ((part.get t).insert key value) t) := by
  have looked : (get : Run σ σ) s = (.ok s, s) := rfl
  rw [getOrSet, Run.bind_of_ok looked]
  simp only [unknown]
  rw [Run.bind_of_ok produced]
  rfl

theorem getOrSet_of_stopped {stop : Stop} (unknown : (part.get s).get? key = none)
    (stopped : producer s = (.error stop, t)) :
    getOrSet part key producer s = (.error stop, t) := by
  have looked : (get : Run σ σ) s = (.ok s, s) := rfl
  rw [getOrSet, Run.bind_of_ok looked]
  simp only [unknown]
  rw [Run.bind_of_error stopped]

/-- A value that is handed out was known, or was produced and stored. -/
theorem getOrSet_returns (returns : getOrSet part key producer s = (.ok value, t)) :
    ((part.get s).get? key = some value ∧ t = s) ∨
      ∃ u, producer s = (.ok value, u) ∧ t = part.set ((part.get u).insert key value) u := by
  have looked : (get : Run σ σ) s = (.ok s, s) := rfl
  rw [getOrSet, Run.bind_of_ok looked] at returns
  cases known : (part.get s).get? key with
  | some stored =>
    simp only [known] at returns
    cases returns
    exact .inl ⟨rfl, rfl⟩
  | none =>
    simp only [known] at returns
    obtain ⟨_, u, produced, returns⟩ := Run.exists_of_bind returns
    obtain ⟨_, _, stored, returns⟩ := Run.exists_of_bind returns
    cases stored
    cases returns
    exact .inr ⟨u, produced, rfl⟩

end Cache

namespace Act

variable {ν : Type} {part : Part Session (Cache String ν)} {cache family key : String}
  {producer : Act ν} {value : ν} {s t : Session}

theorem cached_of_known (known : (part.get s).get? key = some value) :
    cached cache family part key producer s = (.ok value, s) := by
  have looked : (get : Act Session) s = (.ok s, s) := rfl
  rw [cached, Run.bind_of_ok looked, known]
  simp only [Option.isSome_some]
  rw [Run.bind_of_ok (Cache.getOrSet_of_known known)]
  rfl

/-- What is handed out is kept, in a part that reads what was set and that reports leave alone. -/
theorem get?_of_cached (lawful : ∀ c s, part.get (part.set c s) = c)
    (silent : ∀ record s, part.get (Journaled.record record s) = part.get s)
    (returns : cached cache family part key producer s = (.ok value, t)) :
    (part.get t).get? key = some value := by
  have looked : (get : Act Session) s = (.ok s, s) := rfl
  rw [cached, Run.bind_of_ok looked] at returns
  obtain ⟨held, u, handed, returns⟩ := Run.exists_of_bind returns
  have kept : (part.get u).get? key = some held := by
    obtain ⟨known, rfl⟩ | ⟨v, -, rfl⟩ := Cache.getOrSet_returns handed
    · exact known
    · rw [lawful, Cache.get?_insert]
  simp only at returns
  split at returns
  next =>
    obtain ⟨_, _, reported, returns⟩ := Run.exists_of_bind returns
    cases reported
    cases returns
    rw [silent]
    exact kept
  next =>
    cases returns
    exact kept

/-- An object that is not kept is produced, kept and reported. -/
theorem cached_of_produced (cache family : String)
    (unknown : (part.get s).get? key = none) (produced : producer s = (.ok value, t)) :
    ∃ record, cached cache family part key producer s =
      (.ok value, Journaled.record record (part.set ((part.get t).insert key value) t)) := by
  have looked : (get : Act Session) s = (.ok s, s) := rfl
  rw [cached, Run.bind_of_ok looked]
  simp only [unknown]
  rw [Run.bind_of_ok (Cache.getOrSet_of_produced unknown produced)]
  exact ⟨_, rfl⟩

/-- Nothing is kept of an object that cannot be produced. -/
theorem cached_of_stopped {stop : Stop} (unknown : (part.get s).get? key = none)
    (stopped : producer s = (.error stop, t)) :
    cached cache family part key producer s = (.error stop, t) := by
  have looked : (get : Act Session) s = (.ok s, s) := rfl
  rw [cached, Run.bind_of_ok looked,
    Run.bind_of_error (Cache.getOrSet_of_stopped unknown stopped)]

/-- Where what is kept is what would be produced, a cache comes to what the producer comes to. -/
theorem ends_cached {P : Session → Prop} {outcome : Except Stop ν}
    (produced : ∀ s, P s → (part.get s).get? key = none → ∃ u, producer s = (outcome, u) ∧
      match outcome with
      | .ok value => P (part.set ((part.get u).insert key value) u)
      | .error _ => P u)
    (known : ∀ s kept, P s → (part.get s).get? key = some kept → outcome = .ok kept)
    (recorded : ∀ record s, P s → P (Journaled.record record s)) :
    Ends P (cached cache family part key producer) outcome := by
  intro s holds
  cases stored : (part.get s).get? key with
  | some kept =>
    rw [cached_of_known stored, known s kept holds stored]
    exact ⟨rfl, holds⟩
  | none =>
    obtain ⟨u, makes, after⟩ := produced s holds stored
    cases outcome with
    | ok value =>
      obtain ⟨record, handed⟩ := cached_of_produced cache family stored makes
      rw [handed]
      exact ⟨rfl, recorded _ _ after⟩
    | error stop =>
      rw [cached_of_stopped stored makes]
      exact ⟨rfl, after⟩

/-- A property is kept by a cache if it is by producing the object and by keeping it. -/
theorem keeps_cached {P : Session → Prop} (produces : Keeps P producer)
    (stores : ∀ s u value, P s → producer s = (.ok value, u) → P u →
      P (part.set ((part.get u).insert key value) u))
    (recorded : ∀ record s, P s → P (Journaled.record record s)) :
    Keeps P (cached cache family part key producer) := by
  -- Storing may use that the value was produced from the session, so the rules do not suffice.
  intro s holds
  refine ⟨?_, fun _ _ => trivial⟩
  cases stored : (part.get s).get? key with
  | some kept =>
    rw [cached_of_known stored]
    exact holds
  | none =>
    match made : producer s with
    | (.ok value, u) =>
      obtain ⟨record, handed⟩ := cached_of_produced cache family stored made
      rw [handed]
      exact recorded _ _ (stores s u value holds made (produces.kept holds made))
    | (.error stop, u) =>
      rw [cached_of_stopped stored made]
      exact produces.kept holds made

/-- A cache that is the same in related sessions agrees if producing the object does. -/
theorem agrees_cached {R : Session → Session → Prop}
    (same : ∀ s t, R s t → part.get s = part.get t)
    (set : ∀ entries s t, R s t → R (part.set entries s) (part.set entries t))
    (recorded : ∀ record s t, R s t → R (Journaled.record record s) (Journaled.record record t))
    (produces : Agrees R producer) : Agrees R (cached cache family part key producer) := by
  -- Both sessions hit or both miss; after a miss the parts are the same again.
  have handed : Agrees R (Cache.getOrSet part key producer) := by
    refine Agree.read fun s t related => ?_
    rw [same s t related]
    split
    next => exact Agree.pure _
    next =>
      refine produces.bind fun value => ?_
      refine (Agree.modify fun u v after => ?_).bind fun _ => Agree.pure _
      rw [same u v after]
      exact set _ u v after
  refine Agree.read fun s t related => ?_
  rw [same s t related]
  refine handed.bind fun value => ?_
  split
  next => exact (Agree.log recorded _ _ _).bind fun _ => Agree.pure _
  next => exact Agree.pure _

/-- An object that is not kept fails to be had as it fails to be produced. -/
theorem fails_cached {P : Session → Prop} {Q : Failure → Prop}
    (unknown : ∀ s, P s → (part.get s).get? key = none) (produced : Fails P producer Q) :
    Fails P (cached cache family part key producer) Q := by
  refine Fails.after fun s holds => ⟨s, s, rfl, holds, ?_⟩
  refine Fails.bind (Fails.after fun t after => ⟨t, t, rfl, after, ?_⟩) _
  simp only [unknown t after]
  exact produced.bind _

end Act

end AccessSync
