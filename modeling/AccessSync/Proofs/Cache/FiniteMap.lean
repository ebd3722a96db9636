import AccessSync.Proofs.Cache
import Mathlib.Data.Finmap

/-!
# Caches are finite maps

Whoever works with a cache sees a finite map: a procedure may read, store, forget and count in any
order, go on by what it has seen, and have values produced by further procedures that work with the
same cache and may fail.  `Procedure.OnMap` says what that comes to on a finite map, with one rule
for each thing that can be done and three for a value that is to be had: the key has one, its
producer delivers one, or its producer fails and leaves behind what it has done itself.
-/

namespace AccessSync.Cache

variable {κ ν ρ : Type}

/-- What is done with a cache and with something else beside it, one thing after the other. -/
inductive Procedure (κ ν ρ : Type) where
  | finish (outcome : Except Stop ν)
  | elsewhere (f : ρ → ν × ρ) (next : ν → Procedure κ ν ρ)
  | get (key : κ) (default : ν) (next : ν → Procedure κ ν ρ)
  | set (key : κ) (value : ν) (next : Procedure κ ν ρ)
  | contains (key : κ) (next : Bool → Procedure κ ν ρ)
  | size (next : Nat → Procedure κ ν ρ)
  | invalidate (key : κ) (next : Procedure κ ν ρ)
  /-- Has the value of a key, which is produced if need be.  The procedure may go on after its
  producer failed. -/
  | getOrSet (key : κ) (producer : Procedure κ ν ρ) (next : Except Stop ν → Procedure κ ν ρ)

/-- The cache in a state with something beside it. -/
def besides : Part (Cache κ ν × ρ) (Cache κ ν) where
  get s := s.1
  set c s := (c, s.2)

abbrev FiniteMap (κ ν : Type) := Finmap fun _ : κ => ν

namespace Procedure

variable [DecidableEq κ]

def run : Procedure κ ν ρ → Run (Cache κ ν × ρ) ν
  | finish outcome => ofExcept outcome
  | elsewhere f next => do
    let value ← modifyGet fun (c, rest) => ((f rest).1, (c, (f rest).2))
    (next value).run
  | get key default next => do
    let found ← lookup besides key
    (next (found.getD default)).run
  | set key value next => do
    store besides key value
    next.run
  | contains key next => do
    let s ← MonadState.get
    (next (s.1.contains key)).run
  | size next => do
    let s ← MonadState.get
    (next s.1.size).run
  | invalidate key next => do
    forget besides key
    next.run
  | getOrSet key producer next => do
    let outcome ← observing (Cache.getOrSet besides key producer.run)
    (next outcome).run

/-- What the procedure comes to on a finite map, with something beside it. -/
inductive OnMap : Procedure κ ν ρ → FiniteMap κ ν → ρ →
    Except Stop ν × FiniteMap κ ν × ρ → Prop where
  | finish {outcome : Except Stop ν} {m : FiniteMap κ ν} {r : ρ} :
      OnMap (.finish outcome) m r (outcome, m, r)
  | elsewhere {f : ρ → ν × ρ} {next : ν → Procedure κ ν ρ} {m : FiniteMap κ ν} {r : ρ}
      {ending : Except Stop ν × FiniteMap κ ν × ρ}
      (rest : OnMap (next (f r).1) m (f r).2 ending) : OnMap (.elsewhere f next) m r ending
  | get {key : κ} {default : ν} {next : ν → Procedure κ ν ρ} {m : FiniteMap κ ν} {r : ρ}
      {ending : Except Stop ν × FiniteMap κ ν × ρ}
      (rest : OnMap (next ((m.lookup key).getD default)) m r ending) :
      OnMap (.get key default next) m r ending
  | set {key : κ} {value : ν} {next : Procedure κ ν ρ} {m : FiniteMap κ ν} {r : ρ}
      {ending : Except Stop ν × FiniteMap κ ν × ρ}
      (rest : OnMap next (m.insert key value) r ending) : OnMap (.set key value next) m r ending
  | contains {key : κ} {next : Bool → Procedure κ ν ρ} {m : FiniteMap κ ν} {r : ρ}
      {ending : Except Stop ν × FiniteMap κ ν × ρ}
      (rest : OnMap (next (decide (key ∈ m))) m r ending) : OnMap (.contains key next) m r ending
  | size {next : Nat → Procedure κ ν ρ} {m : FiniteMap κ ν} {r : ρ}
      {ending : Except Stop ν × FiniteMap κ ν × ρ} (rest : OnMap (next m.keys.card) m r ending) :
      OnMap (.size next) m r ending
  | invalidate {key : κ} {next : Procedure κ ν ρ} {m : FiniteMap κ ν} {r : ρ}
      {ending : Except Stop ν × FiniteMap κ ν × ρ} (rest : OnMap next (m.erase key) r ending) :
      OnMap (.invalidate key next) m r ending
  /-- The key has a value, and nothing is produced. -/
  | known {key : κ} {producer : Procedure κ ν ρ} {next : Except Stop ν → Procedure κ ν ρ}
      {value : ν} {m : FiniteMap κ ν} {r : ρ} {ending : Except Stop ν × FiniteMap κ ν × ρ}
      (held : m.lookup key = some value) (rest : OnMap (next (.ok value)) m r ending) :
      OnMap (.getOrSet key producer next) m r ending
  /-- The key has none, and what its producer delivers is stored on top of what it has done. -/
  | produced {key : κ} {producer : Procedure κ ν ρ} {next : Except Stop ν → Procedure κ ν ρ}
      {value : ν} {m left : FiniteMap κ ν} {r between : ρ}
      {ending : Except Stop ν × FiniteMap κ ν × ρ}
      (absent : key ∉ m) (produces : OnMap producer m r (.ok value, left, between))
      (rest : OnMap (next (.ok value)) (left.insert key value) between ending) :
      OnMap (.getOrSet key producer next) m r ending
  /-- The key has none, and its producer fails: the map is as the producer left it. -/
  | failed {key : κ} {producer : Procedure κ ν ρ} {next : Except Stop ν → Procedure κ ν ρ}
      {stop : Stop} {m left : FiniteMap κ ν} {r between : ρ}
      {ending : Except Stop ν × FiniteMap κ ν × ρ}
      (absent : key ∉ m) (fails : OnMap producer m r (.error stop, left, between))
      (rest : OnMap (next (.error stop)) left between ending) :
      OnMap (.getOrSet key producer next) m r ending

end Procedure

/-! ## The map of a cache -/

section

variable [DecidableEq κ] {c : Cache κ ν} {key : κ}

def toMap (c : Cache κ ν) : FiniteMap κ ν :=
  (c.entries.map fun entry => (⟨entry.1, entry.2⟩ : Sigma fun _ : κ => ν)).toFinmap

/-- No key has two entries. -/
def Distinct (c : Cache κ ν) : Prop := (c.entries.map Prod.fst).Nodup

@[simp] theorem toMap_empty : (empty : Cache κ ν).toMap = ∅ := rfl

@[simp] theorem lookup_toMap (c : Cache κ ν) (key : κ) : c.toMap.lookup key = c.get? key := by
  rw [toMap, Finmap.dlookup_list_toFinmap, get?]
  induction c.entries with
  | nil => rfl
  | cons entry entries inductionHypothesis =>
    obtain ⟨first, value⟩ := entry
    by_cases same : key = first
    · subst same
      simp
    · rw [List.map_cons, List.dlookup_cons_ne _ _ same, inductionHypothesis, List.lookup_cons,
        beq_eq_false_iff_ne.mpr same]

@[simp] theorem mem_toMap_iff : key ∈ c.toMap ↔ c.contains key = true := by
  rw [← Finmap.lookup_isSome, lookup_toMap, contains]

@[simp] theorem toMap_erase (c : Cache κ ν) (key : κ) :
    (c.erase key).toMap = c.toMap.erase key := by
  apply Finmap.ext_lookup
  intro other
  rw [lookup_toMap, get?_erase]
  by_cases same : other = key
  · subst same
    rw [if_pos rfl, Finmap.lookup_erase]
  · rw [if_neg same, Finmap.lookup_erase_ne same, lookup_toMap]

@[simp] theorem toMap_insert (c : Cache κ ν) (key : κ) (value : ν) :
    (c.insert key value).toMap = c.toMap.insert key value := by
  apply Finmap.ext_lookup
  intro other
  rw [lookup_toMap]
  by_cases same : other = key
  · subst same
    rw [get?_insert, Finmap.lookup_insert]
  · rw [get?_insert_of_ne _ _ same, Finmap.lookup_insert_of_ne _ same, lookup_toMap]

omit [DecidableEq κ] in
theorem distinct_empty : (empty : Cache κ ν).Distinct := List.nodup_nil

theorem Distinct.erase (distinct : c.Distinct) (key : κ) : (c.erase key).Distinct :=
  distinct.sublist (List.filter_sublist.map Prod.fst)

theorem Distinct.insert (distinct : c.Distinct) (key : κ) (value : ν) :
    (c.insert key value).Distinct := by
  refine List.nodup_cons.mpr ⟨fun member => ?_, distinct.erase key⟩
  obtain ⟨entry, kept, same⟩ := List.mem_map.mp member
  simpa [same] using (List.mem_filter.mp kept).2

theorem keys_toMap (c : Cache κ ν) : c.toMap.keys = (c.entries.map Prod.fst).toFinset := by
  ext key
  simp [Finmap.mem_keys, toMap, Finmap.mem_list_toFinmap]

/-- Without a second entry of a key, the entries are as many as the keys. -/
theorem card_keys_toMap (distinct : c.Distinct) : c.toMap.keys.card = c.size := by
  rw [keys_toMap, List.toFinset_card_of_nodup distinct, List.length_map, size]

end

/-! ## Procedures on caches -/

namespace Procedure

variable [DecidableEq κ] {c left : Cache κ ν} {r between : ρ} {key : κ}
  {producer : Procedure κ ν ρ} {next : Except Stop ν → Procedure κ ν ρ} {value : ν} {stop : Stop}

/-! Without a value in the cache, it depends on the producer how the procedure goes on. -/

theorem run_of_known (held : c.get? key = some value) :
    (getOrSet key producer next).run (c, r) = (next (.ok value)).run (c, r) := by
  have handed : Cache.getOrSet besides key producer.run (c, r) = (.ok value, (c, r)) :=
    getOrSet_of_known held
  rw [run, Run.bind_of_ok (Run.observing_apply handed)]

theorem run_of_produced (absent : c.get? key = none)
    (produces : producer.run (c, r) = (.ok value, (left, between))) :
    (getOrSet key producer next).run (c, r) =
      (next (.ok value)).run (left.insert key value, between) := by
  have handed : Cache.getOrSet besides key producer.run (c, r) =
      (.ok value, (left.insert key value, between)) := getOrSet_of_produced absent produces
  rw [run, Run.bind_of_ok (Run.observing_apply handed)]

theorem run_of_failed (absent : c.get? key = none)
    (fails : producer.run (c, r) = (.error stop, (left, between))) :
    (getOrSet key producer next).run (c, r) = (next (.error stop)).run (left, between) := by
  have failed : Cache.getOrSet besides key producer.run (c, r) = (.error stop, (left, between)) :=
    getOrSet_of_stopped absent fails
  rw [run, Run.bind_of_ok (Run.observing_apply failed)]

/-- What is done to the cache is what is done on its map. -/
theorem onMap_run (procedure : Procedure κ ν ρ) {c c' : Cache κ ν} {r r' : ρ}
    {outcome : Except Stop ν} (distinct : c.Distinct)
    (ends : procedure.run (c, r) = (outcome, (c', r'))) :
    procedure.OnMap c.toMap r (outcome, c'.toMap, r') ∧ c'.Distinct := by
  -- On the procedure; a producer is one too, and leaves a cache to go on with.
  induction procedure generalizing c c' r r' outcome with
  | finish given =>
    cases given <;> cases ends <;> exact ⟨.finish, distinct⟩
  | elsewhere f next inductionHypothesis =>
    obtain ⟨rest, after⟩ := inductionHypothesis (f r).1 distinct ends
    exact ⟨.elsewhere rest, after⟩
  | get key default next inductionHypothesis =>
    obtain ⟨rest, after⟩ := inductionHypothesis ((c.get? key).getD default) distinct ends
    exact ⟨.get (lookup_toMap c key ▸ rest), after⟩
  | set key value next inductionHypothesis =>
    obtain ⟨rest, after⟩ := inductionHypothesis (distinct.insert key value) ends
    exact ⟨.set (toMap_insert c key value ▸ rest), after⟩
  | contains key next inductionHypothesis =>
    obtain ⟨rest, after⟩ := inductionHypothesis (c.contains key) distinct ends
    refine ⟨.contains ?_, after⟩
    simpa using rest
  | size next inductionHypothesis =>
    obtain ⟨rest, after⟩ := inductionHypothesis c.size distinct ends
    exact ⟨.size (card_keys_toMap distinct ▸ rest), after⟩
  | invalidate key next inductionHypothesis =>
    obtain ⟨rest, after⟩ := inductionHypothesis (distinct.erase key) ends
    exact ⟨.invalidate (toMap_erase c key ▸ rest), after⟩
  | getOrSet key producer next produces goesOn =>
    cases held : c.get? key with
    | some value =>
      rw [run_of_known held] at ends
      obtain ⟨rest, after⟩ := goesOn (.ok value) distinct ends
      exact ⟨.known ((lookup_toMap c key).trans held) rest, after⟩
    | none =>
      have absent : key ∉ c.toMap := by simp [Cache.contains, held]
      rcases made : producer.run (c, r) with ⟨delivered, left, between⟩
      cases delivered with
      | ok value =>
        obtain ⟨delivers, kept⟩ := produces distinct made
        rw [run_of_produced held made] at ends
        obtain ⟨rest, after⟩ := goesOn (.ok value) (kept.insert key value) ends
        exact ⟨.produced absent delivers (toMap_insert left key value ▸ rest), after⟩
      | error stop =>
        obtain ⟨fails, kept⟩ := produces distinct made
        rw [run_of_failed held made] at ends
        obtain ⟨rest, after⟩ := goesOn (.error stop) kept ends
        exact ⟨.failed absent fails rest, after⟩

/-- What is done on the map of a cache is what is done to the cache. -/
theorem exists_run_of_onMap {procedure : Procedure κ ν ρ} {m : FiniteMap κ ν} {r : ρ}
    {ending : Except Stop ν × FiniteMap κ ν × ρ} (onMap : procedure.OnMap m r ending)
    {c : Cache κ ν} (distinct : c.Distinct) (same : c.toMap = m) :
    ∃ c', procedure.run (c, r) = (ending.1, (c', ending.2.2)) ∧ c'.Distinct ∧
      c'.toMap = ending.2.1 := by
  -- The induction is on what happens on the map; producers are procedures too, and the cache goes
  -- through them.
  induction onMap generalizing c with
  | @finish outcome =>
    cases outcome <;> exact ⟨c, rfl, distinct, same⟩
  | elsewhere rest goesOn => exact goesOn distinct same
  | get rest goesOn =>
    subst same
    rw [lookup_toMap] at goesOn
    exact goesOn distinct rfl
  | set rest goesOn =>
    subst same
    exact goesOn (distinct.insert _ _) (toMap_insert _ _ _)
  | @contains key next m r ending rest goesOn =>
    subst same
    have found : decide (key ∈ c.toMap) = c.contains key := by simp
    rw [found] at goesOn
    exact goesOn distinct rfl
  | size rest goesOn =>
    subst same
    rw [card_keys_toMap distinct] at goesOn
    exact goesOn distinct rfl
  | invalidate rest goesOn =>
    subst same
    exact goesOn (distinct.erase _) (toMap_erase _ _)
  | known held rest goesOn =>
    subst same
    rw [lookup_toMap] at held
    rw [run_of_known held]
    exact goesOn distinct rfl
  | produced absent delivers rest produces goesOn =>
    subst same
    obtain ⟨left, made, kept, leaves⟩ := produces distinct rfl
    rw [run_of_produced (by simpa [Cache.contains] using absent) made]
    exact goesOn (kept.insert _ _) (by rw [toMap_insert, leaves])
  | failed absent fails rest produces goesOn =>
    subst same
    obtain ⟨left, made, kept, leaves⟩ := produces distinct rfl
    rw [run_of_failed (by simpa [Cache.contains] using absent) made]
    exact goesOn kept leaves

/-- A procedure does with a new cache what it does on a finite map that is empty. -/
theorem onMap_iff_run (procedure : Procedure κ ν ρ) (r r' : ρ) (outcome : Except Stop ν)
    (m : FiniteMap κ ν) :
    procedure.OnMap ∅ r (outcome, m, r') ↔
      ∃ c, procedure.run (Cache.empty, r) = (outcome, (c, r')) ∧ c.toMap = m := by
  constructor
  · intro onMap
    obtain ⟨c, ends, -, same⟩ := exists_run_of_onMap onMap distinct_empty toMap_empty
    exact ⟨c, ends, same⟩
  · rintro ⟨c, ends, rfl⟩
    exact (onMap_run procedure distinct_empty ends).1

/-- The producer of the first key stores a null under the second one and fails; the null is a value
all the same, so nothing is produced for the second key. -/
example :
    let fails : Procedure String Value Unit := .set "b" .null (.finish (.error .unfinished))
    let procedure := Procedure.getOrSet "a" fails fun _ => .getOrSet "b" fails fun held =>
      .contains "a" fun found => .finish (if found then .error .unfinished else held)
    procedure.run (Cache.empty, ()) = (.ok .null, (⟨[("b", .null)]⟩, ())) := rfl

end Procedure

end AccessSync.Cache
