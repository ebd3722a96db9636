import AccessSync.Proofs.Returns

/-!
# Invariants of runs

`Ensures P run Q` says of a run that it keeps the property `P` of states, however it ends, and that
the values that it returns have the property `Q`.  Each way to put runs together has its rule, so
that what holds of a component follows from what holds of its parts.
-/

namespace AccessSync

variable {σ α β : Type}

/-- From states with `P` the run ends in states with `P`, and what it returns has `Q`. -/
def Ensures (P : σ → Prop) (run : Run σ α) (Q : α → Prop) : Prop :=
  ∀ s, P s → P (run s).2 ∧ ∀ a, (run s).1 = .ok a → Q a

abbrev Keeps (P : σ → Prop) (run : Run σ α) : Prop := Ensures P run fun _ => True

variable {P : σ → Prop} {Q : α → Prop} {R : β → Prop}

namespace Ensures

theorem weaken {run : Run σ α} {Q' : α → Prop} (ensures : Ensures P run Q)
    (implies : ∀ a, Q a → Q' a) : Ensures P run Q' :=
  fun s holds => ⟨(ensures s holds).1, fun a returns => implies a ((ensures s holds).2 a returns)⟩

theorem returned {run : Run σ α} (ensures : Ensures P run Q) {s t : σ} {a : α} (holds : P s)
    (returns : run s = (.ok a, t)) : Q a :=
  (ensures s holds).2 a (congrArg Prod.fst returns)

theorem kept {run : Run σ α} (ensures : Ensures P run Q) {s t : σ} {outcome : Except Stop α}
    (holds : P s) (ends : run s = (outcome, t)) : P t := by
  have after := (ensures s holds).1
  rw [ends] at after
  exact after

/-! ## Rules -/

theorem pure {a : α} (holds : Q a) : Ensures P (Pure.pure a) Q :=
  fun _ state => ⟨state, fun _ same => Except.ok.inj same ▸ holds⟩

theorem throw (stop : Stop) : Ensures P (MonadExcept.throw stop : Run σ α) Q :=
  fun _ state => ⟨state, fun _ same => by cases same⟩

theorem bind {first : Run σ α} {next : α → Run σ β} (here : Ensures P first Q)
    (others : ∀ a, Q a → Ensures P (next a) R) : Ensures P (first >>= next) R := by
  intro s holds
  match outcome : first s with
  | (.ok a, t) =>
    rw [Run.bind_of_ok outcome]
    exact others a (here.returned holds outcome) t (here.kept holds outcome)
  | (.error stop, t) =>
    rw [Run.bind_of_error outcome]
    exact ⟨here.kept holds outcome, fun _ same => by cases same⟩

theorem tryCatch {run : Run σ α} {handler : Stop → Run σ α} (body : Ensures P run Q)
    (handles : ∀ stop, Ensures P (handler stop) Q) :
    Ensures P (MonadExcept.tryCatch run handler) Q := by
  intro s holds
  match outcome : run s with
  | (.ok a, t) =>
    rw [Run.tryCatch_of_ok outcome]
    refine ⟨body.kept holds outcome, fun b same => ?_⟩
    cases same
    exact body.returned holds outcome
  | (.error stop, t) =>
    rw [Run.tryCatch_of_error outcome]
    exact handles stop t (body.kept holds outcome)

theorem onFailure {run : Run σ α} {handler : Failure → Run σ α} (body : Ensures P run Q)
    (handles : ∀ failure, Ensures P (handler failure) Q) :
    Ensures P (run.onFailure handler) Q := by
  refine body.tryCatch fun stop => ?_
  split
  next failure => exact handles failure
  next => exact throw _

theorem inPhase {run : Run σ α} (tag : String) (body : Ensures P run Q) :
    Ensures P (Run.inPhase tag run) Q :=
  body.onFailure fun _ => throw _

theorem get : Ensures P (MonadState.get : Run σ σ) P :=
  fun _ holds => ⟨holds, fun _ same => Except.ok.inj same ▸ holds⟩

theorem modify {f : σ → σ} (keeps : ∀ s, P s → P (f s)) :
    Keeps P (MonadState.modifyGet fun s => ((), f s) : Run σ Unit) :=
  fun s holds => ⟨keeps s holds, fun _ _ => trivial⟩

theorem reading {result : Except Misuse α} (holds : ∀ a, result = .ok a → Q a) :
    Ensures P (Run.reading result) Q := by
  cases result with
  | ok a => exact pure (holds a rfl)
  | error misuse => exact throw _

theorem decoding {result : Except RecordFault α} (holds : ∀ a, result = .ok a → Q a) :
    Ensures P (Run.decoding result) Q := by
  cases result with
  | ok a => exact pure (holds a rfl)
  | error fault => exact throw _

theorem log [Journaled σ] (stable : ∀ record s, P s → P (Journaled.record record s))
    (severity : Severity) (component message : String) :
    Keeps P (Run.log severity component message) :=
  modify (stable _)

/-! ## Rules for lists -/

theorem filterMap {f : α → Run σ (Option β)} {list : List α}
    (each : ∀ a ∈ list, Ensures P (f a) fun found => ∀ b ∈ found, R b) :
    Ensures P (Run.filterMap f list) fun found => ∀ b ∈ found, R b := by
  induction list with
  | nil => exact pure (by simp)
  | cons a list inductionHypothesis =>
    refine (each a List.mem_cons_self).bind fun found here => ?_
    refine (inductionHypothesis fun other member =>
      each other (List.mem_cons_of_mem a member)).bind fun others there => pure ?_
    cases found with
    | none => exact there
    | some b => exact List.forall_mem_cons.mpr ⟨here b rfl, there⟩

theorem mapM {f : α → Run σ β} {list : List α} (each : ∀ a ∈ list, Ensures P (f a) R) :
    Ensures P (list.mapM f) fun results => ∀ b ∈ results, R b := by
  induction list with
  | nil => exact pure (by simp)
  | cons a list inductionHypothesis =>
    rw [List.mapM_cons]
    refine (each a List.mem_cons_self).bind fun b here => ?_
    refine (inductionHypothesis fun other member =>
      each other (List.mem_cons_of_mem a member)).bind fun others there => pure ?_
    exact List.forall_mem_cons.mpr ⟨here, there⟩

end Ensures

/-! ## What runs leave behind -/

/-- Whenever the run returns, it leaves a state with `P`. -/
def Leaves (P : σ → Prop) (run : Run σ α) : Prop := ∀ s a t, run s = (.ok a, t) → P t

namespace Leaves

theorem throw (stop : Stop) : Leaves P (MonadExcept.throw stop : Run σ α) :=
  fun _ _ _ returns => by cases returns

theorem modify {f : σ → σ} (leaves : ∀ s, P (f s)) :
    Leaves P (MonadState.modifyGet fun s => ((), f s) : Run σ Unit) :=
  fun s _ _ returns => by
    cases returns
    exact leaves s

/-- The property is there in the end, whatever comes first. -/
theorem after {first : Run σ α} {next : α → Run σ β} (last : ∀ a, Leaves P (next a)) :
    Leaves P (first >>= next) := by
  intro s b t returns
  obtain ⟨a, u, -, returns⟩ := Run.exists_of_bind returns
  exact last a u b t returns

theorem after_decoding {result : Except RecordFault α} {a : α} (read : result = .ok a)
    {next : α → Run σ β} (last : Leaves P (next a)) : Leaves P (Run.decoding result >>= next) := by
  subst read
  exact last

/-- The property is there early, and the rest keeps it. -/
theorem kept {first : Run σ α} {next : α → Run σ β} (early : Leaves P first)
    (keeps : ∀ a, Keeps P (next a)) : Leaves P (first >>= next) := by
  intro s b t returns
  obtain ⟨a, u, here, returns⟩ := Run.exists_of_bind returns
  exact (keeps a).kept (early s a u here) returns

end Leaves

theorem keeps_reading (result : Except Misuse α) : Keeps P (Run.reading result) :=
  Ensures.reading fun _ _ => trivial

/-- Every run keeps what all states have. -/
theorem keeps_true (run : Run σ α) : Keeps (fun _ => True) run :=
  fun _ _ => ⟨trivial, fun _ _ => trivial⟩

/-! ## Runs that stop for a reason -/

/-- From states with `P` the run ends in states with `P`, and it stops early for reasons with `E`
only. -/
def StopsFor (P : σ → Prop) (E : Stop → Prop) (run : Run σ α) : Prop :=
  ∀ s, P s → P (run s).2 ∧ ∀ stop, (run s).1 = .error stop → E stop

namespace StopsFor

variable {E : Stop → Prop}

theorem pure (a : α) : StopsFor P E (Pure.pure a : Run σ α) :=
  fun _ holds => ⟨holds, fun _ same => by cases same⟩

theorem throw {stop : Stop} (reason : E stop) :
    StopsFor P E (MonadExcept.throw stop : Run σ α) := by
  refine fun _ holds => ⟨holds, fun other same => ?_⟩
  cases same
  exact reason

theorem bind {first : Run σ α} {next : α → Run σ β} (here : StopsFor P E first)
    (others : ∀ a, StopsFor P E (next a)) : StopsFor P E (first >>= next) := by
  intro s holds
  obtain ⟨after, reasons⟩ := here s holds
  match outcome : first s with
  | (.ok a, t) =>
    rw [Run.bind_of_ok outcome]
    rw [outcome] at after
    exact others a t after
  | (.error stop, t) =>
    rw [Run.bind_of_error outcome]
    rw [outcome] at after reasons
    refine ⟨after, fun other same => ?_⟩
    cases same
    exact reasons stop rfl

theorem modify {f : σ → σ} (keeps : ∀ s, P s → P (f s)) :
    StopsFor P E (MonadState.modifyGet fun s => ((), f s) : Run σ Unit) :=
  fun s holds => ⟨keeps s holds, fun _ same => by cases same⟩

theorem read {next : σ → Run σ β} (each : ∀ s, StopsFor P E (next s)) :
    StopsFor P E (MonadState.get >>= next) :=
  fun s holds => each s s holds

theorem reading {result : Except Misuse α}
    (reason : ∀ misuse, E (.fault (.defect (.misuse misuse)))) :
    StopsFor P E (Run.reading result : Run σ α) := by
  cases result with
  | ok a => exact pure a
  | error misuse => exact throw (reason misuse)

end StopsFor

end AccessSync
