import AccessSync.Proofs.Returns

/-!
# Runs with a known outcome

`Ends P run outcome` says that from states with the property `P` the run comes to the one outcome,
a value or an early stop, and leaves a state with `P` behind.  Where `Ensures` says what a run does
if it returns, this says that it does.
-/

namespace AccessSync

variable {σ α β : Type}

/-- From states with `P` the run comes to the outcome, and to a state with `P`. -/
def Ends (P : σ → Prop) (run : Run σ α) (outcome : Except Stop α) : Prop :=
  ∀ s, P s → (run s).1 = outcome ∧ P (run s).2

variable {P : σ → Prop}

namespace Ends

theorem returns {run : Run σ α} {outcome : Except Stop α} (ends : Ends P run outcome) {s : σ}
    (holds : P s) : ∃ t, run s = (outcome, t) ∧ P t :=
  ⟨(run s).2, Prod.ext (ends s holds).1 rfl, (ends s holds).2⟩

/-! ## Rules -/

theorem pure (a : α) : Ends P (Pure.pure a) (.ok a) := fun _ holds => ⟨rfl, holds⟩

theorem throw (stop : Stop) : Ends P (MonadExcept.throw stop : Run σ α) (.error stop) :=
  fun _ holds => ⟨rfl, holds⟩

theorem bind {first : Run σ α} {next : α → Run σ β} {a : α} {outcome : Except Stop β}
    (here : Ends P first (.ok a)) (there : Ends P (next a) outcome) :
    Ends P (first >>= next) outcome := by
  intro s holds
  obtain ⟨t, returns, after⟩ := here.returns holds
  rw [Run.bind_of_ok returns]
  exact there t after

theorem bind_stops {first : Run σ α} {stop : Stop} (here : Ends P first (.error stop))
    (next : α → Run σ β) : Ends P (first >>= next) (.error stop) := by
  intro s holds
  obtain ⟨t, stops, after⟩ := here.returns holds
  rw [Run.bind_of_error stops]
  exact ⟨rfl, after⟩

theorem onFailure {run : Run σ α} {a : α} (body : Ends P run (.ok a))
    (handler : Failure → Run σ α) : Ends P (run.onFailure handler) (.ok a) := by
  intro s holds
  obtain ⟨t, returns, after⟩ := body.returns holds
  rw [Run.onFailure_of_ok returns]
  exact ⟨rfl, after⟩

theorem onFault {run : Run σ α} {a : α} (body : Ends P run (.ok a))
    (handler : Fault → Run σ α) : Ends P (run.onFault handler) (.ok a) := by
  intro s holds
  obtain ⟨t, returns, after⟩ := body.returns holds
  rw [Run.onFault, Run.tryCatch_of_ok returns]
  exact ⟨rfl, after⟩

/-- A run may read the state, as long as nothing that it finds there decides the outcome. -/
theorem read {next : σ → Run σ β} {outcome : Except Stop β}
    (each : ∀ s, P s → Ends P (next s) outcome) : Ends P (MonadState.get >>= next) outcome :=
  fun s holds => each s holds s holds

theorem modify {f : σ → σ} (keeps : ∀ s, P s → P (f s)) :
    Ends P (MonadState.modifyGet fun s => ((), f s) : Run σ Unit) (.ok ()) :=
  fun s holds => ⟨rfl, keeps s holds⟩

theorem log [Journaled σ] (stable : ∀ record s, P s → P (Journaled.record record s))
    (severity : Severity) (component message : String) :
    Ends P (Run.log severity component message) (.ok ()) :=
  modify (stable _)

theorem reading {result : Except Misuse α} {a : α} (found : result = .ok a) :
    Ends P (Run.reading result) (.ok a) := by
  subst found
  exact pure a

theorem decoding {result : Except RecordFault α} {a : α} (found : result = .ok a) :
    Ends P (Run.decoding result) (.ok a) := by
  subst found
  exact pure a

/-! ## Rules for lists -/

theorem mapM {f : α → Run σ β} {g : α → β} {list : List α}
    (each : ∀ a ∈ list, Ends P (f a) (.ok (g a))) : Ends P (list.mapM f) (.ok (list.map g)) := by
  induction list with
  | nil => exact pure []
  | cons a list inductionHypothesis =>
    rw [List.mapM_cons]
    refine (each a List.mem_cons_self).bind ?_
    refine (inductionHypothesis fun other member =>
      each other (List.mem_cons_of_mem a member)).bind ?_
    exact pure _

theorem filterMap {f : α → Run σ (Option β)} {g : α → Option β} {list : List α}
    (each : ∀ a ∈ list, Ends P (f a) (.ok (g a))) :
    Ends P (Run.filterMap f list) (.ok (list.filterMap g)) := by
  induction list with
  | nil => exact pure []
  | cons a list inductionHypothesis =>
    rw [Run.filterMap, List.filterMap_cons]
    refine (each a List.mem_cons_self).bind ?_
    refine (inductionHypothesis fun other member =>
      each other (List.mem_cons_of_mem a member)).bind ?_
    cases g a with
    | none => exact pure _
    | some b => exact pure _

theorem foldlM {f : β → α → Run σ β} {g : β → α → β} {list : List α}
    (each : ∀ a ∈ list, ∀ b, Ends P (f b a) (.ok (g b a))) (start : β) :
    Ends P (list.foldlM f start) (.ok (list.foldl g start)) := by
  induction list generalizing start with
  | nil => exact pure start
  | cons a list inductionHypothesis =>
    rw [List.foldlM_cons]
    refine (each a List.mem_cons_self start).bind ?_
    exact inductionHypothesis (fun other member => each other (List.mem_cons_of_mem a member)) _

end Ends

/-! ## Runs that fail -/

/-- From states with `P` the run stops with a failure that has `Q`, and leaves a state with `P`. -/
def Fails (P : σ → Prop) (run : Run σ α) (Q : Failure → Prop) : Prop :=
  ∀ s, P s → ∃ failure t, run s = (.error (.fault (.failure failure)), t) ∧ Q failure ∧ P t

namespace Fails

variable {Q : Failure → Prop}

theorem weaken {run : Run σ α} {Q' : Failure → Prop} (fails : Fails P run Q)
    (implies : ∀ failure, Q failure → Q' failure) : Fails P run Q' := by
  intro s holds
  obtain ⟨failure, t, stops, found, after⟩ := fails s holds
  exact ⟨failure, t, stops, implies failure found, after⟩

theorem raise {failure : Failure} (holds : Q failure) :
    Fails P (Run.raise failure : Run σ α) Q :=
  fun s state => ⟨failure, s, rfl, holds, state⟩

theorem bind {first : Run σ α} (here : Fails P first Q) (next : α → Run σ β) :
    Fails P (first >>= next) Q := by
  intro s holds
  obtain ⟨failure, t, fails, found, after⟩ := here s holds
  exact ⟨failure, t, Run.bind_of_error fails, found, after⟩

/-- A run fails after what returns, whatever that returns. -/
theorem after {first : Run σ α} {next : α → Run σ β}
    (here : ∀ s, P s → ∃ a t, first s = (.ok a, t) ∧ P t ∧ Fails P (next a) Q) :
    Fails P (first >>= next) Q := by
  intro s holds
  obtain ⟨a, t, returns, state, there⟩ := here s holds
  rw [Run.bind_of_ok returns]
  exact there t state

theorem after_ends {first : Run σ α} {next : α → Run σ β} {a : α} (here : Ends P first (.ok a))
    (there : Fails P (next a) Q) : Fails P (first >>= next) Q :=
  after fun s holds => by
    obtain ⟨t, returns, state⟩ := here.returns holds
    exact ⟨a, t, returns, state, there⟩

theorem onFailure {run : Run σ α} {handler : Failure → Run σ α} {Q' : Failure → Prop}
    (body : Fails P run Q) (handles : ∀ failure, Q failure → Fails P (handler failure) Q') :
    Fails P (run.onFailure handler) Q' := by
  intro s holds
  obtain ⟨failure, t, fails, found, after⟩ := body s holds
  rw [Run.onFailure_of_failure fails]
  exact handles failure found t after

theorem onFault {run : Run σ α} {handler : Fault → Run σ α} {Q' : Failure → Prop}
    (body : Fails P run Q)
    (handles : ∀ failure, Q failure → Fails P (handler (.failure failure)) Q') :
    Fails P (run.onFault handler) Q' := by
  intro s holds
  obtain ⟨failure, t, fails, found, after⟩ := body s holds
  rw [Run.onFault, Run.tryCatch_of_error fails]
  exact handles failure found t after

/-- A handler that gets over every failure of a run ends the run. -/
theorem handled {run : Run σ α} {handler : Failure → Run σ α} {outcome : Except Stop α}
    (body : Fails P run Q) (handles : ∀ failure, Q failure → Ends P (handler failure) outcome) :
    Ends P (run.onFailure handler) outcome := by
  intro s holds
  obtain ⟨failure, t, fails, found, after⟩ := body s holds
  rw [Run.onFailure_of_failure fails]
  exact handles failure found t after

end Fails

/-! ## Runs with some outcome -/

/-- From all states with `P` the run comes to the same outcome. -/
def Decided (P : σ → Prop) (run : Run σ α) : Prop := ∃ outcome, Ends P run outcome

namespace Decided

theorem ends {run : Run σ α} (decided : Decided P run) {s : σ} (holds : P s) :
    Ends P run (run s).1 := by
  obtain ⟨outcome, ends⟩ := decided
  rw [(ends s holds).1]
  exact ends

theorem pure (a : α) : Decided P (Pure.pure a) := ⟨_, Ends.pure a⟩

theorem throw (stop : Stop) : Decided P (MonadExcept.throw stop : Run σ α) := ⟨_, Ends.throw stop⟩

theorem bind {first : Run σ α} {next : α → Run σ β} (here : Decided P first)
    (there : ∀ a, Decided P (next a)) : Decided P (first >>= next) := by
  obtain ⟨outcome, ends⟩ := here
  cases outcome with
  | ok a =>
    obtain ⟨_, others⟩ := there a
    exact ⟨_, ends.bind others⟩
  | error stop => exact ⟨_, ends.bind_stops next⟩

theorem reading (result : Except Misuse α) : Decided P (Run.reading result) := by
  cases result with
  | ok a => exact pure a
  | error misuse => exact throw _

theorem decoding (result : Except RecordFault α) : Decided P (Run.decoding result) := by
  cases result with
  | ok a => exact pure a
  | error fault => exact throw _

theorem filterMap {f : α → Run σ (Option β)} (each : ∀ a, Decided P (f a)) (list : List α) :
    Decided P (Run.filterMap f list) := by
  induction list with
  | nil => exact pure []
  | cons a list inductionHypothesis =>
    exact (each a).bind fun found => inductionHypothesis.bind fun others => pure _

theorem mapM {f : α → Run σ β} (each : ∀ a, Decided P (f a)) (list : List α) :
    Decided P (list.mapM f) := by
  induction list with
  | nil => exact pure []
  | cons a list inductionHypothesis =>
    rw [List.mapM_cons]
    exact (each a).bind fun b => inductionHypothesis.bind fun others => pure _

end Decided

end AccessSync
