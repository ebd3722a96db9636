import AccessSync.Proofs.Ensures

/-!
# Runs that agree

Two runs agree under a relation of states when, from related states, they come to the same outcome
and leave related states behind.  The relation says which parts of a state may differ without any
run noticing.  Each way to put runs together has its rule, as it has for the invariants of one run.
-/

namespace AccessSync

variable {σ α β : Type}

/-- From related states, both runs come to the same outcome and to related states. -/
def Agree (R : σ → σ → Prop) (f g : Run σ α) : Prop :=
  ∀ s t, R s t → (f s).1 = (g t).1 ∧ R (f s).2 (g t).2

variable {R : σ → σ → Prop}

namespace Agree

/-! ## Rules -/

theorem pure (a : α) : Agree R (Pure.pure a) (Pure.pure a) :=
  fun _ _ related => ⟨rfl, related⟩

theorem throw (stop : Stop) :
    Agree R (MonadExcept.throw stop : Run σ α) (MonadExcept.throw stop) :=
  fun _ _ related => ⟨rfl, related⟩

theorem bind {f g : Run σ α} {next other : α → Run σ β} (here : Agree R f g)
    (there : ∀ a, Agree R (next a) (other a)) : Agree R (f >>= next) (g >>= other) := by
  intro s t related
  obtain ⟨same, after⟩ := here s t related
  match first : f s, second : g t with
  | (.ok a, u), (.ok b, v) =>
    simp only [first, second, Except.ok.injEq] at same after
    subst same
    rw [Run.bind_of_ok first, Run.bind_of_ok second]
    exact there a u v after
  | (.error stop, u), (.error other, v) =>
    simp only [first, second, Except.error.injEq] at same after
    subst same
    rw [Run.bind_of_error first, Run.bind_of_error second]
    exact ⟨rfl, after⟩
  | (.ok a, u), (.error stop, v) => simp [first, second] at same
  | (.error stop, u), (.ok b, v) => simp [first, second] at same

theorem tryCatch {f g : Run σ α} {handler other : Stop → Run σ α} (body : Agree R f g)
    (handles : ∀ stop, Agree R (handler stop) (other stop)) :
    Agree R (MonadExcept.tryCatch f handler) (MonadExcept.tryCatch g other) := by
  intro s t related
  obtain ⟨same, after⟩ := body s t related
  match first : f s, second : g t with
  | (.ok a, u), (.ok b, v) =>
    simp only [first, second, Except.ok.injEq] at same after
    subst same
    rw [Run.tryCatch_of_ok first, Run.tryCatch_of_ok second]
    exact ⟨rfl, after⟩
  | (.error stop, u), (.error again, v) =>
    simp only [first, second, Except.error.injEq] at same after
    subst same
    rw [Run.tryCatch_of_error first, Run.tryCatch_of_error second]
    exact handles stop u v after
  | (.ok a, u), (.error stop, v) => simp [first, second] at same
  | (.error stop, u), (.ok b, v) => simp [first, second] at same

theorem onFailure {f g : Run σ α} {handler other : Failure → Run σ α} (body : Agree R f g)
    (handles : ∀ failure, Agree R (handler failure) (other failure)) :
    Agree R (f.onFailure handler) (g.onFailure other) := by
  refine body.tryCatch fun stop => ?_
  match stop with
  | .fault (.failure failure) => exact handles failure
  | .fault (.defect _) => exact throw _
  | .unfinished => exact throw _

theorem onFault {f g : Run σ α} {handler other : Fault → Run σ α} (body : Agree R f g)
    (handles : ∀ fault, Agree R (handler fault) (other fault)) :
    Agree R (f.onFault handler) (g.onFault other) := by
  refine body.tryCatch fun stop => ?_
  match stop with
  | .fault fault => exact handles fault
  | .unfinished => exact throw _

theorem inPhase {f g : Run σ α} (tag : String) (body : Agree R f g) :
    Agree R (Run.inPhase tag f) (Run.inPhase tag g) :=
  body.onFailure fun _ => throw _

theorem reading (result : Except Misuse α) : Agree R (Run.reading result) (Run.reading result) := by
  cases result with
  | ok a => exact pure a
  | error misuse => exact throw _

theorem decoding (result : Except RecordFault α) :
    Agree R (Run.decoding result) (Run.decoding result) := by
  cases result with
  | ok a => exact pure a
  | error fault => exact throw _

theorem read {next other : σ → Run σ α} (each : ∀ s t, R s t → Agree R (next s) (other t)) :
    Agree R (MonadState.get >>= next) (MonadState.get >>= other) :=
  fun s t related => each s t related s t related

theorem modify {f g : σ → σ} (keeps : ∀ s t, R s t → R (f s) (g t)) :
    Agree R (MonadState.modifyGet fun s => ((), f s) : Run σ Unit)
      (MonadState.modifyGet fun s => ((), g s)) :=
  fun s t related => ⟨rfl, keeps s t related⟩

theorem log [Journaled σ]
    (stable : ∀ record s t, R s t → R (Journaled.record record s) (Journaled.record record t))
    (severity : Severity) (component message : String) :
    Agree R (Run.log severity component message) (Run.log severity component message) :=
  modify (stable _)

/-! ## Rules for lists -/

theorem filterMap {f g : α → Run σ (Option β)} {list : List α}
    (each : ∀ a ∈ list, Agree R (f a) (g a)) :
    Agree R (Run.filterMap f list) (Run.filterMap g list) := by
  induction list with
  | nil => exact pure []
  | cons a list inductionHypothesis =>
    refine (each a List.mem_cons_self).bind fun found => ?_
    refine (inductionHypothesis fun other member =>
      each other (List.mem_cons_of_mem a member)).bind fun others => ?_
    exact pure _

theorem mapM {f g : α → Run σ β} {list : List α} (each : ∀ a ∈ list, Agree R (f a) (g a)) :
    Agree R (list.mapM f) (list.mapM g) := by
  induction list with
  | nil => exact pure []
  | cons a list inductionHypothesis =>
    rw [List.mapM_cons, List.mapM_cons]
    refine (each a List.mem_cons_self).bind fun found => ?_
    refine (inductionHypothesis fun other member =>
      each other (List.mem_cons_of_mem a member)).bind fun others => ?_
    exact pure _

theorem foldlM {f g : β → α → Run σ β} (each : ∀ b a, Agree R (f b a) (g b a)) (list : List α)
    (start : β) : Agree R (list.foldlM f start) (list.foldlM g start) := by
  induction list generalizing start with
  | nil => exact pure start
  | cons a list inductionHypothesis =>
    rw [List.foldlM_cons, List.foldlM_cons]
    exact (each start a).bind fun next => inductionHypothesis next

end Agree

/-- Related states give the run the same outcome. -/
abbrev Agrees (R : σ → σ → Prop) (run : Run σ α) : Prop := Agree R run run

/-! ## Agreement as an invariant -/

/-- A state with `P` is related to itself. -/
def Along (P : σ → Prop) (s t : σ) : Prop := s = t ∧ P s

/-- A run keeps `P` just if it agrees with itself along `P`. -/
theorem keeps_iff_agrees {P : σ → Prop} {run : Run σ α} : Keeps P run ↔ Agrees (Along P) run := by
  constructor
  · rintro keeps s _ ⟨rfl, holds⟩
    exact ⟨rfl, rfl, (keeps s holds).1⟩
  · intro agrees s holds
    exact ⟨(agrees s s ⟨rfl, holds⟩).2.2, fun _ _ => trivial⟩

end AccessSync
