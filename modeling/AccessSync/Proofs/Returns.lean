import AccessSync.Run

/-!
# Computations that return

How the outcome of a computation and the outcomes of its parts belong together.  Read forwards, the
lemmas execute a run whose parts are known; read backwards, they take a run that returned apart.
-/

namespace AccessSync

/-! ## Results -/

theorem exists_of_bind_eq_ok {ε α β : Type} {first : Except ε α} {next : α → Except ε β} {b : β}
    (returns : first >>= next = .ok b) : ∃ a, first = .ok a ∧ next a = .ok b := by
  cases first with
  | error e => cases returns
  | ok a => exact ⟨a, rfl, returns⟩

theorem error_of_bind_eq_error {ε α β : Type} {first : Except ε α} {next : α → Except ε β} {e : ε}
    (stops : first >>= next = .error e) :
    first = .error e ∨ ∃ a, first = .ok a ∧ next a = .error e := by
  cases first with
  | error other =>
    cases stops
    exact .inl rfl
  | ok a => exact .inr ⟨a, rfl, stops⟩

/-- A computation fails where its first part does or where its last part does, if the failures of
the last part do not depend on the result of the first. -/
theorem exists_bind_error_iff {ε α β : Type} {first : Except ε α} {next : α → Except ε β}
    {P : Prop} (last : ∀ a, (∃ e, next a = .error e) ↔ P) :
    (∃ e, first >>= next = .error e) ↔ (∃ e, first = .error e) ∨ P := by
  cases first with
  | error e => exact iff_of_true ⟨e, rfl⟩ (.inl ⟨e, rfl⟩)
  | ok a =>
    have returned : ¬ ∃ e, (.ok a : Except ε α) = .error e := by
      rintro ⟨e, ⟨⟩⟩
    rw [or_iff_right returned]
    exact last a

/-- What the last part of a computation ensures, the whole computation does. -/
theorem forall_of_bind {ε α β : Type} {first : Except ε α} {next : α → Except ε β} {Q : β → Prop}
    (last : ∀ a b, next a = .ok b → Q b) : ∀ b, first >>= next = .ok b → Q b := by
  intro b returns
  obtain ⟨a, -, returns⟩ := exists_of_bind_eq_ok returns
  exact last a b returns

theorem forall_of_mapM {ε α β : Type} {f : α → Except ε β} {Q : β → Prop}
    (each : ∀ a b, f a = .ok b → Q b) {list : List α} {results : List β}
    (returns : list.mapM f = .ok results) : ∀ b ∈ results, Q b := by
  induction list generalizing results with
  | nil =>
    cases returns
    simp
  | cons a list inductionHypothesis =>
    rw [List.mapM_cons] at returns
    obtain ⟨b, here, returns⟩ := exists_of_bind_eq_ok returns
    obtain ⟨others, there, returns⟩ := exists_of_bind_eq_ok returns
    cases returns
    exact List.forall_mem_cons.mpr ⟨each a b here, inductionHypothesis there⟩

/-- Where each step returns, so do all of them. -/
theorem exists_mapM_of_forall {ε α β : Type} {f : α → Except ε β} {list : List α}
    (each : ∀ a ∈ list, ∃ b, f a = .ok b) : ∃ results, list.mapM f = .ok results := by
  induction list with
  | nil => exact ⟨[], rfl⟩
  | cons a list inductionHypothesis =>
    obtain ⟨b, here⟩ := each a List.mem_cons_self
    obtain ⟨others, there⟩ :=
      inductionHypothesis fun other member => each other (List.mem_cons_of_mem a member)
    exact ⟨b :: others, by rw [List.mapM_cons, here, there]; rfl⟩

theorem eq_ok_of_toOption {ε α : Type} {result : Except ε α} {a : α}
    (some : result.toOption = .some a) : result = .ok a := by
  cases result with
  | error e => cases some
  | ok b =>
    cases some
    rfl

namespace Run

/-! ## Runs in sequence

These hold for every kind of early stop, so the steps of a sync are taken apart by them too. -/

section Sequence

variable {ε σ α β : Type} {s t : σ} {first : ExceptT ε (StateM σ) α}
  {next : α → ExceptT ε (StateM σ) β}

theorem bind_of_ok {a : α} (returns : first s = (.ok a, t)) : (first >>= next) s = next a t := by
  simp only [bind, ExceptT.bind, ExceptT.mk, StateT.bind, returns]
  rfl

theorem bind_of_error {stop : ε} (stops : first s = (.error stop, t)) :
    (first >>= next) s = (.error stop, t) := by
  simp only [bind, ExceptT.bind, ExceptT.mk, StateT.bind, stops]
  rfl

/-- What a run does next depends on its outcome and the state that it leaves only. -/
theorem bind_congr {other : ExceptT ε (StateM σ) α} (same : first s = other t) :
    (first >>= next) s = (other >>= next) t := by
  simp only [bind, ExceptT.bind, ExceptT.mk, StateT.bind, same]

theorem exists_of_bind {b : β} (returns : (first >>= next) s = (.ok b, t)) :
    ∃ a u, first s = (.ok a, u) ∧ next a u = (.ok b, t) := by
  match outcome : first s with
  | (.ok a, u) =>
    rw [bind_of_ok outcome] at returns
    exact ⟨a, u, rfl, returns⟩
  | (.error stop, u) =>
    rw [bind_of_error outcome] at returns
    cases returns

end Sequence

variable {σ α : Type} {s t : σ}

@[simp] theorem log_apply [Journaled σ] (severity : Severity) (component message : String) :
    (log severity component message : Run σ Unit) s =
      (.ok (), Journaled.record ⟨severity, component, message⟩ s) := rfl

/-! ## Runs with a handler -/

theorem tryCatch_of_ok {run : Run σ α} {handler : Stop → Run σ α} {a : α}
    (returns : run s = (.ok a, t)) : (tryCatch run handler) s = (.ok a, t) := by
  simp only [tryCatch, tryCatchThe, MonadExceptOf.tryCatch, ExceptT.tryCatch, ExceptT.mk, bind,
    StateT.bind, returns]
  rfl

theorem tryCatch_of_error {run : Run σ α} {handler : Stop → Run σ α} {stop : Stop}
    (stops : run s = (.error stop, t)) : (tryCatch run handler) s = handler stop t := by
  simp only [tryCatch, tryCatchThe, MonadExceptOf.tryCatch, ExceptT.tryCatch, ExceptT.mk, bind,
    StateT.bind, stops]

/-- Observing a run makes a value of its outcome. -/
theorem observing_apply {run : Run σ α} {outcome : Except Stop α}
    (ends : run s = (outcome, t)) : (observing run : Run σ (Except Stop α)) s = (.ok outcome, t) := by
  cases outcome with
  | ok a =>
    refine tryCatch_of_ok ?_
    rw [bind_of_ok ends]
    rfl
  | error stop =>
    refine (tryCatch_of_error ?_).trans rfl
    rw [bind_of_error ends]

theorem onFailure_of_ok {run : Run σ α} {handler : Failure → Run σ α} {a : α}
    (returns : run s = (.ok a, t)) : (run.onFailure handler) s = (.ok a, t) :=
  tryCatch_of_ok returns

theorem onFailure_of_failure {run : Run σ α} {handler : Failure → Run σ α} {failure : Failure}
    (fails : run s = (.error (.fault (.failure failure)), t)) :
    (run.onFailure handler) s = handler failure t :=
  tryCatch_of_error fails

theorem exists_of_onFailure {run : Run σ α} {handler : Failure → Run σ α} {a : α}
    (returns : (run.onFailure handler) s = (.ok a, t)) :
    run s = (.ok a, t) ∨
      ∃ failure u, run s = (.error (.fault (.failure failure)), u) ∧
        handler failure u = (.ok a, t) := by
  match outcome : run s with
  | (.ok b, u) =>
    rw [onFailure_of_ok outcome] at returns
    exact .inl returns
  | (.error stop, u) =>
    rw [onFailure, tryCatch_of_error outcome] at returns
    match stop with
    | .fault (.failure failure) => exact .inr ⟨failure, u, rfl, returns⟩
    | .fault (.defect _) => cases returns
    | .unfinished => cases returns

theorem of_inPhase {run : Run σ α} {tag : String} {a : α}
    (returns : inPhase tag run s = (.ok a, t)) : run s = (.ok a, t) := by
  obtain returned | ⟨_, _, -, raised⟩ := exists_of_onFailure returns
  · exact returned
  · cases raised

/-- Where no fault is turned into a value, a run that returns has met none. -/
theorem of_onFault {run : Run σ α} {handler : Fault → Run σ α} {a : α}
    (raises : ∀ fault u, (handler fault u).1 ≠ .ok a)
    (returns : (run.onFault handler) s = (.ok a, t)) : run s = (.ok a, t) := by
  match outcome : run s with
  | (.ok b, u) =>
    rw [onFault, tryCatch_of_ok outcome] at returns
    exact returns
  | (.error (.fault fault), u) =>
    rw [onFault, tryCatch_of_error outcome] at returns
    exact absurd (congrArg Prod.fst returns) (raises fault u)
  | (.error .unfinished, u) =>
    rw [onFault, tryCatch_of_error outcome] at returns
    cases returns

end Run

theorem Context.check_apply {σ : Type} (context : Context σ) (s : σ) :
    context.check s =
      (if (context.isCancelled s).1 then .error (.fault (.failure ⟨.cancelled, none⟩)) else .ok (),
        (context.isCancelled s).2) := by
  have asked : (context.isCancelled : Run σ Bool) s =
      (.ok (context.isCancelled s).1, (context.isCancelled s).2) := rfl
  rw [check, Run.bind_of_ok asked]
  split <;> rfl

end AccessSync
