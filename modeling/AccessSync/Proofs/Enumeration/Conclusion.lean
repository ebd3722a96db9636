import AccessSync.Enumeration
import AccessSync.Proofs.Ensures

/-!
# Drains without a limit

The limit of a drain only ends what does not end by itself.  What a drain comes to is said here
without one, page by page, so that drains which take different numbers of pages can be compared.
-/

namespace AccessSync.Enumeration

variable {σ ι : Type}

/-- From the text and the state on, however many pages it takes, the operation comes to the outcome
and leaves the last state. -/
inductive Concludes (operation : String → Run σ (List ι × String)) :
    String → σ → Except Stop (List ι) → σ → Prop where
  | stops {text : String} {s t : σ} {stop : Stop} (page : operation text s = (.error stop, t)) :
      Concludes operation text s (.error stop) t
  | last {text : String} {s t : σ} {items : List ι}
      (page : operation text s = (.ok (items, ""), t)) :
      Concludes operation text s (.ok items) t
  | next {text following : String} {s t u : σ} {items : List ι} {outcome : Except Stop (List ι)}
      (page : operation text s = (.ok (items, following), t)) (nonempty : following ≠ "")
      (rest : Concludes operation following t outcome u) :
      Concludes operation text s (outcome.map (items ++ ·)) u

/-- From a text and a state on, the pages of the operation lead to another text and state. -/
inductive Passes (operation : String → Run σ (List ι × String)) :
    String → σ → String → σ → Prop where
  | here {text : String} {s : σ} : Passes operation text s text s
  | next {text following reached : String} {s t u : σ} {items : List ι}
      (page : operation text s = (.ok (items, following), t)) (nonempty : following ≠ "")
      (rest : Passes operation following t reached u) : Passes operation text s reached u

variable {operation other : String → Run σ (List ι × String)} {text : String} {s t : σ}
  {outcome : Except Stop (List ι)}

/-- What each page keeps is there wherever the pages lead. -/
theorem Passes.kept {P : σ → Prop} (keeps : ∀ text, Keeps P (operation text)) {reached : String}
    {u : σ} (passes : Passes operation text s reached u) (holds : P s) : P u := by
  induction passes with
  | here => exact holds
  | next page _ _ inductionHypothesis =>
    exact inductionHypothesis ((keeps _).kept holds page)

/-! ## Limits -/

section Page

variable {following : String} {items : List ι} {u : σ}

theorem drainFrom_of_stops {stop : Stop} (page : operation text s = (.error stop, t))
    (limit : Nat) : drainFrom operation (limit + 1) text s = (.error stop, t) := by
  rw [drainFrom, Run.bind_of_error page]

theorem drainFrom_of_last (page : operation text s = (.ok (items, ""), t)) (limit : Nat) :
    drainFrom operation (limit + 1) text s = (.ok items, t) := by
  rw [drainFrom, Run.bind_of_ok page]
  rfl

theorem drainFrom_of_next (page : operation text s = (.ok (items, following), t))
    (nonempty : following ≠ "") {limit : Nat}
    (rest : drainFrom operation limit following t = (outcome, u)) :
    drainFrom operation (limit + 1) text s = (outcome.map (items ++ ·), u) := by
  rw [drainFrom, Run.bind_of_ok page]
  simp only [String.isEmpty_iff, nonempty, if_false]
  cases outcome with
  | ok others =>
    rw [Run.bind_of_ok rest]
    rfl
  | error stop =>
    rw [Run.bind_of_error rest]
    rfl

end Page

/-- A drain that its limit did not end comes to what it comes to without one. -/
theorem concludes_of_drainFrom {limit : Nat}
    (drained : drainFrom operation limit text s = (outcome, t))
    (finished : outcome ≠ .error .unfinished) : Concludes operation text s outcome t := by
  induction limit generalizing text s outcome with
  | zero =>
    cases drained
    exact absurd rfl finished
  | succ limit inductionHypothesis =>
    match page : operation text s with
    | (.error stop, u) =>
      cases (drainFrom_of_stops page limit).symm.trans drained
      exact .stops page
    | (.ok (items, following), u) =>
      by_cases last : following = ""
      · subst last
        cases (drainFrom_of_last page limit).symm.trans drained
        exact .last page
      · match rest : drainFrom operation limit following u with
        | (others, v) =>
          cases (drainFrom_of_next page last rest).symm.trans drained
          refine .next page last (inductionHypothesis rest fun unfinished => finished ?_)
          rw [unfinished]
          rfl

/-- Given enough pages, a drain comes to what it comes to without a limit. -/
theorem Concludes.drainFrom (concludes : Concludes operation text s outcome t) :
    ∃ enough, ∀ limit, enough ≤ limit →
      Enumeration.drainFrom operation limit text s = (outcome, t) := by
  induction concludes with
  | stops page =>
    refine ⟨1, fun limit enough => ?_⟩
    obtain ⟨limit, rfl⟩ : ∃ n, limit = n + 1 := ⟨limit - 1, by omega⟩
    exact drainFrom_of_stops page limit
  | last page =>
    refine ⟨1, fun limit enough => ?_⟩
    obtain ⟨limit, rfl⟩ : ∃ n, limit = n + 1 := ⟨limit - 1, by omega⟩
    exact drainFrom_of_last page limit
  | next page nonempty _ inductionHypothesis =>
    obtain ⟨enough, drained⟩ := inductionHypothesis
    refine ⟨enough + 1, fun limit within => ?_⟩
    obtain ⟨limit, rfl⟩ : ∃ n, limit = n + 1 := ⟨limit - 1, by omega⟩
    exact drainFrom_of_next page nonempty (drained limit (by omega))

/-! ## One conclusion -/

theorem Concludes.unique {outcome' : Except Stop (List ι)} {t' : σ}
    (concludes : Concludes operation text s outcome t)
    (again : Concludes operation text s outcome' t') : outcome = outcome' ∧ t = t' := by
  -- Both conclusions go through the same pages, so they end at the same one.
  induction concludes generalizing outcome' with
  | stops page =>
    cases again with
    | stops same =>
      cases page.symm.trans same
      exact ⟨rfl, rfl⟩
    | last same => cases page.symm.trans same
    | next same => cases page.symm.trans same
  | last page =>
    cases again with
    | stops same => cases page.symm.trans same
    | last same =>
      cases page.symm.trans same
      exact ⟨rfl, rfl⟩
    | next same nonempty =>
      cases page.symm.trans same
      exact absurd rfl nonempty
  | next page nonempty _ inductionHypothesis =>
    cases again with
    | stops same => cases page.symm.trans same
    | last same =>
      cases page.symm.trans same
      exact absurd rfl nonempty
    | next same _ rest =>
      cases page.symm.trans same
      obtain ⟨rfl, rfl⟩ := inductionHypothesis rest
      exact ⟨rfl, rfl⟩

theorem Concludes.of_text {text' : String} (concludes : Concludes operation text s outcome t)
    (same : operation text = operation text') : Concludes operation text' s outcome t := by
  cases concludes with
  | stops page => exact .stops (same ▸ page)
  | last page => exact .last (same ▸ page)
  | next page nonempty rest => exact .next (same ▸ page) nonempty rest

/-! ## Operations that are the same for a while -/

/-- Two operations that take the same pages until they are handed over come to the same, if they do
from there on. -/
theorem Concludes.of_same {P Q : String → Prop}
    (same : ∀ text, P text → operation text = other text)
    (goes : ∀ text s items following t, P text →
      operation text s = (.ok (items, following), t) → following ≠ "" →
      P following ∨ Q following)
    (concludes : Concludes operation text s outcome t) (starts : P text ∨ Q text)
    (hand : ∀ reached u outcome v, Passes operation text s reached u → Q reached →
      Concludes operation reached u outcome v → Concludes other reached u outcome v) :
    Concludes other text s outcome t := by
  induction concludes with
  | stops page =>
    obtain ahead | handed := starts
    · exact .stops (same _ ahead ▸ page)
    · exact hand _ _ _ _ .here handed (.stops page)
  | last page =>
    obtain ahead | handed := starts
    · exact .last (same _ ahead ▸ page)
    · exact hand _ _ _ _ .here handed (.last page)
  | next page nonempty rest inductionHypothesis =>
    obtain ahead | handed := starts
    · refine .next (same _ ahead ▸ page) nonempty ?_
      refine inductionHypothesis (goes _ _ _ _ _ ahead page nonempty) fun reached u => ?_
      exact fun outcome v passes => hand reached u outcome v (.next page nonempty passes)
    · exact hand _ _ _ _ .here handed (.next page nonempty rest)

end AccessSync.Enumeration
