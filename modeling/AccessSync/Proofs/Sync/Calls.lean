import AccessSync.Proofs.Sync.Interleaving
import AccessSync.Proofs.Sync.Outcome

/-!
# The calls of workers

Workers that take turns mix their calls, but each of them makes its own calls in order.  When a
phase comes to results, all that was called on the way was answered, and the calls of each worker,
taken out of the mixture, lead through what it had to do to its result.
-/

namespace AccessSync.Sync

/-- A call that was made for the worker on a kind of resource, and its answer. -/
structure Made where
  type : ResourceType
  call : PageCall
  answer : call.Answer

/-- From the one session the sync comes to the other by these calls: each of them was answered so
when it was made.  In between, the sync looks at the signal, reads the clock and reports. -/
inductive Passes (c : Connector) : Session → List Made → Session → Prop where
  | refl (s : Session) : Passes c s [] s
  | call {s type call answer t rest u} : perform c type call s = (.ok answer, t) →
      Passes c t rest u → Passes c s (⟨type, call, answer⟩ :: rest) u
  | look {s made u} : Passes c (c.context.isCancelled s).2 made u → Passes c s made u
  | clock {s made u} : Passes c (now c s).2 made u → Passes c s made u
  | report {s made u} (d) : Passes c (report d s).2 made u → Passes c s made u

variable {α β : Type} {c : Connector} {type : ResourceType} {s t u : Session}
  {made later : List Made}

theorem Passes.trans (here : Passes c s made t) (there : Passes c t later u) :
    Passes c s (made ++ later) u := by
  induction here with
  | refl => exact there
  | call performed _ inductionHypothesis => exact .call performed (inductionHypothesis there)
  | look _ inductionHypothesis => exact .look (inductionHypothesis there)
  | clock _ inductionHypothesis => exact .clock (inductionHypothesis there)
  | report d _ inductionHypothesis => exact .report d (inductionHypothesis there)

/-- In some session the call was answered so. -/
def Made.Answered (c : Connector) (m : Made) : Prop :=
  ∃ before after, perform c m.type m.call before = (.ok m.answer, after)

theorem Passes.answered (passes : Passes c s made t) {m : Made} (member : m ∈ made) :
    m.Answered c := by
  induction passes with
  | refl => cases member
  | call performed _ inductionHypothesis =>
    cases member with
    | head => exact ⟨_, _, performed⟩
    | tail _ member => exact inductionHypothesis member
  | look _ inductionHypothesis => exact inductionHypothesis member
  | clock _ inductionHypothesis => exact inductionHypothesis member
  | report _ _ inductionHypothesis => exact inductionHypothesis member

/-! ## Calls of one kind -/

/-- The calls that were made for the worker on a kind of resource. -/
def own (type : ResourceType) (made : List Made) : List Made :=
  made.filter fun m => m.type = type

theorem own_append (type : ResourceType) (made later : List Made) :
    own type (made ++ later) = own type made ++ own type later :=
  List.filter_append made later

theorem own_of_all (all : ∀ m ∈ made, m.type = type) : own type made = made := by
  simpa [own] using all

theorem own_of_none (none : ∀ m ∈ made, m.type ≠ type) : own type made = [] := by
  simpa [own] using none

theorem own_of_other {other : ResourceType} (all : ∀ m ∈ made, m.type = type)
    (different : other ≠ type) : own other made = [] :=
  own_of_none fun m member same => different (same.symm.trans (all m member))

/-! ## One worker -/

/-- The calls with their answers lead from what a worker had to do to what it still has to do. -/
inductive Task.Leads (type : ResourceType) : Task α → List Made → Task α → Prop where
  | here (task) : Leads type task [] task
  | ask {call next answer rest last} : Leads type (next answer) rest last →
      Leads type (.ask call next) (⟨type, call, answer⟩ :: rest) last

namespace Task.Leads

variable {task next last : Task α}

theorem trans (first : task.Leads type made next) (second : next.Leads type later last) :
    task.Leads type (made ++ later) last := by
  induction first with
  | here => exact second
  | ask _ inductionHypothesis => exact .ask (inductionHypothesis second)

/-- Calls that lead through one task after another lead through the one and then the other. -/
theorem of_bind {task : Task α} {next : α → Task β} {b : β}
    (leads : (task >>= next).Leads type made (.done b)) :
    ∃ a first later, made = first ++ later ∧ task.Leads type first (.done a) ∧
      (next a).Leads type later (.done b) := by
  induction task generalizing made with
  | done a => exact ⟨a, [], made, rfl, .here _, leads⟩
  | stop reason => cases leads
  | ask call further inductionHypothesis =>
    cases leads with
    | ask leads =>
      obtain ⟨a, first, later, rfl, here, there⟩ := inductionHypothesis _ leads
      exact ⟨a, _ :: first, later, rfl, .ask here, there⟩

theorem of_done {a b : α} (leads : (Task.done a).Leads type made (.done b)) :
    made = [] ∧ a = b := by
  cases leads
  exact ⟨rfl, rfl⟩

end Task.Leads

theorem advance_leads {task next : Task α} (advanced : advance c type task s = (.ok next, t)) :
    ∃ made, Passes c s made t ∧ (∀ m ∈ made, m.type = type) ∧ task.Leads type made next := by
  cases task with
  | done a =>
    cases advanced
    exact ⟨[], .refl s, by simp, .here _⟩
  | stop reason => cases attempt_ok advanced
  | ask call further =>
    obtain ⟨answer, _, performed, returns⟩ := Run.exists_of_bind (attempt_ok advanced)
    cases returns
    exact ⟨[⟨type, call, answer⟩], .call performed (.refl t), by simp, .ask (.here _)⟩

theorem run_leads {task : Task α} {a : α} (returns : task.run c type s = (.ok a, t)) :
    ∃ made, Passes c s made t ∧ (∀ m ∈ made, m.type = type) ∧ task.Leads type made (.done a) := by
  induction task generalizing s with
  | done b =>
    cases returns
    exact ⟨[], .refl _, by simp, .here _⟩
  | stop reason => cases returns
  | ask call further inductionHypothesis =>
    obtain ⟨answer, u, performed, returns⟩ := Run.exists_of_bind returns
    obtain ⟨made, passes, among, leads⟩ := inductionHypothesis answer returns
    exact ⟨⟨type, call, answer⟩ :: made, .call performed passes, by simpa using among, .ask leads⟩

/-! ## All workers -/

/-- The workers made the calls, each the part of its kind, and what they have to do now is what
these lead to. -/
structure Progress (c : Connector) (s : Session) (pool : Pool α) (made : List Made) (t : Session)
    (now : Pool α) : Prop where
  passes : Passes c s made t
  among : ∀ m ∈ made, m.type ∈ pool.map Prod.fst
  leads : ∀ type next, (type, .ok next) ∈ now →
    ∃ task, (type, .ok task) ∈ pool ∧ task.Leads type (own type made) next

theorem Progress.refl (pool : Pool α) (s : Session) : Progress c s pool [] s pool where
  passes := .refl s
  among := by simp
  leads _ next member := ⟨next, member, .here _⟩

theorem progress_turn {n : Nat} {pool : Pool α} (distinct : (pool.map Prod.fst).Nodup)
    (unbroken : ¬ Broken (turn c n pool s).1) :
    ∃ made, Progress c s pool made (turn c n pool s).2 (turn c n pool s).1 := by
  obtain same | ⟨before, type, task, after, rfl, turned⟩ := turn_cases (c := c) n pool s
  · rw [same]
    exact ⟨[], .refl pool s⟩
  rw [turned] at unbroken ⊢
  match advanced : advance c type task s with
  | (.error stop, t) =>
    rw [advanced] at unbroken
    exact absurd ⟨type, stop, by simp⟩ unbroken
  | (.ok next, t) =>
    obtain ⟨made, passes, among, leads⟩ := advance_leads advanced
    refine ⟨made, passes, fun m member => by simp [among m member], fun other work member => ?_⟩
    -- The calls are those of the worker whose turn it was; all others made none.
    obtain here | elsewhere := List.mem_cons.mp (List.perm_middle.mem_iff.mp member)
    · cases here
      exact ⟨task, by simp, (own_of_all among).symm ▸ leads⟩
    · rw [(List.perm_middle.map Prod.fst).nodup_iff] at distinct
      have different : other ≠ type := by
        rintro rfl
        exact (List.nodup_cons.mp distinct).1 (List.mem_map.mpr ⟨_, elsewhere, rfl⟩)
      rw [own_of_other among different]
      exact ⟨work, List.perm_middle.mem_iff.mpr (List.mem_cons_of_mem _ elsewhere), .here _⟩

theorem progress_follow (schedule : List Nat) {pool : Pool α}
    (distinct : (pool.map Prod.fst).Nodup) (unbroken : ¬ Broken (follow c schedule pool s).1) :
    ∃ made, Progress c s pool made (follow c schedule pool s).2 (follow c schedule pool s).1 := by
  -- On the schedule; what a turn breaks stays broken, so no turn broke anything.
  induction schedule generalizing pool s with
  | nil => exact ⟨[], .refl pool s⟩
  | cons n rest inductionHypothesis =>
    obtain ⟨made, here⟩ := progress_turn distinct fun broken => unbroken (broken_follow rest broken)
    have kinds := kinds_turn (c := c) (s := s) n pool
    obtain ⟨others, there⟩ := inductionHypothesis (kinds.symm ▸ distinct) unbroken
    refine ⟨made ++ others, here.passes.trans there.passes, fun m member => ?_,
      fun type last member => ?_⟩
    · obtain earlier | later := List.mem_append.mp member
      · exact here.among m earlier
      · exact kinds ▸ there.among m later
    · obtain ⟨next, turned, second⟩ := there.leads type last member
      obtain ⟨task, started, first⟩ := here.leads type next turned
      exact ⟨task, started, own_append type made others ▸ first.trans second⟩

theorem progress_finish {pool : Pool α} (distinct : (pool.map Prod.fst).Nodup)
    (unbroken : ¬ Broken (finish c pool s).1) :
    ∃ made, Passes c s made (finish c pool s).2 ∧ (∀ m ∈ made, m.type ∈ pool.map Prod.fst) ∧
      ∀ type a, (type, .ok a) ∈ (finish c pool s).1 →
        ∃ task, (type, .ok task) ∈ pool ∧ task.Leads type (own type made) (.done a) := by
  -- The calls of the first worker come before those of the others, who make none for its kind.
  induction pool generalizing s with
  | nil => exact ⟨[], .refl s, by simp, fun _ _ member => by cases member⟩
  | cons worker rest inductionHypothesis =>
    match worker with
    | (first, .error stop) => exact absurd ⟨first, stop, List.mem_cons_self⟩ unbroken
    | (first, .ok task) =>
      rw [finish_cons] at unbroken ⊢
      match attempted : attempt first (task.run c first) s with
      | (.error stop, t) =>
        rw [attempted] at unbroken
        exact absurd ⟨first, stop, List.mem_cons_self⟩ unbroken
      | (.ok a, t) =>
        rw [attempted] at unbroken
        obtain ⟨made, passes, among, leads⟩ := run_leads (attempt_ok attempted)
        rw [List.map_cons, List.nodup_cons] at distinct
        obtain ⟨others, further, within, each⟩ := inductionHypothesis (s := t) distinct.2
          fun ⟨type, stop, member⟩ => unbroken ⟨type, stop, List.mem_cons_of_mem _ member⟩
        refine ⟨made ++ others, passes.trans further, fun m member => ?_,
          fun type b member => ?_⟩
        · obtain earlier | later := List.mem_append.mp member
          · simp [among m earlier]
          · exact List.mem_cons_of_mem _ (within m later)
        · rw [own_append]
          obtain here | there := List.mem_cons.mp member
          · cases here
            have none : own first others = [] := own_of_none fun m member same =>
              distinct.1 (same ▸ within m member)
            rw [own_of_all among, none, List.append_nil]
            exact ⟨task, List.mem_cons_self, leads⟩
          · obtain ⟨work, started, leads⟩ := each type b there
            have different : type ≠ first := by
              rintro rfl
              exact distinct.1 (List.mem_map.mpr ⟨_, started, rfl⟩)
            rw [own_of_other among different, List.nil_append]
            exact ⟨work, List.mem_cons_of_mem _ started, leads⟩

/-! ## Results -/

theorem interleave_ok {schedule : List Nat} {types : List ResourceType}
    {task : ResourceType → Task α} {results : List (ResourceType × α)}
    (returns : interleave c schedule types task s = (.ok results, t)) :
    (outcomes c schedule types task s).1 = results.map (fun (type, a) => (type, .ok a)) ∧
      c.context.isCancelled (outcomes c schedule types task s).2 = (false, t) := by
  rw [interleave_outcomes, Prod.mk.injEq] at returns
  obtain ⟨unsigned, all⟩ := collect_eq_ok_iff.mp returns.1
  exact ⟨all, Prod.ext unsigned returns.2⟩

theorem interleave_kinds {schedule : List Nat} {types : List ResourceType}
    {task : ResourceType → Task α} {results : List (ResourceType × α)}
    (returns : interleave c schedule types task s = (.ok results, t)) :
    results.map Prod.fst = types := by
  rw [← kinds_outcomes (c := c) schedule types task s, (interleave_ok returns).1]
  simp [Function.comp_def]

/-- Results of a phase are what the calls of each worker lead to, and all calls were answered. -/
theorem interleave_leads {schedule : List Nat} {types : List ResourceType}
    {task : ResourceType → Task α} {results : List (ResourceType × α)} (distinct : types.Nodup)
    (returns : interleave c schedule types task s = (.ok results, t)) :
    ∃ made, Passes c s made t ∧ (∀ m ∈ made, m.type ∈ types) ∧
      ∀ type a, (type, a) ∈ results → (task type).Leads type (own type made) (.done a) := by
  obtain ⟨all, looked⟩ := interleave_ok returns
  have started : (Pool.start types task).map Prod.fst = types := by
    simp [Pool.start, Function.comp_def]
  have unbroken : ¬ Broken (outcomes c schedule types task s).1 := by
    rintro ⟨type, stop, member⟩
    simp [all] at member
  -- The turns of the schedule come first, and then the workers finish.
  obtain ⟨first, begun⟩ := progress_follow schedule (started.symm ▸ distinct)
    fun broken => unbroken (broken_finish broken)
  have kinds := (kinds_follow (c := c) (s := s) schedule _).trans started
  obtain ⟨second, ended, among, each⟩ := progress_finish (kinds.symm ▸ distinct) unbroken
  have final : Passes c (outcomes c schedule types task s).2 [] t := by
    apply Passes.look
    rw [looked]
    exact .refl t
  refine ⟨first ++ second, ?_, fun m member => ?_, fun type a member => ?_⟩
  · have passes := (begun.passes.trans ended).trans final
    rwa [List.append_nil] at passes
  · obtain earlier | later := List.mem_append.mp member
    · exact started ▸ begun.among m earlier
    · exact kinds ▸ among m later
  · have outcome : (type, Except.ok a) ∈ (outcomes c schedule types task s).1 := by
      rw [all]
      exact List.mem_map.mpr ⟨(type, a), member, rfl⟩
    obtain ⟨next, followed, finishes⟩ := each type a outcome
    obtain ⟨work, member, follows⟩ := begun.leads type next followed
    obtain ⟨_, -, same⟩ := List.mem_map.mp member
    cases same
    exact own_append type first second ▸ follows.trans finishes

end AccessSync.Sync
