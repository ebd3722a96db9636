import AccessSync.Proofs.Catalog.Coherence
import AccessSync.Proofs.Catalog.Storage
import AccessSync.Proofs.Sync.Interleaving
import AccessSync.Proofs.Sync.Outcome

/-!
# Workers whose order does not matter

What a worker comes to is decided before it starts: by what it has for itself, since all that it
shares with others is a function of what is asked for.  Other workers do not change that, so a wave
comes to the same results whatever the schedule, or to none whatever the schedule.
-/

namespace AccessSync.Sync

variable {α β : Type} {c : Connector} {type : ResourceType} {s t : Session}

/-! ## One worker -/

section Worker

variable (steady : Steady c) (type : ResourceType)

include steady

theorem confined_perform (call : PageCall) : Confined c type (perform c type call) := by
  intro rel alike
  have companions := companions_kin steady alike
  cases call with
  | list parent cursor => exact Catalog.agrees_list companions parent cursor
  | entitlements resource => exact Catalog.agrees_entitlements companions resource
  | grants resource cursor => exact Catalog.agrees_grants companions resource cursor
  | report message => exact agrees_log silent_kin _ _ _

theorem confined_run (task : Task α) : Confined c type (task.run c type) := by
  -- On the calls that are still to be made; the answer decides which task is left.
  induction task with
  | done a => exact fun _ _ => Agree.pure a
  | stop reason => exact fun _ _ => Agree.throw reason
  | ask call next inductionHypothesis =>
    exact fun rel alike => (confined_perform steady type call rel alike).bind fun answer =>
      inductionHypothesis answer rel alike

/-- One call leaves a worker with what it would do next, and other workers with what they had, or
without a result that it would not have reached on its own either. -/
theorem advance_cases (coherent : Coherent c s) (task : Task α) :
    (∃ next t, advance c type task s = (.ok next, t) ∧ Coherent c t ∧
      next.run c type t = task.run c type s ∧ ∀ other, other ≠ type → t.own other = s.own other) ∨
    ∃ reason t stop, advance c type task s = (.error reason, t) ∧
      (task.run c type s).1 = .error stop := by
  -- Only a call can change anything; a task without one stays what it is, or stops here and now.
  cases task with
  | done a => exact .inl ⟨.done a, s, rfl, coherent, rfl, fun _ _ => rfl⟩
  | stop reason =>
    obtain ⟨failed, t, attempted⟩ := attempt_of_error type
      (show (throw reason : Act (Task α)) s = (.error reason, s) from rfl)
    exact .inr ⟨failed, t, reason, attempted, rfl⟩
  | ask call next =>
    have confined := confined_perform steady type call
    match performed : perform c type call s with
    | (.ok answer, t) =>
      have returns : (do return next (← perform c type call) : Act (Task α)) s =
          (.ok (next answer), t) := by
        rw [Run.bind_of_ok performed]
        rfl
      have after := confined.coherent coherent
      have frame := confined.frame coherent
      rw [performed] at after frame
      refine .inl ⟨next answer, t, attempt_of_ok returns, after, ?_, frame⟩
      rw [Task.run, Run.bind_of_ok performed]
    | (.error stop, t) =>
      have stops : (do return next (← perform c type call) : Act (Task α)) s = (.error stop, t) :=
        Run.bind_of_error performed
      obtain ⟨failed, u, attempted⟩ := attempt_of_error type stops
      refine .inr ⟨failed, u, stop, attempted, ?_⟩
      rw [Task.run, Run.bind_of_error performed]

end Worker

/-! ## All workers -/

/-- What each worker comes to on its own, and what the workers have in the end. -/
structure Forecast (α : Type) where
  outcome : ResourceType → Except Stop α
  left : ResourceType → Belongings

namespace Forecast

def results (forecast : Forecast α) (types : List ResourceType) :
    Except Stop (List (ResourceType × α)) :=
  types.mapM fun type => return (type, ← forecast.outcome type)

/-- What is to be expected of tasks from a session on. -/
def ofTasks (c : Connector) (types : List ResourceType) (task : ResourceType → Task α)
    (s : Session) : Forecast α where
  outcome type := ((task type).run c type s).1
  left type := if type ∈ types then ((task type).run c type s).2.own type else s.own type

theorem results_cons {forecast : Forecast α} {a : α} (here : forecast.outcome type = .ok a)
    (rest : List ResourceType) :
    forecast.results (type :: rest) = (forecast.results rest).map ((type, a) :: ·) := by
  rw [results, List.mapM_cons, here, results]
  cases rest.mapM fun type => (return (type, ← forecast.outcome type) : Except Stop _) <;> rfl

theorem results_error {forecast : Forecast α} {types : List ResourceType} {stop : Stop}
    (member : type ∈ types) (fails : forecast.outcome type = .error stop) :
    ∃ reason, forecast.results types = .error reason := by
  induction types with
  | nil => cases member
  | cons first rest inductionHypothesis =>
    cases here : forecast.outcome first with
    | error reason =>
      refine ⟨reason, ?_⟩
      rw [results, List.mapM_cons, here]
      rfl
    | ok a =>
      obtain rfl | later := List.mem_cons.mp member
      · rw [here] at fails
        cases fails
      · obtain ⟨reason, there⟩ := inductionHypothesis later
        exact ⟨reason, by rw [results_cons here, there]; rfl⟩

theorem results_kinds {forecast : Forecast α} {types : List ResourceType}
    {results : List (ResourceType × α)} (known : forecast.results types = .ok results) :
    results.map Prod.fst = types := by
  induction types generalizing results with
  | nil =>
    cases known
    rfl
  | cons type rest inductionHypothesis =>
    cases here : forecast.outcome type with
    | error stop =>
      obtain ⟨reason, fails⟩ := results_error (List.mem_cons_self (l := rest)) here
      cases known.symm.trans fails
    | ok a =>
      rw [results_cons here] at known
      cases there : forecast.results rest with
      | error stop => simp [there, Except.map] at known
      | ok others =>
        rw [there] at known
        cases known
        rw [List.map_cons, inductionHypothesis there]

end Forecast

/-- What a worker has still to do leads to what the forecast says. -/
def Foretold (c : Connector) (forecast : Forecast α) (s : Session) (type : ResourceType)
    (work : Except SyncStop (Task α)) : Prop :=
  ∃ task, work = .ok task ∧ (task.run c type s).1 = forecast.outcome type ∧
    (task.run c type s).2.own type = forecast.left type

/-- The forecast holds of all workers, and kinds without a worker have what it says already. -/
structure OnTrack (c : Connector) (forecast : Forecast α) (pool : Pool α) (s : Session) : Prop where
  coherent : Coherent c s
  works : ∀ type work, (type, work) ∈ pool → Foretold c forecast s type work
  idle : ∀ type, type ∉ pool.map Prod.fst → s.own type = forecast.left type

theorem interleave_error {schedule : List Nat} {types : List ResourceType}
    {task : ResourceType → Task α}
    (doomed : ∀ results, collect (c.context.isCancelled (outcomes c schedule types task s).2).1 none
      (outcomes c schedule types task s).1 ≠ .ok results) :
    ∃ reason t, interleave c schedule types task s = (.error reason, t) := by
  rw [interleave_outcomes]
  cases collected : collect (c.context.isCancelled (outcomes c schedule types task s).2).1
      none (outcomes c schedule types task s).1 with
  | ok results => exact absurd collected (doomed results)
  | error reason => exact ⟨reason, _, rfl⟩

section Schedules

variable (steady : Steady c) {forecast : Forecast α} {types : List ResourceType}

include steady

/-- What other workers do does not count. -/
theorem Foretold.elsewhere {work : Except SyncStop (Task α)}
    (foretold : Foretold c forecast s type work) (before : Coherent c s) (after : Coherent c t)
    (same : t.own type = s.own type) : Foretold c forecast t type work := by
  obtain ⟨task, rfl, outcome, left⟩ := foretold
  obtain ⟨ends, leaves⟩ := (confined_run steady type task).same after before same
  exact ⟨task, rfl, ends.trans outcome, leaves.trans left⟩

/-- A turn leaves the workers on track, or one of them without a result, as was to be expected. -/
theorem onTrack_turn (distinct : types.Nodup) {pool : Pool α} (kinds : pool.map Prod.fst = types)
    (onTrack : OnTrack c forecast pool s) (n : Nat) :
    (turn c n pool s).1.map Prod.fst = types ∧
      (OnTrack c forecast (turn c n pool s).1 (turn c n pool s).2 ∨
        Broken (turn c n pool s).1 ∧ ∃ stop, forecast.results types = .error stop) := by
  obtain same | ⟨before, type, task, after, rfl, turned⟩ := turn_cases (c := c) n pool s
  · rw [same]
    exact ⟨kinds, .inl onTrack⟩
  rw [turned]
  refine ⟨by simpa using kinds, ?_⟩
  obtain ⟨_, same, outcome, left⟩ := onTrack.works type (.ok task) (by simp)
  cases same
  -- No other worker is on the same kind, so the frame of the call covers all the others.
  have among : type ∈ types := by simp [← kinds]
  have alone : type ∉ (before ++ after).map Prod.fst := by
    rw [← kinds, (List.perm_middle.map Prod.fst).nodup_iff] at distinct
    exact (List.nodup_cons.mp distinct).1
  obtain ⟨next, t, advanced, coherent, goes, frame⟩ | ⟨reason, t, stop, advanced, fails⟩ :=
    advance_cases steady type onTrack.coherent task
  · rw [advanced]
    refine .inl ⟨coherent, fun other work member => ?_, fun other idle => ?_⟩
    -- The worker itself goes on to what it would have come to; the others do not notice.
    · obtain own | elsewhere := List.mem_cons.mp (List.perm_middle.mem_iff.mp member)
      · cases own
        exact ⟨next, rfl, goes ▸ outcome, goes ▸ left⟩
      · have different : other ≠ type := by
          rintro rfl
          exact alone (List.mem_map_of_mem elsewhere)
        have foretold := onTrack.works other work
          (List.perm_middle.mem_iff.mpr (List.mem_cons_of_mem _ elsewhere))
        exact foretold.elsewhere steady onTrack.coherent coherent (frame other different)
    · have different : other ≠ type := by
        rintro rfl
        simp at idle
      rw [frame other different]
      exact onTrack.idle other (by simpa using idle)
  · rw [advanced]
    exact .inr ⟨⟨type, reason, by simp⟩, Forecast.results_error among (outcome ▸ fails)⟩

theorem onTrack_follow (distinct : types.Nodup) (schedule : List Nat) {pool : Pool α}
    (kinds : pool.map Prod.fst = types) (onTrack : OnTrack c forecast pool s) :
    (follow c schedule pool s).1.map Prod.fst = types ∧
      OnTrack c forecast (follow c schedule pool s).1 (follow c schedule pool s).2 ∨
    Broken (follow c schedule pool s).1 ∧ ∃ stop, forecast.results types = .error stop := by
  -- On the schedule: a turn keeps the workers on track, and what is broken stays broken.
  induction schedule generalizing pool s with
  | nil => exact .inl ⟨kinds, onTrack⟩
  | cons n rest inductionHypothesis =>
    have followed : follow c (n :: rest) pool s =
        follow c rest (turn c n pool s).1 (turn c n pool s).2 := rfl
    rw [followed]
    obtain ⟨still, ontrack | ⟨broken, fails⟩⟩ := onTrack_turn steady distinct kinds onTrack n
    · exact inductionHypothesis still ontrack
    · exact .inr ⟨broken_follow rest broken, fails⟩

/-- Workers on track finish with the results of the forecast, or one of them finishes with none. -/
theorem onTrack_finish {pool : Pool α} (distinct : (pool.map Prod.fst).Nodup)
    (onTrack : OnTrack c forecast pool s) :
    (∃ results t, forecast.results (pool.map Prod.fst) = .ok results ∧
      finish c pool s = (results.map fun (type, a) => (type, .ok a), t) ∧
      Coherent c t ∧ t.own = forecast.left) ∨
    Broken (finish c pool s).1 ∧ ∃ stop, forecast.results (pool.map Prod.fst) = .error stop := by
  -- On the workers: one that is done joins the kinds that have what the forecast says.
  induction pool generalizing s with
  | nil =>
    refine .inl ⟨[], s, rfl, rfl, onTrack.coherent, funext fun type => ?_⟩
    exact onTrack.idle type List.not_mem_nil
  | cons worker rest inductionHypothesis =>
    obtain ⟨type, work⟩ := worker
    obtain ⟨task, rfl, outcome, left⟩ := onTrack.works type work List.mem_cons_self
    have confined := confined_run steady type task
    rw [List.map_cons, List.nodup_cons] at distinct
    match ran : task.run c type s with
    | (.error stop, t) =>
      obtain ⟨reason, u, attempted⟩ := attempt_of_error type ran
      rw [finish_cons, attempted]
      refine .inr ⟨⟨type, reason, List.mem_cons_self⟩, ?_⟩
      have fails : forecast.outcome type = .error stop := outcome ▸ congrArg Prod.fst ran
      exact Forecast.results_error List.mem_cons_self fails
    | (.ok a, t) =>
      have here : forecast.outcome type = .ok a := outcome ▸ congrArg Prod.fst ran
      have after := confined.coherent onTrack.coherent
      have frame := confined.frame onTrack.coherent
      rw [ran] at after frame left
      -- The worker that finished leaves the pool, so its belongings count as idle from here on.
      have others : OnTrack c forecast rest t := by
        refine ⟨after, fun other work member => ?_, fun other idle => ?_⟩
        · have different : other ≠ type := by
            rintro rfl
            exact distinct.1 (List.mem_map.mpr ⟨_, member, rfl⟩)
          have foretold := onTrack.works other work (List.mem_cons_of_mem _ member)
          exact foretold.elsewhere steady onTrack.coherent after (frame other different)
        · by_cases own : other = type
          · exact own ▸ left
          · rw [frame other own]
            refine onTrack.idle other ?_
            simpa [own] using idle
      rw [finish_cons, attempt_of_ok ran, List.map_cons, Forecast.results_cons here]
      obtain ⟨results, u, known, ended, coherent, all⟩ | ⟨⟨other, reason, member⟩, stop, none⟩ :=
        inductionHypothesis distinct.2 others
      · exact .inl ⟨(type, a) :: results, u, by rw [known]; rfl, by rw [ended]; rfl, coherent, all⟩
      · exact .inr ⟨⟨other, reason, List.mem_cons_of_mem _ member⟩, stop, by rw [none]; rfl⟩

/-- Whatever the schedule, workers come to the results that are to be expected of each on its own,
or to none where one of them has none. -/
theorem interleave_forecast (coherent : Coherent c s) (distinct : types.Nodup)
    (schedule : List Nat) (task : ResourceType → Task α) :
    (∃ results t, (Forecast.ofTasks c types task s).results types = .ok results ∧
      Coherent c t ∧ t.own = (Forecast.ofTasks c types task s).left ∧
      interleave c schedule types task s =
        (collect t.cancelled none (results.map fun (type, a) => (type, .ok a)), t)) ∨
    ∃ stop reason t, (Forecast.ofTasks c types task s).results types = .error stop ∧
      interleave c schedule types task s = (.error reason, t) := by
  have kinds : (Pool.start types task).map Prod.fst = types := by
    rw [Pool.start, List.map_map]
    exact List.map_id' types
  have onTrack : OnTrack c (.ofTasks c types task s) (.start types task) s := by
    refine ⟨coherent, fun type work member => ?_, fun type idle => ?_⟩
    · obtain ⟨other, among, same⟩ := List.mem_map.mp member
      cases same
      exact ⟨task type, rfl, rfl, (if_pos among).symm⟩
    · exact (if_neg (kinds ▸ idle)).symm
  have broke (broken : Broken (outcomes c schedule types task s).1)
      (fails : ∃ stop, (Forecast.ofTasks c types task s).results types = .error stop) :
      ∃ stop reason t, (Forecast.ofTasks c types task s).results types = .error stop ∧
        interleave c schedule types task s = (.error reason, t) := by
    obtain ⟨type, _, member⟩ := broken
    obtain ⟨stop, fails⟩ := fails
    obtain ⟨reason, t, ended⟩ := interleave_error (collect_ne_ok_of_error member)
    exact ⟨stop, reason, t, fails, ended⟩
  obtain ⟨still, onTrack⟩ | ⟨broken, fails⟩ := onTrack_follow steady distinct schedule kinds onTrack
  · obtain ⟨results, t, known, done, coherent, all⟩ | ⟨broken, fails⟩ :=
      onTrack_finish steady (by rwa [still]) onTrack
    -- All have a result; whether they count is up to the signal, which nobody gives any more.
    · have unsigned : (t.cancelled || c.world.cancels t.looks t.history) = t.cancelled := by
        rw [steady.quiet, Bool.or_false]
      have looked : c.context.isCancelled t = (t.cancelled, { t with looks := t.looks + 1 }) := by
        change (_, { t with cancelled := _, looks := t.looks + 1 }) = _
        rw [unsigned]
      refine .inl ⟨results, { t with looks := t.looks + 1 }, still ▸ known,
        coherent.of_same rfl, all, ?_⟩
      rw [interleave_outcomes, show outcomes c schedule types task s = _ from done, looked]
    · exact .inr (broke broken (still ▸ fails))
  · exact .inr (broke (broken_finish broken) fails)

end Schedules

/-! ## Two schedules -/

/-- Coherent sessions in which all workers have the same. -/
abbrev Alike (c : Connector) : Session → Session → Prop := Kin c fun _ => Eq

/-- From related sessions either both runs return, related values in related sessions, or neither
does. -/
def Together (R : Session → Session → Prop) (Q : α → β → Prop) (f : SyncRun α) (g : SyncRun β) :
    Prop :=
  ∀ s t, R s t → (∃ a u b v, f s = (.ok a, u) ∧ g t = (.ok b, v) ∧ Q a b ∧ R u v) ∨
    ∃ reason u other v, f s = (.error reason, u) ∧ g t = (.error other, v)

namespace Together

variable {R : Session → Session → Prop} {Q : α → β → Prop}

theorem pure {a : α} {b : β} (holds : Q a b) : Together R Q (Pure.pure a) (Pure.pure b) :=
  fun s t related => .inl ⟨a, s, b, t, rfl, rfl, holds, related⟩

theorem bind {γ δ : Type} {Q' : γ → δ → Prop} {f : SyncRun α} {g : SyncRun β}
    {next : α → SyncRun γ} {other : β → SyncRun δ} (here : Together R Q f g)
    (there : ∀ a b, Q a b → Together R Q' (next a) (other b)) :
    Together R Q' (f >>= next) (g >>= other) := by
  intro s t related
  obtain ⟨a, u, b, v, first, second, holds, after⟩ | ⟨reason, u, another, v, first, second⟩ :=
    here s t related
  · rw [Run.bind_of_ok first, Run.bind_of_ok second]
    exact there a b holds u v after
  · rw [Run.bind_of_error first, Run.bind_of_error second]
    exact .inr ⟨reason, u, another, v, rfl, rfl⟩

theorem of_agree {f g : Act α} (agree : Agree R f g) : Together R Eq (lift f) (lift g) := by
  intro s t related
  obtain ⟨same, after⟩ := agree s t related
  match first : f s, second : g t with
  | (.ok a, u), (.ok b, v) =>
    rw [first, second] at same after
    exact .inl ⟨a, u, b, v, by rw [lift, first], by rw [lift, second], Except.ok.inj same, after⟩
  | (.error reason, u), (.error other, v) =>
    exact .inr ⟨_, u, _, v, by rw [lift, first], by rw [lift, second]⟩
  | (.ok a, u), (.error other, v) => simp [first, second] at same
  | (.error reason, u), (.ok b, v) => simp [first, second] at same

end Together

section Pairs

variable (steady : Steady c)

include steady

theorem ofTasks_congr (alike : Alike c s t) (types : List ResourceType)
    (task : ResourceType → Task α) :
    Forecast.ofTasks c types task s = Forecast.ofTasks c types task t := by
  have same (type : ResourceType) := (confined_run steady type (task type)).same alike.first
    alike.second (alike.own type)
  simp only [Forecast.ofTasks, Forecast.mk.injEq]
  refine ⟨funext fun type => (same type).1, funext fun type => ?_⟩
  rw [(same type).2, alike.own type]

/-- Under any two schedules the workers come to the same results, or to none under both. -/
theorem together_interleave {types : List ResourceType} (distinct : types.Nodup)
    (first second : List Nat) (task : ResourceType → Task α) :
    Together (Alike c) (fun a b => a = b ∧ a.map Prod.fst = types)
      (interleave c first types task) (interleave c second types task) := by
  intro s t alike
  -- The forecast knows nothing of the schedule, and alike sessions have the same forecast.
  have one := interleave_forecast steady alike.first distinct first task
  have two := interleave_forecast steady alike.second distinct second task
  rw [ofTasks_congr steady alike] at one
  obtain ⟨results, u, known, coherent, own, ended⟩ | ⟨stop, reason, u, fails, ended⟩ := one
  · obtain ⟨others, v, same, likewise, all, finished⟩ | ⟨stop, reason, v, fails, -⟩ := two
    · obtain rfl := Except.ok.inj (known.symm.trans same)
      have equal : u.own = v.own := own.trans all.symm
      have signal : u.cancelled = v.cancelled :=
        congrArg Belongings.cancelled (congrFun equal .user)
      rw [← signal] at finished
      cases cancelled : u.cancelled with
      | false =>
        rw [cancelled, collect_ok] at ended finished
        exact .inl ⟨results, u, results, v, ended, finished, ⟨rfl, Forecast.results_kinds known⟩,
          coherent, likewise, congrFun equal⟩
      | true =>
        rw [cancelled] at ended finished
        cases collected : collect true none
            (results.map fun (type, a) => (type, (.ok a : Except SyncStop α))) with
        | ok none => exact absurd collected (collect_ne_ok (.inl rfl) _ none)
        | error reason =>
          rw [collected] at ended finished
          exact .inr ⟨reason, u, reason, v, ended, finished⟩
    · cases known.symm.trans fails
  · obtain ⟨others, v, same, -⟩ | ⟨_, other, v, -, finished⟩ := two
    · cases fails.symm.trans same
    · exact .inr ⟨reason, u, other, v, ended, finished⟩

theorem together_listWavesIn {waves : List (List ResourceType)}
    (distinct : ∀ wave ∈ waves, wave.Nodup) (first second : List (List Nat))
    (resources : List (ResourceType × List Resource)) :
    Together (Alike c) (fun a b => a = b ∧ a.map Prod.fst = resources.map Prod.fst ++ waves.flatten)
      (listWavesIn c waves first resources) (listWavesIn c waves second resources) := by
  -- On the waves: what an earlier wave listed is the same when the next one starts.
  induction waves generalizing first second resources with
  | nil => exact Together.pure ⟨rfl, by simp⟩
  | cons wave rest inductionHypothesis =>
    refine (together_interleave steady (distinct wave List.mem_cons_self) _ _ _).bind ?_
    rintro found _ ⟨rfl, kinds⟩
    have later := inductionHypothesis (fun other member => distinct other
      (List.mem_cons_of_mem _ member)) first.tail second.tail (resources ++ found)
    rwa [List.map_append, kinds, List.append_assoc] at later

omit steady in
theorem together_now : Together (Alike c) (fun _ _ => True) (lift (now c)) (lift (now c)) :=
  fun _ _ alike => .inl ⟨_, _, _, _, rfl, rfl, trivial, alike.of_same rfl rfl rfl rfl⟩

omit steady in
/-- What is reported of a document does not matter. -/
theorem together_report (d e : SyncDocument) :
    Together (Alike c) Eq (lift (report d)) (lift (report e)) := by
  have reports (d : SyncDocument) (own : ResourceType → Belongings) :
      Ends (Stays c own) (report d) (.ok ()) := by
    refine (ends_log unaffected_stays _ _ _).bind ?_
    split
    next => exact ends_log unaffected_stays _ _ _
    next => exact Ends.pure ()
  exact Together.of_agree (agree_of_ends (reports d) (reports e))

/-- The documents differ in the time that they took at most. -/
theorem together_runIn (workers : Int) (first second : Schedule) :
    Together (Alike c) (fun d e => e = { d with elapsed := e.elapsed })
      (runIn c first workers) (runIn c second workers) := by
  refine together_now.bind fun started begun _ => ?_
  simp only
  split
  next =>
    refine Together.bind (Q := fun _ _ => False) (fun s t _ => ?_) fun _ _ never => never.elim
    exact .inr ⟨_, s, _, t, rfl, rfl⟩
  next =>
    refine (together_listWavesIn steady (by decide) first.waves second.waves []).bind ?_
    rintro resources _ ⟨rfl, kinds⟩
    have distinct : (resources.map Prod.fst).Nodup := by
      rw [kinds]
      decide
    refine (together_interleave steady distinct first.access second.access _).bind ?_
    rintro access _ ⟨rfl, -⟩
    refine together_now.bind fun ended finished _ => ?_
    refine Together.bind (Q := fun s t => s.tallies = t.tallies) (fun s t alike => ?_) ?_
    · exact .inl ⟨s, s, t, t, rfl, rfl, funext fun type =>
        congrArg Belongings.tally (alike.own type), alike⟩
    · intro s t same
      rw [same]
      exact (together_report _ _).bind fun _ _ _ => Together.pure rfl

end Pairs

/-! ## Any schedule -/

/-- Under a signal that is given from the start there is no document. -/
theorem runIn_stopped (signal : ∀ looks history, c.world.cancels looks history = true)
    (schedule : Schedule) (workers : Int) (s : Session) :
    ∃ reason t, runIn c schedule workers s = (.error reason, t) := by
  have stopped {α : Type} (turns : List Nat) (types : List ResourceType)
      (task : ResourceType → Task α) (s : Session) :
      ∃ reason t, interleave c turns types task s = (.error reason, t) := by
    refine interleave_error (collect_ne_ok (.inl ?_) _)
    change (_ || c.world.cancels _ _) = true
    rw [signal, Bool.or_true]
  have started : lift (now c) s = (.ok _, _) := rfl
  by_cases none : workers < 1
  · exact runIn_no_workers schedule none s
  · rw [runIn, Run.bind_of_ok started]
    simp only [if_neg none]
    obtain ⟨reason, t, stops⟩ := stopped (schedule.waves.headD []) _ (Task.listType c.limit []) _
    exact ⟨reason, t, Run.bind_of_error (Run.bind_of_error stops)⟩

/-- A sync comes to a document under every schedule of its workers or under none, and the documents
differ in the time that they took at most: the resources, the entitlements, the grants and the
numbers of dropped records are the same.  The services answer by the request, and the session may be
new or come from earlier work, as long as what it keeps is what the services say. -/
theorem run_independent {world : World} {limit : Nat} {config : Value} {hasCredential : Bool}
    (configured : Connector.ofConfig world limit config hasCredential = .ok c)
    (stateless : world.Stateless) (coherent : Coherent c s) (workers : Int) :
    runIn c ⟨[], []⟩ workers = run c workers ∧ ∀ first second : Schedule,
      (runIn c first workers s).1.isOk = (runIn c second workers s).1.isOk ∧
        ∀ d e, (runIn c first workers s).1 = .ok d → (runIn c second workers s).1 = .ok e →
          e = { d with elapsed := e.elapsed } := by
  obtain ⟨rfl, -, index⟩ := Catalog.Storage.ofConfig_ok configured
  refine ⟨runIn_nil c workers, fun first second => ?_⟩
  -- Under a signal there is no document; without one the connector is steady.
  cases signal : c.world.cancels 0 [] with
  | true =>
    have given (looks : Nat) (history : List Call) : c.world.cancels looks history = true :=
      (stateless.signal looks history).trans signal
    obtain ⟨reason, t, one⟩ := runIn_stopped given first workers s
    obtain ⟨other, u, two⟩ := runIn_stopped given second workers s
    rw [one, two]
    exact ⟨rfl, fun d e returns => by cases returns⟩
  | false =>
    have steady : Steady c := ⟨stateless,
      fun looks history => (stateless.signal looks history).trans signal,
      congrArg RoleIndex.world index⟩
    have alike : Alike c s s := ⟨coherent, coherent, fun _ => rfl⟩
    obtain ⟨d, t, e, u, one, two, same, -⟩ | ⟨reason, t, other, u, one, two⟩ :=
      together_runIn steady workers first second s s alike
    · rw [one, two]
      refine ⟨rfl, fun _ _ left right => ?_⟩
      cases left
      cases right
      exact same
    · rw [one, two]
      exact ⟨rfl, fun d e returns => by cases returns⟩

/-- Services for one storage account with one container.  The same role is assigned at both, and its
definition is named in other letters at the one than at the other. -/
def storageWorld : World where
  answer _
    | .request _ => .ok ⟨200, [], ""⟩
    | .clientToken .. => .error (.unexpected "")
    | .credentialToken _ => .ok ""
    | .openClient _ => ()
    | .listPage .subscriptions _ => page [("subscription_id", "s")]
    | .listPage (.storageAccounts _) _ => page [("id", account)]
    | .listPage (.containers _) _ => page [("name", "c")]
    | .listPage (.roleAssignments scope) _ =>
      page [("role_definition_id", if scope = account then "/A/////r" else "/a/////r")]
    | .listPage .. => .ok .none
    | .operate (.roleDefinition _) =>
      .ok (.record [("permissions", .list [.record [("actions", .list [.text "*/read"])]])])
    | .operate _ => .ok .null
    | .freshName => ""
    | .sleep _ => .ok ()
    | .clock => (0 : Int)
  cancels _ _ := false
where
  account : String := "/subscriptions/s/resourceGroups/g/providers/p/t/a"
  page (fields : List (String × String)) : Except ServiceError ListedPage :=
    .ok ⟨[.record (fields.map fun (name, text) => (name, .text text))], none, none⟩

/-- A schedule under which the container is done before the storage account. -/
def mixed : Schedule := ⟨[[5, 0, 3, 2, 4, 5, 5, 1, 0], [2, 1, 2, 1, 0]],
  [5, 6, 2, 2, 7, 8, 9, 9, 9, 8, 8, 7]⟩

theorem run_independent_storageWorld :
    ∃ c d e, Connector.ofConfig storageWorld 5 (.mapping []) true = .ok c ∧
      (run c 4 Session.new).1 = .ok d ∧ (runIn c mixed 4 Session.new).1 = .ok e ∧
      d.allGrants.length = 4 ∧ e = { d with elapsed := e.elapsed } := by
  have stateless : storageWorld.Stateless :=
    .of_requests (fun _ _ => rfl) (fun _ _ _ => rfl) fun _ _ => rfl
  have evaluated : ((Connector.ofConfig storageWorld 5 (.mapping []) true).toOption.bind fun c =>
      (run c 4 Session.new).1.toOption.map fun d => d.allGrants.length) = some 4 := by
    decide +kernel
  obtain ⟨c, created, ran⟩ := Option.bind_eq_some_iff.mp evaluated
  obtain ⟨d, returned, grants⟩ := Option.map_eq_some_iff.mp ran
  have configured := eq_ok_of_toOption created
  obtain ⟨same, each⟩ := run_independent configured stateless (Coherent.new c) 4
  obtain ⟨ends, documents⟩ := each ⟨[], []⟩ mixed
  have first : (runIn c ⟨[], []⟩ 4 Session.new).1 = .ok d := same ▸ eq_ok_of_toOption returned
  -- The run under the mixed schedule is not evaluated: that it succeeds is the theorem's to say.
  cases second : (runIn c mixed 4 Session.new).1 with
  | error reason =>
    rw [first, second] at ends
    cases ends
  | ok e =>
    exact ⟨c, d, e, configured, eq_ok_of_toOption returned, second, grants,
      documents d e first second⟩

end AccessSync.Sync
