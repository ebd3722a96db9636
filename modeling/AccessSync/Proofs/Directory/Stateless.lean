import AccessSync.Directory.Client
import AccessSync.Proofs.Ends

/-!
# Services without a memory

Services whose answer to a request does not depend on what was asked before.  A token is special:
it is kept with the time at which it ends, and the clock goes on.  Still, whoever asks for one, and
whether it is issued or taken from those that are kept, it is the same token.
-/

namespace AccessSync

/-- The call asks for something else than the time or a name that nothing else has. -/
def Call.isTimeless : Call → Bool
  | .clock | .freshName => false
  | _ => true

/-- The answer to a call depends on the request only.  The clock may go on, as long as the lifetime
of a token that is issued ends within the dates at all times or at none. -/
structure World.Memoryless (world : World) : Prop where
  answer : ∀ call, call.isTimeless → ∀ history, world.answer history call = world.answer [] call
  lifetime : ∀ client authority secret scopes result,
    world.answer [] (.clientToken client authority secret scopes) = .ok result → ∀ history,
      (Directory.expiry (world.answer history .clock) result).isOk =
        (Directory.expiry (world.answer [] .clock) result).isOk

namespace World.Memoryless

variable {world : World}

/-- Services that answer all requests alike, those for the time included. -/
theorem of_requests (answer : ∀ call history, world.answer history call = world.answer [] call) :
    world.Memoryless where
  answer call _ := answer call
  lifetime _ _ _ _ _ _ history := by rw [answer .clock history]

theorem ends_call (memoryless : world.Memoryless) {P : Session → Prop} {call : Call}
    (timeless : call.isTimeless = true)
    (called : ∀ s, P s → P { s with history := call :: s.history }) :
    Ends P (Act.call world call) (.ok (world.answer [] call)) :=
  fun s holds => ⟨congrArg _ (memoryless.answer call timeless s.history), called s holds⟩

end World.Memoryless

/-- The answer to a call depends on the request only, and for a role definition not on the letter
case of its identifier; the signal to stop is given from the start or never.  The clock may go on,
as long as the lifetime of a token that is issued ends within the dates at all times or at none. -/
structure World.Stateless (world : World) : Prop where
  answer : ∀ call, call.isTimeless → ∀ history, world.answer history call = world.answer [] call
  letters : ∀ path other, Text.lower path = Text.lower other →
    world.answer [] (.operate (.roleDefinition path)) =
      world.answer [] (.operate (.roleDefinition other))
  lifetime : ∀ client authority secret scopes result,
    world.answer [] (.clientToken client authority secret scopes) = .ok result → ∀ history,
      (Directory.expiry (world.answer history .clock) result).isOk =
        (Directory.expiry (world.answer [] .clock) result).isOk
  signal : ∀ looks history, world.cancels looks history = world.cancels 0 []

namespace World.Stateless

variable {world : World}

/-- Services that answer all requests alike, those for the time included. -/
theorem of_requests (answer : ∀ call history, world.answer history call = world.answer [] call)
    (letters : ∀ path other, Text.lower path = Text.lower other →
      world.answer [] (.operate (.roleDefinition path)) =
        world.answer [] (.operate (.roleDefinition other)))
    (signal : ∀ looks history, world.cancels looks history = world.cancels 0 []) :
    world.Stateless where
  answer call _ := answer call
  letters
  signal
  lifetime := (Memoryless.of_requests answer).lifetime

theorem memoryless (stateless : world.Stateless) : world.Memoryless :=
  ⟨stateless.answer, stateless.lifetime⟩

end World.Stateless

/-! ## Tokens -/

namespace Directory

variable {world : World}

/-- Calls, reports and the outcome as a new token do not break the property, and with it every
token that is held is the outcome. -/
structure Bearing (outcome : Except Stop Value) (P : Session → Prop) : Prop where
  called : ∀ call s, P s → P { s with history := call :: s.history }
  recorded : ∀ record s, P s → P (Journaled.record record s)
  held : ∀ s key held, P s → s.tokens.get? key = some held → outcome = .ok held.token
  taken : ∀ s key token expires, P s → outcome = .ok token →
    P (Session.tokenPart.set (s.tokens.insert key ⟨token, expires⟩) s)

/-- A lifetime that leads out of the dates does so with one error. -/
theorem expiry_error {now later : Int} {result : Value} {misuse : Misuse}
    (never : expiry now result = .error misuse)
    (neither : (expiry later result).isOk = (expiry now result).isOk) :
    expiry later result = .error misuse := by
  -- An unreadable lifetime is one at all times; a readable one can only be too large.
  cases lifetime : (entryOr result "expires_in" (.int 3600)).toInteger with
  | error other =>
    have unreadable (time : Int) : expiry time result = .error other := by
      rw [expiry, lifetime]
      rfl
    rw [unreadable] at never ⊢
    exact never
  | ok seconds =>
    have dated (time : Int) : expiry time result =
        if startOfDates ≤ time + (seconds - 60) && time + (seconds - 60) < endOfDates then
          .ok (time + (seconds - 60))
        else .error .tooLarge := by
      rw [expiry, lifetime]
      rfl
    rw [never, dated] at neither
    rw [dated] at never ⊢
    split at never
    next => cases never
    next =>
      split at neither
      next => cases neither
      next outside => rwa [if_neg outside]

/-- At whatever time of the clock, the run comes to the one outcome, which is the token to use. -/
def Uniform (world : World) (run : Int → Act Value) : Prop :=
  ∃ outcome, ∀ P, Bearing outcome P → ∀ history, Ends P (run (world.answer history .clock)) outcome

namespace Uniform

variable {α : Type}

theorem throw (stop : Stop) : Uniform world fun _ => MonadExcept.throw stop :=
  ⟨_, fun _ _ _ => Ends.throw stop⟩

theorem reading {result : Except Misuse α} {next : Int → α → Act Value}
    (each : ∀ a, result = .ok a → Uniform world fun now => next now a) :
    Uniform world fun now => Run.reading result >>= next now := by
  cases result with
  | ok a => exact each a rfl
  | error misuse => exact throw _

theorem call (memoryless : world.Memoryless) {call : Call} (timeless : call.isTimeless = true)
    {next : Int → call.Answer → Act Value}
    (answered : Uniform world fun now => next now (world.answer [] call)) :
    Uniform world fun now => Act.call world call >>= next now := by
  obtain ⟨outcome, ends⟩ := answered
  exact ⟨outcome, fun P bearing history =>
    (memoryless.ends_call timeless (bearing.called call)).bind (ends P bearing history)⟩

theorem clock {next : Int → Act Value} (timed : Uniform world next) :
    Uniform world fun _ => (Act.call world .clock : Act Int) >>= next := by
  obtain ⟨outcome, ends⟩ := timed
  exact ⟨outcome, fun P bearing _ s holds =>
    ends P bearing s.history _ (bearing.called .clock s holds)⟩

end Uniform

section Tokens

variable (memoryless : world.Memoryless)

include memoryless

theorem uniform_issue (config : Value) (scopes : List String) (tenant client : Value)
    (account : Account) :
    Uniform world (clientToken.issue world config scopes tenant client account) := by
  unfold clientToken.issue
  refine Uniform.reading fun secret _ => Uniform.call memoryless rfl ?_
  split
  next => exact Uniform.throw _
  next => exact Uniform.throw _
  next result answered =>
    refine Uniform.reading fun found _ => ?_
    cases found with
    | none => exact Uniform.reading fun _ _ => Uniform.throw _
    | some token =>
      -- The outcome is fixed by the first reading of the clock; all others lead to the same.
      have lifetime := memoryless.lifetime _ _ _ _ result answered
      cases ending : expiry (world.answer [] .clock) result with
      | error misuse =>
        refine ⟨.error (.fault (.defect (.misuse misuse))), fun P _ history => ?_⟩
        simp only [expiry_error ending (lifetime history)]
        exact Ends.throw _
      | ok _ =>
        refine ⟨.ok token, fun P bearing history => ?_⟩
        have lasts := lifetime history
        cases found : expiry (world.answer history .clock) result with
        | error misuse =>
          rw [found, ending] at lasts
          cases lasts
        | ok expires =>
          simp only [found]
          refine (Ends.pure expires).bind ?_
          refine (Ends.modify fun s holds => bearing.taken s account token expires holds rfl).bind ?_
          exact (Ends.log bearing.recorded _ _ _).bind (Ends.pure token)

theorem uniform_clientToken (config : Value) (scopes : List String) :
    Uniform world fun _ => clientToken world config scopes := by
  unfold clientToken
  refine Uniform.reading fun tenant _ => Uniform.reading fun client _ => ?_
  refine Uniform.clock (Uniform.reading fun account _ => ?_)
  obtain ⟨outcome, issues⟩ := uniform_issue memoryless config scopes tenant client account
  refine ⟨outcome, fun P bearing history s holds => ?_⟩
  -- Whether a token is held and still good depends on the session; either way it is the same.
  have issued := issues P bearing history s holds
  have looked : Cache.lookup Session.tokenPart account s = (.ok (s.tokens.get? account), s) := rfl
  simp only
  rw [Run.bind_of_ok looked]
  cases known : s.tokens.get? account with
  | none => exact issued
  | some held =>
    simp only
    split
    next =>
      rw [bearing.held s _ held holds known]
      exact ((Ends.log bearing.recorded _ _ _).bind (Ends.pure held.token)) s holds
    next => exact issued

theorem uniform_token (settings : Settings) (scopes : List String) :
    Uniform world fun _ => token world settings scopes := by
  unfold token
  split
  next =>
    exact uniform_clientToken memoryless settings.config scopes
  next =>
    split
    next => exact Uniform.throw _
    next =>
      refine Uniform.call memoryless rfl ?_
      split
      next token _ => exact ⟨.ok (.text token), fun _ _ _ => Ends.pure _⟩
      next => split <;> exact Uniform.throw _

end Tokens

end Directory

end AccessSync
