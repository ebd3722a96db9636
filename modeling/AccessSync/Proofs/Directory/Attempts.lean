import AccessSync.Proofs.Ensures
import AccessSync.Directory.Client

/-!
# Attempts at a request

One logical request to the directory may take several attempts.  What is seen of it from outside are
the calls: requests with a pause between neighbours, each pause twice as long as the one before it.
An attempt follows on another one only if that failed in a way that may pass, and the outcome is
what the last attempt came to.
-/

namespace AccessSync.Directory

/-! ## Tokens -/

/-- No request is among the calls that were made between the two sessions. -/
def Unrequested (s t : Session) : Prop :=
  ∃ calls, t.history = calls ++ s.history ∧ ∀ request, Call.request request ∉ calls

/-- Why there is no token for a request. -/
inductive Withheld (world : World) : Stop → Prop where
  /-- The identity service or the credential refused, or could not be asked. -/
  | refused {kind : RequestFaultKind} (message : String)
      (known : kind = .unauthorized ∨ kind = .other) :
      Withheld world (.fault (.failure { cause := .request ⟨kind, message, none, none⟩ }))
  /-- The configuration or the answer of the identity service lacks something. -/
  | misuse (misuse : Misuse) : Withheld world (.fault (.defect (.misuse misuse)))
  /-- The identity service was asked, and an error arose that has nothing to do with requests. -/
  | identityForeign {history : List Call} {client secret : Value} {authority message : String}
      {scopes : List String}
      (answer : world.answer history (.clientToken client authority secret scopes) =
        .error (.unexpected message)) :
      Withheld world (.fault (.defect (.unexpected message)))
  /-- The credential was asked, and an error arose that has nothing to do with its library. -/
  | credentialForeign {history : List Call} {scopes : List String} {e : ServiceError}
      (answer : world.answer history (.credentialToken scopes) = .error e)
      (kind : e.kind = .foreign) : Withheld world (.fault (.defect (.unexpected e.message)))

section

variable {world : World} {settings : Settings} {s t : Session}

theorem Unrequested.refl (s : Session) : Unrequested s s := ⟨[], rfl, nofun⟩

theorem Unrequested.call {call : Call} (other : ∀ request, call ≠ .request request)
    (before : Unrequested s t) : Unrequested s { t with history := call :: t.history } := by
  obtain ⟨calls, same, free⟩ := before
  refine ⟨call :: calls, by rw [same, List.cons_append], fun request member => ?_⟩
  obtain here | there := List.mem_cons.mp member
  · exact other request here.symm
  · exact free request there

/-- A call that is no request, after which the run goes on by the answer. -/
theorem stopsFor_call {α : Type} {E : Stop → Prop} {call : Call} {next : call.Answer → Act α}
    (other : ∀ request, call ≠ .request request)
    (others : ∀ history, StopsFor (Unrequested s) E (next (world.answer history call))) :
    StopsFor (Unrequested s) E (Act.call world call >>= next) :=
  fun t before => others t.history _ (before.call other)

theorem stopsFor_log (severity : Severity) (message : String) {E : Stop → Prop} :
    StopsFor (Unrequested s) E (Run.log severity component message) :=
  StopsFor.modify fun _ before => before

theorem stopsFor_serviceFailure {α : Type} {kind : RequestFaultKind} (message : String)
    (known : kind = .unauthorized ∨ kind = .other) :
    StopsFor (Unrequested s) (Withheld world) (serviceFailure kind message : Act α) :=
  StopsFor.throw (.refused message known)

theorem stopsFor_issue (config : Value) (scopes : List String) (tenant client : Value)
    (account : Account) (now : Int) :
    StopsFor (Unrequested s) (Withheld world)
      (clientToken.issue world config scopes tenant client account now) := by
  refine (StopsFor.reading .misuse).bind fun secret => ?_
  refine stopsFor_call nofun fun history => ?_
  split
  next message _ => exact stopsFor_serviceFailure _ (.inr rfl)
  next message answer => exact StopsFor.throw (.identityForeign answer)
  next result _ =>
    refine (StopsFor.reading .misuse).bind fun found => ?_
    split
    next => exact (StopsFor.reading .misuse).bind fun _ => stopsFor_serviceFailure _ (.inl rfl)
    next token =>
      refine (StopsFor.reading .misuse).bind fun expires => ?_
      refine StopsFor.bind (StopsFor.modify fun _ before => before) fun _ => ?_
      exact (stopsFor_log _ _).bind fun _ => StopsFor.pure token

theorem stopsFor_clientToken (config : Value) (scopes : List String) :
    StopsFor (Unrequested s) (Withheld world) (clientToken world config scopes) := by
  refine (StopsFor.reading .misuse).bind fun tenant => ?_
  refine (StopsFor.reading .misuse).bind fun client => ?_
  refine stopsFor_call nofun fun history => ?_
  refine (StopsFor.reading .misuse).bind fun account => ?_
  refine StopsFor.bind (StopsFor.read fun t => ?_) fun found => ?_
  · exact StopsFor.pure _
  · split
    next held =>
      split
      next => exact (stopsFor_log _ _).bind fun _ => StopsFor.pure held.token
      next => exact stopsFor_issue _ _ _ _ _ _
    next => exact stopsFor_issue _ _ _ _ _ _

/-- A token is obtained without a request, or there is a reason why there is none. -/
theorem stopsFor_token (scopes : List String) :
    StopsFor (Unrequested s) (Withheld world) (token world settings scopes) := by
  unfold token
  split
  next => exact stopsFor_clientToken _ _
  next =>
    split
    next => exact stopsFor_serviceFailure _ (.inl rfl)
    next =>
      refine stopsFor_call nofun fun history => ?_
      split
      next token _ => exact StopsFor.pure _
      next e answer =>
        split
        next => exact stopsFor_serviceFailure _ (.inl rfl)
        next foreign => exact StopsFor.throw (.credentialForeign answer foreign)
        next => exact stopsFor_serviceFailure _ (.inr rfl)

end

/-! ## Attempts -/

/-- The calls of attempts that were repeated, each with the pause after it, the latest first. -/
def repeated (request : HttpRequest) (baseDelay : Float) : Nat → List Call
  | 0 => []
  | n + 1 =>
    .sleep (baseDelay * Float.ofNat (Nat.pow 2 n)) ::
      .request request :: repeated request baseDelay n

/-- The calls up to the attempt after so many others, the latest first. -/
def callsUntil (request : HttpRequest) (baseDelay : Float) (repeats : Nat) (history : List Call) :
    List Call :=
  .request request :: (repeated request baseDelay repeats ++ history)

/-- The attempt failed in a way that may pass. -/
inductive Passing : Except TransportError HttpResponse → Prop where
  | connection (message : String) : Passing (.error ⟨.connection, message⟩)
  | timeout (message : String) : Passing (.error ⟨.timeout, message⟩)
  | status {response : HttpResponse}
      (passes : response.status = 500 ∨ response.status = 502 ∨ response.status = 503) :
      Passing (.ok response)

def requestFails (request : HttpRequest) (kind : RequestFaultKind) (status : Option Int)
    (message : String) : Except Stop Value :=
  .error (.fault (.failure { cause := .request ⟨kind, message, status, request.url⟩ }))

def requestRefused (request : HttpRequest) (response : HttpResponse) (kind : RequestFaultKind) :
    Except Stop Value :=
  requestFails request kind response.status
    s!"{request.method} {request.url} failed with {response.status}: {Text.take 500 response.body}"

/-- What a request comes to by its last attempt. -/
inductive Classified (request : HttpRequest) (attempts : Nat) :
    Except TransportError HttpResponse → Except Stop Value → Prop where
  | empty {response : HttpResponse} (answered : response.status < 400)
      (nothing : response.status = 204 ∨ response.body = "") :
      Classified request attempts (.ok response) (.ok .null)
  | decoded {response : HttpResponse} {body : Value} (answered : response.status < 400)
      (something : response.status ≠ 204 ∧ response.body ≠ "")
      (parses : Json.parse? response.body = some body) :
      Classified request attempts (.ok response) (.ok body)
  | undecodable {response : HttpResponse} (answered : response.status < 400)
      (something : response.status ≠ 204 ∧ response.body ≠ "")
      (parses : Json.parse? response.body = none) :
      Classified request attempts (.ok response) (requestFails request .other response.status
        s!"{request.method} {request.url} returned a non-JSON body")
  | notFound {response : HttpResponse} (status : response.status = 404) :
      Classified request attempts (.ok response) (requestRefused request response .notFound)
  | rateLimited {response : HttpResponse}
      (status : response.status = 429 ∨ response.status = 504) :
      Classified request attempts (.ok response) (requestRefused request response
        (.rateLimited (retryAfter (response.header? "Retry-After"))))
  | unauthorized {response : HttpResponse}
      (status : response.status = 401 ∨ response.status = 403) :
      Classified request attempts (.ok response) (requestRefused request response .unauthorized)
  | refused {response : HttpResponse} (status : 400 ≤ response.status)
      (other : response.status ∉ [401, 403, 404, 429, 504]) :
      Classified request attempts (.ok response) (requestRefused request response .other)
  | unanswered {e : TransportError} (kind : e.kind ≠ .other) :
      Classified request attempts (.error e) (requestFails request .other none
        s!"{request.method} {request.url} failed after {attempts} attempts: {e.message}")
  | failed {e : TransportError} (kind : e.kind = .other) :
      Classified request attempts (.error e) (requestFails request .other none
        s!"{request.method} {request.url} failed: {e.message}")

/-- The answer to the attempt after so many others. -/
def answerAfter (world : World) (settings : Settings) (request : HttpRequest)
    (history : List Call) (repeats : Nat) : Except TransportError HttpResponse :=
  world.answer (repeated request settings.baseDelay repeats ++ history) (.request request)

/-- What becomes of the pause after the attempt after so many others. -/
def pauseAfter (world : World) (settings : Settings) (request : HttpRequest)
    (history : List Call) (repeats : Nat) : Except PauseError Unit :=
  world.answer (callsUntil request settings.baseDelay repeats history)
    (.sleep (settings.baseDelay * Float.ofNat (Nat.pow 2 repeats)))

/-- How attempts at a request end, of which so many were repeated, with the calls until then. -/
inductive AttemptsEnd (world : World) (settings : Settings) (request : HttpRequest) (limit : Nat)
    (history : List Call) (repeats : Nat) : List Call → Except Stop Value → Prop where
  /-- The last attempt counts.  If another one might help, there are none left. -/
  | concluded {outcome : Except Stop Value}
      (spent : Passing (answerAfter world settings request history repeats) → repeats + 1 = limit)
      (classified : Classified request (repeats + 1)
        (answerAfter world settings request history repeats) outcome) :
      AttemptsEnd world settings request limit history repeats
        (callsUntil request settings.baseDelay repeats history) outcome
  /-- There are attempts left, and the pause before the next one is beyond all numbers. -/
  | brokenOff (passing : Passing (answerAfter world settings request history repeats))
      (many : repeats = 1024) (left : repeats + 1 < limit) :
      AttemptsEnd world settings request limit history repeats
        (callsUntil request settings.baseDelay repeats history)
        (.error (.fault (.defect (.misuse .tooLarge))))
  /-- There are attempts left, and the pause before the next one is refused. -/
  | unrested {e : PauseError}
      (passing : Passing (answerAfter world settings request history repeats))
      (few : repeats < 1024) (left : repeats + 1 < limit)
      (refused : pauseAfter world settings request history repeats = .error e) :
      AttemptsEnd world settings request limit history repeats
        (.sleep (settings.baseDelay * Float.ofNat (Nat.pow 2 repeats)) ::
          callsUntil request settings.baseDelay repeats history)
        (.error (.fault (.defect (.misuse e.misuse))))

/-- The attempts at a request that were made from a history on: so many were repeated, each after a
failure that may pass and a pause, and they came to the outcome. -/
structure Attempted (world : World) (settings : Settings) (request : HttpRequest) (limit : Nat)
    (history : List Call) (repeats : Nat) (after : List Call) (outcome : Except Stop Value) :
    Prop where
  within : repeats < limit ∧ repeats ≤ 1024
  passing : ∀ earlier < repeats, Passing (answerAfter world settings request history earlier)
  paused : ∀ earlier < repeats, pauseAfter world settings request history earlier = .ok ()
  ends : AttemptsEnd world settings request limit history repeats after outcome

section

variable {world : World} {settings : Settings} {request : HttpRequest} {s t : Session}

theorem isSome_passingReason?_iff {outcome : Except TransportError HttpResponse} :
    (passingReason? outcome).isSome = true ↔ Passing outcome := by
  unfold passingReason?
  constructor
  · intro given
    split at given
    next e =>
      obtain ⟨kind, message⟩ := e
      cases kind with
      | connection => exact .connection message
      | timeout => exact .timeout message
      | other => cases given
    next response =>
      split at given
      next passes => exact .status (by simpa [isPassing, or_assoc] using passes)
      next => cases given
  · intro passing
    cases passing with
    | connection => rfl
    | timeout => rfl
    | status passes => simp [isPassing, passes, or_assoc]

/-- A request comes to a value, or to a failure of a request. -/
theorem Classified.ok_or_fails {attempts : Nat} {answer : Except TransportError HttpResponse}
    {outcome : Except Stop Value} (classified : Classified request attempts answer outcome) :
    (∃ value, outcome = .ok value) ∨
      ∃ kind status message, outcome = requestFails request kind status message := by
  cases classified with
  | empty | decoded => exact .inl ⟨_, rfl⟩
  | undecodable | notFound | rateLimited | unauthorized | refused | unanswered | failed =>
    exact .inr ⟨_, _, _, rfl⟩

/-- Where the pause is granted, attempts end with a failure that may pass for want of further
attempts, or of a pause that is a number. -/
theorem AttemptsEnd.of_passing {limit repeats : Nat} {history after : List Call}
    {outcome : Except Stop Value}
    (ends : AttemptsEnd world settings request limit history repeats after outcome)
    (passing : Passing (answerAfter world settings request history repeats))
    (granted : pauseAfter world settings request history repeats = .ok ()) :
    repeats + 1 = limit ∨
      repeats = 1024 ∧ outcome = .error (.fault (.defect (.misuse .tooLarge))) := by
  cases ends with
  | concluded spent classified => exact .inl (spent passing)
  | brokenOff passing many left => exact .inr ⟨many, rfl⟩
  | unrested passing few left refused =>
    rw [granted] at refused
    cases refused

/-- Where the pause is granted, the last attempt is the last call. -/
theorem AttemptsEnd.calls {limit repeats : Nat} {history after : List Call}
    {outcome : Except Stop Value}
    (ends : AttemptsEnd world settings request limit history repeats after outcome)
    (granted : pauseAfter world settings request history repeats = .ok ()) :
    after = callsUntil request settings.baseDelay repeats history := by
  cases ends with
  | concluded | brokenOff => rfl
  | unrested passing few left refused =>
    rw [granted] at refused
    cases refused

/-- A refusal is classified by its status. -/
theorem classified_refusal (attempts : Nat) {response : HttpResponse}
    (status : 400 ≤ response.status) :
    Classified request attempts (.ok response)
      (requestRefused request response (refusalKind response)) := by
  unfold refusalKind
  by_cases absent : response.status = 404
  · simp only [absent, if_true]
    exact .notFound absent
  · simp only [absent, if_false]
    by_cases wait : response.status = 429 ∨ response.status = 504
    · simp only [wait, Bool.or_eq_true, decide_eq_true_eq, if_true]
      exact .rateLimited wait
    · simp only [wait, Bool.or_eq_true, decide_eq_true_eq, if_false]
      by_cases denied : response.status = 401 ∨ response.status = 403
      · simp only [denied, if_true]
        exact .unauthorized denied
      · simp only [denied, if_false]
        exact .refused status (by simp only [List.mem_cons, List.not_mem_nil, or_false]; omega)

theorem interpret_classified (attempts : Nat) (response : HttpResponse) (s : Session) :
    ∃ outcome, interpret request.method request.url response s = (outcome, s) ∧
      Classified request attempts (.ok response) outcome := by
  unfold interpret
  by_cases refused : 400 ≤ response.status
  · simp only [refused, if_true]
    exact ⟨_, rfl, classified_refusal attempts refused⟩
  · simp only [refused, if_false]
    have answered : response.status < 400 := Int.not_le.mp refused
    by_cases nothing : response.status = 204 ∨ response.body = ""
    · have isEmpty : (decide (response.status = 204) || response.body.isEmpty) = true := by
        simpa using nothing
      simp only [isEmpty, if_true]
      exact ⟨_, rfl, .empty answered nothing⟩
    · have isEmpty : ¬ (decide (response.status = 204) || response.body.isEmpty) = true := by
        simpa using nothing
      have something : response.status ≠ 204 ∧ response.body ≠ "" := not_or.mp nothing
      rw [if_neg isEmpty]
      cases parses : Json.parse? response.body with
      | some body => exact ⟨_, rfl, .decoded answered something parses⟩
      | none => exact ⟨_, rfl, .undecodable answered something parses⟩

/-- The last attempt decides what the request comes to, without another call. -/
theorem conclude_classified (request : HttpRequest) (attempts : Nat)
    (answer : Except TransportError HttpResponse) (s : Session) :
    ∃ outcome, conclude request attempts answer s = (outcome, s) ∧
      Classified request attempts answer outcome := by
  cases answer with
  | ok response => exact interpret_classified attempts response s
  | error e =>
    unfold conclude
    by_cases other : e.kind = .other
    · simp only [other, if_true]
      exact ⟨_, rfl, .failed other⟩
    · simp only [other, if_false]
      exact ⟨_, rfl, .unanswered other⟩

/-- A refusal is concluded with its kind and with the first part of its body. -/
theorem conclude_of_refused {response : HttpResponse} (refused : 400 ≤ response.status)
    (attempts : Nat) : conclude request attempts (.ok response) s =
      (requestRefused request response (refusalKind response), s) := by
  simp only [conclude, interpret, refused, if_true]
  rfl

/-- An attempt that did not fail in a way that may pass counts, however many attempts remain. -/
theorem send_of_lasting {answer : Except TransportError HttpResponse}
    (answered : world.answer s.history (.request request) = answer)
    (lasting : passingReason? answer = none) (attempt remaining : Nat) :
    send world settings request attempt remaining s =
      conclude request attempt answer { s with history := .request request :: s.history } := by
  have asked : Act.call world (.request request) s =
      (.ok answer, { s with history := .request request :: s.history }) := by
    rw [← answered]
    rfl
  cases remaining with
  | zero => rw [send, Run.bind_of_ok asked]
  | succ remaining =>
    rw [send, Run.bind_of_ok asked]
    simp only [lasting]

/-- A pause that is a number is asked for; what becomes of it decides whether the request goes
on. -/
theorem backOff_of_le (world : World) (settings : Settings) {attempt : Nat} (few : attempt ≤ 1024)
    (name reason : String) (s : Session) {paused : Except PauseError Unit}
    (answered : world.answer s.history
      (.sleep (settings.baseDelay * Float.ofNat (Nat.pow 2 (attempt - 1)))) = paused) :
    ∃ t, t.history =
        .sleep (settings.baseDelay * Float.ofNat (Nat.pow 2 (attempt - 1))) :: s.history ∧
      backOff world settings name attempt reason s =
        Run.reading (paused.mapError PauseError.misuse) t := by
  subst answered
  unfold backOff pause
  rw [if_neg (Nat.not_lt.mpr few)]
  exact ⟨_, rfl, rfl⟩

theorem backOff_of_lt {attempt : Nat} (many : 1024 < attempt) (name reason : String) :
    backOff world settings name attempt reason s =
      (.error (.fault (.defect (.misuse .tooLarge))), s) := by
  unfold backOff pause
  rw [if_pos many]
  rfl

/-- The attempt that counts. -/
theorem attempted_of_concluded {history : List Call} {limit repeats : Nat}
    (within : repeats < limit ∧ repeats ≤ 1024)
    (here : s.history = repeated request settings.baseDelay repeats ++ history)
    (passing : ∀ earlier < repeats, Passing (answerAfter world settings request history earlier))
    (paused : ∀ earlier < repeats, pauseAfter world settings request history earlier = .ok ())
    (spent : Passing (answerAfter world settings request history repeats) → repeats + 1 = limit) :
    ∃ t outcome, conclude request (repeats + 1) (answerAfter world settings request history repeats)
        { s with history := .request request :: s.history } = (outcome, t) ∧
      Attempted world settings request limit history repeats t.history outcome := by
  obtain ⟨outcome, concludes, classified⟩ := conclude_classified request (repeats + 1)
    (answerAfter world settings request history repeats)
    { s with history := .request request :: s.history }
  refine ⟨_, outcome, concludes, within, passing, paused, ?_⟩
  rw [here]
  exact .concluded spent classified

/-- With attempts behind it that were repeated, the request is sent until an attempt counts. -/
theorem send_attempted (world : World) (settings : Settings) (request : HttpRequest)
    {history : List Call} {limit repeats remaining : Nat}
    (total : repeats + remaining + 1 = limit) (few : repeats ≤ 1024)
    (here : s.history = repeated request settings.baseDelay repeats ++ history)
    (passing : ∀ earlier < repeats, Passing (answerAfter world settings request history earlier))
    (paused : ∀ earlier < repeats, pauseAfter world settings request history earlier = .ok ()) :
    ∃ final t outcome, send world settings request (repeats + 1) remaining s = (outcome, t) ∧
      Attempted world settings request limit history final t.history outcome := by
  -- On the attempts that remain; each one makes the request with the same calls behind it as the
  -- answers are counted by.
  have asked : Act.call world (.request request) s =
      (.ok (answerAfter world settings request history repeats),
        { s with history := .request request :: s.history }) := by
    rw [answerAfter, ← here]
    rfl
  induction remaining generalizing repeats s with
  | zero =>
    have within : repeats < limit ∧ repeats ≤ 1024 := by omega
    obtain ⟨t, outcome, concludes, attempted⟩ := attempted_of_concluded within here passing paused
      fun _ => total
    refine ⟨repeats, t, outcome, ?_, attempted⟩
    rw [send, Run.bind_of_ok asked]
    exact concludes
  | succ remaining inductionHypothesis =>
    rw [send, Run.bind_of_ok asked]
    cases reason : passingReason? (answerAfter world settings request history repeats) with
    | none =>
      have counts : ¬ Passing (answerAfter world settings request history repeats) := by
        rw [← isSome_passingReason?_iff, reason]
        decide
      have within : repeats < limit ∧ repeats ≤ 1024 := by omega
      obtain ⟨t, outcome, concludes, attempted⟩ := attempted_of_concluded within here passing paused
        fun passes => absurd passes counts
      exact ⟨repeats, t, outcome, concludes, attempted⟩
    | some why =>
      have passes : Passing (answerAfter world settings request history repeats) := by
        rw [← isSome_passingReason?_iff, reason]
        rfl
      dsimp only
      obtain few | many := Nat.lt_or_ge repeats 1024
      · have answered : world.answer (.request request :: s.history)
            (.sleep (settings.baseDelay * Float.ofNat (Nat.pow 2 (repeats + 1 - 1)))) =
              pauseAfter world settings request history repeats := by
          rw [here]
          rfl
        obtain ⟨t, after, backsOff⟩ := backOff_of_le world settings few
          (requestName request.method request.url) why
          { s with history := .request request :: s.history } answered
        have there : t.history =
            repeated request settings.baseDelay (repeats + 1) ++ history := by
          rw [after, here]
          rfl
        cases granted : pauseAfter world settings request history repeats with
        | error e =>
          rw [granted] at backsOff
          rw [Run.bind_of_error backsOff]
          refine ⟨repeats, _, _, rfl, by omega, passing, paused, ?_⟩
          rw [there]
          exact .unrested passes few (by omega) granted
        | ok =>
          rw [granted] at backsOff
          rw [Run.bind_of_ok backsOff]
          refine inductionHypothesis (by omega) few there (fun other before => ?_)
            (fun other before => ?_) ?_
          · obtain before | rfl := Nat.lt_succ_iff_lt_or_eq.mp before
            · exact passing other before
            · exact passes
          · obtain before | rfl := Nat.lt_succ_iff_lt_or_eq.mp before
            · exact paused other before
            · exact granted
          · rw [answerAfter, ← there]
            rfl
      · rw [Run.bind_of_error (backOff_of_lt (by omega) _ _)]
        refine ⟨repeats, _, _, rfl, by omega, passing, paused, ?_⟩
        rw [here]
        exact .brokenOff passes (by omega) (by omega)

/-- One logical request.  Without a token no request is made, for a reason that is told.  With one,
the request is attempted until an attempt counts, at most as often as the settings say; the pauses
stop it only after more than a thousand failures or when one is refused.  An error of a library is
never passed on. -/
theorem query_attempts (world : World) (settings : Settings) (scopes : List String)
    (method url : String) (body : Option Value) (s : Session) :
    (∀ stop t, token world settings scopes s = (.error stop, t) →
      query world settings scopes method url body s = (.error stop, t) ∧ Unrequested s t ∧
        Withheld world stop) ∧
    (∀ held t, token world settings scopes s = (.ok held, t) →
      Unrequested s t ∧
        ∃ repeats after outcome, query world settings scopes method url body s = (outcome, after) ∧
          Attempted world settings ⟨method, url, headers held, body, settings.timeout⟩
            (max 1 settings.maxAttempts).toNat t.history repeats after.history outcome) ∧
    ∀ e, (query world settings scopes method url body s).1 ≠
      .error (.fault (.defect (.service e))) := by
  have obtains : StopsFor (Unrequested s) (Withheld world) (token world settings scopes) :=
    stopsFor_token scopes
  have withheld (stop : Stop) (t : Session)
      (none : token world settings scopes s = (.error stop, t)) :
      query world settings scopes method url body s = (.error stop, t) ∧ Unrequested s t ∧
        Withheld world stop := by
    obtain ⟨unrequested, reasons⟩ := obtains s (.refl s)
    rw [none] at unrequested reasons
    exact ⟨Run.bind_of_error none, unrequested, reasons stop rfl⟩
  have attempted (held : Value) (t : Session)
      (given : token world settings scopes s = (.ok held, t)) :
      Unrequested s t ∧
        ∃ repeats after outcome, query world settings scopes method url body s = (outcome, after) ∧
          Attempted world settings ⟨method, url, headers held, body, settings.timeout⟩
            (max 1 settings.maxAttempts).toNat t.history repeats after.history outcome := by
    obtain ⟨unrequested, -⟩ := obtains s (.refl s)
    rw [given] at unrequested
    have total : 0 + (settings.maxAttempts - 1).toNat + 1 = (max 1 settings.maxAttempts).toNat := by
      omega
    obtain ⟨repeats, after, outcome, sends, attempted⟩ := send_attempted world settings
      ⟨method, url, headers held, body, settings.timeout⟩ total (Nat.zero_le _)
      (rfl : t.history = _) nofun nofun
    refine ⟨unrequested, repeats, after, outcome, ?_, attempted⟩
    rw [query, Run.bind_of_ok given]
    exact sends
  refine ⟨withheld, attempted, fun e same => ?_⟩
  -- Neither the reasons why there is no token nor the ends of attempts are errors of a library.
  match outcome : token world settings scopes s with
  | (.error stop, t) =>
    obtain ⟨stops, -, reason⟩ := withheld stop t outcome
    rw [stops] at same
    cases same
    cases reason
  | (.ok held, t) =>
    obtain ⟨-, repeats, after, outcome, comes, attempts⟩ := attempted held t outcome
    rw [comes] at same
    dsimp only at same
    subst same
    obtain ⟨-, -, -, ends⟩ := attempts
    generalize after.history = calls at ends
    cases ends with
    | concluded spent classified =>
      obtain ⟨value, same⟩ | ⟨kind, status, message, same⟩ := classified.ok_or_fails
      · cases same
      · cases same

end

/-! ## Services that answer in turn -/

def isRequest : Call → Bool
  | .request _ => true
  | _ => false

theorem countP_repeated (request : HttpRequest) (baseDelay : Float) (n : Nat) :
    (repeated request baseDelay n).countP isRequest = n := by
  induction n with
  | zero => rfl
  | succ n inductionHypothesis =>
    rw [repeated, List.countP_cons_of_neg (by simp [isRequest]), List.countP_cons_of_pos rfl,
      inductionHypothesis]

/-- A directory that gives the answers to requests in turn. -/
def sequenceWorld (answers : Nat → Except TransportError HttpResponse) : World where
  answer history
    | .request _ => answers (history.countP isRequest)
    | .clientToken .. => .error (.unexpected "")
    | .credentialToken _ => .ok "token"
    | .openClient _ => ()
    | .listPage .. => .ok .none
    | .operate _ => .ok .null
    | .freshName => ""
    | .sleep _ => .ok ()
    | .clock => (0 : Int)
  cancels _ _ := false

theorem answerAfter_sequenceWorld (answers : Nat → Except TransportError HttpResponse)
    (settings : Settings) (request : HttpRequest) {history : List Call}
    (fresh : history.countP isRequest = 0) (repeats : Nat) :
    answerAfter (sequenceWorld answers) settings request history repeats = answers repeats := by
  simp [answerAfter, sequenceWorld, countP_repeated, fresh]

theorem pauseAfter_sequenceWorld (answers : Nat → Except TransportError HttpResponse)
    (settings : Settings) (request : HttpRequest) (history : List Call) (repeats : Nat) :
    pauseAfter (sequenceWorld answers) settings request history repeats = .ok () := rfl

/-- The connection breaks, the service fails, and then there is an answer without a body. -/
def thirdTime : Nat → Except TransportError HttpResponse
  | 0 => .error ⟨.connection, "reset"⟩
  | 1 => .ok ⟨503, [], "try later"⟩
  | _ => .ok ⟨204, [], ""⟩

abbrev plainRequest : HttpRequest := ⟨"GET", host, headers (.text "token"), none, 30⟩

/-- The third attempt counts, which is the last one too. -/
theorem query_attempts_thirdTime :
    let settings : Settings := ⟨.mapping [], true, 30, 3, 1⟩
    let world := sequenceWorld thirdTime
    ∃ t after, token world settings defaultScopes .new = (.ok (.text "token"), t) ∧
      query world settings defaultScopes "GET" host none .new = (.ok .null, after) ∧
      after.history = [.request plainRequest, .sleep (1 * Float.ofNat (Nat.pow 2 1)),
        .request plainRequest, .sleep (1 * Float.ofNat (Nat.pow 2 0)), .request plainRequest] ++
          t.history := by
  intro settings world
  obtain ⟨-, attempted, -⟩ :=
    query_attempts world settings defaultScopes "GET" host none .new
  obtain ⟨repeats, after, outcome, comes, within, passing, paused, ends⟩ :
      ∃ repeats after outcome,
        query world settings defaultScopes "GET" host none .new = (outcome, after) ∧
          Attempted world settings plainRequest 3 [.credentialToken defaultScopes] repeats
            after.history outcome :=
    (attempted (.text "token") _ rfl).2
  have granted := pauseAfter_sequenceWorld thirdTime settings plainRequest
    [.credentialToken defaultScopes] repeats
  have answers (n : Nat) : answerAfter world settings plainRequest
      [.credentialToken defaultScopes] n = thirdTime n :=
    answerAfter_sequenceWorld thirdTime settings plainRequest rfl n
  -- The third answer is the first that may not pass, so it is the one that counts.
  have counts : ¬ Passing (thirdTime 2) := by
    rintro ⟨⟩
    contradiction
  have most : repeats ≤ 2 := Nat.not_lt.mp fun more => counts (answers 2 ▸ passing 2 more)
  have least : 2 ≤ repeats := by
    refine Nat.not_lt.mp fun fewer => ?_
    have passes : Passing (thirdTime repeats) := by
      obtain rfl | rfl : repeats = 0 ∨ repeats = 1 := by omega
      · exact .connection "reset"
      · exact .status (by decide)
    obtain spent | ⟨many, -⟩ := ends.of_passing (answers repeats ▸ passes) granted <;> omega
  obtain rfl : repeats = 2 := Nat.le_antisymm most least
  have calls := ends.calls granted
  have answered : outcome = .ok .null := by
    generalize after.history = made at ends
    cases ends with
    | brokenOff passes => exact absurd (answers 2 ▸ passes) counts
    | unrested passes => exact absurd (answers 2 ▸ passes) counts
    | concluded spent classified =>
      rw [answers] at classified
      cases classified with
      | empty => rfl
      | decoded answered something | undecodable answered something => exact absurd rfl something.1
      | notFound status | rateLimited status | unauthorized status | refused status =>
        exact absurd status (by decide)
  subst answered
  exact ⟨_, after, rfl, comes, calls⟩

/-- The service fails all the time, and the pauses come to an end before the attempts do. -/
theorem exists_request_broken_off :
    let settings : Settings := ⟨.mapping [], true, 30, 1026, 0⟩
    let world := sequenceWorld fun _ => .ok ⟨500, [], ""⟩
    ∃ t after outcome, token world settings defaultScopes .new = (.ok (.text "token"), t) ∧
      query world settings defaultScopes "GET" host none .new = (outcome, after) ∧
      after.history.countP isRequest = 1025 ∧
      ∀ attempts answer, ¬ Classified plainRequest attempts answer outcome := by
  intro settings world
  obtain ⟨-, attempted, -⟩ :=
    query_attempts world settings defaultScopes "GET" host none .new
  obtain ⟨repeats, after, outcome, comes, within, passing, paused, ends⟩ :
      ∃ repeats after outcome,
        query world settings defaultScopes "GET" host none .new = (outcome, after) ∧
          Attempted world settings plainRequest 1026 [.credentialToken defaultScopes] repeats
            after.history outcome :=
    (attempted (.text "token") _ rfl).2
  have granted : pauseAfter world settings plainRequest [.credentialToken defaultScopes] repeats =
      .ok () := pauseAfter_sequenceWorld ..
  have fails : Passing (answerAfter world settings plainRequest
      [.credentialToken defaultScopes] repeats) := .status (.inl rfl)
  obtain ⟨rfl, rfl⟩ : repeats = 1024 ∧ outcome = .error (.fault (.defect (.misuse .tooLarge))) := by
    obtain spent | broken := ends.of_passing fails granted
    · omega
    · exact broken
  refine ⟨_, after, _, rfl, comes, ?_, fun attempts answer classified => ?_⟩
  · rw [ends.calls granted, callsUntil, List.countP_cons_of_pos rfl, List.countP_append,
      countP_repeated]
    rfl
  · obtain ⟨value, same⟩ | ⟨kind, status, message, same⟩ := classified.ok_or_fails
    · cases same
    · cases same

end AccessSync.Directory
