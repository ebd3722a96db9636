import AccessSync.Management.Client
import AccessSync.Proofs.Ends

/-!
# Pages of the management service

A service whose pages depend on the collection and the token only decides what a page is read as.
The property of sessions that is carried along may say what it likes of the session, as long as
reading pages, opening clients and reporting leave it alone.
-/

namespace AccessSync

/-- Reading pages, opening clients and reporting do not break the property. -/
structure Unaffected (P : Session → Prop) : Prop where
  listed : ∀ s listing token, P s → P { s with history := .listPage listing token :: s.history }
  opened : ∀ s client, P s →
    P { s with history := .openClient client :: s.history, clients := client :: s.clients }
  recorded : ∀ record s, P s → P (Journaled.record record s)

variable {P : Session → Prop}

theorem Act.call_apply (world : World) (call : Call) (s : Session) :
    Act.call world call s =
      (.ok (world.answer s.history call), { s with history := call :: s.history }) := rfl

theorem ends_log (unaffected : Unaffected P) (severity : Severity) (component message : String) :
    Ends P (Run.log severity component message : Act Unit) (.ok ()) :=
  Ends.log unaffected.recorded severity component message

namespace Management

variable {world : World}

theorem ends_withClient (unaffected : Unaffected P) (world : World) (client : ManagementClient) :
    Ends P (withClient world client) (.ok ()) := by
  refine Ends.read fun s _ => ?_
  split
  next => exact fun t holds => ⟨rfl, unaffected.opened t client holds⟩
  next => exact Ends.pure ()

theorem ends_listPage_call (unaffected : Unaffected P) {listing : Listing} {token : Option String}
    {result : Except ServiceError ListedPage}
    (answer : ∀ history, world.answer history (.listPage listing token) = result) :
    Ends P (Act.call world (.listPage listing token)) (.ok result) :=
  fun s holds => ⟨congrArg _ (answer s.history), unaffected.listed s listing token holds⟩

theorem decided_refuse {ρ : Type} (operation : String) (e : ServiceError) :
    Decided P (refuse operation e : Act ρ) := by
  unfold refuse
  split
  next => exact Decided.throw _
  next => exact Decided.throw _

section Page

variable {ρ : Type} {listing : Listing} {token : Option String}
  {convert : Value → Except Misuse ρ} {result : Except ServiceError ListedPage}

theorem decided_listPage (unaffected : Unaffected P)
    (answer : ∀ history, world.answer history (.listPage listing (token.filter (!·.isEmpty))) =
      result) (operation : String) :
    Decided P (listPage world operation listing token convert) := by
  refine Decided.bind ⟨_, ends_listPage_call unaffected answer⟩ fun found => ?_
  cases found with
  | error e => exact decided_refuse operation e
  | ok page =>
    refine (Decided.reading _).bind fun records => ?_
    split
    next => exact decided_refuse operation _
    next => exact Decided.pure _

theorem ends_listPage (unaffected : Unaffected P) {items : List Value} {next : Option String}
    {records : List ρ}
    (answer : ∀ history, world.answer history (.listPage listing (token.filter (!·.isEmpty))) =
      .ok ⟨items, next, none⟩) (read : items.mapM convert = .ok records) (operation : String) :
    Ends P (listPage world operation listing token convert)
      (.ok ⟨records, next.filter (!·.isEmpty)⟩) := by
  refine (ends_listPage_call unaffected answer).bind ?_
  exact (Ends.reading read).bind (Ends.pure _)

end Page

/-! ## Role assignments -/

/-- The pages from a token on hold the role assignments: the tokens of the pages, and what their
items are read as. -/
inductive Holds (pages : Option String → Except ServiceError ListedPage) :
    Option String → List (Option String) → List RoleAssignment → Prop where
  | last {token : Option String} {items : List Value} {offered : Option String}
      {found : List RoleAssignment} (answer : pages token = .ok ⟨items, offered, none⟩)
      (read : items.mapM RoleAssignment.ofValue = .ok found)
      (ends : offered.filter (!·.isEmpty) = none) : Holds pages token [token] found
  | next {token : Option String} {items : List Value} {following : String}
      {found more : List RoleAssignment} {tokens : List (Option String)}
      (answer : pages token = .ok ⟨items, some following, none⟩)
      (read : items.mapM RoleAssignment.ofValue = .ok found) (nonempty : following ≠ "")
      (rest : Holds pages (some following) tokens more) :
      Holds pages token (token :: tokens) (found ++ more)

variable {scope : String} {pages : Option String → Except ServiceError ListedPage}
  (answers : ∀ history token, world.answer history (.listPage (.roleAssignments scope) token) =
    pages token)

include answers

theorem decided_roleAssignments (unaffected : Unaffected P) (subscription : String)
    (token : Option String) : Decided P (roleAssignments world subscription scope token) :=
  Decided.bind ⟨_, ends_withClient unaffected world _⟩ fun _ =>
    decided_listPage unaffected (fun history => answers history _) _

/-- A page that there is, and the token to go on with. -/
theorem ends_roleAssignments (unaffected : Unaffected P) {token : Option String}
    {items : List Value} {offered : Option String} {found : List RoleAssignment}
    (answer : pages (token.filter (!·.isEmpty)) = .ok ⟨items, offered, none⟩)
    (read : items.mapM RoleAssignment.ofValue = .ok found) (subscription : String) :
    Ends P (roleAssignments world subscription scope token)
      (.ok ⟨found, offered.filter (!·.isEmpty)⟩) :=
  (ends_withClient unaffected world _).bind
    (ends_listPage unaffected (fun history => (answers history _).trans answer) read _)

/-- A fold over all pages takes the assignments in one by one. -/
theorem ends_foldRoleAssignments {α : Type} (unaffected : Unaffected P)
    {step : α → RoleAssignment → Act α} {next : α → RoleAssignment → α} {token : Option String}
    {tokens : List (Option String)} {found : List RoleAssignment}
    (plain : token.filter (!·.isEmpty) = token) (holds : Holds pages token tokens found)
    (each : ∀ a ∈ found, ∀ acc, Ends P (step acc a) (.ok (next acc a))) {limit : Nat}
    (enough : tokens.length ≤ limit) (subscription : String) (acc : α) :
    Ends P (foldRoleAssignments world subscription scope step limit token acc)
      (.ok (found.foldl next acc)) := by
  -- On the pages; a token that comes with a page is not empty, so the service is asked with it.
  induction holds generalizing limit acc with
  | last answer read ends =>
    obtain ⟨limit, rfl⟩ : ∃ n, limit = n + 1 := ⟨limit - 1, by simp at enough; omega⟩
    rw [← plain] at answer
    refine (ends_roleAssignments answers unaffected answer read subscription).bind ?_
    refine (Ends.foldlM each acc).bind ?_
    simp only [ends]
    exact Ends.pure _
  | @next token items following found more tokens answer read nonempty rest inductionHypothesis =>
    obtain ⟨limit, rfl⟩ : ∃ n, limit = n + 1 := ⟨limit - 1, by simp at enough; omega⟩
    rw [← plain] at answer
    have offered : (some following).filter (!·.isEmpty) = some following := by
      simpa [Option.filter_some] using nonempty
    refine (ends_roleAssignments answers unaffected answer read subscription).bind ?_
    refine (Ends.foldlM (fun a member => each a (List.mem_append_left _ member)) acc).bind ?_
    simp only [offered, List.foldl_append]
    exact inductionHypothesis offered (fun a member => each a (List.mem_append_right _ member))
      (by simpa using enough) _

end Management

end AccessSync
