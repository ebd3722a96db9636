import AccessSync.Proofs.Catalog.Refusals
import Mathlib.Data.Finset.Erase
import Mathlib.Data.Finset.Insert

/-!
# References of groups

The directory keeps the owners and the members of a group as sets of references.  It refuses to add
a reference that exists already and to remove one that does not.  Which references there are follows
from the requests that were made, and so does the answer to the next one.
-/

namespace AccessSync.Catalog.Group

/-! ## A service that keeps references -/

/-- An object of the directory among the owners or the members of a group.  Slashes at the ends of
an identifier are no part of it, as in addresses. -/
structure Reference where
  group : String
  collection : String
  object : String
  deriving DecidableEq

/-- What is to become of a reference. -/
inductive Change where
  | add (reference : Reference)
  | remove (reference : Reference)
  deriving DecidableEq

def Change.apply (references : Finset Reference) : Change → Finset Reference
  | .add reference => insert reference references
  | .remove reference => references.erase reference

/-- The object that the body of a request refers to. -/
def referredObject? (body : Value) : Option String :=
  match body.field? "@odata.id" with
  | .ok (some (.text address)) =>
    (Text.dropStart? (Directory.host ++ "/v1.0/directoryObjects/") address).map
      Directory.trimSlashes
  | _ => none

/-- What a request asks for, if it is about a reference.  The body names the object that is to be
added, and the address the one that is to be removed. -/
def change? (request : HttpRequest) : Option Change := do
  match request.method, ← Directory.Address.read? request.url with
  | "POST", ⟨"v1.0", ["groups", group, collection, "$ref"], none⟩ =>
    return .add ⟨group, collection, ← referredObject? (← request.body)⟩
  | "DELETE", ⟨"v1.0", ["groups", group, collection, object, "$ref"], none⟩ =>
    return .remove ⟨group, collection, object⟩
  | _, _ => none

/-- The changes that were asked for, the last one first. -/
def changes (history : List Call) : List Change :=
  history.filterMap fun
    | .request request => change? request
    | _ => none

/-- The references that there are after the calls, where there were some at first. -/
def held (initial : Finset Reference) (history : List Call) : Finset Reference :=
  (changes history).foldr (fun change references => change.apply references) initial

/-- The service has done what it was asked for, and it answers with nothing or with JSON. -/
structure Accepts (response : HttpResponse) : Prop where
  status : response.status < 400
  readable : response.status = 204 ∨ response.body = "" ∨ (Json.parse? response.body).isSome = true

/-- How a change is answered where there are these references.  The sentence about one that exists
may stand anywhere in the body. -/
inductive Answers (references : Finset Reference) : Change → HttpResponse → Prop where
  | added {reference : Reference} {response : HttpResponse} (missing : reference ∉ references)
      (accepts : Accepts response) : Answers references (.add reference) response
  | existed {reference : Reference} {response : HttpResponse} (existing : reference ∈ references)
      (status : response.status = 400)
      (told : Text.contains alreadyExists response.body = true) :
      Answers references (.add reference) response
  | removed {reference : Reference} {response : HttpResponse} (existing : reference ∈ references)
      (accepts : Accepts response) : Answers references (.remove reference) response
  | absent {reference : Reference} {response : HttpResponse} (missing : reference ∉ references)
      (status : response.status = 404) : Answers references (.remove reference) response

/-- The directory keeps the references as a set, from the given ones on. -/
def KeepsReferences (world : World) (initial : Finset Reference) : Prop :=
  ∀ history request change, change? request = some change →
    ∃ response, world.answer history (.request request) = .ok response ∧
      Answers (held initial history) change response

/-! ## Requests about references -/

section Requests

variable {initial : Finset Reference} {request : HttpRequest} {change : Change}
  {headers : List (String × String)} {timeout : Float}

theorem trimSlashes_of_slug {slug : String} (either : slug = Slug.owners ∨ slug = Slug.members) :
    Directory.trimSlashes slug = slug := by
  obtain rfl | rfl := either <;> decide

theorem read?_reference (segments : List String) :
    Directory.Address.read? (Directory.url ("groups" :: segments) [] false) =
      some ⟨"v1.0", "groups" :: segments.map Directory.trimSlashes, none⟩ := by
  have trimmed : Directory.trimSlashes "groups" = "groups" := by decide
  rw [Directory.reads_url (List.cons_ne_nil _ _) (by simp), List.map_cons, trimmed]
  rfl

theorem referredObject?_objectReference (id : String) :
    referredObject? (Connector.objectReference id) = some (Directory.trimSlashes id) := by
  have dropped : Text.dropStart? (Directory.host ++ "/v1.0/directoryObjects/")
      (Directory.host ++ "/v1.0/directoryObjects/" ++ id) = some id := by
    have start :=
      Directory.dropStart?_append (Directory.host ++ "/v1.0/directoryObjects/") id.toList
    rwa [← String.toList_append, String.ofList_toList, String.ofList_toList] at start
  have field : (Connector.objectReference id).field? "@odata.id" =
      .ok (some (.text (Directory.host ++ "/v1.0/directoryObjects/" ++ id))) := rfl
  simp only [referredObject?, field, dropped, Option.map_some]

theorem change?_grant {slug : String} (either : slug = Slug.owners ∨ slug = Slug.members)
    (group object : String) :
    change? ⟨"POST", Directory.url ["groups", group, slug, "$ref"] [] false, headers,
        some (Connector.objectReference object), timeout⟩ =
      some (.add ⟨Directory.trimSlashes group, slug, Directory.trimSlashes object⟩) := by
  have last : Directory.trimSlashes "$ref" = "$ref" := by decide
  simp [change?, read?_reference, trimSlashes_of_slug either, last,
    referredObject?_objectReference]

theorem change?_revoke {slug : String} (either : slug = Slug.owners ∨ slug = Slug.members)
    (group object : String) :
    change? ⟨"DELETE", Directory.url ["groups", group, slug, object, "$ref"] [] false, headers,
        none, timeout⟩ =
      some (.remove ⟨Directory.trimSlashes group, slug, Directory.trimSlashes object⟩) := by
  have last : Directory.trimSlashes "$ref" = "$ref" := by decide
  simp [change?, read?_reference, trimSlashes_of_slug either, last]

theorem held_request (asks : change? request = some change) (earlier : List Call) :
    held initial (.request request :: earlier) = change.apply (held initial earlier) := by
  simp [held, changes, asks]

theorem held_of_unrequested (initial : Finset Reference) {s t : Session}
    (between : Directory.Unrequested s t) : held initial t.history = held initial s.history := by
  obtain ⟨calls, same, free⟩ := between
  have none : changes calls = [] := by
    refine List.filterMap_eq_nil_iff.mpr fun call member => ?_
    cases call with
    | request request => exact absurd member (free request)
    | _ => rfl
  have parts : changes (calls ++ s.history) = changes calls ++ changes s.history :=
    List.filterMap_append
  rw [held, held, same, parts, none, List.nil_append]

end Requests

/-! ## Answers -/

/-- A request about a reference and the answer to it, from the calls before it to those up to its
end. -/
structure Asked (world : World) (initial : Finset Reference) (before : List Call) (change : Change)
    (request : HttpRequest) (response : HttpResponse) (after : List Call) : Prop where
  asks : change? request = some change
  calls : ∃ earlier, after = .request request :: earlier ∧
    held initial earlier = held initial before ∧
    world.answer earlier (.request request) = .ok response
  answers : Answers (held initial before) change response

/-- The connector can obtain a token at all times. -/
def Authorized (c : Connector) : Prop :=
  ∀ s, ∃ value, (Directory.token c.world c.directory Directory.defaultScopes s).1 = .ok value

section

variable {c : Connector} {world : World} {initial : Finset Reference} {before after : List Call}
  {change : Change} {request : HttpRequest} {response : HttpResponse}

theorem Asked.held (asked : Asked world initial before change request response after) :
    held initial after = change.apply (Group.held initial before) := by
  obtain ⟨earlier, rfl, same, -⟩ := asked.calls
  rw [held_request asked.asks, same]

/-- No answer to such a request may pass. -/
theorem Answers.lasting {references : Finset Reference}
    (answers : Answers references change response) :
    Directory.passingReason? (.ok response) = none := by
  have stays : Directory.isPassing response.status = false := by
    cases answers with
    | added _ accepts | removed _ accepts =>
      have status := accepts.status
      simp [Directory.isPassing]
      omega
    | existed _ status | absent _ status =>
      rw [status]
      rfl
  rw [Directory.passingReason?, stays]
  rfl

theorem conclude_of_accepts (accepts : Accepts response) (attempts : Nat) (s : Session) :
    ∃ value, Directory.conclude request attempts (.ok response) s = (.ok value, s) := by
  rw [Directory.conclude, Directory.interpret, if_neg (Int.not_le.mpr accepts.status)]
  split
  next => exact ⟨_, rfl⟩
  next something =>
    obtain nothing | nothing | parses := accepts.readable
    · simp [nothing] at something
    · simp [nothing] at something
    · obtain ⟨value, parsed⟩ := Option.isSome_iff_exists.mp parses
      rw [parsed]
      exact ⟨value, rfl⟩

/-- A request about a reference is made once, and the answer to it counts. -/
theorem exists_asked (keeps : KeepsReferences c.world initial) (authorized : Authorized c)
    {method url : String} {body : Option Value}
    (asks : ∀ headers timeout, change? ⟨method, url, headers, body, timeout⟩ = some change)
    (s : Session) :
    ∃ request response t, request.method = method ∧ request.url = url ∧
      Asked c.world initial s.history change request response t.history ∧
      c.query method url body s = Directory.conclude request 1 (.ok response) t := by
  obtain ⟨value, returns⟩ := authorized s
  have obtains : StopsFor (Directory.Unrequested s) (Directory.Withheld c.world)
      (Directory.token c.world c.directory Directory.defaultScopes) :=
    Directory.stopsFor_token Directory.defaultScopes
  -- The token may have cost calls, but none of them is a request.
  have same := held_of_unrequested initial (obtains s (.refl s)).1
  generalize obtained : Directory.token c.world c.directory Directory.defaultScopes s = result
    at returns same
  obtain ⟨outcome, u⟩ := result
  obtain rfl : outcome = .ok value := returns
  let request : HttpRequest :=
    ⟨method, url, Directory.headers value, body, c.directory.timeout⟩
  obtain ⟨response, answered, answers⟩ := keeps u.history request change (asks _ _)
  refine ⟨request, response, { u with history := .request request :: u.history }, rfl, rfl,
    ⟨asks _ _, ⟨u.history, rfl, same, answered⟩, same ▸ answers⟩, ?_⟩
  rw [Connector.query, Directory.query, Run.bind_of_ok obtained]
  exact Directory.send_of_lasting answered answers.lasting 1 _

end

end AccessSync.Catalog.Group
