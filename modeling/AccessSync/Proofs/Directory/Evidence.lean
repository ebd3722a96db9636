import AccessSync.Directory.Principal
import AccessSync.Proofs.Ends

/-!
# What the directory says of a principal

Up to four endpoints of the directory are asked for an object, and each answer is evidence of what
the object is.  The first evidence that settles it counts, whatever was refused before.
-/

namespace AccessSync.Directory

/-- The answer is nothing, or a record whose discriminators are texts if they are there. -/
def discriminates (body : Value) : Bool :=
  body.isEmpty ||
    match body.field "@odata.type", body.field "servicePrincipalType" with
    | .ok kind, .ok subtype => kind.isTextOrAbsent && subtype.isTextOrAbsent
    | _, _ => false

variable (world : World) (settings : Settings) (id : String)

/-- The reply of an endpoint that is asked for the object in a session. -/
def replyIn (s : Session) (endpoint : String) : Except Stop Value :=
  (query world settings defaultScopes "GET" (url [endpoint, id] [] false) none s).1

/-- What the directory replies when an endpoint is asked for the object.  This is its reply in a new
session; services without a memory give no other later. -/
def reply (endpoint : String) : Except Stop Value :=
  (query world settings defaultScopes "GET" (url [endpoint, id] [] false) none Session.new).1

/-- The reply can be read, or it is a refusal other than of too many requests. -/
def repliesProperly (endpoint : String) : Bool :=
  match reply world settings id endpoint with
  | .ok body => discriminates body
  | .error (.fault (.failure f)) => f.request?.isSome && !f.isRateLimited
  | .error _ => false

def evidence (endpoint : String) : Evidence :=
  match reply world settings id endpoint with
  | .ok body => (evidenceOf body).toOption.getD .none
  | .error _ => .none

/-- The reply is read as the evidence.  Where there is none, it may be a refusal other than of too
many requests. -/
def conveys (found : Evidence) : Except Stop Value → Bool
  | .ok body => (evidenceOf body).toOption = some found
  | .error (.fault (.failure f)) => found = .none && f.request?.isSome && !f.isRateLimited
  | .error _ => false

/-- The principal that evidence settles. -/
def Evidence.settled? : Evidence → Option Principal
  | .settled principal => some principal
  | _ => Option.none

/-- The first evidence that settles the principal counts.  If there is none, a service principal of
unknown subtype is better than nothing. -/
def conclusion (found : List Evidence) (otherwise : Principal) : Principal :=
  (found.findSome? Evidence.settled?).getD
    (if .servicePrincipal ∈ found then .servicePrincipal none else otherwise)

/-- What the principal is by the word of all endpoints. -/
def kind : Principal := conclusion (lookupEndpoints.map (evidence world settings id)) .unknown

variable {world settings id}

/-! ## Answers -/

theorem exists_nonemptyText? {v : Value} (optional : v.isTextOrAbsent = true) :
    ∃ found, v.nonemptyText? = .ok found := by
  cases v with
  | text s =>
    unfold Value.nonemptyText?
    split <;> exact ⟨_, rfl⟩
  | null => exact ⟨_, rfl⟩
  | bool _ | int _ | float _ | stamp _ | list _ | mapping _ => cases optional

theorem exists_evidenceOf {body : Value} (reads : discriminates body = true) :
    ∃ found, evidenceOf body = .ok found := by
  unfold evidenceOf
  by_cases empty : body.isEmpty
  · rw [if_pos empty]
    exact ⟨_, rfl⟩
  · rw [if_neg empty]
    simp only [discriminates, empty, Bool.false_or] at reads
    split at reads
    next kind subtype discriminator detail =>
      obtain ⟨isKind, isSubtype⟩ := Bool.and_eq_true_iff.mp reads
      obtain ⟨found, read⟩ := exists_nonemptyText? isSubtype
      simp only [discriminator, detail, read, bind, Except.bind]
      cases kind with
      | text kind =>
        dsimp only
        split
        next => exact ⟨_, rfl⟩
        next =>
          split
          next => exact ⟨_, rfl⟩
          next =>
            split
            next => cases found <;> exact ⟨_, rfl⟩
            next => exact ⟨_, rfl⟩
      | null => exact ⟨_, rfl⟩
      | bool _ | int _ | float _ | stamp _ | list _ | mapping _ => cases isKind
    next => cases reads

/-- A lookup gets over a refusal where there is no evidence. -/
theorem exists_lookUp {s : Session} {endpoint : String} {found : Evidence}
    (conveyed : conveys found (replyIn world settings id s endpoint) = true) :
    ∃ body, (lookUp world settings endpoint id s).1 = .ok body ∧ evidenceOf body = .ok found := by
  match replied : query world settings defaultScopes "GET" (url [endpoint, id] [] false) none s with
  | (.ok body, t) =>
    simp only [replyIn, replied, conveys, decide_eq_true_eq] at conveyed
    rw [lookUp, Run.onFailure_of_ok replied]
    exact ⟨body, rfl, eq_ok_of_toOption conveyed⟩
  | (.error (.fault (.failure f)), t) =>
    simp only [replyIn, replied, conveys, Bool.and_eq_true, decide_eq_true_eq, and_assoc]
      at conveyed
    obtain ⟨rfl, refused⟩ := conveyed
    rw [lookUp, Run.onFailure_of_failure replied, if_pos (Bool.and_eq_true_iff.mpr refused)]
    exact ⟨.null, rfl, rfl⟩
  | (.error (.fault (.defect _)), t) => simp [replyIn, replied, conveys] at conveyed
  | (.error .unfinished, t) => simp [replyIn, replied, conveys] at conveyed

/-- Asks one endpoint, and reads what it says. -/
abbrev hear (world : World) (settings : Settings) (id endpoint : String) : Act Evidence := do
  Run.reading (evidenceOf (← lookUp world settings endpoint id))

theorem askEndpoints_cons (partly : Bool) (endpoint : String) (rest : List String) :
    askEndpoints world settings id partly (endpoint :: rest) = (do
      match ← hear world settings id endpoint with
      | .settled principal => return principal
      | .servicePrincipal => askEndpoints world settings id true rest
      | .none => askEndpoints world settings id partly rest) := by
  rw [askEndpoints]
  exact (bind_assoc _ _ _).symm

variable {P : Session → Prop}

/-- Asking endpoints in turn comes to the conclusion from what they say. -/
theorem ends_askEndpoints (recorded : ∀ record s, P s → P (Journaled.record record s))
    {endpoints : List String} {word : String → Evidence}
    (heard : ∀ endpoint ∈ endpoints, Ends P (hear world settings id endpoint) (.ok (word endpoint)))
    (partly : Bool) :
    Ends P (askEndpoints world settings id partly endpoints)
      (.ok (conclusion (endpoints.map word)
        (if partly then .servicePrincipal none else .unknown))) := by
  -- On the endpoints; a service principal that was found earlier is what the rest falls back on.
  induction endpoints generalizing partly with
  | nil =>
    unfold askEndpoints
    cases partly with
    | true => exact Ends.pure _
    | false => exact (Ends.log recorded _ _ _).bind (Ends.pure _)
  | cons endpoint endpoints inductionHypothesis =>
    have later (partly : Bool) :=
      inductionHypothesis (fun other member => heard other (List.mem_cons_of_mem endpoint member))
        partly
    rw [askEndpoints_cons]
    refine (heard endpoint List.mem_cons_self).bind ?_
    rw [List.map_cons]
    cases word endpoint with
    | settled principal => exact Ends.pure _
    | none => simpa [conclusion, List.findSome?_cons, Evidence.settled?] using later partly
    | servicePrincipal =>
      simpa [conclusion, List.findSome?_cons, Evidence.settled?] using later true

end AccessSync.Directory
