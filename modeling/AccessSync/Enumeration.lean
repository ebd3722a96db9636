import AccessSync.Cursor.Basic
import AccessSync.Page
import AccessSync.Run

/-!
# Phased enumeration

An enumeration runs through phases, and each phase through the pages of a service. `step` does
one page of the active phase and hands out the cursor of what remains; `drain` repeats a paged
operation until nothing remains.

The cursor is written only after a page is fetched and translated in full, so a step that stops
early leaves the caller with its old cursor, from which the step can be repeated.
-/

namespace AccessSync

/-- One phase of an enumeration of items `ι`. -/
structure Phase (σ ι : Type) where
  tag : String
  Record : Type
  fetch : Option String → Run σ (Page Record)
  translate : List Record → Run σ (List ι)
  initialToken : Option String
  /-- An object that does not exist reads as an empty last page. -/
  notFoundIsEmpty : Bool
  /-- A short page may be taken for the last one. -/
  shortPageExit : Bool

structure Paging where
  /-- Takes a page of at most `threshold` records for the last one. -/
  shortPageExit : Bool
  threshold : Int
  label : String

namespace Paging

def defaultThreshold : Int := 50

end Paging

namespace Enumeration

variable {σ ι : Type}

def component : String := "MultiPhaseGrantsOrchestrator"

/-- The cursor at the start of an enumeration: the first phase is the active one. -/
def start (phases : List (Phase σ ι)) : Cursor :=
  ⟨phases.map fun p => ⟨p.tag, p.initialToken, none⟩⟩

/-- The phase with a tag; of several the last. -/
def phase? (phases : List (Phase σ ι)) (tag : String) : Option (Phase σ ι) :=
  phases.reverse.find? (·.tag == tag)

/-- The token of the next page that a page offers; an empty token offers none. -/
def offered? {ρ : Type} (page : Page ρ) : Option String :=
  page.next.filter (!·.isEmpty)

/-- The page is so short that it ends its phase whatever it offers. -/
def endsPhase (paging : Paging) (phase : Phase σ ι) (page : Page phase.Record) : Bool :=
  paging.shortPageExit && phase.shortPageExit &&
    decide ((page.records.length : Int) ≤ paging.threshold)

def continuation? (paging : Paging) (phase : Phase σ ι) (page : Page phase.Record) :
    Option String :=
  if endsPhase paging phase page then none else offered? page

/-- The cursor after a page: with the token to go on with, or without the finished phase. -/
def advance (cursor : Cursor) (token : Option String) : Cursor :=
  if token.isSome then (cursor.replaceToken? token).getD cursor else cursor.pop

/-- The page of a phase; where the phase allows it, an object that does not exist reads as an
empty page and is reported. -/
def fetchPage [Journaled σ] (paging : Paging) (phase : Phase σ ι) (token : Option String) :
    Run σ (Page phase.Record) :=
  (phase.fetch token).onFailure fun f =>
    if f.isNotFound && phase.notFoundIsEmpty then do
      Run.log .warning component
        (paging.label ++ ": phase " ++ phase.tag ++ " returned not found, treating as empty: " ++
          f.message)
      return .empty
    else Run.raise f

def reportProgress [Journaled σ] (paging : Paging) (phase : Phase σ ι) (page : Page phase.Record)
    (remaining : Cursor) : Run σ Unit := do
  if (continuation? paging phase page).isNone then
    if (offered? page).isSome then
      Run.log .debug component
        (paging.label ++ ": phase " ++ phase.tag ++ " returned " ++
          toString page.records.length ++ " records, dropping continuation token")
    Run.log .debug component
      (paging.label ++ ": phase " ++ phase.tag ++ " drained, " ++ toString remaining.size ++
        " phase(s) remaining")

def stepFrom [Journaled σ] (paging : Paging) (context : Context σ) (phases : List (Phase σ ι))
    (cursor : Cursor) (position : Position) : Run σ (List ι × String) := do
  let some phase := phase? phases position.tag
    | Run.fail (.cursor (.unknownPhase position.tag paging.label))
  context.check
  let (page, items) ← Run.inPhase phase.tag do
    let page ← fetchPage paging phase position.token
    -- A signal that came during the request discards the page.
    context.check
    return (page, ← phase.translate page.records)
  -- Nothing stops the step from here on, so no page is used up without its cursor being written.
  let token := continuation? paging phase page
  let remaining := advance cursor token
  reportProgress paging phase page remaining
  return (items, remaining.encode)

/-- One page of the enumeration that the cursor text continues. The empty text starts it; a text
without positions is the end of one. -/
def step [Journaled σ] (paging : Paging) (context : Context σ) (phases : List (Phase σ ι))
    (text : String) : Run σ (List ι × String) :=
  match Cursor.decode text with
  | .error fault => Run.fail (.cursor fault)
  | .ok given =>
    let cursor := if given.isEmpty && text.isEmpty then start phases else given
    match cursor.active? with
    | none => return ([], "")
    | some position => stepFrom paging context phases cursor position

/-- The items of a paged operation from a cursor on, in at most `limit` pages. -/
def drainFrom (operation : String → Run σ (List ι × String)) :
    (limit : Nat) → String → Run σ (List ι)
  | 0, _ => Run.unfinished
  | limit + 1, cursor => do
    let (items, next) ← operation cursor
    if next.isEmpty then return items
    return items ++ (← drainFrom operation limit next)

def drain (limit : Nat) (operation : String → Run σ (List ι × String)) : Run σ (List ι) :=
  drainFrom operation limit ""

end Enumeration

end AccessSync
