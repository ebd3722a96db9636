import AccessSync.Fault
import AccessSync.Journal

/-!
# Runs

A run is an action on a state that ends with a value or stops early. State changes made before a
stop are kept. Loops whose length the outside decides carry a limit on their rounds; a run that
reaches it is unfinished, which no handler takes for a fault.
-/

namespace AccessSync

inductive Stop where
  | fault (fault : Fault)
  | unfinished

abbrev Run (σ : Type) := ExceptT Stop (StateM σ)

namespace Run

variable {σ α β : Type}

def fail (cause : Cause) : Run σ α := throw (.fault (.failure { cause }))

/-- Stops with a failure that has a phase already or is to get one later. -/
def raise (failure : Failure) : Run σ α := throw (.fault (.failure failure))

def defect (d : Defect) : Run σ α := throw (.fault (.defect d))

def unfinished : Run σ α := throw .unfinished

/-- The value read, or a stop because the value read from does not suit. -/
def reading : Except Misuse α → Run σ α
  | .ok a => pure a
  | .error misuse => defect (.misuse misuse)

def decoding : Except RecordFault α → Run σ α
  | .ok a => pure a
  | .error fault => fail (.record fault)

/-- Runs `action` and hands a failure that it ends with to `handler`; everything else passes. -/
def onFailure (action : Run σ α) (handler : Failure → Run σ α) : Run σ α :=
  tryCatch action fun
    | .fault (.failure f) => handler f
    | stop => throw stop

/-- Runs `action` and hands any fault that it ends with to `handler`. -/
def onFault (action : Run σ α) (handler : Fault → Run σ α) : Run σ α :=
  tryCatch action fun
    | .fault f => handler f
    | .unfinished => throw .unfinished

/-- Runs `action`, and names the phase `tag` in a failure that has none. -/
def inPhase (tag : String) (action : Run σ α) : Run σ α :=
  action.onFailure fun f => raise (f.inPhase tag)

def log [Journaled σ] (severity : Severity) (component message : String) : Run σ Unit :=
  modify (Journaled.record ⟨severity, component, message⟩)

/-- The elements in order, without those that `f` drops. -/
def filterMap (f : α → Run σ (Option β)) : List α → Run σ (List β)
  | [] => pure []
  | a :: rest => do
    let found ← f a
    let others ← filterMap f rest
    return match found with
      | some b => b :: others
      | none => others

end Run

structure Context (σ : Type) where
  isCancelled : StateM σ Bool

namespace Context

def never {σ : Type} : Context σ := ⟨pure false⟩

def check {σ : Type} (context : Context σ) : Run σ Unit := do
  if ← (context.isCancelled : StateM σ Bool) then Run.fail .cancelled

end Context

end AccessSync
