import AccessSync.Run

/-!
# Caches

A cache is a finite map from keys to values. `getOrSet` runs a producer for an absent key and
stores what it delivers; a producer that stops early stores nothing, and what the producer itself
did to the cache stays.
-/

namespace AccessSync

structure Part (σ τ : Type) where
  get : σ → τ
  set : τ → σ → σ

structure Cache (κ ν : Type) where
  entries : List (κ × ν)
  deriving Inhabited

namespace Cache

variable {κ ν σ : Type} [DecidableEq κ]

def empty : Cache κ ν := ⟨[]⟩

def get? (c : Cache κ ν) (key : κ) : Option ν := c.entries.lookup key

def contains (c : Cache κ ν) (key : κ) : Bool := (c.get? key).isSome

def erase (c : Cache κ ν) (key : κ) : Cache κ ν :=
  ⟨c.entries.filter fun entry => !decide (entry.1 = key)⟩

/-- The map with a value for a key, in place of any other value of that key. -/
def insert (c : Cache κ ν) (key : κ) (value : ν) : Cache κ ν :=
  ⟨(key, value) :: (c.erase key).entries⟩

def size (c : Cache κ ν) : Nat := c.entries.length

/-- The stored value of a key, or the value that `producer` delivers, which is stored. -/
def getOrSet (part : Part σ (Cache κ ν)) (key : κ) (producer : Run σ ν) : Run σ ν := do
  match (part.get (← get)).get? key with
  | some value => return value
  | none =>
    let value ← producer
    -- The producer may have changed the cache, so the value is added to what the cache is now.
    modify fun s => part.set ((part.get s).insert key value) s
    return value

def store (part : Part σ (Cache κ ν)) (key : κ) (value : ν) : Run σ Unit :=
  modify fun s => part.set ((part.get s).insert key value) s

def forget (part : Part σ (Cache κ ν)) (key : κ) : Run σ Unit :=
  modify fun s => part.set ((part.get s).erase key) s

def lookup (part : Part σ (Cache κ ν)) (key : κ) : Run σ (Option ν) := do
  return (part.get (← get)).get? key

end Cache

end AccessSync
