import AccessSync.Json.Writer

/-!
# What a document can hold

Every part of a document has to have a form in it.  Stamps have none, as values and as keys, and
neither have whole numbers with more digits than one may be written with.
-/

namespace AccessSync.Json

inductive Writable : Value → Prop where
  | null : Writable .null
  | bool (b : Bool) : Writable (.bool b)
  | int (n : Int) (short : isShort n = true) : Writable (.int n)
  | float (x : Float) : Writable (.float x)
  | text (s : String) : Writable (.text s)
  | list (items : List Value) (all : ∀ v ∈ items, Writable v) : Writable (.list items)
  | mapping (entries : List (Key × Value)) (keys : ∀ entry ∈ entries, Writable entry.1.toValue)
      (values : ∀ entry ∈ entries, Writable entry.2) : Writable (.mapping entries)

theorem scalarObstacle?_int {n : Int} : scalarObstacle? (.int n) = none ↔ isShort n = true := by
  rw [scalarObstacle?]
  cases isShort n <;> simp

theorem obstacle?_int {n : Int} : obstacle? (.int n) = none ↔ isShort n = true := by
  simp only [obstacle?, scalarObstacle?_int]

/-! ## Nothing is in the way of what is writable -/

theorem itemsObstacle?_of_all {items : List Value} (free : ∀ v ∈ items, obstacle? v = none) :
    itemsObstacle? items = none := by
  induction items with
  | nil => rfl
  | cons v rest inductionHypothesis =>
    rw [itemsObstacle?, free v List.mem_cons_self,
      inductionHypothesis fun w member => free w (List.mem_cons_of_mem v member)]
    rfl

theorem entriesObstacle?_of_all {entries : List (Key × Value)}
    (keys : ∀ entry ∈ entries, scalarObstacle? entry.1.toValue = none)
    (values : ∀ entry ∈ entries, obstacle? entry.2 = none) : entriesObstacle? entries = none := by
  induction entries with
  | nil => rfl
  | cons entry rest inductionHypothesis =>
    rw [entriesObstacle?, keys entry List.mem_cons_self, values entry List.mem_cons_self,
      inductionHypothesis (fun other member => keys other (List.mem_cons_of_mem entry member))
        fun other member => values other (List.mem_cons_of_mem entry member)]
    rfl

theorem scalarObstacle?_toValue (key : Key) :
    scalarObstacle? key.toValue = obstacle? key.toValue := by
  cases key <;> rfl

theorem Writable.obstacle? {v : Value} (writable : Writable v) : obstacle? v = none := by
  induction writable with
  | null | bool | float | text => rfl
  | int n short => exact obstacle?_int.mpr short
  | list items all free => exact itemsObstacle?_of_all free
  | mapping entries keys values freeKeys freeValues =>
    refine entriesObstacle?_of_all (fun entry member => ?_) freeValues
    rw [scalarObstacle?_toValue]
    exact freeKeys entry member

/-! ## What nothing is in the way of -/

theorem writable_toValue {key : Key} (free : scalarObstacle? key.toValue = none) :
    Writable key.toValue := by
  cases key with
  | null => exact .null
  | bool b => exact .bool b
  | int n => exact .int n (scalarObstacle?_int.mp free)
  | float x => exact .float x
  | text s => exact .text s
  | stamp s => cases free

mutual

theorem writable_of_obstacle? (v : Value) (free : obstacle? v = none) : Writable v := by
  cases v with
  | null => exact .null
  | bool b => exact .bool b
  | int n => exact .int n (obstacle?_int.mp free)
  | float x => exact .float x
  | text s => exact .text s
  | stamp => cases free
  | list items => exact .list items (writable_of_itemsObstacle? items free)
  | mapping entries =>
    have each := writable_of_entriesObstacle? entries free
    exact .mapping entries (fun entry member => (each entry member).1)
      fun entry member => (each entry member).2

theorem writable_of_itemsObstacle? : (items : List Value) → itemsObstacle? items = none →
    ∀ v ∈ items, Writable v
  | [], _, _, member => by cases member
  | first :: rest, free, v, member => by
    obtain ⟨free, others⟩ := Option.or_eq_none_iff.mp free
    obtain same | there := List.mem_cons.mp member
    · exact same ▸ writable_of_obstacle? first free
    · exact writable_of_itemsObstacle? rest others v there

theorem writable_of_entriesObstacle? : (entries : List (Key × Value)) →
    entriesObstacle? entries = none →
    ∀ entry ∈ entries, Writable entry.1.toValue ∧ Writable entry.2
  | [], _, _, member => by cases member
  | (key, value) :: rest, free, entry, member => by
    obtain ⟨freeKey, free⟩ := Option.or_eq_none_iff.mp free
    obtain ⟨free, others⟩ := Option.or_eq_none_iff.mp free
    obtain rfl | there := List.mem_cons.mp member
    · exact ⟨writable_toValue freeKey, writable_of_obstacle? value free⟩
    · exact writable_of_entriesObstacle? rest others entry there

end

theorem obstacle?_eq_none_iff {v : Value} : obstacle? v = none ↔ Writable v :=
  ⟨writable_of_obstacle? v, Writable.obstacle?⟩

end AccessSync.Json
