/-!
# Pages
-/

namespace AccessSync

/-- One page of a service: its records and the token of the next page, if there is one. -/
structure Page (ρ : Type) where
  records : List ρ
  next : Option String

def Page.empty {ρ : Type} : Page ρ := ⟨[], none⟩

end AccessSync
