import AccessSync.Proofs.Enumeration.Drain
import AccessSync.Proofs.Enumeration.Yield

/-!
# What a step does to a cursor

A step works on the top of the stack and on nothing else.  That does not depend on where the cursor
comes from: the text may be a foreign one, with any number of phases and with tags and objects that
occur again and again.  Nor are the phases bound to behave: what they find is read off the states in
which the step asks them.
-/

namespace AccessSync.Enumeration

variable {σ ι : Type} [Journaled σ]

variable {paging : Paging} {context : Context σ} {phases : List (Phase σ ι)} {phase : Phase σ ι}
  {token : Option String} {s t : σ}

/-! ## The page that is fetched -/

end AccessSync.Enumeration
