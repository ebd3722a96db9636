import AccessSync.Proofs.Directory.Agreement
import AccessSync.Proofs.Enumeration.Yield

/-!
# What requests leave alone

A request to the directory may be repeated, may obtain a token and may wait, and a principal that
was looked up is kept.  None of that touches the records of service principals: a property of states
that reads nothing else is kept by all of it.
-/

namespace AccessSync

/-- The property reads the records of service principals only. -/
def ReadsRecords (P : Session → Prop) : Prop :=
  ∀ s t, s.objects.servicePrincipals = t.objects.servicePrincipals → P s → P t

variable {P : Session → Prop} (reads : ReadsRecords P)

include reads

/-! ## Sessions -/

theorem stable_session (world : World) : Enumeration.Stable P (Act.context world) where
  check s := reads s _ rfl
  record _ s := reads s _ rfl

theorem keeps_log (severity : Severity) (component message : String) :
    Keeps P (Run.log severity component message : Act Unit) :=
  Ensures.log (fun _ s => reads s _ rfl) severity component message

theorem keeps_settle (translator : Translator) (type : ResourceType) {Q : Grant → Prop}
    {verdict : Verdict} (granted : ∀ grant, verdict = .granted grant → Q grant) :
    Ensures P (settle translator (Session.tallyPart type) verdict) fun found =>
      ∀ grant ∈ found, Q grant := by
  cases verdict with
  | granted grant => exact Ensures.pure (by simpa using granted grant rfl)
  | dropped drop =>
    have dropped : Keeps P (settleDrop translator (Session.tallyPart type) drop) := by
      unfold settleDrop
      -- The tally and the journal are other parts of the session than the records.
      refine Ensures.bind (Ensures.modify fun t => reads t _ (by rfl)) fun _ _ => ?_
      refine Ensures.get.bind fun s _ => ?_
      split
      next =>
        refine Ensures.bind (Ensures.modify fun t => reads t _ (by rfl)) fun _ _ => ?_
        exact keeps_log reads _ _ _
      next => exact Ensures.pure trivial
    exact dropped.bind fun _ _ => Ensures.pure (by simp)
  | skipped principal resource =>
    exact (keeps_log reads _ _ _).bind fun _ _ => Ensures.pure (by simp)
  | refused type slug resource member => exact Ensures.throw _

theorem keeps_classify (translator : Translator) (type : ResourceType) (subtype : Option String)
    (object : String) (recordId : Value) :
    Keeps P (classify translator (Session.tallyPart type) subtype object recordId) := by
  unfold classify
  split
  next => exact Ensures.pure trivial
  next drop _ =>
    have dropped : Ensures P (settle translator (Session.tallyPart type) (.dropped drop))
        fun found => ∀ grant ∈ found, True := keeps_settle reads translator type fun _ _ => trivial
    exact dropped.bind fun _ _ => Ensures.pure trivial

/-- A property that reads the records only goes along with everything that the client does. -/
theorem faithful_along (world : World) : Directory.Faithful (Along P) world :=
  .along (fun _ s => reads s _ rfl) (fun _ s => reads s _ rfl) (fun _ s => reads s _ rfl)
    fun _ s => reads s _ rfl

namespace Directory

theorem keeps_fetchPage (world : World) (settings : Settings) (url : String) :
    Keeps P (fetchPage world settings url) :=
  keeps_iff_agrees.mpr (agrees_fetchPage ((faithful_along reads world).connected settings) url)

theorem keeps_resolve (world : World) (settings : Settings) (keep : Bool) (id : String) :
    Keeps P (resolve world settings keep id) :=
  keeps_iff_agrees.mpr (agrees_resolve (faithful_along reads world) settings keep id)

end Directory

end AccessSync
