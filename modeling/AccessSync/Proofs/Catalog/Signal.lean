import AccessSync.Proofs.Catalog.Memory
import AccessSync.Proofs.Catalog.RoleRecords

/-!
# The signal stays

Nothing that a connector does takes the cancellation signal back.
-/

namespace AccessSync

def Signalled (s : Session) : Prop := s.cancelled = true

theorem lasting_signalled : Lasting Signalled :=
  fun _ _ given _ still _ _ _ => still given

namespace Catalog

variable {c : Connector}

theorem keeps_signalled_index (subscription : String) (scope : Option String) :
    Keeps Signalled (c.index.assignmentsByRole subscription scope) := by
  apply keeps_assignmentsByRole lasting_signalled
  intro s u entry _ _ given
  rw [Signalled, RoleIndex.part_set_cancelled]
  exact given

theorem keeps_signalled_record (id : String) : Keeps Signalled (Application.record c id) := by
  apply Act.keeps_cached
  · exact (keeps_query lasting_signalled _ _ _).bind fun _ _ => Ensures.pure trivial
  · intro s u record _ _ given
    exact given
  · exact lasting_signalled.recorded

theorem keeps_signalled_takeUp (organizations : List String) (parent : Option ResourceId)
    (record : Value) : Keeps Signalled (Application.takeUp organizations parent record) := by
  refine (keeps_reading _).bind fun owned _ => ?_
  split
  next =>
    refine (keeps_reading _).bind fun id _ => ?_
    have stored : Keeps Signalled (Cache.store Session.servicePrincipalPart id record) :=
      Ensures.modify fun s given => given
    refine stored.bind fun _ _ => ?_
    exact (keeps_reading _).bind fun _ _ => Ensures.pure trivial
  next => exact Ensures.pure trivial

theorem keeps_signalled_applications (parent : Option ResourceId) (text : String) :
    Keeps Signalled (Application.list c c.context parent text) := by
  refine keeps_applications lasting_signalled (Q := fun _ => True) ?_ ?_ parent text
  · intro tag url translate token
    have fetched (url : String) : Keeps Signalled (Directory.fetchPage c.world c.directory url) :=
      keeps_iff_agrees.mpr (Directory.agrees_fetchPage lasting_signalled.connected url)
    refine (fetched _).bind fun page _ => ?_
    exact (keeps_reading _).weaken fun _ _ => by simp
  · intro organizations parent record _
    exact keeps_signalled_takeUp organizations parent record

theorem companions_signalled (type : ResourceType) : Companions (Along Signalled) c type :=
  lasting_signalled.companions keeps_signalled_index keeps_signalled_applications
    keeps_signalled_record type

end Catalog

end AccessSync
