import AccessSync.Proofs.Catalog.PageSize

/-!
# Pages from any marker

A cursor within a list in memory holds the marker of the next page, and whoever hands the cursor in
may have put any text there.  A text that is no number is refused; every other one starts a sequence
of pages that ends.  What the pages deliver is the rest of the list, except for a negative marker
that lies more than a page before the front of a list which is longer than a page: there the pages
run to the end of the list and on from its front, and something is delivered twice.
-/

namespace AccessSync

open Enumeration Connector

namespace Enumeration.ListedLast

variable {ι : Type} (e : ListedLast ι) {s t : Session} {token : Option String}
  {records : List e.Record}

/-- How a page ends whose marker is no number. -/
def unreadable (token : Option String) : Stop :=
  .fault (.failure ⟨.cursor (.badMarker (token.getD "") e.tag), some e.tag⟩)

variable {e}

theorem operation_of_unreadable (divisible : e.Divisible) (size : Nat)
    (loads : e.load s = (.ok records, t)) (unread : offsetOf? token = none) :
    e.operation size (e.within token).encode s = (.error (e.unreadable token), t) := by
  have failed : fetchPage e.paging (markerPhase e.tag size e.load e.translate) token s =
      (.error (.fault (.failure ⟨.cursor (.badMarker (token.getD "") e.tag), none⟩)), t) := by
    have unfetched : (markerPhase e.tag size e.load e.translate).fetch token s =
        (.error (.fault (.failure ⟨.cursor (.badMarker (token.getD "") e.tag), none⟩)), t) := by
      simp only [markerPhase]
      rw [Run.bind_of_ok loads, unread]
      rfl
    rw [fetchPage, Run.onFailure, Run.tryCatch_of_error unfetched]
    rfl
  rw [operation_within divisible, stepFrom_of_fetchPage_error e.phase?_last failed]
  rfl

theorem offsetOf?_of_empty (empty : token = none ∨ token = some "") : offsetOf? token = some 0 := by
  obtain rfl | rfl := empty <;> rfl

/-- The pages of a list in memory from any marker on, if the list is not too long for its offsets to
be written.  A marker that is no number is refused.  From every other one the pages come to an end,
and to what they deliver: the rest of the list from somewhere on, which is all of it if there is no
marker, unless the marker is a negative number that lies more than a page before the front of a list
which is longer than a page.  Then some record is delivered twice. -/
theorem pages_from_marker (divisible : e.Divisible) {size : Nat} (positive : 0 < size)
    (loads : e.load s = (.ok records, t)) (short : records.length ≤ 10 ^ maxWrittenDigits)
    (token : Option String) :
    (offsetOf? token = none →
      e.operation size (e.within token).encode s = (.error (e.unreadable token), t)) ∧
    (∀ offset, offsetOf? token = some offset →
      Concludes (e.operation size) (e.within token).encode s
        (e.whole (delivered records size offset) t).1
        (e.whole (delivered records size offset) t).2 ∧
      (-size ≤ offset ∨ records.length ≤ size → delivered records size offset <:+ records) ∧
      (offset < -size → size < records.length →
        ∃ record, List.Duplicate record (delivered records size offset))) ∧
    (token = none ∨ token = some "" →
      Concludes (e.operation size) (e.within token).encode s
        (e.whole records t).1 (e.whole records t).2) := by
  refine ⟨fun unread => operation_of_unreadable divisible size loads unread, fun offset starts => ?_,
    fun empty => ?_⟩
  · exact ⟨concludes_within divisible positive short starts loads, delivered_suffix,
      exists_duplicate_delivered positive⟩
  · have all := concludes_within divisible positive short (offsetOf?_of_empty empty) loads
    rwa [delivered_zero] at all

end Enumeration.ListedLast

namespace Catalog

/-- The cursor of a caller that counts the assignments of a role from their end. -/
def countedFromEnd : Cursor := ⟨[⟨Slug.assigned, some "-3", none⟩]⟩

theorem pages_from_marker_heldRole :
    ∃ c, Connector.ofConfig usersWorld 5 (.record [("page_size", .int 2)]) true = .ok c ∧
      Concludes ((Role.listing c heldRole.id "reader" "sub1").operation 2) countedFromEnd.encode
        heldSession
        ((Role.listing c heldRole.id "reader" "sub1").whole
          [heldBy "u1", heldBy "u2", heldBy "u2", heldBy "u3"] heldSession).1
        ((Role.listing c heldRole.id "reader" "sub1").whole
          [heldBy "u1", heldBy "u2", heldBy "u2", heldBy "u3"] heldSession).2 := by
  have accepted : (Connector.ofConfig usersWorld 5 (.record [("page_size", .int 2)])
      true).toOption.isSome = true := by
    decide +kernel
  obtain ⟨c, created⟩ := Option.isSome_iff_exists.mp accepted
  have configured := eq_ok_of_toOption created
  obtain ⟨-, -, index⟩ := Storage.ofConfig_ok configured
  have filed : Filed c.index "/subscriptions/sub1" heldEntry heldSession := by
    rw [index]
    exact Cache.get?_insert _ _ _
  have loads : (Role.listing c heldRole.id "reader" "sub1").load heldSession =
      (.ok (heldEntry.ofRole "reader"), heldSession) :=
    Act.load_of_kept (f := fun entry => .ok (AssignmentsByRole.ofRole entry "reader")) filed rfl
  have few : (heldEntry.ofRole "reader").length ≤ 10 ^ maxWrittenDigits :=
    Nat.le_trans (by decide : 3 ≤ 10 ^ 1) (Nat.pow_le_pow_right (by decide) (by decide))
  have starts : offsetOf? (some "-3") = some (-3) := by decide
  obtain ⟨pages, -⟩ := (ListedLast.pages_from_marker (divisible_roleListing (c := c) _ _ _)
    (by decide : 0 < 2) loads few (some "-3")).2.1 (-3) starts
  exact ⟨c, configured, pages⟩

/-- The holders of a role are delivered from a marker that was never given out, and one of them is
delivered twice. -/
theorem exists_marker_repeats :
    ∃ c, Connector.ofConfig usersWorld 5 (.record [("page_size", .int 2)]) true = .ok c ∧
      ∃ items t, drainFrom (grants c .role c.context heldRole) 5 countedFromEnd.encode
          heldSession = (.ok items, t) ∧
        items.map (·.principal.id) = ["u1", "u2", "u2", "u3"] ∧
        ¬ items.map (·.principal.id) <:+
          (heldEntry.ofRole "reader").map (·.principalId) := by
  have evaluated : ((Connector.ofConfig usersWorld 5 (.record [("page_size", .int 2)])
      true).toOption.map fun c =>
        (drainFrom (grants c .role c.context heldRole) 5 countedFromEnd.encode
          heldSession).1.toOption.map (List.map fun grant => grant.principal.id)) =
      some (some ["u1", "u2", "u2", "u3"]) := by
    decide +kernel
  obtain ⟨c, created, drained⟩ := Option.map_eq_some_iff.mp evaluated
  obtain ⟨items, returned, named⟩ := Option.map_eq_some_iff.mp drained
  refine ⟨c, eq_ok_of_toOption created, items, _,
    Prod.ext (eq_ok_of_toOption returned) rfl, named, ?_⟩
  rw [named]
  decide

end Catalog

end AccessSync
