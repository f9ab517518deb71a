import BlockStage.Proofs.Event.Suffix
import Mathlib.Data.List.Range

/-!
# The passes that a log reports

A log loses its oldest entries when it is full and all of them when they are taken out, so what
can be asked of it is this: whoever keeps what was taken sees the numbers of the completed passes
in order and none of them twice, the log itself reports the newest ones without a gap, and as long
as nothing but the taken entries was dropped, none is missing (`EventLog.Reports`).
-/

namespace BlockStage

/-! ## One entry -/

/-- The number of the completed pass that an entry reports. -/
def Event.passNumber? : Event → Option Nat
  | .passCompleted number => some number
  | _ => none

/-- The numbers of completed passes among some entries. -/
def Event.passNumbers (entries : List Event) : List Nat := entries.filterMap Event.passNumber?

theorem Event.passNumbers_append (first second : List Event) :
    Event.passNumbers (first ++ second) = Event.passNumbers first ++ Event.passNumbers second :=
  List.filterMap_append

variable {log : EventLog} {event : Event} {taken : List Event} {passes : Nat}

/-! ## Reports -/

/-- What `log`, after `taken` was taken out of it, reports on the first `passes` passes. -/
structure EventLog.Reports (log : EventLog) (taken : List Event) (passes : Nat) : Prop where
  /-- The log reports the newest passes without a gap. -/
  kept : Event.passNumbers log.entries <:+ List.range' 1 passes
  /-- No pass is ever reported twice, or out of order. -/
  seen : (Event.passNumbers (taken ++ log.entries)).Sublist (List.range' 1 passes)
  /-- If nothing else was dropped, every pass has been reported. -/
  whole : log.dropped = taken.length →
    Event.passNumbers (taken ++ log.entries) = List.range' 1 passes
  lost : taken.length ≤ log.dropped
  room : log.capacity = 0 → log.entries = []

theorem EventLog.reports_empty (capacity : Nat) : (EventLog.empty capacity).Reports [] 0 :=
  ⟨List.suffix_rfl, List.Sublist.refl _, fun _ => rfl, Nat.le_refl _, fun _ => rfl⟩

theorem EventLog.Reports.take (h : log.Reports taken passes) :
    log.take.2.Reports (taken ++ log.entries) passes := by
  have dropped : log.take.2.dropped = log.dropped + log.entries.length :=
    congrArg (log.dropped + ·) log.size_eq_length
  refine ⟨List.nil_suffix, ?_, fun same => ?_, ?_, fun _ => rfl⟩
  · rw [EventLog.entries_take, List.append_nil]
    exact h.seen
  · rw [dropped, List.length_append] at same
    rw [EventLog.entries_take, List.append_nil]
    exact h.whole (Nat.add_right_cancel same)
  · rw [dropped, List.length_append]
    exact Nat.add_le_add_right h.lost _

/-- Recording `event` is right when the passes that it reports are those that come next. -/
theorem EventLog.Reports.record_of_range (h : log.Reports taken passes) {later : Nat}
    (next : List.range' 1 later = List.range' 1 passes ++ Event.passNumbers [event]) :
    (log.record event).Reports taken later := by
  -- entries in front may be lost, the new one stands at the end
  have kept : ∀ entries, Event.passNumbers entries <:+ List.range' 1 passes →
      Event.passNumbers (entries ++ [event]) <:+ List.range' 1 later := by
    rintro entries ⟨front, all⟩
    rw [next, ← all, Event.passNumbers_append]
    exact ⟨front, (List.append_assoc _ _ _).symm⟩
  have seen : ∀ entries, (Event.passNumbers (taken ++ entries)).Sublist (List.range' 1 passes) →
      (Event.passNumbers (taken ++ (entries ++ [event]))).Sublist (List.range' 1 later) := by
    intro entries sublist
    rw [next, ← List.append_assoc, Event.passNumbers_append]
    exact sublist.append (List.Sublist.refl _)
  have shorter : (Event.passNumbers (taken ++ log.entries.tail)).Sublist
      (Event.passNumbers (taken ++ log.entries)) :=
    ((List.Sublist.refl taken).append (List.tail_sublist _)).filterMap _
  have lost := h.lost
  rcases log.record_cases event with
    ⟨none, entries, dropped⟩ | ⟨some, -, entries, dropped⟩ | ⟨some, -, entries, dropped⟩
  · have nothing := h.room none
    refine ⟨?_, ?_, fun same => ?_, ?_, fun _ => entries.trans nothing⟩
    · rw [entries, nothing]
      exact List.nil_suffix
    · rw [entries, next]
      exact h.seen.trans (List.sublist_append_left _ _)
    · omega
    · omega
  · refine ⟨?_, ?_, fun same => ?_, ?_, fun none => ?_⟩
    · rw [entries]
      exact kept _ (((List.tail_suffix _).filterMap _).trans h.kept)
    · rw [entries]
      exact seen _ (shorter.trans h.seen)
    · omega
    · omega
    · exact absurd (log.capacity_record event ▸ none) some
  · refine ⟨?_, ?_, fun same => ?_, ?_, fun none => ?_⟩
    · rw [entries]
      exact kept _ h.kept
    · rw [entries]
      exact seen _ h.seen
    · rw [dropped] at same
      rw [entries, next, ← List.append_assoc, Event.passNumbers_append, h.whole same]
    · omega
    · exact absurd (log.capacity_record event ▸ none) some

theorem EventLog.Reports.record (h : log.Reports taken passes) (other : event.passNumber? = none) :
    (log.record event).Reports taken passes := by
  refine h.record_of_range ?_
  rw [Event.passNumbers, List.filterMap_cons_none other, List.filterMap_nil, List.append_nil]

theorem EventLog.Reports.record_pass (h : log.Reports taken passes) :
    (log.record (.passCompleted (passes + 1))).Reports taken (passes + 1) := by
  refine h.record_of_range ?_
  rw [List.range'_concat, Nat.one_mul, Nat.add_comm 1]
  rfl

end BlockStage
