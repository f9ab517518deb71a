import BlockStage.Event.Log
import Mathlib.Data.List.DropRight
import Mathlib.Data.List.Induction

/-!
# A log keeps the end of its history

Whatever fills a log and empties it, the log is one that was recorded to and taken from in turn
(`EventLog.used`).  Such a log keeps the newest events since it was last emptied, as many as it has
room for, and counts all the others (`EventLog.Keeps`).  So what it keeps is the history without
its first `dropped` events, and the number that an entry gets from there is its place in the
history (`EventLog.Keeps.numbered`).
-/

namespace BlockStage

/-! ## Uses of a log -/

/-- What can be done to a log. -/
inductive EventLog.Use where
  | record (event : Event)
  | take

namespace EventLog

/-- The log after a use. -/
def Use.apply : Use → EventLog → EventLog
  | .record event, log => log.record event
  | .take, log => log.take.2

/-- The log after some uses. -/
def used (log : EventLog) (uses : List Use) : EventLog :=
  uses.foldl (fun log use => use.apply log) log

/-- The event that a use hands to the log. -/
def Use.event? : Use → Option Event
  | .record event => some event
  | .take => none

/-- All events ever handed to a log, whether it kept them or not. -/
def history (uses : List Use) : List Event := uses.filterMap Use.event?

/-- What was handed to a log since it was last emptied, after one more use. -/
def Use.since : Use → List Event → List Event
  | .record event, recent => recent ++ [event]
  | .take, _ => []

/-- The events handed to a log since it was last emptied. -/
def recent (uses : List Use) : List Event :=
  uses.foldl (fun recent use => use.since recent) []

variable {log : EventLog} {past fresh : List Event}

@[simp] theorem used_nil (log : EventLog) : log.used [] = log := rfl

@[simp] theorem used_cons (log : EventLog) (use : Use) (rest : List Use) :
    log.used (use :: rest) = (use.apply log).used rest := rfl

theorem used_append (log : EventLog) (first second : List Use) :
    log.used (first ++ second) = (log.used first).used second := List.foldl_append

@[simp] theorem used_concat (log : EventLog) (uses : List Use) (use : Use) :
    log.used (uses ++ [use]) = use.apply (log.used uses) := log.used_append uses [use]

@[simp] theorem history_append (first second : List Use) :
    history (first ++ second) = history first ++ history second := List.filterMap_append

@[simp] theorem recent_concat (uses : List Use) (use : Use) :
    recent (uses ++ [use]) = use.since (recent uses) := List.foldl_append

/-! ### One more event -/

theorem dropped_dropFirst (nonempty : log.older ≠ []) :
    log.dropFirst.dropped = log.dropped + 1 := by
  unfold dropFirst
  split
  · rfl
  · next nothing => exact absurd nothing nonempty

theorem dropped_dropOldest (nonempty : log.entries ≠ []) :
    log.dropOldest.dropped = log.dropped + 1 := by
  unfold dropOldest
  split
  · have turned : log.turned.dropFirst.dropped = log.turned.dropped + 1 :=
      dropped_dropFirst nonempty
    exact turned
  · next older => exact dropped_dropFirst (by simpa using older)

theorem capacity_record (log : EventLog) (event : Event) :
    (log.record event).capacity = log.capacity := by
  unfold record dropOldest dropFirst
  split
  · rfl
  · split
    · split
      all_goals
        split
        all_goals rfl
    · rfl

/-- A new entry comes last unless there is no room at all, and the first one goes if the log is
full. -/
theorem record_cases (log : EventLog) (event : Event) :
    log.capacity = 0 ∧ (log.record event).entries = log.entries ∧
      (log.record event).dropped = log.dropped + 1 ∨
    log.capacity ≠ 0 ∧ log.entries.length = log.capacity ∧
      (log.record event).entries = log.entries.tail ++ [event] ∧
      (log.record event).dropped = log.dropped + 1 ∨
    log.capacity ≠ 0 ∧ log.entries.length ≠ log.capacity ∧
      (log.record event).entries = log.entries ++ [event] ∧
      (log.record event).dropped = log.dropped := by
  rw [log.entries_record]
  by_cases none : log.capacity = 0
  · refine .inl ⟨none, if_pos none, ?_⟩
    rw [record, if_pos none]
  · by_cases full : log.size = log.capacity
    · refine .inr (.inl ⟨none, log.size_eq_length ▸ full, by rw [if_neg none, if_pos full], ?_⟩)
      have nonempty : log.entries ≠ [] := by
        intro nothing
        rw [log.size_eq_length, nothing] at full
        exact none full.symm
      rw [record, if_neg none, if_pos full]
      exact dropped_dropOldest nonempty
    · refine .inr (.inr ⟨none, log.size_eq_length ▸ full, by rw [if_neg none, if_neg full], ?_⟩)
      rw [record, if_neg none, if_neg full]
      rfl

/-! ### Emptying -/

theorem dropped_take (log : EventLog) :
    log.take.2.dropped = log.dropped + log.entries.length :=
  congrArg (log.dropped + ·) log.size_eq_length

/-! ## The end of the history -/

/-- The log keeps the newest of the events that came since it was last emptied, and counts all
others of its history. -/
structure Keeps (log : EventLog) (past fresh : List Event) : Prop where
  within : fresh <:+ past
  newest : log.entries = fresh.rtake log.capacity
  counted : log.dropped + log.entries.length = past.length

theorem keeps_empty (capacity : Nat) : (empty capacity).Keeps [] [] :=
  ⟨List.suffix_rfl, (List.rtake_nil capacity).symm, rfl⟩

theorem Keeps.length_eq (h : log.Keeps past fresh) :
    log.entries.length = min fresh.length log.capacity := by
  rw [h.newest, List.rtake, List.length_drop]
  omega

/-- With room for all of them, all are the newest. -/
theorem rtake_of_length_le {events : List Event} {n : Nat} (room : events.length ≤ n) :
    events.rtake n = events := by
  rw [List.rtake, Nat.sub_eq_zero_of_le room, List.drop_zero]

/-- With room for one less, the oldest of the newest goes. -/
theorem tail_rtake_succ {events : List Event} {n : Nat} (full : n + 1 ≤ events.length) :
    (events.rtake (n + 1)).tail = events.rtake n := by
  rw [List.rtake, List.rtake, List.tail_drop]
  congr 1
  omega

theorem Keeps.record (h : log.Keeps past fresh) (event : Event) :
    (log.record event).Keeps (past ++ [event]) (fresh ++ [event]) := by
  have within : fresh ++ [event] <:+ past ++ [event] := by
    obtain ⟨front, all⟩ := h.within
    exact ⟨front, by rw [← all, List.append_assoc]⟩
  have newest := h.newest
  have counted := h.counted
  have kept := h.length_eq
  have capacity := log.capacity_record event
  rcases log.record_cases event with
    ⟨none, entries, dropped⟩ | ⟨some, full, entries, dropped⟩ | ⟨some, room, entries, dropped⟩
  · refine ⟨within, ?_, ?_⟩
    · rw [capacity, entries, newest, none, List.rtake_zero, List.rtake_zero]
    · rw [entries, dropped, List.length_append, List.length_singleton]
      omega
  · obtain ⟨n, size⟩ := Nat.exists_eq_succ_of_ne_zero some
    rw [size] at newest full kept
    refine ⟨within, ?_, ?_⟩
    · rw [capacity, entries, newest, size, List.rtake_concat_succ, tail_rtake_succ (by omega)]
    · rw [entries, dropped, List.length_append, List.length_append, List.length_tail,
        List.length_singleton]
      omega
  · obtain ⟨n, size⟩ := Nat.exists_eq_succ_of_ne_zero some
    rw [size] at newest room kept
    have few : fresh.length ≤ n := by omega
    refine ⟨within, ?_, ?_⟩
    · rw [capacity, entries, newest, size, List.rtake_concat_succ, rtake_of_length_le few,
        rtake_of_length_le (few.trans (Nat.le_succ n))]
    · rw [entries, dropped, List.length_append, List.length_append, List.length_singleton]
      omega

theorem Keeps.take (h : log.Keeps past fresh) : log.take.2.Keeps past [] :=
  ⟨List.nil_suffix, (List.rtake_nil _).symm, log.dropped_take.trans h.counted⟩

theorem Keeps.use (h : log.Keeps past fresh) (use : Use) :
    (use.apply log).Keeps (past ++ history [use]) (use.since fresh) := by
  cases use with
  | record event => exact h.record event
  | take => rw [show history [.take] = [] from rfl, List.append_nil]; exact h.take

theorem keeps_used (capacity : Nat) (uses : List Use) :
    ((empty capacity).used uses).Keeps (history uses) (recent uses) := by
  induction uses using List.reverseRecOn with
  | nil => exact keeps_empty capacity
  | append_singleton before use ih =>
      rw [used_concat, history_append, recent_concat]
      exact ih.use use

/-! ## What follows -/

theorem capacity_used (log : EventLog) (uses : List Use) :
    (log.used uses).capacity = log.capacity := by
  induction uses generalizing log with
  | nil => rfl
  | cons use rest ih =>
      rw [used_cons, ih]
      cases use with
      | record event => exact log.capacity_record event
      | take => rfl

theorem Keeps.length_le (h : log.Keeps past fresh) : log.entries.length ≤ log.capacity :=
  h.length_eq ▸ Nat.min_le_right _ _

/-- What is left of the history without the dropped events. -/
theorem Keeps.entries (h : log.Keeps past fresh) : log.entries = past.drop log.dropped := by
  have suffix : log.entries <:+ past := by
    rw [h.newest, List.rtake]
    exact (List.drop_suffix _ _).trans h.within
  rw [List.suffix_iff_eq_drop.mp suffix, ← h.counted, Nat.add_sub_cancel]

theorem zipIdx_drop (events : List Event) (n : Nat) :
    (events.drop n).zipIdx n = events.zipIdx.drop n := by
  refine List.ext_getElem? fun i => ?_
  rw [List.getElem?_zipIdx, List.getElem?_drop, List.getElem?_drop, List.getElem?_zipIdx,
    Nat.zero_add]

/-- A kept event has the number of its place in the history. -/
theorem Keeps.numbered (h : log.Keeps past fresh) :
    log.numbered = (past.zipIdx.drop log.dropped).map fun (event, n) => (n, event) := by
  rw [EventLog.numbered, h.entries, zipIdx_drop]

end EventLog

end BlockStage
