import BlockStage.Event.Basic

/-!
The event log. It keeps the newest entries up to its capacity and counts the others, so the
first entry it keeps has the number of dropped entries as its place in the whole history.
Entries come in at one end and leave at the other; they are kept in two lists, the older ones
oldest first and the newer ones newest first, and `entries` is the view to reason about.
-/

namespace BlockStage

structure EventLog where
  capacity : Nat
  dropped : Nat
  older : List Event
  newer : List Event
  size : Nat
  size_eq : size = older.length + newer.length := by simp_all

namespace EventLog

def empty (capacity : Nat) : EventLog where
  capacity := capacity
  dropped := 0
  older := []
  newer := []
  size := 0

/-- The kept entries, oldest first. -/
def entries (log : EventLog) : List Event := log.older ++ log.newer.reverse

/-- The log with all kept entries on its older side. -/
def turned (log : EventLog) : EventLog where
  capacity := log.capacity
  dropped := log.dropped
  older := log.entries
  newer := []
  size := log.size
  size_eq := by simp [entries, log.size_eq]

/-- Drops the first of the older entries, if there is one. -/
def dropFirst (log : EventLog) : EventLog :=
  match older : log.older with
  | _ :: rest =>
    { log with
      older := rest
      size := log.size - 1
      dropped := log.dropped + 1
      size_eq := by simp [log.size_eq, older] }
  | [] => log

/-- Drops the oldest entry, if there is one. -/
def dropOldest (log : EventLog) : EventLog :=
  if log.older.isEmpty then log.turned.dropFirst else log.dropFirst

def push (log : EventLog) (event : Event) : EventLog :=
  { log with
    newer := event :: log.newer
    size := log.size + 1
    size_eq := by simp [log.size_eq]; omega }

/-- Appends an entry. A full log drops its oldest entry first; a log without capacity drops the
new one. -/
def record (log : EventLog) (event : Event) : EventLog :=
  if log.capacity = 0 then { log with dropped := log.dropped + 1 }
  else if log.size = log.capacity then log.dropOldest.push event
  else log.push event

/-- Takes all entries out. They count as dropped from then on. -/
def take (log : EventLog) : List Event × EventLog :=
  (log.entries, { empty log.capacity with dropped := log.dropped + log.size })

/-- The kept entries with their places in the whole history. -/
def numbered (log : EventLog) : List (Nat × Event) :=
  (log.entries.zipIdx log.dropped).map fun (event, n) => (n, event)

theorem size_eq_length (log : EventLog) : log.size = log.entries.length := by
  simp [entries, log.size_eq]

@[simp] theorem entries_empty (capacity : Nat) : (empty capacity).entries = [] := rfl

@[simp] theorem entries_turned (log : EventLog) : log.turned.entries = log.entries := by
  simp [turned, entries]

@[simp] theorem entries_push (log : EventLog) (event : Event) :
    (log.push event).entries = log.entries ++ [event] := by
  simp [push, entries]

theorem entries_dropFirst {log : EventLog} (h : log.older ≠ [] ∨ log.newer = []) :
    log.dropFirst.entries = log.entries.tail := by
  unfold dropFirst entries
  split
  · next older => simp [older]
  · next older => simp_all

/-- Dropping the oldest entry takes the first one out of the view. -/
@[simp] theorem entries_dropOldest (log : EventLog) :
    log.dropOldest.entries = log.entries.tail := by
  unfold dropOldest
  split
  · rw [entries_dropFirst (.inr rfl), entries_turned]
  · next h => exact entries_dropFirst (.inl (by simpa using h))

/-- Recording appends to the view, after making room in a full log. -/
theorem entries_record (log : EventLog) (event : Event) :
    (log.record event).entries =
      if log.capacity = 0 then log.entries
      else if log.size = log.capacity then log.entries.tail ++ [event]
      else log.entries ++ [event] := by
  unfold record
  split
  · rfl
  · split <;> simp

@[simp] theorem entries_take (log : EventLog) : log.take.2.entries = [] := rfl

end EventLog

end BlockStage
