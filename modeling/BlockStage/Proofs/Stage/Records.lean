import BlockStage.Proofs.Event.Passes
import BlockStage.Proofs.Stage.Trace

/-!
# What operations record

An operation tells beforehand which events it logs (`Operation.events`): its contacts one after
another, and then at most one remark of its own.  All that it does to the log is to record these,
unless it empties the log (`Operation.log_apply`).  The end of a pass is never among them
(`Operation.log_closed`).
-/

namespace BlockStage

variable {s t : Stage} {id : ActorId} {position : Position}

/-! ## Contacts -/

/-- The event of a contact. -/
def Contact.event (c : Contact) : Event := .contact c.edge c.pair

theorem Stage.log_settleAll (s : Stage) (contacts : List Contact) :
    (s.settleAll contacts).log = s.log.used (contacts.map (.record ·.event)) := by
  induction contacts generalizing s with
  | nil => rfl
  | cons contact rest ih => exact ih (s.settle contact)

theorem Stage.log_place (s : Stage) (id : ActorId) (position : Position) :
    (s.place id position).2.log =
      s.log.used ((s.contacts id position).map (.record ·.event)) := by
  by_cases known : id ∈ s.roster.ids
  · rw [Stage.place_of_mem known, Stage.log_settleAll]
    rfl
  · rw [Stage.contacts_of_not_mem known, Stage.place_of_not_mem known]
    rfl

/-! ## Where a placed actor stands -/

/-- What contacts leave alone is found again under an id. -/
theorem Stage.position_settleAll (s : Stage) (contacts : List Contact) (id : ActorId) :
    ((s.settleAll contacts).actor? id).map (·.position) = (s.actor? id).map (·.position) :=
  Roster.map_get?_congr (Stage.map_settleAll (fun _ _ _ => rfl) s contacts) id

/-- A placed actor stands at the place on the stage that stands for `position`. -/
theorem Stage.position_place (known : id ∈ s.roster.ids) (position : Position) :
    ((s.place id position).2.actor? id).map (·.position) = some position.clamped := by
  obtain ⟨x, found⟩ := Roster.exists_get?_of_mem_ids known
  have stands := s.get?_moved id position id
  rw [if_pos rfl, found] at stands
  rw [Stage.place_of_mem known, Stage.position_settleAll, Stage.actor?, stands]
  rfl

theorem Stage.log_travelTo (known : id ∈ s.roster.ids) (travel : Travel) (position : Position) :
    (s.travelTo id travel position).log =
      s.log.used ((s.contacts id position).map (.record ·.event) ++
        [.record (.travelled id travel position.clamped)]) := by
  obtain ⟨x, found, stands⟩ := Option.map_eq_some_iff.mp (s.position_place known position)
  rw [Stage.travelTo, Stage.recordPosition, found, EventLog.used_concat, ← s.log_place]
  show (s.place id position).2.log.record (.travelled id travel x.position) = _
  rw [stands]
  rfl

/-! ## Remarks -/

/-- What a performance logs beside its contacts. -/
def Stage.performed? (s : Stage) (id : ActorId) (script : Script) : Option Event :=
  match s.actor? id, script.block? with
  | none, _ | _, none => none
  | some x, some block =>
    match block with
    | .move => some (.travelled id .move (x.ahead (script.numberOrZero "steps")).clamped)
    | .turnLeft => some (.turned id (x.heading - script.numberOrZero "degrees"))
    | .turnRight => some (.turned id (x.heading + script.numberOrZero "degrees"))
    | .goTo =>
      some (.travelled id .goTo
        (Position.clamped ⟨script.numberOrZero "x", script.numberOrZero "y"⟩))
    | .say => some (.spoke id .speech (script.label "message"))
    | .think => some (.spoke id .thought (script.label "message"))
    | .repetition => none

/-- What a preview logs beside its contacts. -/
def Stage.previewed? (s : Stage) (id : ActorId) (script : Script) : Option Event :=
  if script.category = .motion then
    match s.actor? id, script.block? with
    | some x, some .move => some (.travelled id .nudge (x.ahead nudgeSteps).clamped)
    | some x, some .turnLeft => some (.turned id (x.heading - nudgeDegrees))
    | some x, some .turnRight => some (.turned id (x.heading + nudgeDegrees))
    | _, _ => none
  else none

/-- Whether an event is what an actor does by itself. -/
def Event.IsDeed : Event → Prop
  | .travelled _ _ _ | .turned _ _ | .spoke _ _ _ => True
  | .created _ | .selected _ | .added _ | .removed _ | .contact _ _ | .playStarted | .playStopped
  | .passCompleted _ | .note _ => False

theorem Stage.isDeed_performed {script : Script} {event : Event}
    (remark : s.performed? id script = some event) : event.IsDeed := by
  rw [Stage.performed?] at remark
  split at remark
  · cases remark
  · cases remark
  · split at remark
    all_goals cases remark
    all_goals trivial

theorem Stage.isDeed_previewed {script : Script} {event : Event}
    (remark : s.previewed? id script = some event) : event.IsDeed := by
  rw [Stage.previewed?] at remark
  split at remark
  · split at remark
    all_goals cases remark
    all_goals trivial
  · cases remark

/-- What an operation logs beside its contacts. -/
def Operation.remark? (s : Stage) : Operation → Option Event
  | .create => some (.created s.roster.nextId)
  | .select actor => if s.roster.has actor then some (.selected actor) else none
  | .submit script => if s.registry.has script.id then none else some (.added script.id)
  | .delete id => if s.registry.has id then some (.removed id) else none
  | .nudge script => s.selected.bind fun actor => s.previewed? actor script
  | .perform actor script => s.performed? actor script
  | .note text => some (.note text)
  | .place _ _ | .face _ _ | .hush _ | .take => none

/-- The events that an operation logs, in order. -/
def Operation.events (operation : Operation) (s : Stage) : List Event :=
  (operation.contacts s).map Contact.event ++ (operation.remark? s).toList

/-- What an operation does to the log. -/
def Operation.uses (operation : Operation) (s : Stage) : List EventLog.Use :=
  match operation with
  | .take => [.take]
  | _ => (operation.events s).map .record

theorem Operation.uses_of_keeps {operation : Operation} (keeps : operation ≠ .take) :
    operation.uses s = (operation.events s).map .record := by
  cases operation with
  | take => exact absurd rfl keeps
  | create | place | face | select | submit | delete | nudge | perform | hush | note => rfl

theorem Operation.InTurn.keeps {operation : Operation} (inTurn : operation.InTurn) :
    operation ≠ .take := by
  rintro rfl
  exact inTurn

/-! ## Only that is recorded -/

theorem Stage.log_perform (s : Stage) (id : ActorId) (script : Script) :
    (s.perform id script).2.log =
      s.log.used (((Operation.perform id script).events s).map .record) := by
  rw [Stage.perform, Operation.events, Operation.contacts, Operation.placement?,
    Operation.remark?, Stage.destination?, Stage.performed?]
  cases found : s.actor? id with
  | none => rfl
  | some actor =>
      obtain rfl : actor.id = id := Roster.id_of_get? found
      have known : actor.id ∈ s.roster.ids := Roster.mem_ids_of_get? found
      cases script.block? with
      | none => rfl
      | some block =>
          cases block with
          | move | goTo =>
              rw [List.map_append, List.map_map]
              exact Stage.log_travelTo known _ _
          | turnLeft | turnRight | say | think | repetition => rfl

theorem Stage.log_nudge (s : Stage) (script : Script) :
    (s.nudge script).2.log =
      s.log.used (((Operation.nudge script).events s).map .record) := by
  rw [Stage.nudge, Operation.events, Operation.contacts, Operation.placement?,
    Operation.remark?]
  cases s.selected with
  | none => rfl
  | some id =>
      rw [Option.bind_some, Option.bind_some, Stage.preview?, Stage.previewed?]
      dsimp only
      rw [Stage.nudgeActor]
      by_cases motion : script.category = .motion
      · rw [if_pos motion, if_pos motion, if_pos motion]
        cases found : s.actor? id with
        | none => rfl
        | some actor =>
            obtain rfl : actor.id = id := Roster.id_of_get? found
            have known : actor.id ∈ s.roster.ids := Roster.mem_ids_of_get? found
            cases script.block? with
            | none => rfl
            | some block =>
                cases block with
                | move =>
                    rw [List.map_append, List.map_map]
                    exact Stage.log_travelTo known _ _
                | turnLeft | turnRight | goTo | say | think | repetition => rfl
      · rw [if_neg motion, if_neg motion, if_neg motion]
        rfl

/-- **An operation does to the log what it tells beforehand.** -/
theorem Operation.log_apply (operation : Operation) (s : Stage) :
    (operation.apply s).log = s.log.used (operation.uses s) := by
  cases operation with
  | create | face | hush | note | take => rfl
  | place actor position =>
      show (s.place actor position).2.log =
        s.log.used (((s.contacts actor position).map Contact.event ++ []).map .record)
      rw [List.append_nil, List.map_map, s.log_place]
      rfl
  | select actor =>
      show _ = s.log.used (((Operation.select actor).events s).map .record)
      rw [Operation.apply, Stage.select, Operation.events, Operation.remark?]
      cases s.roster.has actor <;> rfl
  | submit script =>
      show _ = s.log.used (((Operation.submit script).events s).map .record)
      rw [Operation.apply, Stage.submit, Registry.add, Operation.events, Operation.remark?]
      cases s.registry.has script.id <;> rfl
  | delete id =>
      show _ = s.log.used (((Operation.delete id).events s).map .record)
      rw [Operation.apply, Stage.delete, Registry.remove, Operation.events, Operation.remark?]
      cases s.registry.has id <;> rfl
  | nudge script => exact s.log_nudge script
  | perform actor script => exact s.log_perform actor script

/-! ## No operation reports a pass -/

/-- A property of logs that survives any entry but the end of a pass. -/
def EventLog.Closed (P : EventLog → Prop) : Prop :=
  ∀ log event, event.passNumber? = none → P log → P (log.record event)

variable {P : EventLog → Prop}

theorem EventLog.Closed.used (closed : EventLog.Closed P) {log : EventLog} {events : List Event}
    (others : ∀ event ∈ events, event.passNumber? = none) (h : P log) :
    P (log.used (events.map .record)) := by
  induction events generalizing log with
  | nil => exact h
  | cons event rest ih =>
      obtain ⟨first, others⟩ := List.forall_mem_cons.mp others
      exact ih others (closed log event first h)

theorem Event.IsDeed.passNumber? {event : Event} (deed : event.IsDeed) :
    event.passNumber? = none := by
  cases event with
  | passCompleted => cases deed
  | _ => rfl

theorem Operation.passNumber?_events {operation : Operation} {event : Event}
    (mem : event ∈ operation.events s) : event.passNumber? = none := by
  rcases List.mem_append.mp mem with contact | remark
  · obtain ⟨contact, -, rfl⟩ := List.mem_map.mp contact
    rfl
  · have remark := Option.mem_toList.mp remark
    cases operation with
    | place | face | hush | take => cases remark
    | create | note =>
        cases remark
        rfl
    | select | submit | delete =>
        rw [Operation.remark?] at remark
        split at remark
        all_goals cases remark
        all_goals rfl
    | nudge script =>
        obtain ⟨actor, -, remark⟩ := Option.bind_eq_some_iff.mp remark
        exact (Stage.isDeed_previewed remark).passNumber?
    | perform actor script => exact (Stage.isDeed_performed remark).passNumber?

/-- Whatever is done to a stage, no pass is reported. -/
theorem Operation.log_closed (closed : EventLog.Closed P) {operation : Operation}
    (keeps : operation ≠ .take) (h : P s.log) : P (operation.apply s).log := by
  rw [operation.log_apply, Operation.uses_of_keeps keeps]
  exact closed.used (fun _ => Operation.passNumber?_events) h

/-- Nor does a turn report a pass. -/
theorem Stage.Plays.log_closed (closed : EventLog.Closed P) (plays : s.Plays t) (h : P s.log) :
    P t.log := by
  obtain ⟨operations, inTurn, rfl⟩ := plays
  induction operations generalizing s with
  | nil => exact h
  | cons operation rest ih =>
      obtain ⟨first, inTurn⟩ := List.forall_mem_cons.mp inTurn
      exact ih (Operation.log_closed closed first.keeps h) inTurn

theorem EventLog.closed_reports (taken : List Event) (passes : Nat) :
    EventLog.Closed fun log => log.Reports taken passes :=
  fun _ _ other reports => reports.record other

end BlockStage
