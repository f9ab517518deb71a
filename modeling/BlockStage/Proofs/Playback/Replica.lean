import BlockStage.Proofs.Event.Labels
import BlockStage.Proofs.Playback.Moves
import BlockStage.Proofs.Registry.Broadcast
import BlockStage.Proofs.Stage.Records
import BlockStage.Proofs.Stage.WellFormed
import Mathlib.Data.List.Induction

/-!
# What can be made again from the log

Whoever reads the labels of a log from the first one on can keep a replica of the stage and its
playback: how many actors there are, which scripts are registered, which pairs collide, whether the
playback is running and how many passes it has completed (`Replica`).  A label that could not have
been written where it stands makes the reading fail, so a change that is logged twice, or not at
all, would show.  Every change of these parts is logged once, where it is made
(`Replica.Mirrors.operate` for operations, `Replica.Shows.apply` for moves), and so the replica
shows what is there as long as the log is whole.
-/

namespace BlockStage

/-! ## Replicas -/

/-- What a reader of a log knows. -/
structure Replica where
  actors : Nat
  scripts : List ScriptId
  colliding : List ActorPair
  state : PlayState
  passes : Nat

namespace Replica

/-- Before anything is read. -/
def blank : Replica := ⟨0, [], [], .idle, 0⟩

/-- Makes a reported change again; none if it cannot have been made. -/
def follow? (r : Replica) : Report → Option Replica
  | .created actor =>
    if actor = ⟨UInt32.ofNat (r.actors + 1)⟩ then some { r with actors := r.actors + 1 } else none
  | .added id => if id ∈ r.scripts then none else some { r with scripts := r.scripts ++ [id] }
  | .removed id =>
    if id ∈ r.scripts then some { r with scripts := r.scripts.filter (· ≠ id) } else none
  | .contact .rise pair =>
    if pair ∈ r.colliding then none else some { r with colliding := pair :: r.colliding }
  | .contact .fall pair =>
    if pair ∈ r.colliding then some { r with colliding := r.colliding.filter (· ≠ pair) } else none
  | .played => if r.state = .running then none else some { r with state := .running }
  | .stopped => if r.state = .running then some { r with state := .idle } else none
  | .passed number => if number = r.passes + 1 then some { r with passes := number } else none

/-- Reads a label; those that report nothing are passed over. -/
def read? (r : Replica) (label : String) : Option Replica :=
  match Report.read? label with
  | some report => r.follow? report
  | none => some r

/-- Reads the labels of some events. -/
def readAll? (r : Replica) (events : List Event) : Option Replica :=
  (events.map Event.label).foldlM read? r

variable {r r' : Replica} {s t : Stage} {event : Event} {events : List Event}

@[simp] theorem readAll?_nil (r : Replica) : r.readAll? [] = some r := rfl

theorem readAll?_append (r : Replica) (first second : List Event) :
    r.readAll? (first ++ second) = (r.readAll? first).bind (·.readAll? second) := by
  rw [readAll?, List.map_append, List.foldlM_append]
  rfl

theorem readAll?_cons (r : Replica) (event : Event) (rest : List Event) :
    r.readAll? (event :: rest) = (r.read? event.label).bind (·.readAll? rest) := rfl

theorem read?_label (r : Replica) (event : Event) {report : Report}
    (reports : event.report? = some report) :
    r.read? event.label = r.follow? report := by
  rw [read?, Report.read?_label, reports]

theorem read?_of_silent (r : Replica) (silent : event.report? = none) :
    r.read? event.label = some r := by
  rw [read?, Report.read?_label, silent]

theorem readAll?_of_silent (r : Replica) (silent : ∀ event ∈ events, event.report? = none) :
    r.readAll? events = some r := by
  induction events with
  | nil => rfl
  | cons event rest ih =>
      obtain ⟨first, silent⟩ := List.forall_mem_cons.mp silent
      rw [readAll?_cons, r.read?_of_silent first]
      exact ih silent

/-! ## Stages -/

/-- The replica has the actors, the scripts and the flags of a stage. -/
structure Mirrors (r : Replica) (s : Stage) : Prop where
  actors : r.actors = s.roster.actors.length
  scripts : r.scripts = Program.ids s.registry.scripts
  colliding : ∀ pair, pair ∈ r.colliding ↔ s.collisions.colliding pair = true

/-- A contact that is due can be read, and leaves the flag of its pair. -/
theorem read?_contact (contact : Contact) {before : ActorPair → Bool}
    (flags : ∀ pair, pair ∈ r.colliding ↔ before pair = true)
    (due : before contact.pair = decide (contact.edge = .fall)) :
    ∃ colliding, r.read? contact.event.label = some { r with colliding } ∧
      ∀ pair, pair ∈ colliding ↔
        (if contact.pair = pair then decide (contact.edge = .rise) else before pair) = true := by
  have flag := flags contact.pair
  rw [due] at flag
  rw [r.read?_label contact.event rfl]
  cases edge : contact.edge with
  | rise =>
      rw [edge] at flag
      refine ⟨contact.pair :: r.colliding, if_neg (by simpa using flag), fun pair => ?_⟩
      rw [List.mem_cons, flags]
      split
      · next same => simp [same]
      · next other => simp [Ne.symm other]
  | fall =>
      rw [edge] at flag
      refine ⟨r.colliding.filter (· ≠ contact.pair), if_pos (by simpa using flag), fun pair => ?_⟩
      rw [List.mem_filter, flags]
      split
      · next same => simp [same]
      · next other => simp [Ne.symm other]

/-- Contacts that lead from some flags to others lead a reader there as well. -/
theorem readAll?_contacts {before after : ActorPair → Bool} (contacts : List Contact)
    (flags : ∀ pair, pair ∈ r.colliding ↔ before pair = true)
    (leads : ∀ pair, Edge.Leads (before pair) (Contact.edgesOf pair contacts) (after pair)) :
    ∃ colliding, r.readAll? (contacts.map Contact.event) = some { r with colliding } ∧
      ∀ pair, pair ∈ colliding ↔ after pair = true := by
  induction contacts generalizing r before with
  | nil =>
      refine ⟨r.colliding, rfl, fun pair => ?_⟩
      have same : before pair = after pair := (leads pair).eq_getLast?.symm
      rw [flags, same]
  | cons contact rest ih =>
      have here := leads contact.pair
      rw [Contact.edgesOf_cons, if_pos rfl] at here
      obtain ⟨colliding, read, flags⟩ := read?_contact contact flags here.of_cons.1
      have leads (pair : ActorPair) :
          Edge.Leads (if contact.pair = pair then decide (contact.edge = .rise) else before pair)
            (Contact.edgesOf pair rest) (after pair) := by
        have leads := leads pair
        rw [Contact.edgesOf_cons] at leads
        split at leads
        · next same => exact (if_pos same).symm ▸ leads.of_cons.2
        · next other => exact (if_neg other).symm ▸ leads
      obtain ⟨later, readRest, flags⟩ := ih (r := { r with colliding }) flags leads
      refine ⟨later, ?_, flags⟩
      rw [List.map_cons, readAll?_cons, read, Option.bind_some, readRest]

/-! ### Operations -/

theorem Mirrors.of_same (h : r.Mirrors s) (actors : t.roster.ids = s.roster.ids)
    (registry : t.registry = s.registry) (flags : t.collisions = s.collisions) :
    r.Mirrors t := by
  have length : t.roster.actors.length = s.roster.actors.length := by
    rw [← Roster.length_ids, actors, Roster.length_ids]
  exact ⟨length ▸ h.actors, registry ▸ h.scripts, flags ▸ h.colliding⟩

theorem report?_of_isDeed (deed : event.IsDeed) : event.report? = none := by
  cases event with
  | travelled | turned | spoke | selected => rfl
  | created | added | removed | contact | playStarted | playStopped | passCompleted | note =>
      cases deed

/-- What a quiet operation remarks reports nothing, unless it is a note. -/
theorem report?_remark {operation : Operation} (quiet : operation.isQuiet = true)
    (own : ∀ text, operation ≠ .note text) (remark : operation.remark? s = some event) :
    event.report? = none := by
  cases operation with
  | create | submit | delete => cases quiet
  | place | face | hush | take => cases remark
  | note text => exact absurd rfl (own text)
  | select actor =>
      rw [Operation.remark?, Option.ite_none_right_eq_some] at remark
      cases remark.2
      rfl
  | nudge script =>
      obtain ⟨actor, -, remark⟩ := Option.bind_eq_some_iff.mp remark
      exact report?_of_isDeed (Stage.isDeed_previewed remark)
  | perform actor script => exact report?_of_isDeed (Stage.isDeed_performed remark)

theorem Mirrors.of_alike (h : r.Mirrors s) (alike : s.Alike t) : r.Mirrors t :=
  h.of_same alike.ids alike.registry alike.collisions

/-- Reading one event that reports something. -/
theorem readAll?_report (r : Replica) (event : Event) {report : Report}
    (reports : event.report? = some report) : r.readAll? [event] = r.follow? report := by
  rw [readAll?_cons, r.read?_label event reports]
  cases r.follow? report <;> rfl

theorem Mirrors.create (h : r.Mirrors s) :
    r.readAll? (Operation.create.events s) = some { r with actors := r.actors + 1 } ∧
      ({ r with actors := r.actors + 1 } : Replica).Mirrors s.create.2 := by
  constructor
  · refine (r.readAll?_report (.created s.roster.nextId) rfl).trans (if_pos ?_)
    rw [h.actors]
    rfl
  · have length : s.create.2.roster.actors.length = s.roster.actors.length + 1 :=
      List.length_append
    exact ⟨length ▸ congrArg (· + 1) h.actors, h.scripts, h.colliding⟩

theorem Mirrors.submit (h : r.Mirrors s) (script : Script) :
    ∃ scripts, r.readAll? ((Operation.submit script).events s) = some { r with scripts } ∧
      ({ r with scripts } : Replica).Mirrors (s.submit script).2 := by
  by_cases known : s.registry.has script.id = true
  · refine ⟨r.scripts, ?_, ?_⟩
    · show r.readAll? (Option.toList (if _ then _ else _)) = _
      rw [if_pos known]
      rfl
    · rw [Stage.submit_of_known known]
      exact h
  · have unlisted : script.id ∉ r.scripts := by
      rwa [h.scripts, ← Registry.has_iff]
    refine ⟨r.scripts ++ [script.id], ?_, ?_, ?_, ?_⟩
    · show r.readAll? (Option.toList (if _ then _ else _)) = _
      rw [if_neg known]
      exact (r.readAll?_report (.added script.id) rfl).trans (if_neg unlisted)
    · rw [← Roster.length_ids, s.ids_submit, Roster.length_ids]
      exact h.actors
    · rw [Stage.submit_of_fresh known, h.scripts]
      show _ = Program.ids (s.registry.scripts ++ [script])
      rw [Program.ids, Program.ids, List.map_append]
      rfl
    · rw [s.collisions_submit]
      exact h.colliding

theorem Mirrors.delete (h : r.Mirrors s) (id : ScriptId) :
    ∃ scripts, r.readAll? ((Operation.delete id).events s) = some { r with scripts } ∧
      ({ r with scripts } : Replica).Mirrors (s.delete id).2 := by
  have dropped : r.scripts.filter (· ≠ id) = Program.ids (s.delete id).2.registry.scripts := by
    rw [(s.alike_delete id).registry, h.scripts]
    exact (Program.ids_drop s.registry.scripts id).symm
  have mirrors : ({ r with scripts := r.scripts.filter (· ≠ id) } : Replica).Mirrors
      (s.delete id).2 := by
    refine ⟨?_, dropped, ?_⟩
    · rw [← Roster.length_ids, s.ids_delete, Roster.length_ids]
      exact h.actors
    · rw [s.collisions_delete]
      exact h.colliding
  refine ⟨_, ?_, mirrors⟩
  show r.readAll? (Option.toList (if _ then _ else _)) = _
  by_cases known : s.registry.has id = true
  · rw [if_pos known]
    refine (r.readAll?_report (.removed id) rfl).trans (if_pos ?_)
    rwa [h.scripts, ← Registry.has_iff]
  · have unlisted : id ∉ r.scripts := by rwa [h.scripts, ← Registry.has_iff]
    have all : r.scripts.filter (· ≠ id) = r.scripts :=
      List.filter_eq_self.mpr fun other mem =>
        decide_eq_true fun same => unlisted (same ▸ mem)
    rw [if_neg known, all]
    rfl

/-- What else an operation does is a placement. -/
theorem Mirrors.placed (h : r.Mirrors s) {operation : Operation}
    (quiet : operation.isQuiet = true) (own : ∀ text, operation ≠ .note text)
    (step : s.Step t operation) (alike : (s.placedAt (operation.placement? s)).Alike t) :
    ∃ colliding, r.readAll? (operation.events s) = some { r with colliding } ∧
      ({ r with colliding } : Replica).Mirrors t := by
  obtain ⟨colliding, read, flags⟩ :=
    readAll?_contacts (operation.contacts s) h.colliding step.leads
  have ids : t.roster.ids = s.roster.ids := by
    rw [alike.ids]
    cases operation.placement? s with
    | none => rfl
    | some place => exact s.ids_place place.1 place.2
  have registry := alike.registry.trans (s.registry_placedAt _)
  have same : r.Mirrors { t with collisions := s.collisions } := h.of_same ids registry rfl
  refine ⟨colliding, ?_, same.actors, same.scripts, flags⟩
  rw [Operation.events, readAll?_append, read, Option.bind_some]
  exact readAll?_of_silent _ fun event mem => report?_remark quiet own (Option.mem_toList.mp mem)

/-- **Reading what an operation logs makes its changes again.** -/
theorem Mirrors.step (h : r.Mirrors s) {operation : Operation} (step : s.Step t operation)
    (own : ∀ text, operation ≠ .note text) :
    ∃ r', r.readAll? (operation.events s) = some r' ∧ r'.Mirrors t ∧
      r'.state = r.state ∧ r'.passes = r.passes := by
  have whole := step
  cases step with
  | created alike => exact ⟨_, h.create.1, h.create.2.of_alike alike, rfl, rfl⟩
  | submitted script alike =>
      obtain ⟨_, read, mirrors⟩ := h.submit script
      exact ⟨_, read, mirrors.of_alike alike, rfl, rfl⟩
  | deleted id alike =>
      obtain ⟨_, read, mirrors⟩ := h.delete id
      exact ⟨_, read, mirrors.of_alike alike, rfl, rfl⟩
  | placed quiet alike =>
      obtain ⟨_, read, mirrors⟩ := h.placed quiet own whole alike
      exact ⟨_, read, mirrors, rfl, rfl⟩

end Replica

/-! ## Logs -/

open Replica

/-- The log, if nothing of it was dropped, lets a reader make the replica. -/
def EventLog.Recounts (log : EventLog) (r : Replica) : Prop :=
  log.dropped = 0 → Replica.blank.readAll? log.entries = some r

variable {log : EventLog} {r r' : Replica} {s t : Stage}

theorem EventLog.Recounts.record (h : log.Recounts r) (event : Event)
    (read : r.readAll? [event] = some r') : (log.record event).Recounts r' := by
  intro whole
  rcases log.record_cases event with ⟨-, -, dropped⟩ | ⟨-, -, -, dropped⟩ | ⟨-, -, entries, dropped⟩
  · omega
  · omega
  · rw [entries, readAll?_append, h (dropped ▸ whole), Option.bind_some, read]

theorem EventLog.Recounts.used (h : log.Recounts r) {events : List Event}
    (read : r.readAll? events = some r') : (log.used (events.map .record)).Recounts r' := by
  induction events generalizing log r with
  | nil =>
      cases read
      exact h
  | cons event rest ih =>
      rw [show event :: rest = [event] ++ rest from rfl, readAll?_append] at read
      obtain ⟨next, first, read⟩ := Option.bind_eq_some_iff.mp read
      exact ih (h.record event first) read

/-! ## Playback -/

/-- The log recounts a replica of the stage. -/
structure Stage.Recounted (s : Stage) (r : Replica) : Prop where
  mirrors : r.Mirrors s
  recounts : s.log.Recounts r

theorem Stage.Recounted.operate (h : s.Recounted r) {operation : Operation}
    (own : ∀ text, operation ≠ .note text) (keeps : operation ≠ .take) :
    ∃ r', (operation.apply s).Recounted r' ∧ r'.state = r.state ∧ r'.passes = r.passes := by
  obtain ⟨r', read, mirrors, state, passes⟩ := h.mirrors.step (operation.step s) own
  refine ⟨r', ⟨mirrors, ?_⟩, state, passes⟩
  rw [operation.log_apply, Operation.uses_of_keeps keeps]
  exact h.recounts.used read

/-- What a turn does is read as well, and has nothing to do with the playback. -/
theorem Stage.Recounted.plays (h : s.Recounted r) (plays : s.Plays t) :
    ∃ r', t.Recounted r' ∧ r'.state = r.state ∧ r'.passes = r.passes := by
  obtain ⟨operations, inTurn, rfl⟩ := plays
  induction operations generalizing s r with
  | nil => exact ⟨r, h, rfl, rfl⟩
  | cons operation rest ih =>
      obtain ⟨first, inTurn⟩ := List.forall_mem_cons.mp inTurn
      have own : ∀ text, operation ≠ .note text := by
        rintro text rfl
        exact first
      obtain ⟨next, here, state, passes⟩ := h.operate own first.keeps
      obtain ⟨r', later, state', passes'⟩ := ih here inTurn
      exact ⟨r', later, state'.trans state, passes'.trans passes⟩

/-- The playback logs something that a reader can follow. -/
theorem Stage.Recounted.record (h : s.Recounted r) {event : Event} {report : Report}
    (reports : event.report? = some report) (follows : r.follow? report = some r')
    (mirrors : r'.Mirrors s) : (s.record event).Recounted r' :=
  ⟨mirrors.of_alike (s.alike_record event),
    h.recounts.record event ((r.readAll?_report event reports).trans follows)⟩

/-- The replica shows the stage and its playback, and the log recounts it. -/
structure Replica.Shows (r : Replica) (p : Playback) : Prop where
  recounted : p.stage.Recounted r
  state : r.state = p.state
  passes : r.passes = p.passes

variable {p q : Playback} {loop : Loop} {next : Option Loop}

theorem Stage.Recounted.played (h : s.Recounted r) (idle : ¬ r.state = .running) :
    (s.record .playStarted).Recounted { r with state := .running } :=
  h.record rfl (if_neg idle) ⟨h.mirrors.actors, h.mirrors.scripts, h.mirrors.colliding⟩

theorem Stage.Recounted.stopped (h : s.Recounted r) (running : r.state = .running) :
    (s.record .playStopped).Recounted { r with state := .idle } :=
  h.record rfl (if_pos running) ⟨h.mirrors.actors, h.mirrors.scripts, h.mirrors.colliding⟩

theorem Stage.Recounted.passed (h : s.Recounted r) :
    (s.record (.passCompleted (r.passes + 1))).Recounted { r with passes := r.passes + 1 } :=
  h.record rfl (if_pos rfl) ⟨h.mirrors.actors, h.mirrors.scripts, h.mirrors.colliding⟩

theorem Replica.Shows.play (h : r.Shows p) : ∃ r' : Replica, r'.Shows p.play.2 := by
  by_cases running : p.state = .running
  · exact ⟨r, by rwa [Playback.play_of_running running]⟩
  · have played := h.recounted.played (h.state ▸ running)
    cases alive : p.loopActive with
    | true =>
        rw [Playback.play_of_active running alive]
        exact ⟨_, played, rfl, h.passes⟩
    | false =>
        rw [Playback.play_of_inactive running alive]
        exact ⟨_, played, rfl, h.passes⟩

theorem Replica.Shows.stop (h : r.Shows p) : ∃ r' : Replica, r'.Shows p.stop.2 := by
  by_cases running : p.state = .running
  · rw [Playback.stop_of_running running]
    exact ⟨_, h.recounted.stopped (h.state.trans running), rfl, h.passes⟩
  · rw [Playback.stop_of_idle running]
    exact ⟨r, h⟩

/-- Whatever a loop comes to, it is logged as it is. -/
theorem Replica.Shows.stretch (h : r.Shows p) (stretch : p.Stretch loop next q) :
    ∃ r' : Replica, r'.Shows q := by
  cases stretch with
  | released outside idle now => exact ⟨r, h.recounted, h.state, h.passes⟩
  | speaks may plays now due line pass =>
      obtain ⟨r', recounted, state, passes⟩ := h.recounted.plays plays
      exact ⟨r', recounted, state.trans h.state, passes.trans h.passes⟩
  | rests may plays within now due =>
      obtain ⟨r', recounted, state, passes⟩ := h.recounted.plays plays
      have passed := recounted.passed
      rw [passes, h.passes] at passed
      exact ⟨_, passed, state.trans h.state, rfl⟩
  | stops may plays reached now =>
      obtain ⟨r', recounted, state, passes⟩ := h.recounted.plays plays
      have passed := recounted.passed
      rw [passes, h.passes] at passed
      by_cases running : p.state = .running
      · rw [if_pos running]
        exact ⟨_, passed.stopped ((state.trans h.state).trans running), rfl, rfl⟩
      · have idle := Playback.state_eq_idle running
        rw [if_neg running]
        exact ⟨_, passed, (state.trans h.state).trans idle, rfl⟩

/-- Nobody else logs anything by a move, and the log is not emptied. -/
def Playback.Move.LeavesLog : Playback.Move → Prop
  | .operate (.note _) | .operate .take => False
  | _ => True

instance : DecidablePred Playback.Move.LeavesLog
  | .operate (.note _) | .operate .take => inferInstanceAs (Decidable False)
  | .play | .stop | .resume _ _ | .elapse _ _ | .operate .create | .operate (.place _ _)
  | .operate (.face _ _) | .operate (.select _) | .operate (.submit _) | .operate (.delete _)
  | .operate (.nudge _) | .operate (.perform _ _) | .operate (.hush _) =>
    inferInstanceAs (Decidable True)

theorem Replica.Shows.apply (h : r.Shows p) (oneLoop : p.OneLoop) {move : Playback.Move}
    (leaves : move.LeavesLog) : ∃ r' : Replica, r'.Shows (move.apply p) := by
  cases move with
  | play => exact h.play
  | stop => exact h.stop
  | resume breath place =>
      rcases Playback.resume_cases oneLoop.one breath place with
        same | ⟨loop, -, -, next, q, stretch, same⟩
      · exact ⟨r, by rwa [Playback.Move.apply, same]⟩
      · obtain ⟨r', shows⟩ := h.stretch stretch
        refine ⟨r', ?_⟩
        rw [Playback.Move.apply, same]
        exact ⟨shows.recounted, shows.state, shows.passes⟩
  | operate operation =>
      have own : ∀ text, operation ≠ .note text := by
        rintro text rfl
        exact leaves
      have keeps : operation ≠ .take := by
        rintro rfl
        exact leaves
      obtain ⟨r', recounted, state, passes⟩ := h.recounted.operate own keeps
      exact ⟨r', recounted, state.trans h.state, passes.trans h.passes⟩
  | elapse time breath => exact ⟨r, h.recounted, h.state, h.passes⟩

theorem Stage.recounted_empty (seed : UInt64) (capacity : Nat) :
    (Stage.empty seed capacity).Recounted .blank where
  mirrors := by
    refine ⟨rfl, rfl, fun pair => ⟨fun mem => ?_, fun flag => ?_⟩⟩
    · cases mem
    · cases flag
  recounts := fun _ => rfl

theorem Replica.exists_shows_start (settings : PlaySettings) (setup : StageSetup) :
    ∃ r : Replica, r.Shows (.of settings (.start setup)) := by
  have nothing := Stage.recounted_empty setup.seed setup.capacity
  rw [Stage.start]
  split
  · -- the actor of the beginning is logged like any other
    let first : Replica := { Replica.blank with actors := 1 }
    have read : Replica.blank.readAll? [.created ⟨1⟩] = some first := by
      rw [Replica.blank.readAll?_report (.created ⟨1⟩) rfl, Replica.follow?, if_pos (by decide)]
      rfl
    exact ⟨first, ⟨⟨rfl, rfl, nothing.mirrors.colliding⟩, nothing.recounts.record _ read⟩, rfl, rfl⟩
  · exact ⟨.blank, nothing, rfl, rfl⟩

theorem Replica.exists_shows (settings : PlaySettings) (setup : StageSetup)
    (moves : List Playback.Move) (untouched : ∀ move ∈ moves, move.LeavesLog) :
    ∃ r : Replica, r.Shows ((Playback.of settings (.start setup)).after moves) := by
  induction moves using List.reverseRecOn with
  | nil => exact Replica.exists_shows_start settings setup
  | append_singleton before move ih =>
      obtain ⟨earlier, last⟩ := List.forall_mem_append.mp untouched
      obtain ⟨r, shows⟩ := ih earlier
      rw [Playback.after_concat]
      exact shows.apply ((Playback.oneLoop_of settings _).after before)
        (last move List.mem_cons_self)

/-- **The log is a faithful record.**  As long as nobody else writes to the log or empties it, and
nothing was dropped for want of room, its labels alone, read from the first one on, give how many
actors there are, the ids of the registry in order, the pairs that collide, the state of the
playback and the number of completed passes, whatever ids and messages stand in the labels. -/
theorem log_recounts_playback (settings : PlaySettings) (setup : StageSetup)
    (moves : List Playback.Move) (untouched : ∀ move ∈ moves, move.LeavesLog)
    (whole : ((Playback.of settings (.start setup)).after moves).stage.log.dropped = 0) :
    let p := (Playback.of settings (.start setup)).after moves
    ∃ r : Replica,
      (p.stage.log.entries.map Event.label).foldlM Replica.read? .blank = some r ∧
        r.actors = p.stage.roster.actors.length ∧
        r.scripts = Program.ids p.stage.registry.scripts ∧
        (∀ pair, pair ∈ r.colliding ↔ p.stage.collisions.colliding pair = true) ∧
        r.state = p.state ∧ r.passes = p.passes := by
  obtain ⟨r, shows⟩ := Replica.exists_shows settings setup moves untouched
  exact ⟨r, shows.recounted.recounts whole, shows.recounted.mirrors.actors,
    shows.recounted.mirrors.scripts, shows.recounted.mirrors.colliding, shows.state, shows.passes⟩

/-- A script with the id of a label, which says another. -/
def gossip : Script :=
  Block.say.instantiate ⟨"collision.rise sprite1-sprite2"⟩
    (.ofList [("message", .text "playback.stop")])

/-- A stage with an actor, and room in its log. -/
def roomySetup : StageSetup := ⟨0, true, 64⟩

/-- Two actors meet, and both speak in the first pass. -/
def meeting : List Playback.Move :=
  [.operate (.submit gossip), .operate .create, .operate (.place ⟨2⟩ ⟨100, 110⟩), .play,
    .resume .full 0, .resume .afterWait 0, .resume .afterWait 0]

theorem meeting_is_recounted :
    ∃ r : Replica,
      (((Playback.of .standard (.start roomySetup)).after meeting).stage.log.entries.map
          Event.label).foldlM Replica.read? .blank = some r ∧
        r.actors = 2 ∧ r.scripts = [gossip.id] ∧ .of ⟨1⟩ ⟨2⟩ ∈ r.colliding ∧
        r.state = .running ∧ r.passes = 1 := by
  have checked : (∀ move ∈ meeting, move.LeavesLog) ∧
      let p := (Playback.of .standard (.start roomySetup)).after meeting
      p.stage.log.dropped = 0 ∧ p.stage.roster.actors.length = 2 ∧
        Program.ids p.stage.registry.scripts = [gossip.id] ∧
        p.stage.collisions.colliding (.of ⟨1⟩ ⟨2⟩) = true ∧ p.state = .running ∧
        p.passes = 1 := by
    decide +kernel
  obtain ⟨untouched, whole, two, registered, met, running, one⟩ := checked
  obtain ⟨r, read, actors, scripts, colliding, state, passes⟩ :=
    log_recounts_playback .standard roomySetup meeting untouched whole
  exact ⟨r, read, actors.trans two, scripts.trans registered, (colliding _).mpr met,
    state.trans running, passes.trans one⟩

end BlockStage
