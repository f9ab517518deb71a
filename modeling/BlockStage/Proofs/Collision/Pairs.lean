import BlockStage.Proofs.Collision.Contacts
import BlockStage.Proofs.Event.Labels
import BlockStage.Proofs.Stage.Records
import Mathlib.Data.Sym.Sym2

/-!
# Pairs and their written forms

A pair stands for two actors in no order, though it has one: the order of their written ids, which
is not that of their numbers.  As the written form tells ids apart, this order puts any two actors
one way only, and a pair is found again in its label, also behind the words of a contact
(`pairs_are_canonical`).
-/

namespace BlockStage

variable {a b c d : ActorId} {p q : ActorPair} {edge edge' : Edge} {event : Event}

/-! ## Two actors in no order -/

namespace ActorPair

/-- The two actors of a pair, in no order. -/
def members (pair : ActorPair) : Sym2 ActorId := s(pair.low, pair.high)

theorem members_of (a b : ActorId) : (of a b).members = s(a, b) := by
  rw [of]
  split
  · rfl
  · exact Sym2.eq_swap

theorem of_eq_of_iff_members : of a b = of c d ↔ s(a, b) = s(c, d) := by
  rw [of_eq_of_iff, Sym2.eq_iff]

/-- The first written id is in front. -/
theorem low_le_high (a b : ActorId) : (of a b).low.label ≤ (of a b).high.label := by
  rw [of]
  split
  · assumption
  · next after => exact (String.le_total a.label b.label).resolve_left after

/-- Different actors have written ids one of which is strictly before the other. -/
theorem low_lt_high (ne : a ≠ b) : (of a b).low.label < (of a b).high.label := by
  refine String.not_le.mp fun le => ne ?_
  have same : (of a b).low = (of a b).high :=
    ActorId.label_injective (String.le_antisymm (low_le_high a b) le)
  have loop := members_of a b
  rw [members, same, Sym2.eq_iff] at loop
  rcases loop with ⟨left, right⟩ | ⟨left, right⟩
  · exact left.symm.trans right
  · exact right.symm.trans left

/-- The label of a pair names no other pair, in order or not. -/
theorem label_injective (same : p.label = q.label) : p = q := by
  have read := ofLabel?_label p
  rw [same, ofLabel?_label] at read
  exact (Option.some.inj read).symm

end ActorPair

theorem ActorId.ofLabel_label (id : ActorId) : ActorId.ofLabel id.label = .ok id := by
  rw [ActorId.ofLabel, ActorId.ofLabel?_label]

/-! ## Labels of contacts -/

/-- The label of a contact tells its change and its pair. -/
theorem Event.label_contact_injective
    (same : (Event.contact edge p).label = (Event.contact edge' q).label) :
    edge = edge' ∧ p = q := by
  have read := Report.read?_label (.contact edge p)
  rw [same, Report.read?_label] at read
  injection Option.some.inj read with edges pairs
  exact ⟨edges.symm, pairs.symm⟩

/-- No event of the stage but a contact begins as contacts do. -/
theorem Event.exists_contact_of_label {rest : String} (own : ∀ text, event ≠ .note text)
    (begins : event.label = "collision." ++ rest) : ∃ edge pair, event = .contact edge pair := by
  have read : Text.after? "collision." event.label = some rest := by
    rw [begins, Text.after?_append]
  have elsewhere (stem : String) (apart : Text.Apart "collision." stem)
      (split : ∃ tail, event.label = stem ++ tail) : False := by
    obtain ⟨tail, split⟩ := split
    rw [split, Text.after?_of_apart apart] at read
    cases read
  cases event with
  | contact edge pair => exact ⟨edge, pair, rfl⟩
  | note text => exact absurd rfl (own text)
  | created actor => exact (elsewhere "actor.create " (by decide) ⟨_, rfl⟩).elim
  | selected actor => exact (elsewhere "actor.select " (by decide) ⟨_, rfl⟩).elim
  | added script => exact (elsewhere "script.add " (by decide) ⟨_, rfl⟩).elim
  | removed script => exact (elsewhere "script.remove " (by decide) ⟨_, rfl⟩).elim
  | playStarted => exact (elsewhere "playback.play" (by decide) ⟨"", rfl⟩).elim
  | playStopped => exact (elsewhere "playback.stop" (by decide) ⟨"", rfl⟩).elim
  | passCompleted number => exact (elsewhere "playback.pass " (by decide) ⟨_, rfl⟩).elim
  | travelled actor travel position =>
      refine (elsewhere "actor." (by decide) ⟨actor.label ++ ("." ++ (travel.name ++ (" " ++
        (Event.written position.x ++ ("," ++ Event.written position.y))))), ?_⟩).elim
      simp only [Event.label, String.append_assoc]
  | turned actor heading =>
      refine (elsewhere "actor." (by decide)
        ⟨actor.label ++ (".heading " ++ Event.written heading), ?_⟩).elim
      simp only [Event.label, String.append_assoc]
  | spoke actor style message =>
      refine (elsewhere "actor." (by decide)
        ⟨actor.label ++ ("." ++ (style.block.tag ++ (" " ++ message))), ?_⟩).elim
      simp only [Event.label, String.append_assoc]

/-! ## Pairs stand for two actors, and labels for pairs -/

/-- **Pairs are canonical, and their labels are unambiguous.**  Pairs are equal if they are made of
the same two actors; of these, the one whose written form is first is in front.  No two pairs are
written alike, an actor is read back from its written form, and what a stage logs as a collision is
the label of exactly one change of exactly one pair. -/
theorem pairs_are_canonical :
    (∀ a b c d, ActorPair.of a b = .of c d ↔ s(a, b) = s(c, d)) ∧
    (∀ a b, s((ActorPair.of a b).low, (ActorPair.of a b).high) = s(a, b) ∧
      (ActorPair.of a b).low.label ≤ (ActorPair.of a b).high.label ∧
      (a ≠ b → (ActorPair.of a b).low.label < (ActorPair.of a b).high.label)) ∧
    (∀ p q : ActorPair, p.label = q.label → p = q) ∧
    (∀ id, ActorId.ofLabel id.label = .ok id) ∧
    (∀ c c' : Contact, c.event.label = c'.event.label →
      c.edge = c'.edge ∧ s(c.mover, c.other) = s(c'.mover, c'.other)) ∧
    ∀ (event : Event) (rest : String), (∀ text, event ≠ .note text) →
      event.label = "collision." ++ rest →
        ∃! change : Edge × ActorPair, event.label = (Event.contact change.1 change.2).label := by
  refine ⟨fun _ _ _ _ => ActorPair.of_eq_of_iff_members, fun a b =>
    ⟨ActorPair.members_of a b, ActorPair.low_le_high a b, ActorPair.low_lt_high⟩,
    fun _ _ => ActorPair.label_injective, ActorId.ofLabel_label, fun c c' same => ?_, ?_⟩
  · obtain ⟨edges, pairs⟩ := Event.label_contact_injective same
    exact ⟨edges, ActorPair.of_eq_of_iff_members.mp pairs⟩
  · intro event rest own begins
    obtain ⟨edge, pair, rfl⟩ := Event.exists_contact_of_label own begins
    refine ⟨(edge, pair), rfl, fun change same => ?_⟩
    obtain ⟨edges, pairs⟩ := Event.label_contact_injective same
    exact Prod.ext edges.symm pairs.symm

/-- The tenth actor is written before the second. -/
example : (ActorPair.of ⟨2⟩ ⟨10⟩).label = "sprite10-sprite2" := by decide

/-- One collision of the tenth actor and the second is all that its label names. -/
theorem tenth_and_second_are_named :
    ∃! change : Edge × ActorPair,
      (Event.contact .rise (.of ⟨2⟩ ⟨10⟩)).label = (Event.contact change.1 change.2).label :=
  pairs_are_canonical.2.2.2.2.2 (.contact .rise (.of ⟨2⟩ ⟨10⟩)) "rise sprite10-sprite2" nofun
    (by decide)

end BlockStage
