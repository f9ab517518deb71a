import BlockStage.Proofs.Registry.Edits

/-!
# Rosters in which swaps can be undone

Some actors of a roster are busy: they hold what another held before, and have saved what they will
get back.  As long as that is the registered list for all of them, and the others hold it as it is
(`Roster.Settles`), a trade of two free actors makes two busy ones, and a parting makes its actors
free again.
-/

namespace BlockStage

/-- The busy actors have saved `scripts`; the others hold them. -/
def Roster.Settles (scripts : Program) (busy : ActorId → Prop) (r : Roster) : Prop :=
  ∀ a x, r.get? a = some x →
    (busy a → x.saved = some scripts) ∧ (¬ busy a → x.saved = none ∧ x.program = scripts)

variable {r next : Roster} {a b : ActorId} {scripts : Program} {busy busy' : ActorId → Prop}

theorem Roster.Settles.congr (h : r.Settles scripts busy) (same : ∀ a, busy' a ↔ busy a) :
    r.Settles scripts busy' := by
  intro a x found
  rw [same]
  exact h a x found

/-- Only programs matter, and whose they are. -/
theorem Roster.Settles.of_get? (h : r.Settles scripts busy)
    (same : ∀ a y, next.get? a = some y →
      ∃ x, r.get? a = some x ∧ x.program = y.program ∧ x.saved = y.saved) :
    next.Settles scripts busy := by
  intro a y found
  obtain ⟨x, was, program, saved⟩ := same a y found
  rw [← program, ← saved]
  exact h a x was

/-- A new actor is free and holds the scripts. -/
theorem Roster.Settles.spawnAt (h : r.Settles scripts busy) (idle : ¬ busy r.nextId)
    (position : Position) : (r.spawnAt position scripts).2.Settles scripts busy := by
  intro a y found
  rw [Roster.get?_spawnAt] at found
  rcases Option.or_eq_some_iff.mp found with old | ⟨-, new⟩
  · exact h a y old
  · split at new
    · next same =>
      cases new
      exact ⟨fun isBusy => absurd (same ▸ isBusy) idle, fun _ => ⟨rfl, rfl⟩⟩
    · cases new

theorem Roster.Settles.updateAll (h : r.Settles scripts busy) (edit : Program → Program) :
    (r.updateAll (Actor.edit edit)).Settles (edit scripts) busy := by
  intro a y found
  rw [Roster.get?_updateAll (f := Actor.edit edit) fun _ => rfl] at found
  obtain ⟨x, was, rfl⟩ := Option.map_eq_some_iff.mp found
  obtain ⟨holds, free⟩ := h a x was
  refine ⟨fun isBusy => ?_, fun isFree => ?_⟩
  · exact congrArg (Option.map edit) (holds isBusy)
  · obtain ⟨saved, program⟩ := free isFree
    exact ⟨congrArg (Option.map edit) saved, congrArg edit program⟩

/-- A trade of two free actors saves what both held. -/
theorem Roster.Settles.exchange (h : r.Settles scripts busy) (ne : a ≠ b) (left : a ∈ r.ids)
    (right : b ∈ r.ids) (free : ¬ busy a) (free' : ¬ busy b) :
    (r.exchange a b).2.Settles scripts fun c => busy c ∨ c = a ∨ c = b := by
  obtain ⟨x, found⟩ := Roster.exists_get?_of_mem_ids left
  obtain ⟨y, found'⟩ := Roster.exists_get?_of_mem_ids right
  have holds : x.program = scripts := ((h a x found).2 free).2
  have holds' : y.program = scripts := ((h b y found').2 free').2
  intro c z get
  rw [Roster.get?_exchange ne found found'] at get
  by_cases first : c = a
  · rw [if_pos first] at get
    cases get
    exact ⟨fun _ => congrArg some holds, fun idle => absurd (.inr (.inl first)) idle⟩
  · rw [if_neg first] at get
    by_cases second : c = b
    · rw [if_pos second] at get
      cases get
      exact ⟨fun _ => congrArg some holds', fun idle => absurd (.inr (.inr second)) idle⟩
    · rw [if_neg second] at get
      simpa [first, second] using h c z get

/-- A return gives back what a busy actor saved, and is nothing to a free one. -/
theorem Roster.Settles.separate (h : r.Settles scripts busy) :
    (r.separate a b).2.Settles scripts fun c => busy c ∧ ¬ (c = a ∨ c = b) := by
  intro c z get
  rw [Roster.get?_separate] at get
  by_cases returns : c = a ∨ c = b
  · rw [if_pos returns] at get
    obtain ⟨x, found, rfl⟩ := Option.map_eq_some_iff.mp get
    obtain ⟨holds, free⟩ := h c x found
    refine ⟨fun isBusy => absurd returns isBusy.2, fun _ => ⟨x.saved_restored, ?_⟩⟩
    by_cases was : busy c
    · rw [Actor.restored_of_saved (holds was)]
    · obtain ⟨saved, program⟩ := free was
      rw [Actor.restored, saved]
      exact program
  · rw [if_neg returns] at get
    simpa [returns] using h c z get

end BlockStage
