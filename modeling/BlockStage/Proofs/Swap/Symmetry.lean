import BlockStage.Proofs.Roster
import Mathlib.Data.Sym.Sym2

/-!
# A swap has no mover

Trading and parting are changes of two actors, each of which reads only what stood there before.
Changes at two ids commute (`Roster.update_comm`) and successive changes at one id are one change
(`Roster.update_update`), so neither operation depends on which of the two ids is named first, and
the second undoes the first (`swaps_have_no_mover`).
-/

namespace BlockStage

variable {r r' : Roster} {id a b : ActorId} {f g : Actor → Actor}

/-! ## Changes put together -/

theorem Roster.updateFirst_congr {l : List Actor}
    (agree : ∀ x, l.find? (·.id = id) = some x → f x = g x) :
    Roster.updateFirst id f l = Roster.updateFirst id g l := by
  induction l with
  | nil => rfl
  | cons x rest ih =>
      rw [Roster.updateFirst, Roster.updateFirst]
      by_cases found : x.id = id
      · rw [if_pos found, if_pos found, agree x (by simp [found])]
      · rw [if_neg found, if_neg found, ih fun y later => agree y (by simp [found, later])]

/-- Changes that agree on the actor they meet are the same. -/
theorem Roster.update_congr (agree : ∀ x, r.get? id = some x → f x = g x) :
    r.update id f = r.update id g := by
  rw [Roster.update, Roster.update, Roster.updateFirst_congr agree]

theorem Roster.updateFirst_updateFirst (kept : ∀ x, (f x).id = x.id) (l : List Actor) :
    Roster.updateFirst id g (Roster.updateFirst id f l) =
      Roster.updateFirst id (fun x => g (f x)) l := by
  induction l with
  | nil => rfl
  | cons x rest ih =>
      by_cases found : x.id = id
      · simp [Roster.updateFirst, kept, found]
      · simp [Roster.updateFirst, found, ih]

/-- Two changes at one id are one change. -/
theorem Roster.update_update (kept : ∀ x, (f x).id = x.id) :
    (r.update id f).update id g = r.update id fun x => g (f x) :=
  congrArg (Roster.mk · r.spawner) (Roster.updateFirst_updateFirst kept r.actors)

theorem Roster.updateFirst_comm (ne : a ≠ b) (keptF : ∀ x, (f x).id = x.id)
    (keptG : ∀ x, (g x).id = x.id) (l : List Actor) :
    Roster.updateFirst b g (Roster.updateFirst a f l) =
      Roster.updateFirst a f (Roster.updateFirst b g l) := by
  induction l with
  | nil => rfl
  | cons x rest ih =>
      by_cases first : x.id = a
      · simp [Roster.updateFirst, keptF, first, ne]
      · by_cases second : x.id = b
        · simp [Roster.updateFirst, keptG, second, ne.symm]
        · simp [Roster.updateFirst, first, second, ih]

/-- Changes at different ids commute. -/
theorem Roster.update_comm (ne : a ≠ b) (keptF : ∀ x, (f x).id = x.id)
    (keptG : ∀ x, (g x).id = x.id) :
    (r.update a f).update b g = (r.update b g).update a f :=
  congrArg (Roster.mk · r.spawner) (Roster.updateFirst_comm ne keptF keptG r.actors)

/-! ## Other actors -/

/-- Where an id is found: at the first actor that has it. -/
def Roster.indexOf? (r : Roster) (id : ActorId) : Option Nat := r.ids.idxOf? id

/-- A roster that is the same as this one but where `a` and `b` are found. -/
structure Roster.SameOff (r : Roster) (a b : ActorId) (r' : Roster) : Prop where
  spawner : r'.spawner = r.spawner
  actors : ∀ n, r.indexOf? a ≠ some n → r.indexOf? b ≠ some n → r'.actors[n]? = r.actors[n]?

theorem Roster.getElem?_updateFirst {l : List Actor} {n : Nat}
    (elsewhere : (l.map (·.id)).idxOf? id ≠ some n) : (Roster.updateFirst id f l)[n]? = l[n]? := by
  induction l generalizing n with
  | nil => rfl
  | cons x rest ih =>
      rw [List.map_cons, List.idxOf?_cons] at elsewhere
      rw [Roster.updateFirst]
      by_cases found : x.id = id
      · cases n with
        | zero => simp [found] at elsewhere
        | succ n => simp [found]
      · cases n with
        | zero => simp [found]
        | succ n =>
            rw [if_neg found, List.getElem?_cons_succ, List.getElem?_cons_succ]
            exact ih fun here => elsewhere (by simp [found, here])

/-- A change is nothing to the actors at other places than that of its id. -/
theorem Roster.getElem?_update {n : Nat} (elsewhere : r.indexOf? id ≠ some n) :
    (r.update id f).actors[n]? = r.actors[n]? := Roster.getElem?_updateFirst elsewhere

theorem Roster.sameOff_update_update (kept : ∀ x, (f x).id = x.id) :
    r.SameOff a b ((r.update a f).update b g) where
  spawner := rfl
  actors n offA offB := by
    have same : (r.update a f).indexOf? b = r.indexOf? b := by
      rw [Roster.indexOf?, Roster.ids_update kept, Roster.indexOf?]
    rw [Roster.getElem?_update (same ▸ offB), Roster.getElem?_update offA]

theorem Roster.sameOff_refl (r : Roster) (a b : ActorId) : r.SameOff a b r :=
  ⟨rfl, fun _ _ _ => rfl⟩

/-! ## Trades -/

@[simp] theorem Actor.id_traded (program : Program) (x : Actor) :
    (Actor.traded program x).id = x.id := rfl

/-- Nothing happens without two different actors. -/
theorem Roster.exchange_of_idle (idle : a = b ∨ a ∉ r.ids ∨ b ∉ r.ids) :
    r.exchange a b = (false, r) := by
  have nobody : r.pair? a b = none := by
    rw [Roster.pair?]
    split
    · rfl
    · next ne =>
      split
      · next left right =>
        rcases idle with same | absent | absent
        · exact absurd same ne
        · exact absurd (Roster.mem_ids_of_get? left) absent
        · exact absurd (Roster.mem_ids_of_get? right) absent
      · rfl
  rw [Roster.exchange, nobody]

/-- A trade is one change for each of the two, by what the other held before. -/
theorem Roster.exchange_eq_traded (ne : a ≠ b) {x y : Actor} (left : r.get? a = some x)
    (right : r.get? b = some y) :
    r.exchange a b =
      (true, (r.update a (Actor.traded y.program)).update b (Actor.traded x.program)) := by
  have happens : (r.exchange a b).1 = true := by
    rw [Roster.exchange, Roster.pair?, if_neg ne, left, right]
  refine Prod.ext happens ((Roster.exchange_of_get? ne left right).trans ?_)
  have here :
      r.update a (fun z => { z with program := y.program.reversed, saved := some x.program }) =
        r.update a (Actor.traded y.program) :=
    Roster.update_congr fun z found => by
      obtain rfl : x = z := Option.some.inj (left.symm.trans found)
      rfl
  rw [here]
  refine Roster.update_congr fun z found => ?_
  rw [Roster.get?_update (Actor.id_traded _), if_neg ne.symm, right] at found
  obtain rfl : y = z := Option.some.inj found
  rfl

/-- Whoever of the two is named first, they trade alike. -/
theorem Roster.exchange_comm (r : Roster) (a b : ActorId) : r.exchange b a = r.exchange a b := by
  by_cases idle : a = b ∨ a ∉ r.ids ∨ b ∉ r.ids
  · have idle' : b = a ∨ b ∉ r.ids ∨ a ∉ r.ids := idle.imp Eq.symm Or.symm
    rw [Roster.exchange_of_idle idle, Roster.exchange_of_idle idle']
  · push Not at idle
    obtain ⟨ne, knownA, knownB⟩ := idle
    obtain ⟨x, left⟩ := Roster.exists_get?_of_mem_ids knownA
    obtain ⟨y, right⟩ := Roster.exists_get?_of_mem_ids knownB
    rw [Roster.exchange_eq_traded ne left right, Roster.exchange_eq_traded ne.symm right left,
      Roster.update_comm ne (Actor.id_traded _) (Actor.id_traded _)]

theorem Roster.sameOff_exchange (r : Roster) (a b : ActorId) :
    r.SameOff a b (r.exchange a b).2 := by
  rw [Roster.exchange]
  split
  · exact r.sameOff_refl a b
  · exact Roster.sameOff_update_update fun _ => rfl

/-! ## Returns -/

/-- A return is a change of the actor, which does nothing where nothing is saved. -/
theorem Roster.snd_restore (r : Roster) (id : ActorId) :
    (r.restore id).2 = r.update id Actor.restored := by
  rw [Roster.restore]
  split
  · next nothing =>
    have still : r.update id Actor.restored = r.update id fun x => x :=
      Roster.update_congr fun x found => by
        rw [found, Option.bind_some] at nothing
        rw [Actor.restored, nothing]
    exact (still.trans (Roster.update_of_fixed fun _ _ _ => rfl)).symm
  · next program holds =>
    refine Roster.update_congr fun x found => ?_
    rw [found, Option.bind_some] at holds
    exact (Actor.restored_of_saved holds).symm

/-- Whether there is something to return. -/
theorem Roster.fst_restore (r : Roster) (id : ActorId) :
    (r.restore id).1 = (r.get? id).any (·.isSwapped) := by
  rw [Roster.restore]
  cases r.get? id with
  | none => rfl
  | some x => cases saved : x.saved <;> simp [Actor.isSwapped, saved]

/-- Those of the ids that find an actor with something saved. -/
theorem Roster.fst_separate (ne : a ≠ b) :
    (r.separate a b).1 = [a, b].filter fun id => (r.get? id).any (·.isSwapped) := by
  have second : ((r.restore a).2.restore b).1 = (r.get? b).any (·.isSwapped) := by
    rw [Roster.fst_restore, Roster.get?_restore, if_neg ne.symm]
  show (if (r.restore a).1 then [a] else []) ++
    (if ((r.restore a).2.restore b).1 then [b] else []) = _
  rw [second, Roster.fst_restore]
  cases left : (r.get? a).any (·.isSwapped) <;> cases right : (r.get? b).any (·.isSwapped) <;>
    simp [left, right]

/-- Whose programs are returned. -/
theorem Roster.mem_fst_separate (r : Roster) (a b : ActorId) :
    id ∈ (r.separate a b).1 ↔
      (id = a ∨ id = b) ∧ (r.get? id).any (·.isSwapped) = true := by
  by_cases same : a = b
  · subst same
    have nothing : ((r.restore a).2.restore a).1 = false := by
      rw [Roster.fst_restore, Roster.get?_restore, if_pos rfl]
      cases r.get? a <;> simp [Actor.isSwapped]
    show id ∈ (if (r.restore a).1 then [a] else []) ++
      (if ((r.restore a).2.restore a).1 then [a] else []) ↔ _
    rw [nothing, Roster.fst_restore]
    constructor
    · intro mem
      split at mem
      · next swapped =>
        obtain rfl : id = a := by simpa using mem
        exact ⟨.inl rfl, swapped⟩
      · cases mem
    · rintro ⟨rfl | rfl, swapped⟩ <;> simp [swapped]
  · rw [Roster.fst_separate same, List.mem_filter]
    simp

theorem Roster.snd_separate (r : Roster) (a b : ActorId) :
    (r.separate a b).2 = (r.update a Actor.restored).update b Actor.restored := by
  show ((r.restore a).2.restore b).2 = _
  rw [Roster.snd_restore, Roster.snd_restore]

/-- Whoever of the two is named first, they part alike. -/
theorem Roster.snd_separate_comm (r : Roster) (a b : ActorId) :
    (r.separate b a).2 = (r.separate a b).2 := by
  by_cases same : a = b
  · rw [same]
  · rw [Roster.snd_separate, Roster.snd_separate,
      Roster.update_comm same Actor.id_restored Actor.id_restored]

/-- And the same actors have their programs back. -/
theorem Roster.fst_separate_perm (r : Roster) (a b : ActorId) :
    (r.separate b a).1.Perm (r.separate a b).1 := by
  by_cases same : a = b
  · rw [same]
  · rw [Roster.fst_separate same, Roster.fst_separate (Ne.symm same)]
    exact (List.Perm.swap a b []).filter _

theorem Roster.sameOff_separate (r : Roster) (a b : ActorId) :
    r.SameOff a b (r.separate a b).2 := by
  rw [Roster.snd_separate]
  exact Roster.sameOff_update_update Actor.id_restored

/-! ## There and back -/

/-- An actor with nothing saved. -/
def Actor.freed (x : Actor) : Actor := { x with saved := none }

/-- A return undoes a trade, whatever was saved before it. -/
theorem Actor.restored_traded (x : Actor) (program : Program) :
    (x.traded program).restored = x.freed := rfl

/-- Two actors that trade and part are as they were before, with nothing saved. -/
theorem Roster.snd_separate_exchange (ne : a ≠ b) (knownA : a ∈ r.ids) (knownB : b ∈ r.ids) :
    ((r.exchange a b).2.separate a b).2 = (r.update a Actor.freed).update b Actor.freed := by
  obtain ⟨x, left⟩ := Roster.exists_get?_of_mem_ids knownA
  obtain ⟨y, right⟩ := Roster.exists_get?_of_mem_ids knownB
  have comm : ((r.update a (Actor.traded y.program)).update b (Actor.traded x.program)).update a
      Actor.restored = ((r.update a (Actor.traded y.program)).update a Actor.restored).update b
        (Actor.traded x.program) :=
    Roster.update_comm ne.symm (Actor.id_traded _) Actor.id_restored
  rw [Roster.snd_separate, Roster.exchange_eq_traded ne left right, comm,
    Roster.update_update (Actor.id_traded _), Roster.update_update (Actor.id_traded _)]
  simp only [Actor.restored_traded]

/-- Both have something to get back after a trade. -/
theorem Roster.fst_separate_exchange (ne : a ≠ b) (knownA : a ∈ r.ids) (knownB : b ∈ r.ids)
    {c d : ActorId} (pair : s(c, d) = s(a, b)) :
    ((r.exchange a b).2.separate c d).1 = [c, d] := by
  obtain ⟨x, left⟩ := Roster.exists_get?_of_mem_ids knownA
  obtain ⟨y, right⟩ := Roster.exists_get?_of_mem_ids knownB
  have swappedA : ((r.exchange a b).2.get? a).any (·.isSwapped) = true := by
    rw [Roster.get?_exchange ne left right, if_pos rfl]
    rfl
  have swappedB : ((r.exchange a b).2.get? b).any (·.isSwapped) = true := by
    rw [Roster.get?_exchange ne left right, if_neg ne.symm, if_pos rfl]
    rfl
  rcases Sym2.eq_iff.mp pair with ⟨rfl, rfl⟩ | ⟨rfl, rfl⟩
  · rw [Roster.fst_separate ne]
    simp [swappedA, swappedB]
  · rw [Roster.fst_separate ne.symm]
    simp [swappedA, swappedB]

/-! ## The laws of swaps -/

/-- What trading and parting of two ids do, known or not, equal or not. -/
structure Roster.SwapLaws (r : Roster) (a b : ActorId) : Prop where
  /-- Either order gives the same roster and the same answer. -/
  exchange_comm : r.exchange b a = r.exchange a b
  /-- Either order gives the same roster. -/
  separate_comm : (r.separate b a).2 = (r.separate a b).2
  /-- Either order returns the programs of the same actors. -/
  returned_comm : (r.separate b a).1.Perm (r.separate a b).1
  /-- Programs are returned where one is saved. -/
  mem_returned : ∀ id, id ∈ (r.separate a b).1 ↔
    (id = a ∨ id = b) ∧ (r.get? id).any (·.isSwapped) = true
  exchange_others : r.SameOff a b (r.exchange a b).2
  separate_others : r.SameOff a b (r.separate a b).2
  /-- It takes two to trade. -/
  exchange_idle : a = b ∨ a ∉ r.ids ∨ b ∉ r.ids → r.exchange a b = (false, r)
  /-- Two actors trade what they hold just then. -/
  exchange_trades : a ≠ b → ∀ x y, r.get? a = some x → r.get? b = some y →
    r.exchange a b = (true, (r.update a (Actor.traded y.program)).update b (Actor.traded x.program))
  /-- Parting in either order gives both their programs back, also those that had saved others. -/
  separate_exchange : a ≠ b → a ∈ r.ids → b ∈ r.ids → ∀ c d, s(c, d) = s(a, b) →
    (r.exchange a b).2.separate c d = ([c, d], (r.update a Actor.freed).update b Actor.freed)

/-- **Who moved does not matter to a swap.** -/
theorem swaps_have_no_mover (r : Roster) (a b : ActorId) : r.SwapLaws a b where
  exchange_comm := r.exchange_comm a b
  separate_comm := r.snd_separate_comm a b
  returned_comm := r.fst_separate_perm a b
  mem_returned _ := r.mem_fst_separate a b
  exchange_others := r.sameOff_exchange a b
  separate_others := r.sameOff_separate a b
  exchange_idle := Roster.exchange_of_idle
  exchange_trades ne _ _ left right := Roster.exchange_eq_traded ne left right
  separate_exchange ne knownA knownB c d pair := by
    have back := Roster.snd_separate_exchange ne knownA knownB
    refine Prod.ext (Roster.fst_separate_exchange ne knownA knownB pair) ?_
    rcases Sym2.eq_iff.mp pair with ⟨rfl, rfl⟩ | ⟨rfl, rfl⟩
    · exact back
    · rw [Roster.snd_separate_comm, back]

/-- Three actors, of which the first two have traded a move for a turn. -/
def midSwap : Roster :=
  let alone := ((Roster.empty 0).spawnAt ⟨100, 100⟩ [Block.move.instantiate ⟨"move"⟩ .nil]).2
  let two := (alone.spawnAt ⟨110, 100⟩ [Block.turnLeft.instantiate ⟨"turn"⟩ .nil]).2
  ((two.spawnAt ⟨120, 100⟩ []).2.exchange ⟨1⟩ ⟨2⟩).2

/-- The third actor comes to the first while that is swapped with the second; when they part,
each has what it held when they met. -/
theorem interrupted_swap_is_kept :
    (midSwap.get? ⟨1⟩).any (·.isSwapped) = true ∧
      (midSwap.exchange ⟨3⟩ ⟨1⟩).2.separate ⟨1⟩ ⟨3⟩ =
        ([⟨1⟩, ⟨3⟩], (midSwap.update ⟨3⟩ Actor.freed).update ⟨1⟩ Actor.freed) :=
  ⟨rfl, (swaps_have_no_mover midSwap ⟨3⟩ ⟨1⟩).separate_exchange (by decide) (by decide) (by decide)
    ⟨1⟩ ⟨3⟩ Sym2.eq_swap⟩

end BlockStage
