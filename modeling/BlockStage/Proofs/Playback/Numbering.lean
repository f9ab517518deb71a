import BlockStage.Proofs.Playback.Refusals
import BlockStage.Proofs.Stage.Spawning

/-!
# Actors are numbered

The `i`-th actor of a roster, counted from one, has the number `i` in its id and in its name.  Ids
are handed out by the length of the roster and looked up along it, so this is what makes a look-up
find the actor that is meant: `Roster.Indexed` says what each look-up comes to while numbers do not
run out.  Ids and names of all actors (`Roster.badges`) are kept by whatever happens, apart from
those added at the end, and who is selected is always one of the actors.
-/

namespace BlockStage

variable {r : Roster} {s t : Stage} {p : Playback} {id : ActorId} {i j n : Nat} {x y : Actor}

/-! ## Ids and names -/

/-- The actors with their names. -/
def Roster.badges (r : Roster) : List (ActorId × String) := r.actors.map fun x => (x.id, x.name)

/-- An id, and the name of an actor that is made for it. -/
def ActorId.badge (id : ActorId) : ActorId × String := (id, "Sprite " ++ toString id.index.toNat)

theorem Stage.Alike.badges (h : s.Alike t) : t.roster.badges = s.roster.badges := by
  have same := congrArg (List.map fun x : Actor => (x.id, x.name)) h.actors
  rw [List.map_map, List.map_map] at same
  exact same

theorem Stage.badges_create (s : Stage) :
    s.create.2.roster.badges = s.roster.badges ++ [s.roster.nextId.badge] := List.map_append

theorem Stage.badges_place (s : Stage) (id : ActorId) (position : Position) :
    (s.place id position).2.roster.badges = s.roster.badges :=
  Stage.map_place (fun _ _ _ => rfl) (fun _ _ => rfl) s id position

theorem Stage.badges_submit (s : Stage) (script : Script) :
    (s.submit script).2.roster.badges = s.roster.badges := by
  by_cases known : s.registry.has script.id = true
  · rw [Stage.submit_of_known known]
  · rw [Stage.submit_of_fresh known]
    exact List.map_map

theorem Stage.badges_delete (s : Stage) (id : ScriptId) :
    (s.delete id).2.roster.badges = s.roster.badges :=
  (s.alike_delete id).badges.trans List.map_map

/-- **An operation takes away no id and no name**, and adds at most those of the next actor. -/
theorem Stage.Change.badges (change : s.Change t) :
    t.roster.badges = s.roster.badges ∨
      t.roster.badges = s.roster.badges ++ [s.roster.nextId.badge] := by
  cases change with
  | still alike => exact .inl alike.badges
  | created alike => exact .inr (alike.badges.trans s.badges_create)
  | placed id position alike => exact .inl (alike.badges.trans (s.badges_place id position))
  | submitted script alike => exact .inl (alike.badges.trans (s.badges_submit script))
  | deleted id alike => exact .inl (alike.badges.trans (s.badges_delete id))

theorem Stage.Change.badges_grow (change : s.Change t) :
    s.roster.badges <+: t.roster.badges := by
  rcases change.badges with same | added
  · rw [same]
  · rw [added]
    exact List.prefix_append _ _

/-- Whether all actors have the names of their ids. -/
def Roster.Named (r : Roster) : Prop := ∀ badge ∈ r.badges, badge = badge.1.badge

theorem Stage.Change.named (change : s.Change t) (h : s.roster.Named) : t.roster.Named := by
  rcases change.badges with same | added
  · rwa [Roster.Named, same]
  · rw [Roster.Named, added]
    exact List.forall_mem_append.mpr ⟨h, List.forall_mem_singleton.mpr rfl⟩

theorem Stage.named_start (setup : StageSetup) : (Stage.start setup).roster.Named := by
  rw [Stage.start]
  split
  · exact List.forall_mem_singleton.mpr rfl
  · exact List.forall_mem_nil _

theorem Playback.Reached.named (reached : p.Reached) : p.stage.roster.Named :=
  reached.kept (P := fun s => s.roster.Named) Stage.named_start
    (fun o s h => (o.change s).named h) fun _ _ h => h

/-- Stages that can be reached hang together. -/
theorem Playback.Reached.wellFormed (reached : p.Reached) : p.stage.WellFormed :=
  reached.kept Stage.wellFormed_start (fun o s h => h.of_change (o.change s))
    fun _ _ h => h.congr rfl rfl

/-! ## The selection -/

/-- **An operation selects nobody, or one of the actors.** -/
theorem Operation.selected_apply (operation : Operation) (s : Stage) :
    (operation.apply s).selected = s.selected ∨
      ∃ id ∈ s.roster.ids, (operation.apply s).selected = some id := by
  cases operation with
  | place actor position => exact .inl (s.selected_place actor position)
  | select actor =>
      rw [apply, Stage.select]
      by_cases known : s.roster.has actor = true
      · rw [if_pos known]
        exact .inr ⟨actor, Roster.has_iff_mem_ids.mp known, rfl⟩
      · rw [if_neg known]
        exact .inl rfl
  | submit script =>
      rw [apply, Stage.submit]
      split <;> exact .inl rfl
  | delete id =>
      rw [apply, Stage.delete]
      split <;> exact .inl rfl
  | nudge script => exact .inl (congrArg (·.2.2) (s.backdrop_nudge script))
  | perform actor script => exact .inl (congrArg (·.2.2) (s.backdrop_perform actor script))
  | create | face | hush | note | take => exact .inl rfl

/-- Whether the selected actor, if there is one, is on the stage. -/
def Stage.SelectsActor (s : Stage) : Prop := ∀ id, s.selected = some id → id ∈ s.roster.ids

theorem Stage.SelectsActor.apply (h : s.SelectsActor) (operation : Operation) :
    (operation.apply s).SelectsActor := by
  intro id selected
  refine (Stage.Change.ids_prefix (operation.change s)).subset ?_
  rcases operation.selected_apply s with same | ⟨other, known, selects⟩
  · exact h id (same ▸ selected)
  · rw [selects] at selected
    exact Option.some.inj selected ▸ known

theorem Stage.selectsActor_start (setup : StageSetup) : (Stage.start setup).SelectsActor := by
  intro id selected
  rw [Stage.start] at selected ⊢
  split at selected
  · next starts =>
    rw [if_pos starts]
    cases selected
    exact List.mem_singleton_self _
  · cases selected

theorem Playback.Reached.selectsActor (reached : p.Reached) : p.stage.SelectsActor :=
  reached.kept Stage.selectsActor_start (fun o _ h => h.apply o) fun _ _ h => h

/-! ## Look-ups -/

/-- The actors are numbered from one along the roster, in their ids and in their names, and a
look-up goes to the actor of its number. -/
structure Roster.Indexed (r : Roster) : Prop where
  label : ∀ (i : Nat) x, r.actors[i]? = some x → x.id.label = "sprite" ++ toString (i + 1)
  name : ∀ (i : Nat) x, r.actors[i]? = some x → x.name = "Sprite " ++ toString (i + 1)
  nodup : r.ids.Nodup
  get? : ∀ id x,
    r.get? id = some x ↔ ∃ i : Nat, r.actors[i]? = some x ∧ id.index.toNat = i + 1
  has : ∀ id, r.has id = true ↔ ∃ i < r.actors.length, id.index.toNat = i + 1
  update : ∀ (i : Nat) x f, r.actors[i]? = some x →
    (r.update x.id f).actors = r.actors.set i (f x)
  pair? : ∀ (i j : Nat) x y, r.actors[i]? = some x → r.actors[j]? = some y → i ≠ j →
    r.pair? x.id y.id = some (x, y)

/-- The `i`-th id has the number `i + 1`. -/
theorem Roster.index_of_getElem? (ids : r.ids = ActorId.firsts r.actors.length)
    (few : r.actors.length < UInt32.size) (here : r.actors[i]? = some x) :
    x.id.index.toNat = i + 1 := by
  obtain ⟨below, -⟩ := List.getElem?_eq_some_iff.mp here
  have listed : r.ids[i]? = some x.id := by
    rw [Roster.ids, List.getElem?_map, here]
    rfl
  rw [ids, ActorId.firsts, List.getElem?_map, List.getElem?_range below] at listed
  rw [← Option.some.inj listed]
  exact UInt32.toNat_ofNat_of_lt' (by omega)

/-- Where no two actors share an id, a change goes to the place of the one that it means. -/
theorem Roster.updateFirst_eq_set {f : Actor → Actor} {l : List Actor}
    (nodup : (l.map (·.id)).Nodup) (here : l[i]? = some x) :
    Roster.updateFirst x.id f l = l.set i (f x) := by
  induction l generalizing i with
  | nil => cases here
  | cons first rest ih =>
      obtain ⟨fresh, nodup⟩ := List.nodup_cons.mp nodup
      rw [Roster.updateFirst]
      cases i with
      | zero =>
          cases here
          rw [if_pos rfl, List.set_cons_zero]
      | succ i =>
          have later : x.id ∈ rest.map (·.id) := List.mem_map_of_mem (List.mem_of_getElem? here)
          have apart : first.id ≠ x.id := (ne_of_mem_of_not_mem later fresh).symm
          rw [if_neg apart, ih nodup here, List.set_cons_succ]

/-- Two different ids that are known find their actors, in the order of the two ids. -/
theorem Roster.pair?_of_get? {a b : ActorId} (ne : a ≠ b) (left : r.get? a = some x)
    (right : r.get? b = some y) : r.pair? a b = some (x, y) := by
  rw [Roster.pair?, if_neg ne, left, right]

theorem Roster.indexed (ids : r.ids = ActorId.firsts r.actors.length)
    (few : r.actors.length < UInt32.size) (named : r.Named) : r.Indexed := by
  have nodup : r.ids.Nodup := ids ▸ ActorId.nodup_firsts few.le
  have index {i : Nat} {x : Actor} (here : r.actors[i]? = some x) : x.id.index.toNat = i + 1 :=
    Roster.index_of_getElem? ids few here
  have gets {i : Nat} {x : Actor} (here : r.actors[i]? = some x) : r.get? x.id = some x :=
    Roster.get?_of_mem nodup (List.mem_of_getElem? here)
  -- an id with the number of an actor is the id of that actor
  have meant {id : ActorId} {i : Nat} {x : Actor} (here : r.actors[i]? = some x)
      (number : id.index.toNat = i + 1) : id = x.id :=
    congrArg ActorId.mk (UInt32.toNat_inj.mp (number.trans (index here).symm))
  refine ⟨fun i x here => ?_, fun i x here => ?_, nodup, fun id x => ⟨fun found => ?_, ?_⟩,
    fun id => ⟨fun known => ?_, ?_⟩, fun i x f here => Roster.updateFirst_eq_set nodup here,
    fun i j x y here there ne => ?_⟩
  · rw [ActorId.label, index here]
  · have badge := named _ (List.mem_map_of_mem (List.mem_of_getElem? here))
    rw [← index here]
    exact congrArg Prod.snd badge
  · obtain ⟨i, here⟩ := List.mem_iff_getElem?.mp (Roster.mem_of_get? found)
    exact ⟨i, here, Roster.id_of_get? found ▸ index here⟩
  · rintro ⟨i, here, number⟩
    exact meant here number ▸ gets here
  · obtain ⟨x, mem, rfl⟩ := Roster.mem_ids.mp (Roster.has_iff_mem_ids.mp known)
    obtain ⟨i, here⟩ := List.mem_iff_getElem?.mp mem
    exact ⟨i, (List.getElem?_eq_some_iff.mp here).1, index here⟩
  · rintro ⟨i, below, number⟩
    have here := List.getElem?_eq_getElem below
    rw [meant here number]
    exact Roster.has_iff_mem_ids.mpr (List.mem_map_of_mem (List.mem_of_getElem? here))
  · refine Roster.pair?_of_get? (fun same => ne ?_) (gets here) (gets there)
    have numbers := congrArg (·.index.toNat) same
    simp only [index here, index there, Nat.add_right_cancel_iff] at numbers
    exact numbers

/-! ## Whatever has happened -/

/-- A contact finds both of its actors, in their order in the contact, and takes effect on both. -/
def Stage.SettlesBoth (s : Stage) (c : Contact) : Prop :=
  ∃ x y, s.roster.pair? c.mover c.other = some (x, y) ∧ x.id = c.mover ∧ y.id = c.other ∧
    (c.edge = .rise →
      (s.settle c).actor? c.mover = some (x.traded y.program) ∧
        (s.settle c).actor? c.other = some (y.traded x.program)) ∧
    (c.edge = .fall →
      (s.settle c).actor? c.mover = some x.restored ∧
        (s.settle c).actor? c.other = some y.restored)

theorem Stage.settlesBoth {c : Contact} (ne : c.mover ≠ c.other) (known : c.mover ∈ s.roster.ids)
    (known' : c.other ∈ s.roster.ids) : s.SettlesBoth c := by
  obtain ⟨x, left⟩ := Roster.exists_get?_of_mem_ids known
  obtain ⟨y, right⟩ := Roster.exists_get?_of_mem_ids known'
  refine ⟨x, y, Roster.pair?_of_get? ne left right, Roster.id_of_get? left,
    Roster.id_of_get? right, fun rise => ?_, fun fall => ?_⟩
  · have trades := Stage.actor?_settle_of_rise rise ne left right
    exact ⟨(trades _).trans (if_pos rfl), (trades _).trans ((if_neg ne.symm).trans (if_pos rfl))⟩
  · have returns := Stage.actor?_settle_of_fall (s := s) fall
    exact ⟨(returns _).trans ((if_pos (.inl rfl)).trans (congrArg _ left)),
      (returns _).trans ((if_pos (.inr rfl)).trans (congrArg _ right))⟩

/-- **Ids find the actors they mean.**  Whatever has happened, while numbers do not run out: the
`i`-th actor has the number `i` in its id and in its name, and each look-up by an id goes to the
actor of its number; the selected actor is one of them; whatever happens next, no actor goes away
or changes its place in the order, and somebody stays selected if anybody is; and each contact that
a placement finds takes effect on both of its actors. -/
theorem ids_find_their_actors (p : Playback) (reached : p.Reached)
    (few : p.stage.roster.actors.length < UInt32.size - 1) :
    p.stage.roster.Indexed ∧
    (∀ id, p.stage.selected = some id → p.stage.roster.has id = true) ∧
    (∀ happenings,
      p.stage.roster.badges <+: (p.afterAll happenings).stage.roster.badges ∧
        (p.stage.selected.isSome → (p.afterAll happenings).stage.selected.isSome)) ∧
    ∀ id position before c after, p.stage.contacts id position = before ++ c :: after →
      ((p.stage.moved id position).settleAll before).SettlesBoth c := by
  refine ⟨Roster.indexed reached.wellFormed.ids (by omega) reached.named,
    fun id selected => Roster.has_iff_mem_ids.mpr (reached.selectsActor id selected),
    fun happenings => ⟨?_, fun selects => ?_⟩, fun id position before c after found => ?_⟩
  · exact Playback.kept_afterAll (P := fun t => p.stage.roster.badges <+: t.roster.badges)
      (fun o t h => h.trans (o.change t).badges_grow) (fun _ _ h => h) List.prefix_rfl happenings
  · refine Playback.kept_afterAll (P := fun t => t.selected.isSome) (fun o t h => ?_)
      (fun _ _ h => h) selects happenings
    rcases o.selected_apply t with same | ⟨id, -, selects⟩
    · rwa [same]
    · rw [selects]
      rfl
  · have mem : c ∈ p.stage.contacts id position :=
      found ▸ List.mem_append_right _ List.mem_cons_self
    obtain ⟨mover, known, known', ne⟩ := Stage.within_of_mem_contacts mem
    refine Stage.settlesBoth (mover ▸ ne.symm) ?_ ?_
    · rwa [Stage.ids_settleAll, Stage.ids_moved, mover]
    · rwa [Stage.ids_settleAll, Stage.ids_moved]

/-- The second actor leaves the first, which stands before it on the roster. -/
theorem parting_finds_both : playedTrade.Reached ∧
    playedTrade.stage.roster.actors.length < UInt32.size - 1 ∧
    playedTrade.stage.roster.Indexed ∧
    playedTrade.stage.contacts ⟨2⟩ ⟨300, 300⟩ = [] ++ [⟨⟨2⟩, ⟨1⟩, .fall⟩] ∧
    ((playedTrade.stage.moved ⟨2⟩ ⟨300, 300⟩).settleAll []).SettlesBoth ⟨⟨2⟩, ⟨1⟩, .fall⟩ := by
  have reached : playedTrade.Reached := ⟨_, _, _, .start _, rfl⟩
  have few : playedTrade.stage.roster.actors.length < UInt32.size - 1 := by decide +kernel
  have falls : playedTrade.stage.contacts ⟨2⟩ ⟨300, 300⟩ = [] ++ [⟨⟨2⟩, ⟨1⟩, .fall⟩] := by
    decide +kernel
  obtain ⟨indexed, -, -, both⟩ := ids_find_their_actors playedTrade reached few
  exact ⟨reached, few, indexed, falls, both _ _ _ _ _ falls⟩

end BlockStage
