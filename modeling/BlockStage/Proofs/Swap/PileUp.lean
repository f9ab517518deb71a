import BlockStage.Proofs.Swap.RoundTrip

/-!
# Pile-ups pass programs on

An actor that comes upon several others at once trades with one after another, in the order of the
roster, and with each only once.  What it has got from one it passes on to the next, reversed once
more: after its trades it holds what the last one held, and each of the others holds what the one
before it held (`Stage.PiledUp`).  Everybody has saved what it held just before its last trade,
which for the actor that moved is what it got by the last trade but one.
-/

namespace BlockStage

variable {s t : Stage} {id o a : ActorId} {others before : List ActorId} {position : Position}
  {P : Nat → Program}

/-- The program that an actor has saved. -/
def Stage.saved? (s : Stage) (id : ActorId) : Option Program := (s.actor? id).bind (·.saved)

/-! ## The contacts of a pile-up -/

/-- The edges of a pair among the rises of one actor. -/
theorem Contact.edgesOf_rises (id o : ActorId) (others : List ActorId) :
    Contact.edgesOf (.of id o) (others.map (⟨id, ·, .rise⟩)) =
      List.replicate (others.count o) .rise := by
  induction others with
  | nil => rfl
  | cons first rest ih =>
      have pair : (Contact.mk id first .rise).pair = .of id o ↔ first = o :=
        ⟨ActorPair.of_right_injective, fun same => same ▸ rfl⟩
      rw [List.map_cons, Contact.edgesOf_cons, ih, List.count_cons]
      by_cases same : first = o
      · rw [if_pos (pair.mpr same), if_pos (beq_iff_eq.mpr same), List.replicate_succ]
      · rw [if_neg (mt pair.mp same), if_neg (mt beq_iff_eq.mp same), Nat.add_zero]

/-- The flag of a pair does not rise twice in a row, so nobody is met twice. -/
theorem Stage.nodup_of_rises (rises : s.contacts id position = others.map (⟨id, ·, .rise⟩)) :
    (id :: others).Nodup := by
  refine List.nodup_cons.mpr ⟨fun mem => ?_, List.nodup_iff_count_le_one.mpr fun o => ?_⟩
  · exact (Stage.within_of_mem_contacts (rises ▸ List.mem_map_of_mem mem)).2.2.2 rfl
  · have chain := (s.leads_place id position (.of id o)).isChain
    rw [rises, Contact.edgesOf_rises] at chain
    by_contra more
    obtain ⟨n, twice⟩ := Nat.exists_eq_add_of_le' (Nat.lt_of_not_le more)
    rw [twice, List.replicate_succ, List.replicate_succ] at chain
    cases chain with
    | cons_cons apart _ => exact apart rfl

/-! ## One trade after another -/

/-- Two actors trade, as their programs tell. -/
theorem Stage.programs_settle_rise (ne : id ≠ o) {A B : Program} (mover : s.program? id = some A)
    (other : s.program? o = some B) :
    (s.settle ⟨id, o, .rise⟩).program? id = some B.reversed ∧
      (s.settle ⟨id, o, .rise⟩).saved? id = some A ∧
      (s.settle ⟨id, o, .rise⟩).program? o = some A.reversed ∧
      (s.settle ⟨id, o, .rise⟩).saved? o = some B := by
  obtain ⟨x, left, rfl⟩ := Option.map_eq_some_iff.mp mover
  obtain ⟨y, right, rfl⟩ := Option.map_eq_some_iff.mp other
  have trades := Stage.actor?_settle_of_rise (c := ⟨id, o, .rise⟩) rfl ne left right
  have first := (trades id).trans (if_pos rfl)
  have second := (trades o).trans ((if_neg ne.symm).trans (if_pos rfl))
  rw [Stage.program?, Stage.saved?, Stage.program?, Stage.saved?, first, second]
  exact ⟨rfl, rfl, rfl, rfl⟩

/-- What an actor with the program `P 0` holds after so many trades, with actors that hold `P 1`,
`P 2` and so on. -/
def Program.carried (P : Nat → Program) : Nat → Program
  | 0 => P 0
  | i + 1 => (P (i + 1)).reversed

/-- In `t` an actor has traded with others one after another: it has the program `P 0` in `s`, and
they have `P 1`, `P 2` and so on. -/
structure Stage.PiledUp (P : Nat → Program) (s : Stage) (id : ActorId) (others : List ActorId)
    (t : Stage) : Prop where
  mover : t.program? id = some (Program.carried P others.length)
  mover_saved : ∀ i, others.length = i + 1 → t.saved? id = some (Program.carried P i)
  other : ∀ (i : Nat) o, others[i]? = some o →
    t.program? o = some (Program.carried P i).reversed
  other_saved : ∀ (i : Nat) o, others[i]? = some o → t.saved? o = some (P (i + 1))
  rest : ∀ a, a ≠ id → a ∉ others → t.actor? a = s.actor? a

theorem Stage.piledUp_nil (mover : s.program? id = some (P 0)) : s.PiledUp P id [] s :=
  ⟨mover, nofun, nofun, nofun, fun _ _ _ => rfl⟩

/-- One more trade. -/
theorem Stage.PiledUp.concat (h : s.PiledUp P id before t) (ne : o ≠ id) (new : o ∉ before)
    (holds : s.program? o = some (P (before.length + 1))) (away : id ∉ before) :
    s.PiledUp P id (before ++ [o]) (t.settle ⟨id, o, .rise⟩) := by
  have untouched : t.program? o = some (P (before.length + 1)) := by
    rw [← holds, Stage.program?, h.rest o ne new]
    rfl
  obtain ⟨mover, moverSaved, other, otherSaved⟩ :=
    Stage.programs_settle_rise ne.symm h.mover untouched
  -- whoever is neither of the two is what it was
  have others {a : ActorId} (first : a ≠ id) (second : a ≠ o) :
      (t.settle ⟨id, o, .rise⟩).actor? a = t.actor? a :=
    Stage.actor?_settle_of_not_names (not_or.mpr ⟨first.symm, second.symm⟩)
  have met {i : Nat} {a : ActorId} (here : (before ++ [o])[i]? = some a) :
      before[i]? = some a ∧ (t.settle ⟨id, o, .rise⟩).actor? a = t.actor? a ∨
        i = before.length ∧ a = o := by
    rw [List.getElem?_append] at here
    split at here
    · have mem := List.mem_of_getElem? here
      exact .inl ⟨here, others (ne_of_mem_of_not_mem mem away) (ne_of_mem_of_not_mem mem new)⟩
    · obtain ⟨last, same⟩ := List.getElem?_eq_some_iff.mp here
      have zero : i - before.length = 0 := Nat.lt_one_iff.mp last
      simp only [zero, List.getElem_cons_zero] at same
      exact .inr ⟨by omega, same.symm⟩
  refine ⟨?_, fun i length => ?_, fun i a here => ?_, fun i a here => ?_, fun a first unmet => ?_⟩
  · rw [List.length_append]
    exact mover
  · rw [List.length_append] at length
    obtain rfl : before.length = i := Nat.succ.inj length
    exact moverSaved
  · rcases met here with ⟨earlier, same⟩ | ⟨rfl, rfl⟩
    · rw [Stage.program?, same]
      exact h.other i a earlier
    · exact other
  · rcases met here with ⟨earlier, same⟩ | ⟨rfl, rfl⟩
    · rw [Stage.saved?, same]
      exact h.other_saved i a earlier
    · exact otherSaved
  · obtain ⟨unmet, second⟩ := not_or.mp (mt List.mem_append.mpr unmet)
    exact (others first fun same => second (List.mem_singleton.mpr same)).trans
      (h.rest a first unmet)

/-- **A run of rises passes the programs on.** -/
theorem Stage.piledUp_settleAll (nodup : (id :: others).Nodup)
    (mover : s.program? id = some (P 0))
    (holds : ∀ (i : Nat) o, others[i]? = some o → s.program? o = some (P (i + 1))) :
    s.PiledUp P id others (s.settleAll (others.map (⟨id, ·, .rise⟩))) := by
  induction others using List.reverseRecOn with
  | nil => exact Stage.piledUp_nil mover
  | append_singleton before o ih =>
      obtain ⟨away, nodup⟩ := List.nodup_cons.mp nodup
      obtain ⟨nodup, -, apart⟩ := List.nodup_append.mp nodup
      obtain ⟨away, ne⟩ := not_or.mp (mt List.mem_append.mpr away)
      have new : o ∉ before := fun mem => apart o mem o (List.mem_singleton_self o) rfl
      have earlier := ih (List.nodup_cons.mpr ⟨away, nodup⟩) fun i a here => by
        obtain ⟨below, -⟩ := List.getElem?_eq_some_iff.mp here
        exact holds i a ((List.getElem?_append_left below).trans here)
      rw [List.map_append, Stage.settleAll, List.foldl_append]
      refine earlier.concat (fun same => ne (List.mem_singleton.mpr same.symm)) new ?_ away
      exact holds before.length o List.getElem?_concat_length

/-- What the actor has saved in the end. -/
theorem Stage.PiledUp.saved?_mover (h : s.PiledUp P id others t) (met : others ≠ []) :
    t.saved? id =
      some (if others.length = 1 then P 0 else (P (others.length - 1)).reversed) := by
  obtain ⟨k, length⟩ := Nat.exists_eq_succ_of_ne_zero (List.length_pos_of_ne_nil met).ne'
  rw [h.mover_saved k length, length]
  cases k with
  | zero => rw [if_pos rfl, Program.carried]
  | succ k => rw [if_neg (by omega), Program.carried, Nat.succ_sub_one]

/-! ## Placements -/

theorem Stage.program?_moved (s : Stage) (id : ActorId) (position : Position) (a : ActorId) :
    (s.moved id position).program? a = s.program? a := by
  have finds := s.get?_moved id position a
  rw [Stage.program?, Stage.actor?, finds]
  split
  · rw [Option.map_map]
    rfl
  · rfl

theorem Stage.saved?_moved (s : Stage) (id : ActorId) (position : Position) (a : ActorId) :
    (s.moved id position).saved? a = s.saved? a := by
  have finds := s.get?_moved id position a
  rw [Stage.saved?, Stage.actor?, finds]
  split
  · rw [Option.bind_map]
    rfl
  · rfl

/-- The programs of an actor and of others, in this order. -/
def Stage.programs (s : Stage) (id : ActorId) (others : List ActorId) : Nat → Program
  | 0 => (s.program? id).getD []
  | i + 1 => (others[i]?.bind s.program?).getD []

/-- A placement with nothing but rises comes to these trades. -/
theorem Stage.piledUp_place (met : others ≠ [])
    (rises : s.contacts id position = others.map (⟨id, ·, .rise⟩)) :
    s.program? id = some (s.programs id others 0) ∧
      (∀ (i : Nat) o, others[i]? = some o →
        s.program? o = some (s.programs id others (i + 1))) ∧
      s.PiledUp (s.programs id others) id others (s.place id position).2 := by
  have within {o : ActorId} (mem : o ∈ others) : id ∈ s.roster.ids ∧ o ∈ s.roster.ids ∧ o ≠ id :=
    (Stage.within_of_mem_contacts (rises ▸ List.mem_map_of_mem mem)).2
  obtain ⟨first, mem⟩ := List.exists_mem_of_ne_nil others met
  have known := (within mem).1
  have mover : s.program? id = some (s.programs id others 0) := Stage.exists_program?_of_mem known
  have held (i : Nat) (o : ActorId) (here : others[i]? = some o) :
      s.program? o = some (s.programs id others (i + 1)) := by
    rw [programs, here, Option.bind_some]
    exact Stage.exists_program?_of_mem (within (List.mem_of_getElem? here)).2.1
  have piled := Stage.piledUp_settleAll (s := s.moved id position) (Stage.nodup_of_rises rises)
    ((s.program?_moved id position id).trans mover)
    fun i o here => (s.program?_moved id position o).trans (held i o here)
  rw [Stage.place_of_mem known, rises]
  refine ⟨mover, held, { piled with rest := fun a ne unmet => ?_ }⟩
  exact (piled.rest a ne unmet).trans ((s.get?_moved id position a).trans (if_neg ne))

/-- **Pile-ups rotate programs.**  An actor with the program `P 0` is placed, and its flags with
others rise, and none falls.  They are distinct and stand in the order of the roster; let their
programs be `P 1`, `P 2` and so on.  Afterwards the actor holds that of the last of them reversed,
and the first of them holds `P 0` reversed; each other one holds, reversed twice, what the one
before it held.  Everybody has saved its own program, except that the actor has saved what it got
by its last trade but one, if there was more than one.  Nobody else has changed.  And a reversed
program is the one program that has the opposite steps in its moves and is the same otherwise. -/
theorem pile_ups_rotate_programs (s : Stage) (id : ActorId) (position : Position)
    (others : List ActorId) (met : others ≠ [])
    (rises : s.contacts id position = others.map (⟨id, ·, .rise⟩)) :
    (id :: others).Nodup ∧ others.Sublist s.roster.ids ∧
      (∀ program back : Program, Program.Reversal program back ↔ back = program.reversed) ∧
      ∃ P : Nat → Program, s.program? id = some (P 0) ∧
        (∀ (i : Nat) o, others[i]? = some o → s.program? o = some (P (i + 1))) ∧
        (s.place id position).2.program? id = some (P others.length).reversed ∧
        (∀ o, others[0]? = some o →
          (s.place id position).2.program? o = some (P 0).reversed) ∧
        (∀ (i : Nat) o, others[i + 1]? = some o →
          (s.place id position).2.program? o = some (P (i + 1)).reversed.reversed) ∧
        (∀ (i : Nat) o, others[i]? = some o →
          (s.place id position).2.saved? o = some (P (i + 1))) ∧
        (s.place id position).2.saved? id =
          some (if others.length = 1 then P 0 else (P (others.length - 1)).reversed) ∧
        ∀ a, a ≠ id → a ∉ others → (s.place id position).2.actor? a = s.actor? a := by
  have order : others.Sublist s.roster.ids := by
    simpa only [rises, List.map_map, Function.comp_def, List.map_id'] using
      s.map_other_contacts id position
  obtain ⟨mover, held, piled⟩ := Stage.piledUp_place met rises
  refine ⟨Stage.nodup_of_rises rises, order, fun _ _ => Program.reversal_iff,
    s.programs id others, mover, held, ?_, piled.other 0, fun i => piled.other (i + 1),
    piled.other_saved, piled.saved?_mover met, piled.rest⟩
  rw [piled.mover]
  obtain ⟨k, length⟩ := Nat.exists_eq_succ_of_ne_zero (List.length_pos_of_ne_nil met).ne'
  rw [length, Program.carried]

/-- Three actors that have a move each: two of them not far from one another, and one away. -/
def crowd : Stage :=
  (Stage.start quietSetup).after
    [.create, .place ⟨2⟩ ⟨180, 100⟩, .create, .place ⟨3⟩ ⟨400, 400⟩,
      .submit (Block.move.instantiate ⟨"move"⟩ .nil)]

/-- The third one comes between the two, who do not touch. -/
theorem programs_pass_between_two :
    crowd.contacts ⟨3⟩ ⟨140, 100⟩ = [⟨1⟩, ⟨2⟩].map (⟨⟨3⟩, ·, .rise⟩) ∧
      ∃ P : Nat → Program,
        crowd.program? ⟨3⟩ = some (P 0) ∧ crowd.program? ⟨1⟩ = some (P 1) ∧
        crowd.program? ⟨2⟩ = some (P 2) ∧
        (crowd.place ⟨3⟩ ⟨140, 100⟩).2.program? ⟨3⟩ = some (P 2).reversed ∧
        (crowd.place ⟨3⟩ ⟨140, 100⟩).2.program? ⟨1⟩ = some (P 0).reversed ∧
        (crowd.place ⟨3⟩ ⟨140, 100⟩).2.program? ⟨2⟩ = some (P 1).reversed.reversed ∧
        (crowd.place ⟨3⟩ ⟨140, 100⟩).2.saved? ⟨3⟩ = some (P 1).reversed := by
  have rises : crowd.contacts ⟨3⟩ ⟨140, 100⟩ = [⟨1⟩, ⟨2⟩].map (⟨⟨3⟩, ·, .rise⟩) := by
    decide +kernel
  obtain ⟨-, -, -, P, mover, held, last, first, next, -, saved, -⟩ :=
    pile_ups_rotate_programs crowd ⟨3⟩ ⟨140, 100⟩ [⟨1⟩, ⟨2⟩] (List.cons_ne_nil _ _) rises
  exact ⟨rises, P, mover, held 0 _ rfl, held 1 _ rfl, last, first _ rfl, next 0 _ rfl, saved⟩

end BlockStage
