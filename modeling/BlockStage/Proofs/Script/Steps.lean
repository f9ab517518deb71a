import BlockStage.Proofs.Binary64.Sign
import BlockStage.Swap

/-!
# Moves that run backwards

Inserting a parameter sets its value and no other (`Params.get?_insert`), so a reversed move is the
move with its steps set to the opposite number, and reversing does nothing to any other script
(`Script.reversal_iff`), nor to the number and the order of the scripts of a program
(`Program.reversal_iff`).

The steps of a reversed move are a number from then on, even if they were a text before, and
reversing it again sets them to the number itself.  What comes of a script by any number of
reversals is therefore the script itself, or one of two (`Script.Signed`).
-/

namespace BlockStage

/-! ## Parameters -/

theorem Params.get?_insert (name other : String) (value : ParamValue) :
    ∀ {bound : Option String} (params : Params bound) (after : NameAfter bound name),
      (params.insert name value after).get? other =
        if other = name then some value else params.get? other
  | _, .nil, _ => by
    by_cases same : other = name
    · simp [insert, get?, same]
    · simp [insert, get?, same, Ne.symm same]
  | _, .cons key _ old rest, _ => by
    rw [insert]
    split
    · by_cases same : other = name
      · simp [get?, same]
      · simp [get?, same, Ne.symm same]
    · split
      · next later =>
        have apart : key ≠ name := (String.ne_of_lt later)
        rw [get?, Params.get?_insert name other value rest later, get?]
        by_cases same : other = name
        · simp [same, apart]
        · simp [same]
      · next unordered unordered' =>
        obtain rfl : key = name := String.le_antisymm unordered unordered'
        by_cases same : other = key
        · simp [get?, same]
        · simp [get?, same, Ne.symm same]

/-- Only the last value of a name stays. -/
theorem Params.insert_insert (name : String) (value value' : ParamValue) :
    ∀ {bound : Option String} (params : Params bound) (after : NameAfter bound name),
      (params.insert name value after).insert name value' after = params.insert name value' after
  | _, .nil, _ => by
    have irrefl : ¬ name < name := String.lt_irrefl name
    simp only [insert, irrefl, dite_false]
  | _, .cons key _ old rest, _ => by
    by_cases before : name < key
    · have irrefl : ¬ name < name := String.lt_irrefl name
      simp only [insert, before, irrefl, dite_true, dite_false]
    · by_cases later : key < name
      · simp [insert, before, later, Params.insert_insert name value value' rest later]
      · simp [insert, before, later]

/-- A name that does not come after the bound is not among the parameters. -/
theorem Params.get?_eq_none {name : String} :
    ∀ {bound : String} (params : Params (some bound)), ¬ bound < name → params.get? name = none
  | _, .nil, _ => rfl
  | bound, .cons key after _ rest, notAfter => by
    have less : bound < key := after
    have ne : key ≠ name := fun same => notAfter (same ▸ less)
    rw [get?, if_neg ne]
    exact rest.get?_eq_none fun later => notAfter (String.lt_trans less later)

/-- Parameters are what they give to names. -/
theorem Params.ext_get? :
    ∀ {bound : Option String} (params params' : Params bound),
      (∀ name, params.get? name = params'.get? name) → params = params'
  | _, .nil, .nil, _ => rfl
  | _, .nil, .cons key .., same => by
    have given := same key
    rw [get?, get?, if_pos rfl] at given
    cases given
  | _, .cons key .., .nil, same => by
    have given := same key
    rw [get?, get?, if_pos rfl] at given
    cases given
  | _, .cons key after value rest, .cons key' after' value' rest', same => by
    have here := same key
    have here' := same key'
    rw [get?, get?] at here here'
    rcases lt_trichotomy key key' with less | rfl | less
    · rw [if_pos rfl, if_neg (String.ne_of_lt less).symm,
        rest'.get?_eq_none (String.lt_asymm less)] at here
      cases here
    · rw [if_pos rfl, if_pos rfl] at here
      obtain rfl := Option.some.inj here
      refine congrArg _ (ext_get? rest rest' fun name => ?_)
      by_cases first : key = name
      · subst first
        rw [rest.get?_eq_none (String.lt_irrefl key), rest'.get?_eq_none (String.lt_irrefl key)]
      · have later := same name
        rwa [get?, get?, if_neg first, if_neg first] at later
    · rw [if_neg (String.ne_of_lt less).symm, if_pos rfl,
        rest.get?_eq_none (String.lt_asymm less)] at here'
      cases here'

/-! ## Steps -/

/-- What reads as a number is finite. -/
theorem ParamValue.isFinite_of_number? {value : ParamValue} {x : Float}
    (reads : value.number? = some x) : x.isFinite = true := by
  cases value with
  | number y =>
      rw [ParamValue.number?] at reads
      split at reads
      · next finite =>
        cases reads
        exact finite
      · cases reads
  | text =>
      rw [ParamValue.number?] at reads
      exact (Option.filter_eq_some_iff.mp reads).2
  | scripts => cases reads

theorem Script.isFinite_of_number? {r : Script} {name : String} {x : Float}
    (reads : r.number? name = some x) : x.isFinite = true := by
  obtain ⟨value, -, reads⟩ := Option.bind_eq_some_iff.mp reads
  exact ParamValue.isFinite_of_number? reads

/-- A script with its steps set to a number. -/
def Script.withSteps (r : Script) (v : Float) : Script :=
  { r with params := r.params.insert "steps" (.number v) trivial }

variable {r e : Script} {v w : Float}

theorem Script.get?_withSteps (name : String) :
    (r.withSteps v).params.get? name =
      if name = "steps" then some (.number v) else r.params.get? name :=
  r.params.get?_insert "steps" name (.number v) trivial

theorem Script.number?_withSteps (finite : v.isFinite = true) :
    (r.withSteps v).number? "steps" = some v := by
  rw [Script.number?, Script.get?_withSteps, if_pos rfl, Option.bind_some, ParamValue.number?,
    if_pos finite]

theorem Script.withSteps_withSteps : (r.withSteps v).withSteps w = r.withSteps w :=
  congrArg (Script.mk r.id r.category r.action) (r.params.insert_insert "steps" _ _ trivial)

theorem Script.reversed_of_number? (move : r.isMove = true) (reads : r.number? "steps" = some v) :
    r.reversed = r.withSteps (-v) := by
  rw [Script.reversed, if_pos move, reads]
  rfl

/-- All that reversing can do to a script. -/
theorem Script.reversed_cases (r : Script) :
    (∃ v, r.isMove = true ∧ r.number? "steps" = some v ∧ r.reversed = r.withSteps (-v)) ∨
      (r.isMove = false ∨ r.number? "steps" = none) ∧ r.reversed = r := by
  cases move : r.isMove with
  | false =>
      refine .inr ⟨.inl rfl, ?_⟩
      rw [Script.reversed, move, if_neg Bool.false_ne_true]
  | true =>
      cases reads : r.number? "steps" with
      | none =>
          refine .inr ⟨.inr rfl, ?_⟩
          rw [Script.reversed, if_pos move, reads]
      | some v => exact .inl ⟨v, rfl, rfl, Script.reversed_of_number? move reads⟩

/-! ## What reversing is -/

/-- `back` is `r` run backwards.  If `r` is a move whose steps read as a number, that of `back` is
the opposite one, and nothing else of it is different; if not, nothing is. -/
structure Script.Reversal (r back : Script) : Prop where
  id : back.id = r.id
  category : back.category = r.category
  action : back.action = r.action
  others : ∀ name, name ≠ "steps" → back.params.get? name = r.params.get? name
  steps : r.action = "move" → ∀ v, r.number? "steps" = some v →
    back.params.get? "steps" = some (.number (-v))
  still : r.action ≠ "move" ∨ r.number? "steps" = none → back = r

theorem Script.reversal_reversed (r : Script) : Script.Reversal r r.reversed := by
  rcases r.reversed_cases with ⟨v, move, reads, back⟩ | ⟨still, back⟩
  · rw [back]
    have steps := Script.get?_withSteps (r := r) (v := -v)
    refine ⟨rfl, rfl, rfl, fun name ne => (steps name).trans (if_neg ne), fun _ w reads' => ?_, ?_⟩
    · obtain rfl : v = w := Option.some.inj (reads.symm.trans reads')
      exact (steps "steps").trans (if_pos rfl)
    · rintro (other | nothing)
      · exact absurd (of_decide_eq_true move) other
      · cases reads.symm.trans nothing
  · rw [back]
    refine ⟨rfl, rfl, rfl, fun _ _ => rfl, fun move v reads => ?_, fun _ => rfl⟩
    rcases still with other | nothing
    · exact absurd move (of_decide_eq_false other)
    · cases nothing.symm.trans reads

/-- **What it is to run a script backwards determines the script that comes of it.** -/
theorem Script.reversal_iff {back : Script} : Script.Reversal r back ↔ back = r.reversed := by
  refine ⟨fun h => ?_, fun same => same ▸ r.reversal_reversed⟩
  rcases r.reversed_cases with ⟨v, move, reads, reversed⟩ | ⟨still, reversed⟩
  · rw [reversed]
    obtain ⟨id, category, action, params⟩ := back
    obtain ⟨rfl, rfl, rfl, others, steps, -⟩ := h
    have given : params = (r.withSteps (-v)).params :=
      Params.ext_get? _ _ fun name => by
        rw [Script.get?_withSteps]
        by_cases named : name = "steps"
        · rw [if_pos named, named]
          exact steps (of_decide_eq_true move) v reads
        · rw [if_neg named]
          exact others name named
    rw [given]
    rfl
  · rw [reversed]
    exact h.still (still.imp_left of_decide_eq_false)

/-- Steps that were a text are a number once they are reversed. -/
example : (Block.move.instantiate ⟨"back"⟩ (.ofList [("steps", .text " 1e1 ")])).reversed =
    Block.move.instantiate ⟨"back"⟩ (.ofList [("steps", .number (-10))]) := by rfl

/-- `back` is a program run backwards: script by script, so there are as many of them, in the same
order. -/
def Program.Reversal (program back : Program) : Prop := List.Forall₂ Script.Reversal program back

theorem Program.reversal_iff {program back : Program} :
    Program.Reversal program back ↔ back = program.reversed := by
  rw [Program.Reversal, Program.reversed]
  induction program generalizing back with
  | nil => exact List.forall₂_nil_left_iff
  | cons script rest ih =>
      simp only [List.forall₂_cons_left_iff, Script.reversal_iff, ih, List.map_cons]
      constructor
      · rintro ⟨_, _, rfl, rfl, rfl⟩
        rfl
      · rintro rfl
        exact ⟨_, _, rfl, rfl, rfl⟩

/-! ## Scripts up to the sign of their steps -/

/-- `e` comes of `r` by reversals: it is `r`, or `r` is a move and the steps of `e` are the number
that those of `r` read as, or its opposite. -/
inductive Script.Signed (r : Script) : Script → Prop
  | same : Script.Signed r r
  | forward {v : Float} (move : r.isMove = true) (reads : r.number? "steps" = some v) :
    Script.Signed r (r.withSteps v)
  | backward {v : Float} (move : r.isMove = true) (reads : r.number? "steps" = some v) :
    Script.Signed r (r.withSteps (-v))

theorem Script.Signed.id_eq (h : Script.Signed r e) : e.id = r.id := by
  cases h <;> rfl

/-- Seen from outside: all that can differ is the steps of a move. -/
theorem Script.Signed.eq_or_of_move (h : Script.Signed r e) :
    e = r ∨ r.action = "move" ∧ ∃ v, r.number? "steps" = some v ∧ v.isFinite = true ∧
      e.id = r.id ∧ e.category = r.category ∧ e.action = r.action ∧
      (∀ name, name ≠ "steps" → e.params.get? name = r.params.get? name) ∧
      (e.params.get? "steps" = some (.number v) ∨
        e.params.get? "steps" = some (.number (-v))) := by
  have others : ∀ {w : Float} name, name ≠ "steps" →
      (r.withSteps w).params.get? name = r.params.get? name :=
    fun name ne => (Script.get?_withSteps name).trans (if_neg ne)
  have steps : ∀ {w : Float}, (r.withSteps w).params.get? "steps" = some (.number w) :=
    (Script.get?_withSteps "steps").trans (if_pos rfl)
  cases h with
  | same => exact .inl rfl
  | @forward v move reads =>
      exact .inr ⟨of_decide_eq_true move, v, reads, Script.isFinite_of_number? reads,
        rfl, rfl, rfl, others, .inl steps⟩
  | @backward v move reads =>
      exact .inr ⟨of_decide_eq_true move, v, reads, Script.isFinite_of_number? reads,
        rfl, rfl, rfl, others, .inr steps⟩

/-- **One more reversal leads to nothing new.** -/
theorem Script.Signed.reversed (h : Script.Signed r e) : Script.Signed r e.reversed := by
  cases h with
  | same =>
      rcases r.reversed_cases with ⟨v, move, reads, back⟩ | ⟨-, back⟩
      · rw [back]
        exact .backward move reads
      · rw [back]
        exact .same
  | forward move reads =>
      have finite := Script.isFinite_of_number? reads
      rw [Script.reversed_of_number? (r := r.withSteps _) move (Script.number?_withSteps finite),
        Script.withSteps_withSteps]
      exact .backward move reads
  | @backward v move reads =>
      have finite : (-v).isFinite = true :=
        (Binary64.isFinite_neg v).trans (Script.isFinite_of_number? reads)
      rw [Script.reversed_of_number? (r := r.withSteps _) move (Script.number?_withSteps finite),
        Script.withSteps_withSteps, Binary64.neg_neg]
      exact .forward move reads

theorem Script.Signed.abs_steps (h : Script.Signed r e) :
    (e.numberOrZero "steps").abs = (r.numberOrZero "steps").abs := by
  cases h with
  | same => rfl
  | forward move reads =>
      rw [Script.numberOrZero, Script.numberOrZero, reads,
        Script.number?_withSteps (Script.isFinite_of_number? reads)]
  | @backward v move reads =>
      have finite : (-v).isFinite = true :=
        (Binary64.isFinite_neg v).trans (Script.isFinite_of_number? reads)
      rw [Script.numberOrZero, Script.numberOrZero, reads, Script.number?_withSteps finite,
        Option.getD_some, Option.getD_some, Binary64.abs_neg]

end BlockStage
