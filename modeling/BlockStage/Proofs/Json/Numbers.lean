import BlockStage.Json.Reader
import BlockStage.Proofs.Binary64.Finiteness

/-!
# The numbers of what is read

A text has numbers that no double can hold, but they are not read: what a reader gives out has
finite numbers only (`Json.Reader.gives_value`).  That is said of readers one by one, each by what
it gives if it meets no fault (`Json.Reader.Gives`).
-/

namespace BlockStage.Json

mutual

/-- The numbers in a tree, at every depth, as doubles. -/
def numbers : Json → List Float
  | .number n => [n.toFloat]
  | .array items => itemNumbers items
  | .object fields => fieldNumbers fields
  | .null => []
  | .bool _ => []
  | .text _ => []

/-- The numbers in the elements of an array. -/
def itemNumbers : List Json → List Float
  | [] => []
  | item :: items => item.numbers ++ itemNumbers items

/-- The numbers in the fields of an object. -/
def fieldNumbers : List (String × Json) → List Float
  | [] => []
  | (_, value) :: fields => value.numbers ++ fieldNumbers fields

end

/-- All numbers of a tree are finite. -/
def NumbersFinite (tree : Json) : Prop := ∀ x ∈ tree.numbers, x.isFinite = true

theorem mem_itemNumbers {x : Float} {items : List Json} :
    x ∈ itemNumbers items ↔ ∃ item ∈ items, x ∈ item.numbers := by
  induction items with
  | nil => simp [itemNumbers]
  | cons item items ih => simp [itemNumbers, ih]

theorem mem_fieldNumbers {x : Float} {fields : List (String × Json)} :
    x ∈ fieldNumbers fields ↔ ∃ field ∈ fields, x ∈ field.2.numbers := by
  induction fields with
  | nil => simp [fieldNumbers]
  | cons field fields ih => simp [fieldNumbers, ih]

namespace Reader

variable {α β σ : Type} {P : α → Prop} {Q : β → Prop} {reader : Reader α}

/-! ## What readers give -/

/-- Whatever is read has a property. -/
def Gives (P : α → Prop) (reader : Reader α) : Prop :=
  ∀ bound text value rest, reader bound text = .ok (value, rest) → P value

theorem gives_pure {value : α} (h : P value) : Gives P (pure value : Reader α) := by
  intro bound text value' rest read
  cases read
  exact h

theorem gives_throw (fault : Fault) : Gives P (throw fault : Reader α) := by
  intro bound text value rest read
  cases read

theorem Gives.bind {next : α → Reader β} (first : Gives P reader)
    (goesOn : ∀ value, P value → Gives Q (next value)) : Gives Q (reader >>= next) := by
  intro bound text value rest read
  cases met : reader bound text with
  | error fault =>
      have fails : (reader >>= next) bound text = .error fault := by
        show (reader bound text >>= fun s => next s.1 bound s.2) = _
        rw [met]
        rfl
      rw [fails] at read
      cases read
  | ok result =>
      have passes : (reader >>= next) bound text = next result.1 bound result.2 := by
        show (reader bound text >>= fun s => next s.1 bound s.2) = _
        rw [met]
        rfl
      exact goesOn result.1 (first bound text _ _ met) bound result.2 value rest
        (passes.symm.trans read)

theorem gives_true (reader : Reader α) : Gives (fun _ => True) reader := fun _ _ _ _ _ => trivial

/-- What comes last decides. -/
theorem Gives.after {next : α → Reader β} (goesOn : ∀ value, Gives Q (next value)) :
    Gives Q (reader >>= next) :=
  (gives_true reader).bind fun value _ => goesOn value

theorem Gives.map {f : α → β} (h : Gives P reader) (maps : ∀ value, P value → Q (f value)) :
    Gives Q (f <$> reader) := by
  rw [← bind_pure_comp]
  exact h.bind fun value given => gives_pure (maps value given)

theorem Gives.run {text : String} {value : α} (h : Gives P reader)
    (read : Reader.run reader text = .ok value) : P value := by
  cases met : reader (text.toList.length + 1) text.toList with
  | error fault =>
      have fails : Reader.run reader text = .error fault := by
        show (reader (text.toList.length + 1) text.toList >>= _) = _
        rw [met]
        rfl
      rw [fails] at read
      cases read
  | ok result =>
      have ends : Reader.run reader text =
          if result.2.all isSpace then .ok result.1 else .error .malformed := by
        show (reader (text.toList.length + 1) text.toList >>= _) = _
        rw [met]
        rfl
      rw [ends] at read
      split at read
      · cases read
        exact h _ _ _ _ met
      · cases read

/-! ## Loops -/

theorem gives_elementLoop (h : Gives P reader) (fuel : Nat) {before : List α}
    (met : ∀ value ∈ before, P value) :
    Gives (fun values => ∀ value ∈ values, P value) (elementLoop reader fuel before) := by
  induction fuel generalizing before with
  | zero => exact gives_throw _
  | succ fuel ih =>
      refine Gives.after fun more => ?_
      cases more with
      | true =>
          refine h.bind fun value given => ih ?_
          exact List.forall_mem_cons.mpr ⟨given, met⟩
      | false =>
          refine Gives.after fun _ => gives_pure fun value mem => ?_
          exact met value (List.mem_reverse.mp mem)

theorem gives_elements (h : Gives P reader) :
    Gives (fun values => ∀ value ∈ values, P value) (elements reader) :=
  Gives.after fun fuel => gives_elementLoop h fuel fun _ mem => by cases mem

theorem gives_memberLoop {I : σ → Prop} {member : σ → String → Reader σ}
    (keeps : ∀ state key, I state → Gives I (member state key)) (fuel : Nat) (first : Bool)
    {state : σ} (h : I state) : Gives I (memberLoop member fuel first state) := by
  induction fuel generalizing first state with
  | zero => exact gives_throw _
  | succ fuel ih =>
      refine Gives.after fun key => ?_
      cases key with
      | none => exact gives_pure h
      | some key => exact (keeps state key h).bind fun state given => ih false given

theorem gives_members {I : σ → Prop} {member : σ → String → Reader σ}
    (keeps : ∀ state key, I state → Gives I (member state key)) {state : σ} (h : I state) :
    Gives I (members member state) :=
  Gives.after fun fuel => gives_memberLoop keeps fuel true h

/-! ## Shapes -/

/-- What is refused gives nothing. -/
theorem gives_refuse : Gives P (refuse : Reader α) := by
  rw [refuse]
  refine Gives.after fun c => ?_
  dsimp only
  split
  · exact Gives.after fun _ => gives_throw _
  · exact gives_throw _

theorem gives_arrayOf (h : Gives P reader) :
    Gives (fun values => ∀ value ∈ values, P value) (arrayOf reader) := by
  rw [arrayOf]
  refine Gives.after fun c => ?_
  split
  · exact Gives.after fun _ => gives_elements h
  · exact gives_refuse

/-! ## Numbers -/

theorem isFinite_ofInt {i : Int} (small : i.natAbs < 2 ^ 64) :
    (Binary64.ofInt i).isFinite = true :=
  (Binary64.below_ofRatio (k := 64) _ Nat.one_pos (by omega) (by omega)).isFinite

theorem isFinite_of_value? {n : Numeral} {value : Number} (has : n.value? = some value) :
    value.toFloat.isFinite = true := by
  have unsigned : UInt64.size = 2 ^ 64 := rfl
  have signed : pow2 63 = 2 ^ 63 := rfl
  rw [Numeral.value?] at has
  split at has
  · next count =>
    cases has
    exact isFinite_ofInt (by omega)
  · split at has
    · next count =>
      cases has
      exact isFinite_ofInt (by omega)
    · split at has
      · next finite =>
        cases has
        exact finite
      · cases has

theorem gives_number : Gives (fun n => n.toFloat.isFinite = true) number := by
  refine Gives.after fun n => ?_
  split
  · next has => exact gives_pure (isFinite_of_value? has)
  · exact gives_throw _

/-! ## Trees -/

theorem gives_scalar (c : Char) : Gives NumbersFinite (scalar c) := by
  have bare {value : Json} (none : value.numbers = []) : value.NumbersFinite := by
    intro x mem
    rw [none] at mem
    cases mem
  rw [scalar]
  split
  · exact Gives.after fun _ => gives_pure (bare rfl)
  · split
    · exact Gives.after fun _ => gives_pure (bare rfl)
    · split
      · exact Gives.after fun _ => gives_pure (bare rfl)
      · split
        · exact Gives.after fun _ => (gives_true textBody).map fun _ _ => bare rfl
        · split
          · refine gives_number.map fun n finite x mem => ?_
            obtain rfl : x = n.toFloat := List.mem_singleton.mp mem
            exact finite
          · exact gives_throw _

/-- **Whatever is read as a tree has finite numbers.** -/
theorem gives_value (depth : Nat) : Gives NumbersFinite (value depth) := by
  induction depth with
  | zero => exact Gives.after gives_scalar
  | succ depth ih =>
      refine Gives.after fun c => ?_
      split
      · refine Gives.after fun _ => (gives_elements ih).map fun items finite x mem => ?_
        obtain ⟨item, inItems, has⟩ := mem_itemNumbers.mp mem
        exact finite item inItems x has
      · refine Gives.after fun _ => ?_
        refine Gives.bind (P := fun fields => ∀ field ∈ fields, field.2.NumbersFinite)
          (gives_members (fun fields key kept => ?_) fun _ mem => by cases mem)
          fun fields each => ?_
        · refine Gives.after fun _ => ih.bind fun value finite => gives_pure ?_
          exact List.forall_mem_cons.mpr ⟨finite, kept⟩
        · refine gives_pure fun x mem => ?_
          obtain ⟨field, inFields, has⟩ := mem_fieldNumbers.mp mem
          exact each field (List.mem_reverse.mp inFields) x has
      · exact gives_scalar c

end Reader

end BlockStage.Json
