import BlockStage.Event.Basic
import BlockStage.Proofs.Script.Ids
import Mathlib.Data.List.Basic

/-!
# What a label says

Some labels tell of a change that can be made again by whoever reads them: an actor or a script
more, a script less, a flag that rises or falls, a play, a stop, the end of a pass (`Report`).
Each kind of these has a stem that no other label begins with (`Report.Kind.apart`), so a label is
read as what it was written for, whatever ids and messages stand in it (`Report.read?_label`).
-/

namespace BlockStage

/-- Where only one entry finds anything, that is what is found. -/
theorem findSome?_of_only {α β : Type} {f : α → Option β} {l : List α} {x : α} (mem : x ∈ l)
    (others : ∀ y, y ≠ x → f y = none) : l.findSome? f = f x := by
  cases found : f x with
  | none =>
      rw [List.findSome?_eq_none_iff]
      intro y _
      by_cases same : y = x
      · exact same ▸ found
      · exact others y same
  | some value =>
      induction l with
      | nil => cases mem
      | cons y rest ih =>
          rw [List.findSome?_cons]
          by_cases same : y = x
          · rw [same, found]
          · rw [others y same]
            exact ih ((List.mem_cons.mp mem).resolve_left (Ne.symm same))

/-! ## Words at the beginning of a text -/

/-- What follows a word at the beginning of a text. -/
def Text.after? (word text : String) : Option String :=
  (text.toList.dropPrefix? word.toList).map String.ofList

theorem Text.after?_append (word rest : String) : Text.after? word (word ++ rest) = some rest := by
  rw [Text.after?, String.toList_append,
    List.dropPrefix?_eq_some_iff.mpr ⟨word.toList, rfl, BEq.rfl⟩, Option.map_some,
    String.ofList_toList]

/-- Neither of two words begins with the other. -/
def Text.Apart (first second : String) : Prop :=
  ¬ first.toList <+: second.toList ∧ ¬ second.toList <+: first.toList

instance (first second : String) : Decidable (Text.Apart first second) :=
  inferInstanceAs (Decidable (_ ∧ _))

theorem Text.after?_of_apart {word stem : String} (apart : Text.Apart word stem) (rest : String) :
    Text.after? word (stem ++ rest) = none := by
  rw [Text.after?, Option.map_eq_none_iff, Option.eq_none_iff_forall_ne_some]
  intro left found
  obtain ⟨front, all, same⟩ := List.dropPrefix?_eq_some_iff.mp found
  obtain rfl := eq_of_beq same
  rw [String.toList_append] at all
  have begins : word.toList <+: stem.toList ++ rest.toList := all ▸ List.prefix_append _ _
  rcases List.prefix_or_prefix_of_prefix begins (List.prefix_append _ _) with short | long
  · exact apart.1 short
  · exact apart.2 long

/-! ## Ids and pairs -/

theorem ActorId.toList_label (id : ActorId) :
    id.label.toList = ActorId.word ++ Nat.toDigits 10 id.index.toNat := by
  rw [ActorId.label, String.toList_append, Nat.toString_eq_repr, Nat.toList_repr]
  rfl

theorem ActorId.ofLabel?_label (id : ActorId) : ActorId.ofLabel? id.label = some id := by
  rw [ActorId.ofLabel?, ActorId.toList_label, List.take_left, List.drop_left, if_pos rfl,
    ScriptId.readNat?_toDigits id.index.toNat_lt, Option.map_some, UInt32.ofNat_toNat]

theorem ActorId.dash_not_mem_label (id : ActorId) : '-' ∉ id.label.toList := by
  rw [ActorId.toList_label, List.mem_append]
  rintro (inWord | inNumber)
  · revert inWord
    decide
  · have digit := Nat.isDigit_of_mem_toDigits (by decide) (by decide) inNumber
    revert digit
    decide

/-- The pair of a written form. -/
def ActorPair.ofLabel? (text : String) : Option ActorPair :=
  let chars := text.toList
  match ActorId.ofLabel? (String.ofList (chars.takeWhile (· ≠ '-'))),
      ActorId.ofLabel? (String.ofList ((chars.dropWhile (· ≠ '-')).drop 1)) with
  | some low, some high => some ⟨low, high⟩
  | _, _ => none

theorem ActorPair.ofLabel?_label (pair : ActorPair) :
    ActorPair.ofLabel? pair.label = some pair := by
  have chars : pair.label.toList = pair.low.label.toList ++ '-' :: pair.high.label.toList := by
    rw [ActorPair.label, String.toList_append, String.toList_append, List.append_assoc]
    rfl
  have inLow : ∀ c ∈ pair.low.label.toList, (decide (c ≠ '-')) = true := by
    intro c mem
    rw [decide_eq_true_iff]
    rintro rfl
    exact pair.low.dash_not_mem_label mem
  rw [ActorPair.ofLabel?, chars, List.takeWhile_append_of_pos inLow,
    List.dropWhile_append_of_pos inLow, List.takeWhile_cons_of_neg (by decide),
    List.dropWhile_cons_of_neg (by decide), List.append_nil, List.drop_one, List.tail_cons,
    String.ofList_toList, String.ofList_toList, ActorId.ofLabel?_label, ActorId.ofLabel?_label]

/-! ## Reports -/

/-- A change that can be made again by whoever reads of it. -/
inductive Report where
  | created (actor : ActorId)
  | added (script : ScriptId)
  | removed (script : ScriptId)
  | contact (edge : Edge) (pair : ActorPair)
  | played
  | stopped
  | passed (number : Nat)

namespace Report

inductive Kind where
  | created
  | added
  | removed
  | rise
  | fall
  | played
  | stopped
  | passed
  deriving DecidableEq, Repr

namespace Kind

def all : List Kind := [created, added, removed, rise, fall, played, stopped, passed]

/-- What all labels of a kind begin with. -/
def stem : Kind → String
  | .created => "actor.create "
  | .added => "script.add "
  | .removed => "script.remove "
  | .rise => "collision.rise "
  | .fall => "collision.fall "
  | .played => "playback.play"
  | .stopped => "playback.stop"
  | .passed => "playback.pass "

/-- What a label of this kind says by what follows its stem. -/
def read? (kind : Kind) (rest : String) : Option Report :=
  match kind with
  | .created => (ActorId.ofLabel? rest).map .created
  | .added => some (.added ⟨rest⟩)
  | .removed => some (.removed ⟨rest⟩)
  | .rise => (ActorPair.ofLabel? rest).map (.contact .rise)
  | .fall => (ActorPair.ofLabel? rest).map (.contact .fall)
  | .played => if rest = "" then some .played else none
  | .stopped => if rest = "" then some .stopped else none
  | .passed =>
    if rest.toList.all Char.isDigit then some (.passed (Decimal.digitsValue rest.toList)) else none

theorem mem_all (kind : Kind) : kind ∈ all := by cases kind <;> decide

/-- No stem begins with another one. -/
theorem apart (first second : Kind) (ne : first ≠ second) :
    Text.Apart first.stem second.stem := by
  cases first <;> cases second
  all_goals first | exact absurd rfl ne | decide

end Kind

/-- What a text says, if it is the label of a report. -/
def read? (text : String) : Option Report :=
  Kind.all.findSome? fun kind => (Text.after? kind.stem text).bind kind.read?

theorem read?_stem_append (kind : Kind) (rest : String) :
    read? (kind.stem ++ rest) = kind.read? rest := by
  have elsewhere (other : Kind) (ne : other ≠ kind) :
      (Text.after? other.stem (kind.stem ++ rest)).bind other.read? = none := by
    rw [Text.after?_of_apart (Kind.apart other kind ne), Option.bind_none]
  rw [read?, findSome?_of_only kind.mem_all elsewhere, Text.after?_append, Option.bind_some]

/-- A text that begins unlike all reports is none. -/
theorem read?_of_apart (stem : String) (apart : ∀ kind : Kind, Text.Apart kind.stem stem)
    (rest : String) : read? (stem ++ rest) = none := by
  rw [read?, List.findSome?_eq_none_iff]
  intro kind _
  rw [Text.after?_of_apart (apart kind), Option.bind_none]

end Report

/-- What an event tells of; a note tells of what it says. -/
def Event.report? : Event → Option Report
  | .created actor => some (.created actor)
  | .added script => some (.added script)
  | .removed script => some (.removed script)
  | .contact edge pair => some (.contact edge pair)
  | .playStarted => some .played
  | .playStopped => some .stopped
  | .passCompleted number => some (.passed number)
  | .selected _ | .travelled _ _ _ | .turned _ _ | .spoke _ _ _ => none
  | .note text => Report.read? text

/-- What an actor does has a label that begins like no report. -/
theorem Report.read?_actor (actor : ActorId) (rest : String) :
    Report.read? ("actor." ++ (actor.label ++ rest)) = none := by
  rw [ActorId.label, String.append_assoc, ← String.append_assoc]
  exact Report.read?_of_apart "actor.sprite" (fun kind => by cases kind <;> decide) _

/-- **A label is read as what it was written for**, whatever ids, numbers and messages it has. -/
theorem Report.read?_label (event : Event) : Report.read? event.label = event.report? := by
  cases event with
  | created actor =>
      refine (Report.read?_stem_append .created actor.label).trans ?_
      rw [Kind.read?, ActorId.ofLabel?_label]
      rfl
  | added script => exact Report.read?_stem_append .added script.text
  | removed script => exact Report.read?_stem_append .removed script.text
  | contact edge pair =>
      cases edge with
      | rise =>
          refine (Report.read?_stem_append .rise pair.label).trans ?_
          rw [Kind.read?, ActorPair.ofLabel?_label]
          rfl
      | fall =>
          refine (Report.read?_stem_append .fall pair.label).trans ?_
          rw [Kind.read?, ActorPair.ofLabel?_label]
          rfl
  | playStarted => exact Report.read?_stem_append .played ""
  | playStopped => exact Report.read?_stem_append .stopped ""
  | passCompleted number =>
      refine (Report.read?_stem_append .passed (toString number)).trans ?_
      have digits : (Nat.toDigits 10 number).all Char.isDigit = true :=
        List.all_eq_true.mpr fun c mem => Nat.isDigit_of_mem_toDigits (by decide) (by decide) mem
      have value : Decimal.digitsValue (Nat.toDigits 10 number) = number :=
        Nat.ofDigitChars_ten_toDigits
      rw [Kind.read?, Nat.toString_eq_repr, Nat.toList_repr, if_pos digits, value]
      rfl
  | selected actor =>
      exact Report.read?_of_apart "actor.select " (fun kind => by cases kind <;> decide) _
  | travelled actor travel position =>
      show Report.read? ("actor." ++ actor.label ++ "." ++ travel.name ++ " " ++
        Event.written position.x ++ "," ++ Event.written position.y) = none
      simp only [String.append_assoc]
      exact Report.read?_actor actor _
  | turned actor heading =>
      show Report.read? ("actor." ++ actor.label ++ ".heading " ++ Event.written heading) = none
      simp only [String.append_assoc]
      exact Report.read?_actor actor _
  | spoke actor style message =>
      show Report.read? ("actor." ++ actor.label ++ "." ++ style.block.tag ++ " " ++ message) = none
      simp only [String.append_assoc]
      exact Report.read?_actor actor _
  | note text => rfl

end BlockStage
