import BlockStage.Json.Basic
import Mathlib.Data.List.Basic

/-!
# The order of fields

What a JSON value means does not depend on the order in which the fields of its objects stand.
-/

namespace BlockStage.Json

mutual

/-- Two trees are the same but for the order of the fields of their objects, at any depth. -/
inductive Reordered : Json → Json → Prop
  | null : Reordered .null .null
  | bool (value : Bool) : Reordered (.bool value) (.bool value)
  | number (value : Number) : Reordered (.number value) (.number value)
  | text (value : String) : Reordered (.text value) (.text value)
  | array {items items' : List Json} (each : ItemsReordered items items') :
    Reordered (.array items) (.array items')
  | object {fields same fields' : List (String × Json)} (each : FieldsReordered fields same)
    (order : same.Perm fields') : Reordered (.object fields) (.object fields')

/-- Elements stay in their order. -/
inductive ItemsReordered : List Json → List Json → Prop
  | nil : ItemsReordered [] []
  | cons {item item' : Json} {items items' : List Json} (first : Reordered item item')
    (rest : ItemsReordered items items') : ItemsReordered (item :: items) (item' :: items')

/-- Fields in their order, with values that are the same but for the order within. -/
inductive FieldsReordered : List (String × Json) → List (String × Json) → Prop
  | nil : FieldsReordered [] []
  | cons (key : String) {value value' : Json} {fields fields' : List (String × Json)}
    (first : Reordered value value') (rest : FieldsReordered fields fields') :
    FieldsReordered ((key, value) :: fields) ((key, value') :: fields')

end

mutual

/-- A tree is a reordering of itself. -/
theorem Reordered.refl : ∀ tree : Json, Reordered tree tree
  | .null => .null
  | .bool value => .bool value
  | .number value => .number value
  | .text value => .text value
  | .array items => .array (ItemsReordered.refl items)
  | .object fields => .object (FieldsReordered.refl fields) (.refl fields)

theorem ItemsReordered.refl : ∀ items : List Json, ItemsReordered items items
  | [] => .nil
  | item :: items => .cons (Reordered.refl item) (ItemsReordered.refl items)

theorem FieldsReordered.refl : ∀ fields : List (String × Json), FieldsReordered fields fields
  | [] => .nil
  | (key, value) :: fields => .cons key (Reordered.refl value) (FieldsReordered.refl fields)

end

end BlockStage.Json
