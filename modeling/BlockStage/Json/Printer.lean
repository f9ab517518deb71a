import BlockStage.Json.Basic
import BlockStage.Decimal.Layout

/-!
JSON values written as text, on one line or with one element per line.
-/

namespace BlockStage.Json

/-- JSON numbers use an exponent below `0.00001` and from `10 ^ 16` on, mark whole numbers with
`.0` and have no text for numbers that are not finite: they become `null`. -/
def numberLayout : Decimal.Layout where
  tie := .even
  pointFrom := some (-4)
  pointTo := some 16
  wholeMark := ".0"
  nan := "null"
  infinity := "null"
  negativeInfinity := "null"

/-- The text of a number. -/
def Number.write : Number → String
  | .integer i => toString i
  | .real x => numberLayout.write x

/-- One character within quotes. Only quotes, backslashes and control characters are escaped. -/
def escapeChar (c : Char) : List Char :=
  match c with
  | '"' => ['\\', '"']
  | '\\' => ['\\', '\\']
  | '\x08' => ['\\', 'b']
  | '\x0c' => ['\\', 'f']
  | '\n' => ['\\', 'n']
  | '\r' => ['\\', 'r']
  | '\t' => ['\\', 't']
  | c =>
    if c.toNat < 0x20 then
      ['\\', 'u', '0', '0', Nat.digitChar (c.toNat / 16), Nat.digitChar (c.toNat % 16)]
    else [c]

/-- A text within quotes. -/
def quote (s : String) : String := String.ofList ('"' :: s.toList.flatMap escapeChar ++ ['"'])

/-- The pieces of a list, each after the first with `separator` before it. -/
def joined (separator : String) : List String → String
  | [] => ""
  | s :: rest => rest.foldl (fun out next => out ++ separator ++ next) s

mutual

/-- A value on one line, without spaces. -/
def compact : Json → String
  | .null => "null"
  | .bool b => if b then "true" else "false"
  | .number n => n.write
  | .text s => quote s
  | .array items => "[" ++ joined "," (compactItems items) ++ "]"
  | .object fields => "\x7b" ++ joined "," (compactFields fields) ++ "\x7d"

/-- The elements of an array on one line each. -/
def compactItems : List Json → List String
  | [] => []
  | item :: items => compact item :: compactItems items

/-- The fields of an object on one line each. -/
def compactFields : List (String × Json) → List String
  | [] => []
  | (key, value) :: fields => (quote key ++ ":" ++ compact value) :: compactFields fields

end

/-- Two spaces for each level. -/
def indent (level : Nat) : String := String.ofList (List.replicate (2 * level) ' ')

/-- Lines between brackets, each one level further in; nothing stands between the brackets of an
empty container. -/
def block (level : Nat) (opening closing : String) (lines : List String) : String :=
  match lines with
  | [] => opening ++ closing
  | lines =>
    opening ++ "\n" ++ joined ",\n" (lines.map (indent (level + 1) ++ ·)) ++ "\n" ++
      indent level ++ closing

mutual

/-- A value with one element per line, inside `level` containers. -/
def prettyAt (level : Nat) : Json → String
  | .array items => block level "[" "]" (prettyItems (level + 1) items)
  | .object fields => block level "\x7b" "\x7d" (prettyFields (level + 1) fields)
  | .null => "null"
  | .bool b => if b then "true" else "false"
  | .number n => n.write
  | .text s => quote s

/-- The elements of an array, each without its indent. -/
def prettyItems (level : Nat) : List Json → List String
  | [] => []
  | item :: items => prettyAt level item :: prettyItems level items

/-- The fields of an object, each without its indent. -/
def prettyFields (level : Nat) : List (String × Json) → List String
  | [] => []
  | (key, value) :: fields => (quote key ++ ": " ++ prettyAt level value) :: prettyFields level fields

end

/-- A value with one element per line, two spaces for each level and no line end after it. -/
def pretty (v : Json) : String := prettyAt 0 v

end BlockStage.Json
