import BlockStage.Decimal.Layout
import BlockStage.Decimal.Reading
import BlockStage.Text

/-!
Scripts: the blocks that actors run. A script names an action and carries parameters, among
which the body of a repetition is a list of scripts again. The parameters of a script are kept
in the order of their names, each name once; the type says so, and inserting is the only
operation that has to respect it.
-/

namespace BlockStage

/-- What tells scripts apart. -/
structure ScriptId where
  text : String
  deriving DecidableEq, Repr

/-- The kind of work an action belongs to. -/
inductive Category where
  | motion
  | looks
  | control
  deriving DecidableEq, Repr

def Category.all : List Category := [.motion, .looks, .control]

def Category.name : Category → String
  | .motion => "motion"
  | .looks => "looks"
  | .control => "control"

def Category.ofName? (name : String) : Option Category :=
  Category.all.find? (·.name = name)

/-- Whether `name` comes after `bound` in the order of characters; every name comes after no
bound. -/
def NameAfter : (bound : Option String) → (name : String) → Prop
  | none, _ => True
  | some bound, name => bound < name

mutual

/-- One block of a program. -/
structure Script where
  id : ScriptId
  category : Category
  action : String
  params : Params none

inductive ParamValue where
  | number (value : Float)
  | text (value : String)
  | scripts (body : List Script)

/-- Named values in the order of their names, all names after `bound`. -/
inductive Params : (bound : Option String) → Type where
  | nil {bound : Option String} : Params bound
  | cons {bound : Option String} (name : String) (after : NameAfter bound name)
      (value : ParamValue) (rest : Params (some name)) : Params bound

end

namespace ParamValue

/-- The value as a finite number: a number, or a text that reads as one once the blanks around
it are taken off. -/
def number? : ParamValue → Option Float
  | .number x => if x.isFinite then some x else none
  | .text s => (Decimal.readFloat? (Text.trim s)).filter Float.isFinite
  | .scripts _ => none

/-- The value if it is a text. -/
def text? : ParamValue → Option String
  | .text s => some s
  | _ => none

/-- The value if it is a list of scripts. -/
def scripts? : ParamValue → Option (List Script)
  | .scripts body => some body
  | _ => none

/-- A text as it is, a number in plain digits, and nothing for scripts. -/
def label : ParamValue → String
  | .text s => s
  | .number x => Decimal.plain.write x
  | .scripts _ => ""

end ParamValue

namespace Params

def get? (name : String) : {bound : Option String} → Params bound → Option ParamValue
  | _, .nil => none
  | _, .cons key _ value rest => if key = name then some value else rest.get? name

/-- Gives `name` a value; an earlier value of the name is replaced. -/
def insert (name : String) (value : ParamValue) :
    {bound : Option String} → NameAfter bound name → Params bound → Params bound
  | _, h, .nil => .cons name h value .nil
  | _, h, .cons key after old rest =>
    if before : name < key then .cons name h value (.cons key before old rest)
    else if later : key < name then .cons key after old (rest.insert name value later)
    else .cons key after value rest

/-- Names and values in order. -/
def toList : {bound : Option String} → Params bound → List (String × ParamValue)
  | _, .nil => []
  | _, .cons name _ value rest => (name, value) :: rest.toList

/-- Gives names their values one after another, so that the last value of a name stays. -/
def insertAll (params : Params none) (entries : List (String × ParamValue)) : Params none :=
  entries.foldl (fun params (name, value) => params.insert name value trivial) params

/-- The parameters of a list of names and values; the last value of a name stays. -/
def ofList (entries : List (String × ParamValue)) : Params none := insertAll .nil entries

end Params

namespace Script

instance : Inhabited Script := ⟨⟨⟨""⟩, .motion, "", .nil⟩⟩

/-- The parameter `name` as a finite number, if it reads as one. -/
def number? (s : Script) (name : String) : Option Float :=
  (s.params.get? name).bind ParamValue.number?

/-- The parameter `name` as a number; missing and unreadable ones count as zero. -/
def numberOrZero (s : Script) (name : String) : Float := (s.number? name).getD 0

/-- The parameter `name` if it is a text. -/
def text? (s : Script) (name : String) : Option String :=
  (s.params.get? name).bind ParamValue.text?

/-- The parameter `name` as it is shown. -/
def label (s : Script) (name : String) : String :=
  ((s.params.get? name).map ParamValue.label).getD ""

/-- The scripts in the parameter `name`. -/
def nested (s : Script) (name : String) : List Script :=
  ((s.params.get? name).bind ParamValue.scripts?).getD []

end Script

end BlockStage
