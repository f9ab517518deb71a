import BlockStage.Decimal.Reading

/-!
The options of the command line. An option takes its value from behind an equals sign or from
the next argument, which must not look like an option itself; each may be given once.
-/

namespace BlockStage.CommandLine

/-- An option that takes a value. -/
inductive Setting where
  | scenario
  | passes
  | seed
  | timeScale
  | passInterval
  | eventLog
  | snapshot
  deriving DecidableEq, Repr

inductive Switch where
  | listBlocks
  | verbose
  deriving DecidableEq, Repr

/-- The options that take a value, by their names. -/
def settings : List (String × Setting) :=
  [("scenario", .scenario), ("passes", .passes), ("seed", .seed), ("time-scale", .timeScale),
   ("pass-interval-ms", .passInterval), ("event-log-json", .eventLog),
   ("snapshot-json", .snapshot)]

/-- The options without a value, by their names. -/
def switches : List (String × Switch) := [("list-blocks", .listBlocks), ("verbose", .verbose)]

/-- The options that were given. -/
structure Options where
  scenario : Option String
  passes : Option Nat
  seed : Option Nat
  timeScale : Option Float
  passInterval : Option Nat
  eventLog : Option String
  snapshot : Option String
  listBlocks : Bool
  verbose : Bool

def Options.unset : Options where
  scenario := none
  passes := none
  seed := none
  timeScale := none
  passInterval := none
  eventLog := none
  snapshot := none
  listBlocks := false
  verbose := false

/-- A path, which is not empty. -/
def readPath? (text : String) : Option String := if text.isEmpty then none else some text

/-- A whole number of 64 bits. -/
def readCount? (text : String) : Option Nat := Decimal.readNat? UInt64.size text

/-- The value of an option, which must not have one yet. -/
def once (before value : Option α) : Option (Option α) :=
  if before.isSome then none else value.map some

/-- Gives an option its value; a value that it cannot have and a second value are refused. -/
def Options.set? (o : Options) (setting : Setting) (text : String) : Option Options :=
  match setting with
  | .scenario => (once o.scenario (readPath? text)).map fun v => { o with scenario := v }
  | .passes => (once o.passes (readCount? text)).map fun v => { o with passes := v }
  | .seed => (once o.seed (readCount? text)).map fun v => { o with seed := v }
  | .timeScale =>
    (once o.timeScale (Decimal.readFloat? text)).map fun v => { o with timeScale := v }
  | .passInterval => (once o.passInterval (readCount? text)).map fun v => { o with passInterval := v }
  | .eventLog => (once o.eventLog (readPath? text)).map fun v => { o with eventLog := v }
  | .snapshot => (once o.snapshot (readPath? text)).map fun v => { o with snapshot := v }

/-- Turns a switch on, which must be off. -/
def Options.turnOn? (o : Options) (switch : Switch) : Option Options :=
  match switch with
  | .listBlocks => if o.listBlocks then none else some { o with listBlocks := true }
  | .verbose => if o.verbose then none else some { o with verbose := true }

/-- What a command line asks for. -/
inductive Request where
  | help
  | version
  | run (options : Options)

/-- An argument taken apart. -/
inductive Argument where
  /-- Two dashes alone: no option follows. -/
  | endOfOptions
  /-- An option by its name, with the value behind its equals sign. -/
  | long (name : String) (value : Option String)
  /-- One dash and letters. -/
  | short (letters : List Char)
  | plain (text : String)

/-- Splits a name from what follows its first equals sign. -/
def splitEquals (chars : List Char) : String × Option String :=
  let name := chars.takeWhile (· ≠ '=')
  match chars.dropWhile (· ≠ '=') with
  | [] => (String.ofList name, none)
  | _ :: value => (String.ofList name, some (String.ofList value))

/-- Takes an argument apart. A single dash is plain. -/
def Argument.of (text : String) : Argument :=
  match text.toList with
  | ['-', '-'] => .endOfOptions
  | '-' :: '-' :: rest => let (name, value) := splitEquals rest; .long name value
  | '-' :: c :: rest => .short (c :: rest)
  | _ => .plain text

/-- Reads arguments from left to right; none if they are not a proper command line. Asking for
help or the version ends the reading. -/
def read? (given : Options) : List String → Option Request
  | [] => some (.run given)
  | arg :: rest =>
    match Argument.of arg with
    | .plain _ => none
    | .endOfOptions => if rest.isEmpty then some (.run given) else none
    | .short letters =>
      match letters with
      | 'h' :: _ => some .help
      | 'V' :: _ => some .version
      | _ => none
    | .long "help" none => some .help
    | .long "version" none => some .version
    | .long name value =>
      match settings.lookup name, switches.lookup name, value with
      | some setting, _, some text => (given.set? setting text).bind (read? · rest)
      | some setting, _, none =>
        match rest with
        | next :: rest =>
          match Argument.of next with
          | .plain text => (given.set? setting text).bind (read? · rest)
          | _ => none
        | [] => none
      | none, some switch, none => (given.turnOn? switch).bind (read? · rest)
      | none, _, _ => none

/-- What the arguments ask for; none if they are not a proper command line. -/
def Request.of? (args : List String) : Option Request := read? .unset args

end BlockStage.CommandLine
