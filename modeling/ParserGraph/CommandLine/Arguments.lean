import ParserGraph.Decimal.Numeral

/-!
# Arguments of the command line

The arguments of the tool are a command, its options and its operands.  Options
may stand anywhere behind the command until two hyphens end them; each may be
given once.
-/

namespace ParserGraph.CommandLine

/-- What the tool is asked to do. -/
inductive Command where
  /-- Write settings and an example. -/
  | init (naryCap : Nat) (force : Bool)
  /-- Run the parser of a script on an input. -/
  | run
      (script : String)
      (input file : Option String)
      (allowPrefix : Bool)
      (naryCap : Option Nat)
  /-- Show the tree of a script. -/
  | inspect (script : String)
  | version
  | help
deriving DecidableEq, Repr

/-- An option of a command. -/
structure OptionSpec where
  /-- The name behind two hyphens. -/
  name : String
  letter : Option Char := none
  takesValue : Bool := false

/-- An argument as it is understood. -/
inductive Argument where
  | option (name : String) (value : Option String)
  | operand (text : String)
deriving DecidableEq, Repr

/-- The option that asks for help, which every command has. -/
def helpOption : OptionSpec := { name := "help", letter := some 'h' }

/-- The text could be an option: a hyphen and more. -/
def looksLikeOption : List Char → Bool
  | '-' :: _ :: _ => true
  | _ => false

/-- The value of an option that stands in an argument of its own. -/
def takeValue? (name : String) : List String → Option (Argument × List String)
  | value :: rest =>
      if looksLikeOption value.toList then none else some (.option name (some value), rest)
  | [] => none

/-- A long option: its name and possibly a value behind an equals sign. -/
def readLong? (specs : List OptionSpec) (content : List Char) (rest : List String) :
    Option (Argument × List String) := do
  let name := String.ofList (content.takeWhile (· != '='))
  let spec ← specs.find? fun spec => spec.name == name
  match content.dropWhile (· != '='), spec.takesValue with
  | _ :: value, true => some (.option name (some (String.ofList value)), rest)
  | [], false => some (.option name none, rest)
  | [], true => takeValue? name rest
  | _ :: _, false => none

/-- Short options in one argument; the value of the last one may stand in it, too. -/
def readShort? (specs : List OptionSpec) (rest : List String) :
    List Char → Option (List Argument × List String)
  | [] => some ([], rest)
  | letter :: letters => do
      let spec ← specs.find? fun spec => spec.letter == some letter
      if spec.takesValue then
        match letters with
        | [] => (takeValue? spec.name rest).map fun (argument, rest) => ([argument], rest)
        | '=' :: value => some ([.option spec.name (some (String.ofList value))], rest)
        | value => some ([.option spec.name (some (String.ofList value))], rest)
      else
        (readShort? specs rest letters).map fun (arguments, rest) =>
          (.option spec.name none :: arguments, rest)

/--
The arguments of a command as they are understood; every step takes one at least,
which bounds the fuel.
-/
def readArguments? (specs : List OptionSpec) : (fuel : Nat) → List String →
    Option (List Argument)
  | _, [] => some []
  | 0, _ => none
  | fuel + 1, argument :: rest =>
      match argument.toList with
      | '-' :: '-' :: [] => some (rest.map .operand)
      | '-' :: '-' :: content => do
          let (understood, rest) ← readLong? specs content rest
          (readArguments? specs fuel rest).map (understood :: ·)
      | '-' :: letter :: letters => do
          let (understood, rest) ← readShort? specs rest (letter :: letters)
          (readArguments? specs fuel rest).map (understood ++ ·)
      | _ => (readArguments? specs fuel rest).map (.operand argument :: ·)

def operands (arguments : List Argument) : List String :=
  arguments.filterMap fun
    | .operand text => some text
    | .option _ _ => none

/-- The values that an option was given. -/
def occurrences (arguments : List Argument) (name : String) : List (Option String) :=
  arguments.filterMap fun
    | .operand _ => none
    | .option other value => if other == name then some value else none

/-- The value of an option that is given once at most; `none` if it is repeated. -/
def single? (arguments : List Argument) (name : String) : Option (Option String) :=
  match occurrences arguments name with
  | [] => some none
  | [value] => some value
  | _ => none

/-- A flag that is given once at most; `none` if it is repeated. -/
def flag? (arguments : List Argument) (name : String) : Option Bool :=
  match occurrences arguments name with
  | [] => some false
  | [_] => some true
  | _ => none

/-- A natural number of 64 bits, with a plus sign or without. -/
def readCount? (text : String) : Option Nat := do
  let digits :=
    match text.toList with
    | '+' :: digits => digits
    | digits => digits
  let number ← Decimal.readNatural? digits
  if number < Nat.pow 2 64 then some number else none

/-- A number that may be missing. -/
def optionalCount? : Option String → Option (Option Nat)
  | none => some none
  | some text => (readCount? text).map some

/-- The name of a file, which is not empty. -/
def readFileName? (text : String) : Option String :=
  if text.isEmpty then none else some text

/-- The option that sets the most children of a node. -/
def naryCapOption : OptionSpec := { name := "nary-cap", takesValue := true }

/-- The command that sets up a directory. -/
def readInit? (arguments : List String) : Option Command := do
  let specs := [helpOption, naryCapOption, { name := "force", letter := some 'f' }]
  let arguments ← readArguments? specs arguments.length arguments
  if !(occurrences arguments "help").isEmpty then
    some .help
  else
    let cap ← optionalCount? (← single? arguments "nary-cap")
    let force ← flag? arguments "force"
    if (operands arguments).isEmpty then some (.init (cap.getD 3) force) else none

def readRun? (arguments : List String) : Option Command := do
  let specs :=
    [helpOption, naryCapOption, { name := "file", letter := some 'f', takesValue := true },
     { name := "prefix" }]
  let arguments ← readArguments? specs arguments.length arguments
  if !(occurrences arguments "help").isEmpty then
    some .help
  else
    let cap ← optionalCount? (← single? arguments "nary-cap")
    let allowPrefix ← flag? arguments "prefix"
    let file ←
      match ← single? arguments "file" with
      | none => some none
      | some name => (readFileName? name).map some
    match operands arguments, file with
    | [script], file => (readFileName? script).map (.run · none file allowPrefix cap)
    | [script, input], none =>
        (readFileName? script).map (.run · (some input) none allowPrefix cap)
    | _, _ => none

/-- The command that shows a tree. -/
def readInspect? (arguments : List String) : Option Command := do
  let arguments ← readArguments? [helpOption] arguments.length arguments
  if !(occurrences arguments "help").isEmpty then
    some .help
  else
    match operands arguments with
    | [script] => (readFileName? script).map .inspect
    | _ => none

/-- The command that arguments ask for; `none` if they are used wrongly. -/
def readCommand? : List String → Option Command
  | "init" :: arguments => readInit? arguments
  | "run" :: arguments => readRun? arguments
  | "inspect" :: arguments => readInspect? arguments
  | ["help"] => some .help
  | ["help", name] =>
      if ["init", "run", "inspect", "help"].contains name then some .help else none
  | argument :: _ =>
      match argument.toList with
      | '-' :: 'V' :: _ => some .version
      | '-' :: 'h' :: _ => some .help
      | _ =>
          if argument == "--version" then some .version
          else if argument == "--help" then some .help
          else none
  | [] => none

end ParserGraph.CommandLine
