/-!
# Command-line arguments

Options have long names and take a value, behind an equals sign or as the next argument; of several the last counts. Two
hyphens end the options. The log level stands before the name of the command, the options of a command anywhere after it.
-/

namespace HttpContract.Cli

/-- The arguments of a command taken apart. -/
structure Parsed where
  options : List (String × String)
  operands : List String
  help : Bool
  deriving DecidableEq, Repr

namespace Parsed

/-- Nothing yet. -/
def empty : Parsed := ⟨[], [], false⟩

/-- The value of an option. -/
def option? (p : Parsed) (name : String) : Option String := (p.options.reverse.find? (·.1 == name)).map (·.2)

end Parsed

/-- What an argument is. -/
inductive Argument where
  | operand
  | ending
  | help
  | option (name : String) (value : Option String)
  | unknown
  deriving DecidableEq, Repr

/-- The kind of an argument, given the names of the options. -/
def classifyArgument (names : List String) (argument : String) : Argument :=
  let cs := argument.toList
  if cs.head? != some '-' || cs.length == 1 then .operand
  else if argument == "--" then .ending
  else
    let name := String.ofList (cs.takeWhile (· != '='))
    let value := if cs.contains '=' then some (String.ofList ((cs.dropWhile (· != '=')).drop 1)) else none
    if names.contains name then .option name value
    else if argument == "--help" then .help
    else .unknown

/-- The parsed arguments with one more option. -/
def Parsed.addOption (p : Parsed) (name value : String) : Parsed := { p with options := p.options ++ [(name, value)] }

/-- The arguments of a command taken apart, unless one is no option of it or lacks its value. `awaiting` is the option
whose value is the next argument. -/
def parse (names : List String) (p : Parsed) (awaiting : Option String) : List String → Option Parsed
  | [] => if awaiting.isSome then none else some p
  | a :: rest =>
    match awaiting with
    | some name => parse names (p.addOption name a) none rest
    | none =>
      match classifyArgument names a with
      | .operand => parse names { p with operands := p.operands ++ [a] } none rest
      | .ending => some { p with operands := p.operands ++ rest }
      | .help => parse names { p with help := true } none rest
      | .option name (some value) => parse names (p.addOption name value) none rest
      | .option name none => parse names p (some name) rest
      | .unknown => none

/-- The options before the command, and the arguments from the command on. -/
def parseGroup (names : List String) (p : Parsed) (awaiting : Option String) :
    List String → Option (Parsed × List String)
  | [] => if awaiting.isSome then none else some (p, [])
  | a :: rest =>
    match awaiting with
    | some name => parseGroup names (p.addOption name a) none rest
    | none =>
      match classifyArgument names a with
      | .operand => some (p, a :: rest)
      | .ending => some (p, rest)
      | .help => parseGroup names { p with help := true } none rest
      | .option name (some value) => parseGroup names (p.addOption name value) none rest
      | .option name none => parseGroup names p (some name) rest
      | .unknown => none

end HttpContract.Cli
