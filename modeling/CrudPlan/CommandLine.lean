namespace CrudPlan

inductive Command
  /-- Shows the models of the schema with their operations. -/
  | describe
  /-- Shows the plan for a request file. -/
  | plan (model request : String)
  /-- Shows the statements for a request file. -/
  | sql (model request : String)
  | help
deriving DecidableEq, Repr

inductive UsageError
  | missingSchemaPath
  | unknownOption (arg : String)
  | unknownCommand (name : String)
  | missingArguments (command : String)
  | unexpectedArgument (arg : String)
deriving DecidableEq, Repr

namespace UsageError

def message : UsageError → String
  | .missingSchemaPath => "--schema requires a path"
  | .unknownOption arg => s!"unknown option {arg}"
  | .unknownCommand name => s!"unknown command {name}"
  | .missingArguments command => s!"{command} requires <model> <request.json>"
  | .unexpectedArgument arg => s!"unexpected argument {arg}"

end UsageError

def usage : String :=
  "usage: autocrud [--schema <path>] [describe]\n" ++
    "       autocrud [--schema <path>] plan <model> <request.json>\n" ++
    "       autocrud [--schema <path>] sql <model> <request.json>"

/-- The options among arguments, and the arguments that are none. -/
structure ScannedArgs where
  help : Bool := false
  schemaPath : Option String := none
  positionals : List String := []
deriving DecidableEq, Repr

namespace ScannedArgs

/-- Puts a schema path in front, which counts unless another one follows. -/
def withSchemaPath (path : String) (s : ScannedArgs) : ScannedArgs :=
  { s with schemaPath := s.schemaPath.or (some path) }

/-- The path in an argument of the form `--schema=path`. -/
def inlineSchemaPath? (arg : String) : Option String :=
  let opening := "--schema=".toList
  if opening.isPrefixOf arg.toList then some (String.ofList (arg.toList.drop opening.length))
  else none

/-- Sorts arguments; `--schema` takes the next one, whatever it looks like. -/
def ofArgs : List String → Except UsageError ScannedArgs
  | [] => .ok {}
  | arg :: rest =>
    if arg = "-h" ∨ arg = "--help" then do return { ← ofArgs rest with help := true }
    else if arg = "--schema" then
      match rest with
      | [] => .error .missingSchemaPath
      | path :: rest => (ofArgs rest).map (withSchemaPath path)
    else
      match inlineSchemaPath? arg with
      | some path => (ofArgs rest).map (withSchemaPath path)
      | none =>
        if arg.toList.head? = some '-' then .error (.unknownOption arg)
        else do
          let s ← ofArgs rest
          return { s with positionals := arg :: s.positionals }

end ScannedArgs

namespace Command

/-- The model and the request that follow the name of a command. -/
def withRequest (name : String) (command : String → String → Command) :
    List String → Except UsageError Command
  | [model, request] => .ok (command model request)
  | _ :: _ :: extra :: _ => .error (.unexpectedArgument extra)
  | _ => .error (.missingArguments name)

/-- The command that positional arguments name, by default the description. -/
def ofPositionals : List String → Except UsageError Command
  | [] => .ok .describe
  | name :: args =>
    if name = "describe" then
      match args with
      | [] => .ok .describe
      | extra :: _ => .error (.unexpectedArgument extra)
    else if name = "plan" then withRequest name .plan args
    else if name = "sql" then withRequest name .sql args
    else .error (.unknownCommand name)

end Command

structure CommandLine where
  command : Command := .describe
  /-- The schema file that overrides the one of the settings. -/
  schemaPath : Option String := none
deriving DecidableEq, Repr

namespace CommandLine

/-- A command line from its arguments. A request for help counts before any command. -/
def parse (args : List String) : Except UsageError CommandLine := do
  let scanned ← ScannedArgs.ofArgs args
  let command ← if scanned.help then .ok .help else Command.ofPositionals scanned.positionals
  return { command, schemaPath := scanned.schemaPath }

end CommandLine

end CrudPlan
