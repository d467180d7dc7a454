import CrudPlan.CommandLine
import CrudPlan.DotEnv
import CrudPlan.Request.Selection
import CrudPlan.Schema.File
import CrudPlan.Schema.Model.Writer
import CrudPlan.Service.Crud
import CrudPlan.Settings

namespace CrudPlan

/-- What the program asks of the machine that it runs on. -/
structure Host (m : Type → Type) where
  /-- The value of an environment variable. -/
  lookup : String → m (Option String)
  /-- The text of a file, if it can be read. -/
  textAt : String → m (Option String)
  /-- The text of the file that defines further environment variables, if there is one. -/
  definitions : m (Option String)

/-- What a run of the program leaves behind. -/
structure Outcome where
  exitCode : UInt32
  stdout : String
  stderr : String
deriving DecidableEq, Repr

inductive ProgramError
  | usage (e : UsageError)
  | settings (e : SettingsError)
  | schemaFile (e : SchemaFileError)
  | schema (path : String) (e : SchemaError)
  | unreadableRequest (path : String)
  | invalidRequest (path : String)
  | plan (e : PlanError)

namespace ProgramError

def message : ProgramError → String
  | .usage e => e.message
  | .settings e => e.message
  | .schemaFile e => e.message
  | .schema path _ => s!"Invalid schema in {path}"
  | .unreadableRequest path => s!"Failed to read request file {path}"
  | .invalidRequest path => s!"Invalid request in {path}"
  | .plan e => e.message

def cause? : ProgramError → Option String
  | .settings e => some e.cause
  | .schema _ e => some e.message
  | _ => none

/-- Indents all lines of a text. -/
def indented (s : String) : String :=
  String.ofList (' ' :: ' ' :: ' ' :: ' ' ::
    s.toList.flatMap fun c => if c = '\n' then ['\n', ' ', ' ', ' ', ' '] else [c])

/-- The text of an error and, behind an empty line, that of its cause. -/
def report (e : ProgramError) : String :=
  let cause :=
    match e.cause? with
    | none => ""
    | some cause => "\n\nCaused by:\n" ++ indented cause
  "Error: " ++ e.message ++ cause ++ "\n"

end ProgramError

namespace Service

/-- Prepares the operation that a request file asks for: one row by its key, or many rows. -/
def prepareRequest (s : Service) (model : String) (request : RequestFile) :
    Except PlanError PreparedOperation :=
  match request.key with
  | some key => s.getOne model key request.selection
  | none => s.getMany model request.selection.args request.selection

end Service

namespace Program

variable {m : Type → Type} [Monad m]

/-- A result whose error becomes one of the program. -/
def orFail {ε α : Type} (f : ε → ProgramError) (x : Except ε α) : ExceptT ProgramError m α :=
  ExceptT.mk (pure (x.mapError f))

/-- The operation that the request file at a path asks for. -/
def prepare (host : Host m) (s : Service) (model path : String) :
    ExceptT ProgramError m PreparedOperation := do
  match ← host.textAt path with
  | none => throw (.unreadableRequest path)
  | some text =>
    match RequestFile.parse? text with
    | none => throw (.invalidRequest path)
    | some request => orFail .plan (s.prepareRequest model request)

/-- The registry of the schema at a path. -/
def loadRegistry (host : Host m) (path : String) : ExceptT ProgramError m Registry := do
  let declaration ← orFail .schemaFile (Declaration.ofFile path (← host.textAt path))
  orFail (.schema path) (Registry.build declaration)

/-- What a command shows. -/
def output (host : Host m) (s : Service) : Command → ExceptT ProgramError m Json
  | .describe | .help => return s.registry.description
  | .plan model request => return (← prepare host s model request).toJson
  | .sql model request => do
    let prepared ← prepare host s model request
    let rendered ← orFail .plan (s.registry.render prepared)
    return rendered.toJson

/-- The variables of a host together with those that its file of definitions adds. -/
def environment (host : Host m) : m (String → m (Option String)) := do
  match ← host.definitions with
  | none => return host.lookup
  | some text => do
    let defined ← DotEnv.evaluate host.lookup [] (DotEnv.parse text)
    return DotEnv.lookupWith host.lookup defined

/-- The text that the program shows. -/
def show? (host : Host m) (args : List String) : ExceptT ProgramError m String := do
  let lookup ← ExceptT.lift (environment host)
  let commandLine ← orFail .usage (CommandLine.parse args)
  if commandLine.command = .help then return usage
  let settings ← orFail .settings (← ExceptT.lift (Settings.read lookup))
  let registry ← loadRegistry host (commandLine.schemaPath.getD settings.schemaPath)
  let service : Service := { registry, defaultLimit := settings.defaultLimit }
  return (← output host service commandLine.command).pretty

/-- Runs the program with command line arguments. -/
def run (host : Host m) (args : List String) : m Outcome := do
  match ← (show? host args).run with
  | .ok text => return ⟨0, text ++ "\n", ""⟩
  | .error e => return ⟨1, "", e.report⟩

end Program

end CrudPlan
