import CrudPlan.Text.Character
import CrudPlan.Text.Quoted

namespace CrudPlan

/-- How log lines are written. -/
inductive LogFormat
  | json
  | pretty
deriving DecidableEq, Repr

namespace LogFormat

def name : LogFormat → String
  | .json => "json"
  | .pretty => "pretty"

/-- A format by its name, in any letter case and with blanks around it. The error is the name that
none has. -/
def parse (s : String) : Except String LogFormat :=
  match (Text.trim s).map Char.toLower with
  | "json" => .ok .json
  | "pretty" | "text" => .ok .pretty
  | other => .error other

end LogFormat

/-- Why a text is no count. -/
inductive CountProblem
  | empty
  | notDigit
  | tooLarge
deriving DecidableEq, Repr

namespace CountProblem

def message : CountProblem → String
  | .empty => "cannot parse integer from empty string"
  | .notDigit => "invalid digit found in string"
  | .tooLarge => "number too large to fit in target type"

end CountProblem

/-- Reads decimal digits behind those of `n`, up to the first problem. -/
def readDigits (n : Nat) : List Char → Except CountProblem UInt64
  | [] => .ok (.ofNat n)
  | c :: rest =>
    match Text.digit? c with
    | none => .error .notDigit
    | some d =>
      if n * 10 + d < UInt64.size then readDigits (n * 10 + d) rest else .error .tooLarge

/-- A count in decimal digits, which one plus sign may precede. -/
def parseCount (s : String) : Except CountProblem UInt64 :=
  match s.toList with
  | [] => .error .empty
  | ['+'] => .error .notDigit
  | '+' :: digits => readDigits 0 digits
  | digits => readDigits 0 digits

inductive SettingsError
  | logFormat (name : String)
  | defaultLimit (problem : CountProblem)
deriving DecidableEq, Repr

/-- The variables that settings come from. -/
inductive Setting
  | schemaPath
  | logFormat
  | defaultLimit
deriving DecidableEq, Repr

namespace Setting

/-- The name of a setting's variable. -/
def variableName : Setting → String
  | .schemaPath => "AUTOCRUD_SCHEMA_PATH"
  | .logFormat => "AUTOCRUD_LOG_FORMAT"
  | .defaultLimit => "AUTOCRUD_DEFAULT_LIMIT"

end Setting

namespace SettingsError

def setting : SettingsError → Setting
  | .logFormat _ => .logFormat
  | .defaultLimit _ => .defaultLimit

def message (e : SettingsError) : String := "Invalid " ++ e.setting.variableName

/-- What is wrong with the value of the variable. -/
def cause : SettingsError → String
  | .logFormat name => s!"unknown log format {Text.quoted name} (expected json or pretty)"
  | .defaultLimit problem => problem.message

end SettingsError

/-- The file that holds the schema where no other one is named. -/
def defaultSchemaPath : String := "./schema.yaml"

structure Settings where
  schemaPath : String := defaultSchemaPath
  logFormat : LogFormat := .pretty
  /-- The limit of requests for many rows that have none. -/
  defaultLimit : Option UInt64 := none
deriving DecidableEq

namespace Settings

def parseLogFormat : Option String → Except SettingsError LogFormat
  | none => .ok .pretty
  | some s => (LogFormat.parse s).mapError .logFormat

def parseDefaultLimit : Option String → Except SettingsError (Option UInt64)
  | none => .ok none
  | some s => ((parseCount (Text.trim s)).map some).mapError .defaultLimit

/-- Asks for the variables one after the other, up to the first that is not in order. -/
def read {m : Type → Type} [Monad m] (lookup : String → m (Option String)) :
    m (Except SettingsError Settings) := do
  let schemaPath := (← lookup Setting.schemaPath.variableName).getD defaultSchemaPath
  match parseLogFormat (← lookup Setting.logFormat.variableName) with
  | .error e => return .error e
  | .ok logFormat =>
    match parseDefaultLimit (← lookup Setting.defaultLimit.variableName) with
    | .error e => return .error e
    | .ok defaultLimit => return .ok { schemaPath, logFormat, defaultLimit }

end Settings

end CrudPlan
