import CrudPlan.Program

namespace CrudPlan

/-- The text of a file, if there is one at the path that can be read and is text. -/
def readText (path : String) : IO (Option String) := do
  try
    return String.fromUTF8? (← IO.FS.readBinFile path)
  catch _ => return none

/-- The text of the file `.env` in a directory or in the nearest one around it that has such a
file. The directories are given by the parts of their paths, last one first. -/
def findDefinitions : List String → IO (Option String)
  | [] => readText "/.env"
  | part :: parts => do
    match ← readText ("/".intercalate (part :: parts).reverse ++ "/.env") with
    | some text => return some text
    | none => findDefinitions parts

/-- The machine that the program runs on. -/
def machine : Host IO where
  lookup name := IO.getEnv name
  textAt := readText
  definitions := do
    let directory := toString (← IO.currentDir)
    findDefinitions (directory.splitOn "/").reverse

end CrudPlan

def main (args : List String) : IO UInt32 := do
  let outcome ← CrudPlan.Program.run CrudPlan.machine args
  IO.print outcome.stdout
  IO.eprint outcome.stderr
  return outcome.exitCode
