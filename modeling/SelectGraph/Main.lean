import SelectGraph.CommandLine.Compile
import SelectGraph.CommandLine.Serve
import SelectGraph.Log.Render

/-!
# The command line

The first argument chooses the command: `serve` serves, and without it a query is compiled. This
layer only reads files, the environment and standard input, and prints.
-/

namespace SelectGraph.CommandLine

def readFiles (names : List String) : IO Files := do
  let mut entries : List (String × String) := []
  for name in names do
    try
      entries := entries ++ [(name, ← IO.FS.readFile name)]
    catch _ => pure ()
  return ⟨entries⟩

def readInput : IO String := do
  (← IO.getStdin).readToEnd

def reportError (command message : String) : IO UInt32 := do
  IO.eprintln (command ++ ": " ++ message)
  return 1

def compileMain (args : List String) : IO UInt32 := do
  match CompileOptions.read args with
  | .error error => reportError "compile" error.message
  | .ok options =>
    let names := options.fileNames
    let input ← if names.contains "-" then readInput else pure ""
    match options.run (← readFiles names) input with
    | .error error => reportError "compile" error.message
    | .ok text =>
      IO.print text
      return 0

/-- The variables of the environment that hold settings. -/
def readEnvironment : IO (List (String × String)) := do
  let mut found : List (String × String) := []
  for name in Config.variableNames do
    match ← IO.getEnv name with
    | some value => found := found ++ [(name, value)]
    | none => pure ()
  return found

/-- Serve. No database is within reach of this program, so a server that needs one reports that it
cannot connect. -/
def serveMain (args : List String) : IO UInt32 := do
  match readFlags serveFlags args with
  | .error _ => reportError "serve" "bad flags"
  | .ok flags =>
    let secret := flags.textOf "database.password_file" ""
    let first ← readFiles (secret :: Config.candidateFiles flags)
    let input ← if secret == "@-" then readInput else pure ""
    let env ← readEnvironment
    let named := match Config.load flags ⟨first, env, input⟩ with
      | .ok cfg => cfg.fileNames
      | .error _ => []
    let files : Files := ⟨first.entries ++ (← readFiles named).entries⟩
    let world : App.World :=
      { files, dial := fun wire => wire.backend {}, freshRequest := "request", freshTrace := "trace" }
    let result := serve {} flags ⟨files, env, input⟩ world .silent
    for record in result.early do IO.eprintln record.line
    for line in result.printed do IO.println line
    for record in result.journal.records do IO.println record.line
    match result.error? with
    | some error => reportError "serve" error.message
    | none => return 0

end SelectGraph.CommandLine

def main (args : List String) : IO UInt32 :=
  match args with
  | "serve" :: rest => SelectGraph.CommandLine.serveMain rest
  | _ => SelectGraph.CommandLine.compileMain args
