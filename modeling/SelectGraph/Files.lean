import SelectGraph.Text.Parts

/-!
# Files

The files a run can read, by name. They stand in the working directory, so a path is a name once the
steps that stay in that directory are left out.
-/

namespace SelectGraph

structure Files where
  entries : List (String × String) := []

inductive FileError where
  | missing (path : String)
  | directory (path : String)
  | notDirectory (path : String)
  deriving DecidableEq

def FileError.message : FileError → String
  | .missing path => "open " ++ path ++ ": no such file or directory"
  | .directory path => "read " ++ path ++ ": is a directory"
  | .notDirectory path => "open " ++ path ++ ": not a directory"

namespace Files

def isIdle (step : String) : Bool :=
  step == "" || step == "."

/-- What a path leads to. A file has nothing below it. -/
def follow (files : Files) (path : String) : Except FileError String :=
  let steps := Text.split path '/'
  match steps.filter fun step => !isIdle step with
  | [] => .error (if path = "" then .missing path else .directory path)
  | name :: below =>
    match if Text.startsWith path "/" then none else files.entries.lookup name with
    | some content =>
      if below.isEmpty && !(steps.getLast?.any isIdle) then .ok content
      else .error (.notDirectory path)
    | none =>
      .error (if (name :: below).all (· == "..") then .directory path else .missing path)

def read (files : Files) (path : String) : Except FileError String :=
  match files.entries.lookup path with
  | some content => .ok content
  | none => files.follow path

def has (files : Files) (path : String) : Bool :=
  match files.read path with
  | .ok _ | .error (.directory _) => true
  | .error _ => false

end Files

end SelectGraph
