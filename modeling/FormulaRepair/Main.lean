import FormulaRepair.CommandLine.Run

/-! # The program

The outermost layer: it looks at the environment and the files that a command line names, runs the
command line, prints, and writes the files that have changed. No typesetter and no network are linked
in: no formula can be typeset, and no service can be reached.
-/

namespace FormulaRepair.Main

open CommandLine

/-- What every formula comes to. -/
def untypeset : Fault := ⟨"TypesetterMissing".toList, "no typesetter is linked in".toList⟩

/-- A typesetter that typesets nothing. -/
def noTypesetter : Typesetter Unit := fun _ => pure (.error untypeset)

/-- What every call to a service comes to. -/
def unreachable : CallProblem :=
  .network ⟨"ConnectionError".toList, "no network is linked in".toList⟩

/-- A transport that reaches nothing. -/
def noTransport : Transport Unit where
  connect _ := pure ()
  chat _ := pure (.error unreachable)
  listModels _ := pure (.error unreachable)
  post _ := pure (.error unreachable)
  fetch _ _ := pure (.error unreachable)
  pause _ := pure ()
  wording := .plain

/-- The paths that an invocation reads or writes. -/
def pathsOf (invocation : Invocation) : List Text :=
  match invocation with
  | .check path => [path]
  | .fix path output _ _ =>
      let target := outputPath path output
      [path, target, target ++ ".tmp".toList]
  | .models _ | .ping _ => []

/-- What is at a place of the file system. -/
def entryAt (place : Place) : IO (Option Entry) := do
  try
    let found ← IO.FS.realPath (String.ofList place.path)
    if ← found.isDir then return some .directory
    else return some (.file (← IO.FS.readBinFile found).toList)
  catch _ => return none

/-- The part of the file system that leads to some places. -/
def treeAround (places : List Place) : IO FileTree := do
  let mut tree : FileTree := {}
  for place in (places.flatMap Place.prefixes).eraseDups do
    if !place.isEmpty then
      if let some entry ← entryAt place then tree := tree.put place entry
  return tree

/-- Bring the file system from one state of its tree to another. -/
def store (before after : FileTree) : IO Unit := do
  for (place, entry) in after.entries do
    if before.at? place != some entry then
      match entry with
      | .directory => IO.FS.createDirAll (String.ofList place.path)
      | .file content =>
          IO.FS.writeBinFile (String.ofList place.path) (ByteArray.mk content.toArray)
  for (place, entry) in before.entries do
    if entry != .directory && (after.at? place).isNone then
      IO.FS.removeFile (String.ofList place.path)

/-- The directories from which paths are followed. -/
def standpoint : IO Standpoint := do
  let current := Path.follow [] (Path.names (← IO.currentDir).toString.toList)
  let home ← IO.getEnv "HOME"
  return {
    current := current
    home := (home.map fun path => Path.follow [] (Path.names path.toList)).getD [] }

/-- The environment variables that settings are read from. -/
def environment : IO Environment := do
  let values ← Environment.variables.mapM fun name => return (name.toList, ← IO.getEnv name)
  return fun name => (values.find? (·.1 == name)).bind fun (_, value) => value.map String.toList

end FormulaRepair.Main

open FormulaRepair FormulaRepair.CommandLine FormulaRepair.Main in
/-- Run the command line that the program was started with. -/
def main (arguments : List String) : IO UInt32 := do
  let words := arguments.map String.toList
  let standpoint ← standpoint
  let paths := match CommandLine.read words with
    | .ok invocation => pathsOf invocation
    | .error _ => []
  let places := paths.filterMap fun path => (standpoint.resolve path).toOption
  let files ← treeAround places
  let surroundings : Surroundings Unit :=
    { environment := ← environment
      standpoint := standpoint
      typesetter := noTypesetter
      transport := noTransport }
  let (status, shell) := CommandLine.run surroundings words { files := files, outside := () }
  store files shell.files
  IO.print (String.ofList shell.printed)
  return status.toUInt32
