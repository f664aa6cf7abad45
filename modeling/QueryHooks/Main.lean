import QueryHooks.CommandLine.Program

/-!
The executable. It takes the files below the working directory as they are, runs the program on them and
stores what has changed. It has no network: every address is one that nobody serves.
-/

open QueryHooks

/-- Directories that are not looked into. -/
def isIgnored (name : String) : Bool := name.startsWith "." || name == "node_modules"

/-- The entries below a directory, seen from its place. -/
partial def entriesBelow (directory : IO.FS.DirEntry) (place : Place) : IO (List (Place × Entry)) := do
  let mut found := []
  for entry in ← directory.path.readDir do
    let here := place ++ [entry.fileName]
    if ← entry.path.isDir then
      unless isIgnored entry.fileName do
        found := found ++ (here, Entry.directory) :: (← entriesBelow entry here)
    else
      found := found ++ [(here, Entry.file (← IO.FS.readBinFile entry.path).toList)]
  return found

def directoriesTo (place : Place) : List (Place × Entry) :=
  (List.range place.length).map fun n => (place.take (n + 1), .directory)

def settingNames : List String :=
  ["SPECQUERY_SCHEMA", "SPECQUERY_OUT", "SPECQUERY_BASE_URL", "SPECQUERY_OPENAPI_TS_CONFIG", "NO_COLOR", "TERM",
    "COLUMNS"]

def store (before after : Disk) : IO Unit := do
  for (place, entry) in after.entries do
    unless before.entries.lookup place == some entry do
      match entry with
      | .directory => IO.FS.createDirAll (Path.placeText place)
      | .file octets => IO.FS.writeBinFile (Path.placeText place) octets.toByteArray

def main (words : List String) : IO UInt32 := do
  let here ← IO.currentDir
  let workdir := (Path.ofText here.toString).segments
  let below ← entriesBelow ⟨here, "."⟩ workdir
  let environment ← settingNames.filterMapM fun name => do
    return (← IO.getEnv name).map fun text => (name, text)
  let world : World :=
    { disk := ⟨directoriesTo workdir ++ below⟩
      workdir := workdir
      stdin := ""
      responses := []
      environment := environment }
  let stdin ← if CommandLine.readsInput world words then (← IO.getStdin).readToEnd else pure ""
  let ending := CommandLine.run { world with stdin := stdin } words
  store world.disk ending.disk
  IO.print ending.streams.stdout
  IO.eprint ending.streams.stderr
  match ending.exit with
  | .ok code => return code.toUInt32
  | .error failure => throw (.userError failure.message)
