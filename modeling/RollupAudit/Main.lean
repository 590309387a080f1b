import RollupAudit.Command.Catalogue
import RollupAudit.Command.Run
import RollupAudit.Time.UnixTime
import Std.Time.DateTime.Timestamp

/-!
# Command line

Judges a snapshot of a deployment, or prints the catalogue of rules if the first word is
`catalogue`. What a run reads is taken from the disk before it, and what it writes is put there
after it.
-/

namespace RollupAudit
namespace CommandLine

/-- A place on the disk. -/
def diskText (place : Place) : String := Text.characters ("/" ++ String.intercalate "/" place)

/-- The tree with what stands at a place on the disk: a file, or a directory with what is in it. -/
def look (t : FileTree) (place : Place) : IO FileTree := do
  let path := (← IO.currentDir) / diskText place
  if ← path.isDir then
    let mut t := { t with directories := t.directories ++ [place] }
    for entry in ← path.readDir do
      let below := place ++ [Text.spelled entry.fileName]
      if ← entry.path.isDir then
        t := { t with directories := t.directories ++ [below] }
      else
        let octets ← IO.FS.readBinFile entry.path
        t := { t with files := t.files ++ [(below, octets.toList)] }
    return t
  else if ← path.pathExists then
    let octets ← IO.FS.readBinFile path
    return { t with files := t.files ++ [(place, octets.toList)] }
  else
    return t

/-- The tree with what stands where a path leads, and the directories on the way. -/
def lookAlong (t : FileTree) (p : FilePath) : IO FileTree := do
  let home : FilePath := ⟨.root, t.home⟩
  let mut t := t
  for count in List.range p.names.length do
    let place := (FilePath.resolve ⟨p.start, p.names.take count⟩ home).names
    if ← ((← IO.currentDir) / diskText place).isDir then
      t := { t with directories := t.directories ++ [place] }
  look t (p.resolve home).names

/-- The variables of the environment that a run looks at. -/
def environment : IO Settings.Environment := do
  let mut env := []
  for name in Settings.names do
    if let some value ← IO.getEnv (Settings.variableName name) then
      env := env ++ [(Settings.variableName name, Text.spelled value)]
  return env

/-- The time, as a text. -/
def nowText : IO String := do
  let now ← Std.Time.Timestamp.now
  let micros := now.toNanosecondsSinceUnixEpoch.val / 1000
  let start := UnixTime.secondsBefore1970 * Duration.microsPerSecond
  return (Instant.ofMicros? (start + micros)).elim "" Instant.offsetText

/-- The tree that a run with arguments reads. -/
def treeFor (env : Settings.Environment) (a : Command.Arguments) : IO FileTree := do
  let home := FilePath.ofText (Text.spelled (← IO.currentDir).toString)
  let t : FileTree := { home := home.names }
  match Settings.ofEnvironment env with
  | .error _ => return t
  | .ok settings =>
    match Command.placesOf t settings a with
    | .error _ => return t
    | .ok places => (places.paths a.chainId).foldlM lookAlong t

/-- The files of a run that were not there before it, put on the disk. -/
def putFiles (before after : FileTree) : IO Unit := do
  for (place, octets) in after.files do
    if before.octetsAt? place != some octets then
      IO.FS.createDirAll (diskText place.dropLast)
      IO.FS.writeBinFile (diskText place) ⟨octets.toArray⟩

/-- What a command line left behind put on the disk and on the standard output, and its ending told. -/
def tell (before : FileTree) (ending : Command.Ending) (traces : Command.Traces) : IO UInt32 := do
  putFiles before traces.tree
  IO.print (Text.characters traces.output)
  if let some line := ending.told? then IO.eprintln (Text.characters line)
  if let .failed f := ending then
    unless f.isReported do throw (IO.userError f.message)
  return (Command.exitCode ending).toUInt32

/-- The catalogue. -/
def catalogue (args : List String) : IO UInt32 := do
  match Catalogue.runWith args with
  | .ok (some text) => IO.print (Text.characters text); return 0
  | .ok none => IO.println (Command.helpText Catalogue.options); return 0
  | .error e => IO.eprintln (Text.characters (Command.errorLine e.message)); return 2

/-- A run. -/
def judge (args : List String) : IO UInt32 := do
  let env ← environment
  let t ←
    match Command.read Command.Arguments.options args with
    | .ok (.options values) => treeFor env (.ofValues values)
    | _ => pure {}
  let (ending, traces) := Command.perform t env (← nowText) args
  tell t ending traces

end CommandLine
end RollupAudit

/-- Runs the command that the arguments name. -/
def main (args : List String) : IO UInt32 :=
  match args.map RollupAudit.Text.spelled with
  | "catalogue" :: rest => RollupAudit.CommandLine.catalogue rest
  | _ => RollupAudit.CommandLine.judge args
