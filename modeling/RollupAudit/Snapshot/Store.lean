import RollupAudit.Files.Tree
import RollupAudit.Time.Instant
import RollupAudit.Value.Serial

/-!
# The store of snapshots

What is known of a snapshot is kept in files below the directory of its chain and of the clock
reading at which it was observed, so that a run can be looked into later.
-/

namespace RollupAudit
namespace Store

/-- The directory of what was observed of a chain at a clock reading. -/
def directory (root : FilePath) (chain : String) (observedAt : Instant) : FilePath :=
  root / chain / observedAt.directoryName

/-- The path of the file with a name. -/
def file (root : FilePath) (chain : String) (observedAt : Instant) (name : String) : FilePath :=
  directory root chain observedAt / (name ++ ".json")

/-- The layout of the files. -/
def layout : Json.Layout := .lines 2

/-- The tree with the directory of a snapshot. -/
def prepare (t : FileTree) (root : FilePath) (chain : String) (observedAt : Instant) :
    Except FileFault FileTree :=
  t.ensureDirectories (directory root chain observedAt)

/-- The tree with a file of a JSON value. -/
def save (t : FileTree) (root : FilePath) (chain : String) (observedAt : Instant) (name : String)
    (payload : Json) : Except FileFault FileTree := do
  let t ← prepare t root chain observedAt
  t.write (file root chain observedAt name) (payload.write layout)

/-- Why a value is not saved. -/
inductive Error
  | file (fault : FileFault)
  | serial (fault : SerialFault)
  deriving DecidableEq, Repr

/-- The tree with a file of a value. The directory is made before the value is looked at. -/
def saveValue (t : FileTree) (root : FilePath) (chain : String) (observedAt : Instant)
    (name : String) (payload : Value) : Except Error FileTree := do
  let t ← (prepare t root chain observedAt).mapError .file
  let json ← (Serial.json payload).mapError .serial
  (t.write (file root chain observedAt name) (json.writeAsIs layout)).mapError .file

end Store
end RollupAudit
