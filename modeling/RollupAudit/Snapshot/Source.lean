import RollupAudit.Facts.Reading
import RollupAudit.Files.Document
import RollupAudit.Snapshot.Selection

/-!
# Sources of snapshots

Snapshots come from the files in the directory of their chain, or from one file. A document is one
snapshot, or a mapping that lists several. A source that cannot give the snapshot of a chain says
why.
-/

namespace RollupAudit

/-- Why a source has no snapshot of a chain. -/
inductive Unavailability
  | noFile (path : FilePath)
  | unreadable (path : FilePath) (fault : ReadFault)
  | notSnapshots (path : FilePath)
  | noDirectory (path : FilePath)
  | noSnapshot (by_ : Option Timestamp)
  deriving DecidableEq

namespace Unavailability

/-- The fault behind a reason. -/
def fault? : Unavailability → Option ReadFault
  | .unreadable _ fault => some fault
  | _ => none

/-- The wording of a reason with a text for the fault behind it. -/
def messageWith (cause : String) : Unavailability → String
  | .noFile p => "facts file not found: " ++ p.text
  | .unreadable p _ => "could not read " ++ p.text ++ ": " ++ cause
  | .notSnapshots p => p.text ++ " does not contain fact snapshot mappings"
  | .noDirectory p => "no fixtures directory at " ++ p.text
  | .noSnapshot by_ => "no snapshot" ++ by_.elim "" fun t => " at or before " ++ t.withOffset.text

end Unavailability

/-- Why a snapshot of a chain could not be had. -/
inductive SourceError
  | unavailable (chain : String) (reason : Unavailability)
  /-- The file does not hold what a document can. -/
  | broken (fault : ReadFault)
  | facts (e : FactsError)

namespace SourceError

/-- The wording of an error with a text for the fault behind it. -/
def messageWith (cause : String) : SourceError → String
  | .unavailable chain reason =>
    "Facts unavailable for chain '" ++ chain ++ "': " ++ reason.messageWith cause
  | .broken fault => fault.message
  | .facts e => e.message

/-- The wording of an error. -/
def message (e : SourceError) : String :=
  match e with
  | .unavailable _ reason => e.messageWith (reason.fault?.elim "" ReadFault.message)
  | _ => e.messageWith ""

end SourceError

namespace Snapshot

/-- The key under which a document lists several snapshots. -/
def listKey : String := "snapshots"

/-- The snapshots of a document; nothing if it is neither a snapshot nor a list of them. -/
def documentsOf? (v : Value) : Option (List Value) :=
  let documents :=
    match v.get? listKey with
    | some listed => if listed.isGiven then listed else .list []
    | none => .list [v]
  match documents with
  | .list vs => if vs.all Value.isMapping then some vs else none
  | _ => none

/-- The error of a fault of the file of a chain: the source has no snapshot if the file cannot be
read or is malformed. -/
def readError (chain : String) (p : FilePath) (fault : ReadFault) : SourceError :=
  match fault with
  | .file _ => .unavailable chain (.unreadable p fault)
  | .document d => if d.isMalformed then .unavailable chain (.unreadable p fault) else .broken fault
  | .text _ => .broken fault

/-- The snapshot documents in the file with a path. -/
def documents (t : FileTree) (p : FilePath) (chain : String) : Except SourceError (List Value) := do
  if !(← (t.exists? p).mapError fun e => .broken (.file e)) then throw (.unavailable chain (.noFile p))
  let v ← (t.document p).mapError (readError chain p)
  match documentsOf? v with
  | some vs => return vs
  | none => throw (.unavailable chain (.notSnapshots p))

/-- The snapshots in the file with a path. -/
def ofFile (t : FileTree) (p : FilePath) (chain : String) : Except SourceError (List Facts) := do
  (← documents t p chain).mapM fun v => (Facts.ofValue v).mapError .facts

/-- The endings of the names of snapshot files. -/
def fileEndings : List String := [".json", ".yaml", ".yml"]

/-- The snapshots in the files of a directory, in the order of their names. -/
def ofDirectory (t : FileTree) (p : FilePath) (chain : String) : Except SourceError (List Facts) := do
  if !(← (t.isDirectory? p).mapError fun e => .broken (.file e)) then
    throw (.unavailable chain (.noDirectory p))
  let files := (t.children p).filter fun q => fileEndings.contains q.ending
  return (← files.mapM fun q => ofFile t q chain).flatten

end Snapshot

/-- Where snapshots come from. -/
inductive SnapshotSource
  /-- A directory with a directory for each chain. -/
  | fixtures (directory : FilePath)
  | file (path : FilePath)
  deriving DecidableEq

/-- Why there is no source with a name. -/
inductive SourceChoiceError
  | noDirectory
  | noFile
  | unknown (name : String)
  deriving DecidableEq, Repr

/-- The wording of an error. -/
def SourceChoiceError.message : SourceChoiceError → String
  | .noDirectory => "The fixtures fact provider requires a fixtures directory."
  | .noFile => "The file fact provider requires a facts file."
  | .unknown name => "Unknown fact provider '" ++ name ++ "' (expected 'fixtures' or 'file')."

namespace SnapshotSource

/-- The names of the two kinds of sources. -/
def fixturesName : String := "fixtures"

@[inherit_doc fixturesName]
def fileName : String := "file"

/-- The source with a name, in any case and with outer blanks. Without a name it is the directory. -/
def ofName (name : String) (directory file : Option FilePath) :
    Except SourceChoiceError SnapshotSource :=
  let word := Text.lower (Text.strip name)
  if word = fixturesName ∨ word = "" then (directory.map fixtures).elim (.error .noDirectory) .ok
  else if word = fileName then (file.map SnapshotSource.file).elim (.error .noFile) .ok
  else .error (.unknown name)

/-- All snapshots that a source has for a chain. -/
def snapshots (s : SnapshotSource) (t : FileTree) (chain : String) : Except SourceError (List Facts) :=
  match s with
  | .fixtures directory => Snapshot.ofDirectory t (directory / chain) chain
  | .file p => Snapshot.ofFile t p chain

/-- The snapshot of a chain to judge. -/
def fetch (s : SnapshotSource) (t : FileTree) (chain : String) (by_ : Option Timestamp) :
    Except SourceError Facts := do
  match Snapshot.select? (← s.snapshots t chain) chain by_ with
  | some f => return f
  | none => throw (.unavailable chain (.noSnapshot by_))

end SnapshotSource
end RollupAudit
