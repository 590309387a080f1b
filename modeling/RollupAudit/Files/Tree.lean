import RollupAudit.Files.Path
import RollupAudit.Json.Basic
import RollupAudit.Text.Utf8

/-!
# File trees

The files and directories that a run works on. A place is the row of names from the root. Every
place above a file or directory is a directory. Following a path fails at a name below a file, below
nothing, or longer than a name can be, and a path that is too long is not followed at all.
-/

namespace RollupAudit

/-- The names from the root to a file or directory. -/
abbrev Place := List String

/-- Why a file or directory cannot be used. -/
inductive FileCause
  | missing
  | taken
  | notDirectory
  | isDirectory
  | nameTooLong
  | zeroCharacter
  /-- The path has a half of a surrogate pair for which there is no octet. -/
  | barredName
  /-- The text to write has a half of a surrogate pair. -/
  | barredText (fault : Text.EncodingFault)
  deriving DecidableEq, Repr

/-- Why the file or directory with a path cannot be used. -/
structure FileFault where
  cause : FileCause
  path : FilePath
  deriving DecidableEq, Repr

namespace FileFault

/-- The number and the wording of a cause. -/
def wording : FileCause → Option (Nat × String)
  | .missing => some (2, "No such file or directory")
  | .taken => some (17, "File exists")
  | .notDirectory => some (20, "Not a directory")
  | .isDirectory => some (21, "Is a directory")
  | .nameTooLong => some (36, "File name too long")
  | .zeroCharacter | .barredName | .barredText _ => none

/-- The wording of a fault. -/
def message (f : FileFault) : String :=
  match wording f.cause with
  | some (n, s) => "[Errno " ++ toString n ++ "] " ++ s ++ ": " ++ Text.quoted f.path.text
  | none =>
    match f.cause with
    | .barredText fault => fault.message
    | .barredName =>
      ((Text.encodingFault? FilePath.isBarred f.path.text).map Text.EncodingFault.message).getD ""
    | _ => "embedded null byte"

end FileFault

/-- Why a path cannot be followed in any tree, if it cannot. -/
def FilePath.barrier? (p : FilePath) : Option FileCause :=
  if p.hasBarred then some .barredName else if p.hasZero then some .zeroCharacter else none

/-- Files with their octets, and directories, at places; and the working directory. -/
structure FileTree where
  home : Place := []
  files : List (Place × List UInt8) := []
  directories : List Place := []

namespace FileTree

variable (t : FileTree)

/-- The octets of the file at a place. -/
def octetsAt? (place : Place) : Option (List UInt8) := valueAt? place t.files

/-- Whether there is a file at a place. -/
def isFileAt (place : Place) : Bool := (t.octetsAt? place).isSome

/-- Whether there is a directory at a place. -/
def isDirectoryAt (place : Place) : Bool :=
  !t.isFileAt place &&
    (place.isPrefixOf t.home || t.directories.any place.isPrefixOf ||
      t.files.any fun f => place.isPrefixOf f.1)

/-- The greatest number of octets in a name. -/
def maxNameLength : Nat := 255

/-- The greatest number of octets in a path. -/
def maxPathLength : Nat := 4095

/-- The place to which names lead from a place. What the last name stands for need not be there. -/
def follow (place : Place) : List String → Except FileCause Place
  | [] => .ok place
  | n :: ns =>
    if t.isFileAt place then .error .notDirectory
    else if !t.isDirectoryAt place then .error .missing
    else if n = FilePath.above then follow place.dropLast ns
    else if maxNameLength < FilePath.nameSize n then .error .nameTooLong
    else follow (place ++ [n]) ns

/-- The place to which a path leads. -/
def place (p : FilePath) : Except FileFault Place :=
  match p.barrier? with
  | some cause => .error ⟨cause, p⟩
  | none =>
    if maxPathLength < FilePath.nameSize p.text then .error ⟨.nameTooLong, p⟩
    else
      let base := match p.start with | .here => t.home | _ => []
      (t.follow base p.names).mapError (⟨·, p⟩)

/-- Whether there is what a test finds where a path leads. A path that leads nowhere finds nothing,
except that it, or a name in it, can be too long to look for. -/
def finds (test : Place → Bool) (p : FilePath) : Except FileFault Bool :=
  match t.place p with
  | .ok place => .ok (test place)
  | .error ⟨.nameTooLong, p⟩ => .error ⟨.nameTooLong, p⟩
  | .error _ => .ok false

/-- Whether there is a file or directory with a path. -/
def exists? (p : FilePath) : Except FileFault Bool :=
  t.finds (fun place => t.isFileAt place || t.isDirectoryAt place) p

/-- Whether there is a directory with a path. -/
def isDirectory? (p : FilePath) : Except FileFault Bool := t.finds t.isDirectoryAt p

/-- The octets of the file with a path. -/
def read (p : FilePath) : Except FileFault (List UInt8) := do
  let place ← t.place p
  match t.octetsAt? place with
  | some octets => return octets
  | none => throw ⟨if t.isDirectoryAt place then .isDirectory else .missing, p⟩

/-- The name that follows a place on the way to another one. -/
def nextName? (place other : Place) : Option String :=
  if place.isPrefixOf other then other[place.length]? else none

/-- The names in the directory at a place, in ascending order. -/
def namesAt (place : Place) : List String :=
  let below := (t.home :: t.directories ++ t.files.map Prod.fst).filterMap (nextName? place)
  below.eraseDups.mergeSort fun a b => decide (a ≤ b)

/-- The paths of what is in the directory with a path, in the order of their names. -/
def children (p : FilePath) : List FilePath :=
  match t.place p with
  | .ok place => (t.namesAt place).map fun n => ⟨p.start, p.names ++ [n]⟩
  | .error _ => []

/-- The tree with a further directory. A path that can be followed leads to a place in a directory. -/
def makeDirectory (p : FilePath) : Except FileFault FileTree := do
  let place ← t.place p
  if t.isFileAt place || t.isDirectoryAt place then throw ⟨.taken, p⟩
  else return { t with directories := t.directories ++ [place] }

/-- The tree with a directory that may be there already. -/
def ensureDirectory (p : FilePath) : Except FileFault FileTree :=
  match t.makeDirectory p with
  | .error ⟨.missing, p⟩ => .error ⟨.missing, p⟩
  | .error ⟨.zeroCharacter, p⟩ => .error ⟨.zeroCharacter, p⟩
  | .error ⟨.barredName, p⟩ => .error ⟨.barredName, p⟩
  | .error fault => do if ← t.isDirectory? p then return t else throw fault
  | .ok t => .ok t

/-- The tree with a directory, and those above it, whose names are given from the last one on. -/
def ensureAll (start : PathStart) : List String → FileTree → Except FileFault FileTree
  | [], t => t.ensureDirectory ⟨start, []⟩
  | n :: above, t =>
    match t.ensureDirectory ⟨start, (n :: above).reverse⟩ with
    | .error ⟨.missing, _⟩ => do
      let t ← ensureAll start above t
      t.ensureDirectory ⟨start, (n :: above).reverse⟩
    | r => r

/-- The tree with a directory and those above it, all of which may be there already. -/
def ensureDirectories (p : FilePath) : Except FileFault FileTree :=
  ensureAll p.start p.names.reverse t

/-- The tree with a file, in place of one that may be there already. -/
def write (p : FilePath) (text : String) : Except FileFault FileTree := do
  let place ← t.place p
  if t.isDirectoryAt place then throw ⟨.isDirectory, p⟩
  else
    let octets ← (Text.octets text).mapError fun fault => ⟨.barredText fault, p⟩
    return { t with files := setEntry place octets t.files }

end FileTree
end RollupAudit
