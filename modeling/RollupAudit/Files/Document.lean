import RollupAudit.Files.Tree
import RollupAudit.Json.Reader
import RollupAudit.Yaml.Reader

/-!
# Documents in files

A file whose name ends in `.json` holds a JSON document, any other file a YAML document. The text of
a file is in UTF-8, and every kind of line end counts as the same.
-/

namespace RollupAudit

/-- Why a text is no document. -/
inductive DocumentFault
  | json (fault : JsonFault)
  | yaml (fault : YamlFault)
  deriving DecidableEq

namespace DocumentFault

/-- Whether the form of the text is at fault, and not a scalar in it. -/
def isMalformed : DocumentFault → Bool
  | .json .malformed | .yaml .malformed => true
  | _ => false

/-- The wording of a fault. -/
def message : DocumentFault → String
  | .json .malformed => "malformed document"
  | .json (.tooManyDigits count) => Text.tooManyDigitsReadMessage count
  | .yaml fault => fault.message

end DocumentFault

/-- Why a file holds no document. -/
inductive ReadFault
  | file (fault : FileFault)
  | text (fault : Text.Utf8Fault)
  | document (fault : DocumentFault)
  deriving DecidableEq

/-- The wording of a fault. -/
def ReadFault.message : ReadFault → String
  | .file fault => fault.message
  | .text fault => fault.message
  | .document fault => fault.message

namespace Files

/-- A text with one kind of line end. -/
def unifyLineEnds : List Char → List Char
  | '\r' :: '\n' :: cs => '\n' :: unifyLineEnds cs
  | '\r' :: cs => '\n' :: unifyLineEnds cs
  | c :: cs => c :: unifyLineEnds cs
  | [] => []

/-- The ending of the names of JSON files. -/
def jsonEnding : String := ".json"

/-- The value that the text of a file denotes. -/
def readDocument (p : FilePath) (s : String) : Except DocumentFault Value :=
  if p.ending = jsonEnding then ((Json.read s).map Value.ofJson).mapError .json
  else (Yaml.read s).mapError .yaml

end Files

/-- The value that the document in the file with a path denotes. -/
def FileTree.document (t : FileTree) (p : FilePath) : Except ReadFault Value := do
  let octets ← (t.read p).mapError .file
  let s ← (Text.decodeUtf8 octets).mapError .text
  (Files.readDocument p (String.ofList (Files.unifyLineEnds s.toList))).mapError .document

end RollupAudit
