import RollupAudit.Text.CodePoint

/-!
# Tokens

The parts of a document's text: marks of structure, properties of nodes, and scalars.
-/

namespace RollupAudit
namespace Yaml

/-- A line about the document that follows. -/
inductive Directive
  | version (major minor : Nat)
  /-- A short form of the starts of tags. -/
  | tagHandle (handle start : String)
  | other
  deriving DecidableEq, Repr

/-- A part of a document's text. -/
inductive Token
  | directive (d : Directive)
  | documentStart
  | documentEnd
  | streamEnd
  | blockSequenceStart
  | blockMappingStart
  | blockEnd
  | blockEntry
  | flowSequenceStart
  | flowSequenceEnd
  | flowMappingStart
  | flowMappingEnd
  | flowEntry
  | key
  | value
  | alias (name : String)
  | anchor (name : String)
  /-- A tag with a handle, or as it is. -/
  | tag (handle : Option String) (suffix : String)
  /-- A scalar, without quotes or in a style that tells it is a text. -/
  | scalar (text : String) (plain : Bool)
  deriving DecidableEq, Repr

end Yaml
end RollupAudit
