import RollupAudit.Yaml.Denotation
import RollupAudit.Yaml.Grammar
import RollupAudit.Yaml.Lexer

/-!
# Reading documents

The value that the text of a document denotes; null for a text without a document.
-/

namespace RollupAudit
namespace Yaml

/-- The value that a text denotes. -/
def read (s : String) : Except YamlFault Value := do
  let (ts, fault) := tokens s.toList
  match ← Node.ofTokens ts fault with
  | none => return .null
  | some n => n.value

end Yaml
end RollupAudit
