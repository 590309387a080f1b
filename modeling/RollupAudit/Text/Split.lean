/-!
# Splitting texts

The parts of a text between the occurrences of a character.
-/

namespace RollupAudit
namespace Text

/-- The parts of a list between the occurrences of a separator; one more than the separators. -/
def splitList {α : Type} [DecidableEq α] (separator : α) : List α → List (List α)
  | [] => [[]]
  | c :: cs =>
    if c = separator then [] :: splitList separator cs
    else
      match splitList separator cs with
      | [] => [[c]]
      | part :: parts => (c :: part) :: parts

/-- The parts of a text between the occurrences of a character. -/
def split (separator : Char) (s : String) : List String :=
  (splitList separator s.toList).map String.ofList

end Text
end RollupAudit
