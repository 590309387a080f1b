import RollupAudit.Command.Options
import RollupAudit.Rule.Catalogue

/-!
# The catalogue on a command line

The catalogue of the built-in rules in the form that the command line asks for.
-/

namespace RollupAudit
namespace Catalogue

/-- The option for the form. -/
def formatOption : String := "--format"

/-- The options of the catalogue. -/
def options : List Command.OptionSpec := [
  Command.helpOption,
  ⟨[formatOption], .choice (Format.all.map Format.name)⟩]

/-- The form that options with values ask for; the last one counts. -/
def formatOf (values : List (String × Command.OptionValue)) : Format :=
  if values.getLast? = some (formatOption, .text Format.json.name) then .json else .yaml

/-- What a command line comes to: the catalogue, or nothing if help is wanted. -/
def runWith (args : List String) : Except Command.UsageError (Option String) :=
  (Command.read options args).map fun
    | .help => none
    | .options values => some (text builtin (formatOf values) ++ "\n")

end Catalogue
end RollupAudit
