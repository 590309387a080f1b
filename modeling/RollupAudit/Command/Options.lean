import RollupAudit.Number.Binary64Reading
import RollupAudit.Text.IntLiteral
import RollupAudit.Text.Quoted

/-!
# Options of a command line

An option is given by its name or by a start of its name that no other option has, and its value
follows it or stands behind an equals sign. What starts with a hyphen is not taken for a value,
unless it is a number or has a blank in it. Nothing but options may be given; after two hyphens
nothing is an option. All names are looked up before any value is read.
-/

namespace RollupAudit
namespace Command

/-- What an option takes. -/
inductive OptionKind
  | help
  | flag
  | text
  | choice (words : List String)
  | integer
  | number
  deriving DecidableEq, Repr

/-- An option with its names, the main one last. -/
structure OptionSpec where
  names : List String
  kind : OptionKind
  deriving DecidableEq, Repr

/-- The main name of an option. -/
def OptionSpec.name (o : OptionSpec) : String := o.names.getLast?.getD ""

/-- The value of an option. -/
inductive OptionValue
  | flag
  | text (s : String)
  | integer (n : Int)
  | number (x : Binary64)
  deriving DecidableEq

/-- Why the value of an option is refused. -/
inductive ValueFault
  | missing
  | ignored (given : String)
  | badChoice (given : String) (words : List String)
  | badInteger (given : String)
  | badNumber (given : String)
  deriving DecidableEq, Repr

/-- Why a command line is refused. -/
inductive UsageError
  | ambiguous (given : String) (names : List String)
  | unrecognized (given : List String)
  | badValue (names : List String) (fault : ValueFault)
  deriving DecidableEq, Repr

/-- Texts with commas between them. -/
def commaList (items : List String) : String := String.intercalate ", " items

/-- The wording of a fault. -/
def ValueFault.message : ValueFault → String
  | .missing => "expected one argument"
  | .ignored given => "ignored explicit argument " ++ Text.quoted given
  | .badChoice given words =>
    "invalid choice: " ++ Text.quoted given ++ " (choose from " ++
      commaList (words.map Text.quoted) ++ ")"
  | .badInteger given => "invalid int value: " ++ Text.quoted given
  | .badNumber given => "invalid float value: " ++ Text.quoted given

/-- The wording of an error. -/
def UsageError.message : UsageError → String
  | .ambiguous given names => "ambiguous option: " ++ given ++ " could match " ++ commaList names
  | .unrecognized given => "unrecognized arguments: " ++ String.intercalate " " given
  | .badValue names fault => "argument " ++ String.intercalate "/" names ++ ": " ++ fault.message

/-! ## What each argument is -/

/-- What an argument is. -/
inductive Role
  | value
  | separator
  | option (o : OptionSpec) (explicit : Option String)
  | unknown
  deriving DecidableEq, Repr

/-- A text before and after its first equals sign, if it has one. -/
def splitEquals (cs : List Char) : String × Option String :=
  let before := String.ofList (cs.takeWhile (· != '='))
  match cs.dropWhile (· != '=') with
  | [] => (before, none)
  | _ :: after => (before, some (String.ofList after))

/-- The names of options, each with its option. -/
def namedOptions (specs : List OptionSpec) : List (String × OptionSpec) :=
  specs.flatMap fun o => o.names.map fun n => (n, o)

/-- The option with a name. -/
def withName? (specs : List OptionSpec) (name : String) : Option OptionSpec :=
  (namedOptions specs).lookup name

/-- The options that an argument can mean, with their names and values. Behind two hyphens it is a
start of a name; behind one it is a name of one letter with further letters, which only count if the
first of them is a hyphen. -/
def candidates (specs : List OptionSpec) (arg : List Char) :
    List (String × OptionSpec × Option String) :=
  match arg with
  | '-' :: '-' :: _ =>
    let (start, explicit) := splitEquals arg
    (namedOptions specs).filterMap fun (n, o) =>
      if start.toList.isPrefixOf n.toList then some (n, o, explicit) else none
  | hyphen :: letter :: rest =>
    (namedOptions specs).filterMap fun (n, o) =>
      if n.toList = [hyphen, letter] then
        some (n, o, if rest.head? = some '-' then some (String.ofList rest) else none)
      else none
  | _ => []

/-- A decimal digit of any script. -/
def isDigit (c : Char) : Bool := (Text.asciiDigit? c).isSome

/-- Whether an argument is a negative number: digits, with a point among them or not. -/
def isNegativeNumber : List Char → Bool
  | '-' :: cs =>
    let cs := if cs.getLast? = some '\n' then cs.dropLast else cs
    match cs.dropWhile isDigit with
    | [] => !cs.isEmpty
    | '.' :: places => !places.isEmpty && places.all isDigit
    | _ => false
  | _ => false

/-- What an argument before two hyphens is. -/
def roleOf (specs : List OptionSpec) (arg : String) : Except UsageError Role :=
  let cs := arg.toList
  if cs.head? ≠ some '-' ∨ arg = "-" then .ok .value
  else
    match withName? specs arg with
    | some o => .ok (.option o none)
    | none =>
      match splitEquals cs with
      | (name, explicit) =>
        match explicit.bind fun _ => withName? specs name with
        | some o => .ok (.option o explicit)
        | none =>
          match candidates specs cs with
          | [(_, o, explicit)] => .ok (.option o explicit)
          | [] => .ok (if isNegativeNumber cs || cs.contains ' ' then .value else .unknown)
          | several => .error (.ambiguous arg (several.map Prod.fst))

/-- The arguments with what they are. -/
def roles (specs : List OptionSpec) : List String → Except UsageError (List (String × Role))
  | [] => .ok []
  | arg :: args =>
    if arg = "--" then .ok ((arg, .separator) :: args.map fun a => (a, .value))
    else do
      let role ← roleOf specs arg
      return (arg, role) :: (← roles specs args)

/-! ## The values -/

/-- The value that a text gives an option. -/
def readValue (kind : OptionKind) (s : String) : Except ValueFault OptionValue :=
  match kind with
  | .help | .flag => .error (.ignored s)
  | .text => .ok (.text s)
  | .choice words => if words.contains s then .ok (.text s) else .error (.badChoice s words)
  | .integer =>
    match Text.readLiteral 10 s with
    | .ok n => .ok (.integer n)
    | .error _ => .error (.badInteger s)
  | .number =>
    match Binary64.read? s with
    | some x => .ok (.number x)
    | none => .error (.badNumber s)

/-- What a command line says: that help is wanted, or the options by name in their order. -/
inductive Given
  | help
  | options (values : List (String × OptionValue))

/-- What arguments say after options with values, and arguments that are none. -/
def readFrom (values : List (String × OptionValue)) (stray : List String)
    (args : List (String × Role)) : Except UsageError Given :=
  match args with
  | [] => if stray.isEmpty then .ok (.options values) else .error (.unrecognized stray)
  | (_, .option o (some explicit)) :: rest =>
    match readValue o.kind explicit with
    | .ok v => readFrom (values ++ [(o.name, v)]) stray rest
    | .error fault => .error (.badValue o.names fault)
  | (_, .option o none) :: rest =>
    match o.kind with
    | .help => .ok .help
    | .flag => readFrom (values ++ [(o.name, .flag)]) stray rest
    | kind =>
      match rest with
      | (arg, .value) :: rest =>
        match readValue kind arg with
        | .ok v => readFrom (values ++ [(o.name, v)]) stray rest
        | .error fault => .error (.badValue o.names fault)
      | _ => .error (.badValue o.names .missing)
  | (arg, _) :: rest => readFrom values (stray ++ [arg]) rest
termination_by args.length

/-- What a command line says. -/
def read (specs : List OptionSpec) (args : List String) : Except UsageError Given := do
  readFrom [] [] (← roles specs args)

/-- The option that asks for help. -/
def helpOption : OptionSpec := ⟨["-h", "--help"], .help⟩

/-- A line for each option. -/
def helpText (specs : List OptionSpec) : String :=
  String.intercalate "\n" ("options:" :: specs.map fun o => "  " ++ commaList o.names)

end Command
end RollupAudit
