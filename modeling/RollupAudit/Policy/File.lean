import RollupAudit.Files.Document
import RollupAudit.Policy.Basic

/-!
# Policy files

A policy is read from a document in a file. A document without content sets nothing.
-/

namespace RollupAudit

/-- Why a file gives no policy. -/
inductive PolicyFileError
  | missing (path : FilePath)
  | unreadable (path : FilePath) (fault : DocumentFault)
  | notMapping
  | invalid (path : FilePath) (first : Issue) (rest : List Issue)
  /-- The file does not hold what a document can. -/
  | broken (fault : ReadFault)

namespace PolicyFileError

/-- The issues behind an error. -/
def issues : PolicyFileError → List Issue
  | .invalid _ first rest => first :: rest
  | _ => []

/-- The wording of an error with a text for what is behind it. -/
def messageWith (cause : String) : PolicyFileError → String
  | .missing p => "Policy file not found: " ++ p.text
  | .unreadable p _ => "Policy file " ++ p.text ++ " could not be parsed: " ++ cause
  | .notMapping => "Policy file must contain a mapping with a top-level 'rules' object."
  | .invalid p _ _ => "Policy file " ++ p.text ++ " is invalid: " ++ cause
  | .broken fault => fault.message

/-- The wording of an error. -/
def message (e : PolicyFileError) : String :=
  match e with
  | .unreadable _ fault => e.messageWith fault.message
  | _ => e.messageWith (PolicyError.issuesText e.issues)

end PolicyFileError

namespace Policy

/-- The error of a fault of a file. -/
def readError (p : FilePath) (fault : ReadFault) : PolicyFileError :=
  match fault with
  | .document d => if d.isMalformed then .unreadable p d else .broken fault
  | _ => .broken fault

/-- The policy of a document. -/
def ofDocument (p : FilePath) : Value → Except PolicyFileError Policy
  | .null => .ok {}
  | .mapping es =>
    match (ofValue (.mapping es) : Checked Empty Policy) with
    | .accepted policy => .ok policy
    | .rejected first rest => .error (.invalid p first rest)
  | _ => .error .notMapping

/-- The policy in the file with a path. -/
def ofFile (t : FileTree) (p : FilePath) : Except PolicyFileError Policy := do
  if !(← (t.exists? p).mapError fun e => .broken (.file e)) then throw (.missing p)
  ofDocument p (← (t.document p).mapError (readError p))

end Policy
end RollupAudit
