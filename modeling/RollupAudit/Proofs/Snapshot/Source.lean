import RollupAudit.Proofs.Files.Directory
import RollupAudit.Proofs.Snapshot.Selection
import RollupAudit.Proofs.Snapshot.Replay

/-!
# The snapshot of a source

A source lists documents: those of one file, or those of the snapshot files in the directory of a chain,
file by file in the order of their names. If each document is one of a snapshot, then what is fetched
depends on nothing but these snapshots in this order. So a directory and a file that lists the same
documents give the same.

**Results.**
* `SnapshotSource.snapshots_eq`: the snapshots of a source are those of the documents it lists.
* `SnapshotSource.fetch_firstLatest`: what is fetched, when nothing is, and by a later time.
-/

namespace RollupAudit

variable {t t' : FileTree} {p q : FilePath} {chain : String} {by_ : Option Timestamp}
variable {docs : List Value} {fs : List Facts}

namespace Snapshot

/-- That a document lists documents: itself alone, or those in its list. -/
inductive Lists (v : Value) : List Value → Prop
  | alone
      (hlist : v.get? listKey = none)
      (hv : v.isMapping = true) :
      Lists v [v]
  | many
      {vs : List Value}
      (hlist : v.get? listKey = some (.list vs))
      (hvs : ∀ w ∈ vs, w.isMapping = true) :
      Lists v vs
  /-- In place of the list stands a value that is not given. -/
  | none
      {listed : Value}
      (hlist : v.get? listKey = some listed)
      (hlisted : listed.isGiven = false) :
      Lists v []

theorem Lists.isMapping
    {v w : Value}
    (h : Lists v docs)
    (hw : w ∈ docs) :
    w.isMapping = true := by
  cases h with
  | alone _ hv => rwa [List.mem_singleton.mp hw]
  | many _ hvs => exact hvs w hw
  | none => cases hw

theorem documentsOf?_eq_some_iff
    {v : Value} :
    documentsOf? v = some docs ↔ Lists v docs := by
  constructor
  · intro h
    unfold documentsOf? at h
    cases hlist : v.get? listKey with
    | none =>
      rw [hlist] at h
      obtain ⟨hv, rfl⟩ : v.isMapping = true ∧ [v] = docs := by simpa using h
      exact .alone hlist hv
    | some listed =>
      rw [hlist] at h
      cases hgiven : listed.isGiven with
      | false =>
        obtain rfl : docs = [] := by simpa [hgiven, eq_comm] using h
        exact .none hlist hgiven
      | true =>
        simp only [hgiven, if_true] at h
        split at h
        · obtain ⟨hvs, rfl⟩ := by simpa using h
          exact .many hlist hvs
        · cases h
  · rintro (⟨hlist, hv⟩ | ⟨hlist, hvs⟩ | ⟨hlist, hlisted⟩)
    · simp [documentsOf?, hlist, hv]
    · cases docs with
      | nil => simp [documentsOf?, hlist, Value.isGiven]
      | cons w ws => simpa [documentsOf?, hlist, Value.isGiven] using hvs
    · simp [documentsOf?, hlist, hlisted]

/-- That the file with a path can be read, and its document lists documents. -/
structure HasDocuments (t : FileTree) (p : FilePath) (docs : List Value) : Prop where
  found : t.exists? p = .ok true
  read : ∃ v, t.document p = .ok v ∧ Lists v docs

theorem HasDocuments.isMapping
    (h : HasDocuments t p docs) :
    ∀ w ∈ docs, w.isMapping = true := by
  obtain ⟨-, v, -, hlists⟩ := h
  exact fun w hw => hlists.isMapping hw

theorem documents_eq_ok_iff :
    documents t p chain = .ok docs ↔ HasDocuments t p docs := by
  constructor
  · intro h
    unfold documents at h
    obtain ⟨found, hfound, h⟩ := bind_eq_ok_iff.mp h
    cases found with
    | false => cases h
    | true =>
      obtain ⟨v, hv, h⟩ := bind_eq_ok_iff.mp h
      refine ⟨mapError_eq_ok_iff.mp hfound, v, mapError_eq_ok_iff.mp hv, ?_⟩
      cases hlists : documentsOf? v with
      | none =>
        rw [hlists] at h
        cases h
      | some vs =>
        rw [hlists] at h
        cases h
        exact documentsOf?_eq_some_iff.mp hlists
  · rintro ⟨hfound, v, hv, hlists⟩
    simp [documents, hfound, hv, documentsOf?_eq_some_iff.mpr hlists, bind, Except.bind, pure,
      Except.pure]

/-- The snapshots of documents, which fail with the first document that is none of a snapshot. -/
def readAll (docs : List Value) : Except SourceError (List Facts) :=
  docs.mapM fun v => (Facts.ofValue v).mapError .facts

theorem readAll_eq_ok_iff :
    readAll docs = .ok fs ↔ List.Forall₂ (fun v f => Facts.ofValue v = .ok f) docs fs := by
  simp only [readAll, mapM_eq_ok_iff, mapError_eq_ok_iff]

theorem readAll_append
    (docs docs' : List Value) :
    readAll (docs ++ docs') = do return (← readAll docs) ++ (← readAll docs') :=
  List.mapM_append

theorem ofFile_eq_readAll
    (h : HasDocuments t p docs) :
    ofFile t p chain = readAll docs := by
  rw [ofFile, documents_eq_ok_iff.mpr h]
  rfl

/-- That paths are those of the snapshot files in a directory, in the order of their names. -/
structure AreFilesOf (t : FileTree) (p : FilePath) (files : List FilePath) : Prop where
  ascending : FilePath.Ascending files
  mem_iff : ∀ q, q ∈ files ↔ t.HasEntry p q ∧ q.ending ∈ fileEndings

theorem areFilesOf_filter
    (t : FileTree)
    (p : FilePath) :
    AreFilesOf t p ((t.children p).filter fun q => fileEndings.contains q.ending) where
  ascending := (t.ascending_children p).filter _
  mem_iff q := by rw [List.mem_filter, FileTree.mem_children_iff, List.contains_iff_mem]

theorem AreFilesOf.eq_filter
    {files : List FilePath}
    (h : AreFilesOf t p files) :
    files = (t.children p).filter fun q => fileEndings.contains q.ending := by
  refine FilePath.eq_of_ascending h.ascending (areFilesOf_filter t p).ascending fun q => ?_
  rw [h.mem_iff, (areFilesOf_filter t p).mem_iff]

/-- The snapshots of a directory are those of its files, one after the other. -/
theorem AreFilesOf.ofDirectory_eq
    {files : List FilePath}
    (h : AreFilesOf t p files)
    (hdirectory : t.isDirectory? p = .ok true) :
    ofDirectory t p chain = (files.mapM fun q => ofFile t q chain).map List.flatten := by
  rw [h.eq_filter]
  simp only [ofDirectory, hdirectory, mapError_ok]
  rfl

/-- File by file, the snapshots are those of all documents one after the other. -/
theorem mapM_ofFile_flatten
    {files : List FilePath} {docss : List (List Value)}
    (h : List.Forall₂ (HasDocuments t) files docss) :
    (files.mapM fun q => ofFile t q chain).map List.flatten = readAll docss.flatten := by
  induction h with
  | nil => rfl
  | @cons q docs files docss hq _ ih =>
    rw [List.mapM_cons, ofFile_eq_readAll hq, List.flatten_cons, readAll_append, ← ih]
    cases readAll docs with
    | error e => rfl
    | ok fs => cases List.mapM (fun q => ofFile t q chain) files <;> rfl

end Snapshot

theorem Facts.isMapping_of_ofValue
    {v : Value} {f : Facts}
    (h : Facts.ofValue v = .ok f) :
    v.isMapping = true := by
  obtain ⟨es, rfl, -⟩ := Facts.ofValue_eq_ok_iff.mp h
  rfl

namespace SnapshotSource

variable {s : SnapshotSource}

/-- That a source lists documents for a chain, all of whose files can be read. -/
inductive Lists (t : FileTree) (chain : String) : SnapshotSource → List Value → Prop
  | file
      {p : FilePath} {docs : List Value}
      (h : Snapshot.HasDocuments t p docs) :
      Lists t chain (.file p) docs
  | fixtures
      {directory : FilePath} {files : List FilePath} {docss : List (List Value)}
      (hdirectory : t.isDirectory? (directory / chain) = .ok true)
      (hfiles : Snapshot.AreFilesOf t (directory / chain) files)
      (hdocs : List.Forall₂ (Snapshot.HasDocuments t) files docss) :
      Lists t chain (.fixtures directory) docss.flatten

theorem snapshots_eq
    (h : s.Lists t chain docs) :
    s.snapshots t chain = Snapshot.readAll docs := by
  cases h with
  | file h => exact Snapshot.ofFile_eq_readAll h
  | fixtures hdirectory hfiles hdocs =>
    rw [snapshots, hfiles.ofDirectory_eq hdirectory, Snapshot.mapM_ofFile_flatten hdocs]

/-- What is fetched is selected from the snapshots of the documents. -/
theorem fetch_eq
    (hdocs : s.Lists t chain docs)
    (hfacts : List.Forall₂ (fun v f => Facts.ofValue v = .ok f) docs fs) :
    s.fetch t chain by_ =
      (Snapshot.select? fs chain by_).elim (.error (.unavailable chain (.noSnapshot by_))) .ok := by
  rw [fetch, snapshots_eq hdocs, Snapshot.readAll_eq_ok_iff.mpr hfacts]
  cases hselect : Snapshot.select? fs chain by_ <;> simp [bind, Except.bind, hselect] <;> rfl

/-- The snapshot of a source whose files can be read and whose documents are all of snapshots. It is the
first of the latest of those that count, in the order of the files and within them, and there is an error
exactly if none counts. A file that lists the same documents gives the same. By a later time there still
is a snapshot, and it was observed no earlier. -/
theorem fetch_firstLatest
    {s : SnapshotSource} {t : FileTree} {chain : String} {docs : List Value} {fs : List Facts}
    (hdocs : s.Lists t chain docs)
    (hfacts : List.Forall₂ (fun v f => Facts.ofValue v = .ok f) docs fs) :
    (∀ by_ f, s.fetch t chain by_ = .ok f ↔ Snapshot.IsSelected fs chain by_ f) ∧
      (∀ by_ e, s.fetch t chain by_ = .error e ↔
        e = .unavailable chain (.noSnapshot by_) ∧ ∀ f ∈ fs, ¬ Snapshot.Counts chain by_ f) ∧
      (∀ t' p v by_, t'.exists? p = .ok true → t'.document p = .ok v →
        v.get? Snapshot.listKey = some (.list docs) →
        (file p).fetch t' chain by_ = s.fetch t chain by_) ∧
      ∀ by_ by' f, Snapshot.Extends by' by_ → s.fetch t chain by_ = .ok f →
        ∃ g, s.fetch t chain by' = .ok g ∧ f.observedAt.micros ≤ g.observedAt.micros := by
  have hfetch (by_ : Option Timestamp) : s.fetch t chain by_ = _ := fetch_eq hdocs hfacts
  have hok (by_ f) : s.fetch t chain by_ = .ok f ↔ Snapshot.select? fs chain by_ = some f := by
    rw [hfetch]
    cases Snapshot.select? fs chain by_ <;> simp
  refine ⟨fun by_ f => ?_, fun by_ e => ?_, fun t' p v by_ hfound hv hlist => ?_, ?_⟩
  · rw [hok, Snapshot.select?_eq_some_iff]
  · rw [← Snapshot.select?_eq_none_iff, hfetch]
    cases Snapshot.select? fs chain by_ <;> simp [eq_comm]
  · -- A document that is accepted is a mapping, so that it may stand in a list.
    have hmappings := ((List.forall₂_and_left docs fs).mp
      (hfacts.imp fun _ _ hf => ⟨Facts.isMapping_of_ofValue hf, hf⟩)).1
    have hfile : (file p).Lists t' chain docs := .file ⟨hfound, v, hv, .many hlist hmappings⟩
    rw [hfetch, fetch_eq hfile hfacts]
  · intro by_ by' f hextends h
    obtain ⟨g, hg, hle⟩ := Snapshot.exists_select?_of_extends hextends ((hok by_ f).mp h)
    exact ⟨g, (hok by' g).mpr hg, hle⟩

/-- The document of a snapshot, observed a number of seconds after the start of 1970. -/
def trialEntry (seconds : Nat) : Json :=
  .object [("chain_id", .text "10"), ("observed_at", .int seconds)]

/-- A document that lists two snapshots, the later one first. -/
def trialList : Json := .object [(Snapshot.listKey, .array [trialEntry 60, trialEntry 30])]

/-- The directory of a chain with two files of snapshots. -/
def trialShelf : FileTree where
  files := [
    (["data", "10", "b.json"], Text.encodeUtf8 ((trialEntry 60).writeAsIs Store.layout)),
    (["data", "10", "a.json"], Text.encodeUtf8 (trialList.writeAsIs Store.layout))]

def shelfRoot : FilePath := ⟨.root, ["data"]⟩

/-- The snapshot of the document of the first minute. -/
def minuteSnapshot : Facts where
  chainId := "10"
  observedAt := ⟨62135596860000000, by decide⟩

/-- The snapshot of the document of the first half minute. -/
def halfMinuteSnapshot : Facts where
  chainId := "10"
  observedAt := ⟨62135596830000000, by decide⟩

theorem ofValue_trialEntry :
    Facts.ofValue (Value.ofJson (trialEntry 60)) = .ok minuteSnapshot ∧
      Facts.ofValue (Value.ofJson (trialEntry 30)) = .ok halfMinuteSnapshot := by
  constructor <;>
    exact Facts.ofValue_eq_ok_iff.mpr
      ⟨_, rfl, ⟨rfl, rfl⟩, rfl, by decide +kernel, rfl, rfl, rfl, rfl, rfl, rfl, rfl, rfl⟩

theorem isReadable_trialEntry
    {n : Nat}
    (h : Text.isWritable n = true) :
    (trialEntry n).IsReadable := by
  have hwhole : ∀ s ∈ ["chain_id", "10", "observed_at"], Text.isWhole s = true := by decide
  simp only [List.forall_mem_cons] at hwhole
  simp [trialEntry, Json.IsReadable, Json.MembersReadable, h, hwhole]

theorem areFilesOf_trialShelf :
    Snapshot.AreFilesOf trialShelf (shelfRoot / "10")
      [⟨.root, ["data", "10", "a.json"]⟩, ⟨.root, ["data", "10", "b.json"]⟩] := by
  have hpath : shelfRoot / "10" = ⟨.root, ["data", "10"]⟩ := by decide +kernel
  have hplace : trialShelf.place ⟨.root, ["data", "10"]⟩ = .ok ["data", "10"] := by decide +kernel
  have hendings : ∀ name ∈ ["a.json", "b.json"],
      (⟨.root, ["data", "10", name]⟩ : FilePath).ending ∈ Snapshot.fileEndings := by decide +kernel
  have hentry (q : FilePath) : trialShelf.HasEntry ⟨.root, ["data", "10"]⟩ q ↔
      q = ⟨.root, ["data", "10", "b.json"]⟩ ∨ q = ⟨.root, ["data", "10", "a.json"]⟩ := by
    rw [FileTree.hasEntry_iff_of_place hplace]
    simp [FileTree.knownPlaces, trialShelf, and_or_left, exists_or]
  have hlt : "a.json" < "b.json" := by decide +kernel
  rw [hpath]
  refine ⟨List.pairwise_pair.mpr hlt, fun q => ?_⟩
  rw [hentry, List.mem_pair, or_comm]
  refine ⟨fun hq => ⟨hq, ?_⟩, And.left⟩
  rcases hq with rfl | rfl
  · exact hendings "b.json" (by simp)
  · exact hendings "a.json" (by simp)

theorem lists_trialShelf :
    Lists trialShelf "10" (.fixtures shelfRoot)
      ([[trialEntry 60, trialEntry 30], [trialEntry 60]].map (List.map Value.ofJson)).flatten := by
  have hlate := isReadable_trialEntry (n := 60) (by decide +kernel)
  have hearly := isReadable_trialEntry (n := 30) (by decide +kernel)
  have hlist : trialList.IsReadable := by
    have hkey : Text.isWhole Snapshot.listKey = true := by decide
    simp [trialList, Json.IsReadable, Json.MembersReadable, Json.ItemsReadable, hlate, hearly, hkey]
  refine .fixtures (by decide +kernel) areFilesOf_trialShelf (.cons ?_ (.cons ?_ .nil))
  · refine ⟨by decide +kernel, _, FileTree.document_writeAsIs hlist (by decide +kernel) rfl, ?_⟩
    exact .many rfl (by simp [trialEntry, Value.isMapping, Value.ofJson])
  · exact ⟨by decide +kernel, _, FileTree.document_writeAsIs hlate (by decide +kernel) rfl,
      .alone rfl rfl⟩

/-- The latest snapshot is fetched, and by a time before it the earlier one. -/
theorem fetch_firstLatest_trialShelf :
    fetch (.fixtures shelfRoot) trialShelf "10" none = .ok minuteSnapshot ∧
      fetch (.fixtures shelfRoot) trialShelf "10"
        (some ⟨⟨62135596845000000, by decide⟩, none⟩) = .ok halfMinuteSnapshot := by
  obtain ⟨hminute, hhalf⟩ := ofValue_trialEntry
  obtain ⟨hfetch, -⟩ := fetch_firstLatest lists_trialShelf
    (.cons hminute (.cons hhalf (.cons hminute .nil)))
  rw [hfetch, hfetch]
  refine ⟨⟨[], _, rfl, ⟨rfl, by simp⟩, by simp, ?_⟩, ⟨[minuteSnapshot], _, rfl, ⟨rfl, ?_⟩, ?_, ?_⟩⟩
  · simp [minuteSnapshot, halfMinuteSnapshot]
  all_goals
    simp [minuteSnapshot, halfMinuteSnapshot, Snapshot.Counts, Timestamp.utcMicros,
      Timestamp.offsetMicros]

end SnapshotSource
end RollupAudit
