import RollupAudit.Proofs.Facts.Overrides
import RollupAudit.Proofs.Facts.SharedText
import RollupAudit.Proofs.Json.Characters
import RollupAudit.Proofs.Text.Utf8
import RollupAudit.Proofs.Time.DirectoryName
import RollupAudit.Snapshot.Store

/-!
# Snapshots that are kept

A file in the store is told by the directory of its chain, the second of the observation and its name.
So what is saved is read back unless something is saved later of the same chain in the same second
under the same name. The identifier of a chain is taken for a path: one that is a single name has a
directory of its own below the root, and others can share theirs or leave the root.

**Results.**
* `Store.Entry.place_eq_iff`: what is saved in one file.
* `Store.keeps_of_saveAll`: what is saved stays until something is saved in its file.
* `Store.exists_saveAll`: saving of chains with plain names succeeds.
* `Store.saveAll_keeps`: what a store keeps of what is saved.
* `Store.saveAll_loses_snapshot`: a snapshot that is lost, and one outside the root.
-/

namespace RollupAudit

namespace Store

/-- What is saved in a file: a JSON value, or a value that is turned into one. -/
inductive Payload
  | json (j : Json)
  | value (v : Value)

/-- The JSON value that is written for a payload. -/
def Payload.written? : Payload → Except SerialFault Json
  | json j => .ok j.sorted
  | value v => Serial.json v

/-- What is saved of a snapshot. -/
structure Entry where
  chain : String
  observedAt : Instant
  name : String
  payload : Payload

namespace Entry

/-- The file of an entry. -/
def file (root : FilePath) (e : Entry) : FilePath := Store.file root e.chain e.observedAt e.name

/-- The tree in which an entry has been saved. -/
def save (root : FilePath) (e : Entry) (t : FileTree) : Except Error FileTree :=
  match e.payload with
  | .json j => (Store.save t root e.chain e.observedAt e.name j).mapError .file
  | .value v => saveValue t root e.chain e.observedAt e.name v

/-- The place to which the path of the file leads. -/
def place (home : Place) (root : FilePath) (e : Entry) : Place := (e.file root).destination home

/-- That the entries are of one chain directory, one second and one name. -/
structure Shares (home : Place) (root : FilePath) (e e' : Entry) : Prop where
  chain : (root / e.chain).destination home = (root / e'.chain).destination home
  second : e.observedAt.second = e'.observedAt.second
  name : e.name = e'.name

end Entry

/-- The tree in which entries have been saved one after another. -/
def saveAll (root : FilePath) : List Entry → FileTree → Except Error FileTree
  | [], t => .ok t
  | e :: es, t => do saveAll root es (← e.save root t)

/-- That the file of an entry is read as the text of its payload, and the text as the payload. -/
def Entry.IsReadBack (t : FileTree) (root : FilePath) (e : Entry) : Prop :=
  ∃ j octets, e.payload.written? = .ok j ∧ t.read (e.file root) = .ok octets ∧
    Text.decodeUtf8 octets = .ok (j.writeAsIs layout) ∧
    (j.IsReadable → Json.read (j.writeAsIs layout) = .ok j)

variable {root : FilePath} {home : Place} {t t' : FileTree} {e e' : Entry} {es fs : List Entry}
variable {name : String}

/-! ## The file of an entry -/

theorem isOneName_jsonName
    (h : '/' ∉ name.toList) :
    FilePath.IsOneName (name ++ ".json") where
  noSlash := by simpa using h
  isName := by
    have hlong (s : String) (hs : s.toList.length < 5) : name ++ ".json" ≠ s := by
      rintro rfl
      simp at hs
    simp [FilePath.isName, hlong "" (by decide), hlong "." (by decide)]

theorem jsonName_ne_above (name : String) : name ++ ".json" ≠ FilePath.above := by
  intro h
  have hlength := congrArg (fun s => s.toList.length) h
  simp [FilePath.above] at hlength

theorem jsonName_inj
    {name' : String}
    (h : name ++ ".json" = name' ++ ".json") :
    name = name' := by
  have htext := congrArg String.toList h
  rw [String.toList_append, String.toList_append] at htext
  exact String.toList_inj.mp (List.append_cancel_right htext)

theorem directory_eq (root : FilePath) (chain : String) (observedAt : Instant) :
    directory root chain observedAt =
      ⟨(root / chain).start, (root / chain).names ++ [observedAt.directoryName]⟩ :=
  FilePath.div_of_isOneName _ observedAt.isOneName_directoryName

theorem Entry.file_eq
    (h : '/' ∉ e.name.toList) :
    e.file root =
      ⟨(root / e.chain).start,
        (root / e.chain).names ++ [e.observedAt.directoryName] ++ [e.name ++ ".json"]⟩ := by
  rw [Entry.file, Store.file, FilePath.div_of_isOneName _ (isOneName_jsonName h), directory_eq]

theorem Entry.place_eq
    (h : '/' ∉ e.name.toList) :
    e.place home root =
      (root / e.chain).destination home ++ [e.observedAt.directoryName, e.name ++ ".json"] := by
  have hnames : FilePath.above ∉ [e.observedAt.directoryName, e.name ++ ".json"] := by
    simp [e.observedAt.isUsable_directoryName.notAbove.symm, (jsonName_ne_above e.name).symm]
  rw [Entry.place, Entry.file_eq h, List.append_assoc]
  exact FilePath.destination_append hnames home (root / e.chain)

/-- Entries are saved in one file exactly if they share chain directory, second and name. -/
theorem Entry.place_eq_iff
    (h : '/' ∉ e.name.toList)
    (h' : '/' ∉ e'.name.toList) :
    e.place home root = e'.place home root ↔ e.Shares home root e' := by
  rw [place_eq h, place_eq h']
  constructor
  · intro heq
    obtain ⟨hchain, hnames⟩ := List.append_inj' heq rfl
    obtain ⟨hsecond, hname⟩ := List.cons_eq_cons.mp hnames
    exact ⟨hchain, Instant.directoryName_eq_iff.mp hsecond, jsonName_inj (List.cons_eq_cons.mp hname).1⟩
  · rintro ⟨hchain, hsecond, hname⟩
    rw [hchain, Instant.directoryName_eq_iff.mpr hsecond, hname]

/-! ## What saving does -/

/-- An entry is saved if its payload can be written, its directory made, and its file written then. -/
theorem Entry.save_eq_ok_iff :
    e.save root t = .ok t' ↔
      ∃ t₁, prepare t root e.chain e.observedAt = .ok t₁ ∧
        ∃ j, e.payload.written? = .ok j ∧ t₁.write (e.file root) (j.writeAsIs layout) = .ok t' := by
  unfold Entry.save Payload.written?
  cases e.payload with
  | json j =>
    simp only [Store.save, mapError_eq_ok_iff, bind_eq_ok_iff, Except.ok.injEq, exists_eq_left']
    rfl
  | value v =>
    simp only [saveValue, bind_eq_ok_iff, mapError_eq_ok_iff]
    rfl

/-- That the path of an entry leads to its place in a tree, and its text is there. -/
structure Entry.Holds (t : FileTree) (root : FilePath) (e : Entry) : Prop where
  leads : t.place (e.file root) = .ok (e.place t.home root)
  octets : ∃ j, e.payload.written? = .ok j ∧
    t.octetsAt? (e.place t.home root) = some (Text.encodeUtf8 (j.writeAsIs layout))

/-- An entry that is saved is held, and no other file changes. -/
theorem Entry.holds_of_save
    (h : e.save root t = .ok t') :
    e.Holds t' root ∧ t.ChangesAt t' (e.place t.home root) := by
  obtain ⟨t₁, hmade, j, hj, hwrite⟩ := save_eq_ok_iff.mp h
  obtain ⟨ds, rfl⟩ := FileTree.exists_withDirectories_of_ensureDirectories hmade
  obtain ⟨octets, htext, hplace, hoctets, hchanges⟩ := FileTree.write_withDirectories hwrite
  rw [layout, Json.octets_writeAsIs (Json.Layout.isPlain_lines 2)] at htext
  cases htext
  rw [← hchanges.home_eq] at hplace hoctets
  exact ⟨⟨hplace, j, hj, hoctets⟩, hchanges⟩

/-- A file stays if another one changes. -/
theorem Entry.Holds.of_changesAt
    {target : Place}
    (h : e.Holds t root)
    (hchanges : t.ChangesAt t' target)
    (hne : e.place t.home root ≠ target) :
    e.Holds t' root where
  leads := by
    rw [hchanges.home_eq]
    exact hchanges.place_eq h.leads
  octets := by
    rw [hchanges.home_eq, hchanges.octetsAt?_eq _ hne]
    exact h.octets

/-- What is held is read. -/
theorem Entry.Holds.isReadBack
    (h : e.Holds t root) :
    e.IsReadBack t root := by
  obtain ⟨j, hj, hoctets⟩ := h.octets
  refine ⟨j, _, hj, ?_, Text.decodeUtf8_encodeUtf8 _,
    Json.read_writeAsIs (Json.Layout.isRegular_lines 2)⟩
  simp only [FileTree.read, h.leads, bind, Except.bind, hoctets]
  rfl

theorem saveAll_append :
    saveAll root (es ++ fs) t = saveAll root es t >>= saveAll root fs := by
  induction es generalizing t with
  | nil => rfl
  | cons e es ih =>
    rw [List.cons_append, saveAll, saveAll]
    cases e.save root t with
    | error fault => rfl
    | ok t₁ => exact ih

/-- Saving only adds directories, and leaves the working directory. -/
theorem grows_saveAll
    (h : saveAll root es t = .ok t') :
    t.Grows t' := by
  induction es generalizing t with
  | nil =>
    cases h
    exact ⟨rfl, fun _ h => h⟩
  | cons e es ih =>
    obtain ⟨t₁, hsave, h⟩ := bind_eq_ok_iff.mp h
    exact (Entry.holds_of_save hsave).2.toGrows.trans (ih h)

/-- What is held stays as long as nothing is saved in its file. -/
theorem Entry.Holds.saveAll
    (he : e.Holds t root)
    (hes : ∀ f ∈ es, e.place t.home root ≠ f.place t.home root)
    (h : saveAll root es t = .ok t') :
    e.Holds t' root := by
  induction es generalizing t with
  | nil =>
    cases h
    exact he
  | cons f es ih =>
    obtain ⟨hf, hes⟩ := List.forall_mem_cons.mp hes
    obtain ⟨t₁, hsave, h⟩ := bind_eq_ok_iff.mp h
    have hchanges := (holds_of_save hsave).2
    rw [← hchanges.home_eq] at hes
    exact ih (he.of_changesAt hchanges hf) hes h

/-- That the path of every entry leads to its place, and what is not saved over is read back. -/
structure Keeps (t : FileTree) (root : FilePath) (es : List Entry) : Prop where
  leads : ∀ e ∈ es, t.place (e.file root) = .ok (e.place t.home root)
  isReadBack : ∀ before e after, es = before ++ e :: after →
    (∀ f ∈ after, ¬ e.Shares t.home root f) → e.IsReadBack t root

/-- What is saved stays until something is saved in its file. -/
theorem keeps_of_saveAll
    (hnames : ∀ e ∈ es, '/' ∉ e.name.toList)
    (h : saveAll root es t = .ok t') :
    Keeps t' root es := by
  -- the tree in which an entry has just been saved, and what is saved from there on
  have hsplit : ∀ before e after, es = before ++ e :: after →
      ∃ t₁, e.Holds t₁ root ∧ saveAll root after t₁ = .ok t' := by
    rintro before e after rfl
    rw [saveAll_append] at h
    obtain ⟨t₀, -, h⟩ := bind_eq_ok_iff.mp h
    obtain ⟨t₁, hsave, h⟩ := bind_eq_ok_iff.mp h
    exact ⟨t₁, (Entry.holds_of_save hsave).1, h⟩
  constructor
  · intro e he
    obtain ⟨before, after, hes⟩ := List.append_of_mem he
    obtain ⟨t₁, hholds, hafter⟩ := hsplit before e after hes
    have hgrows := grows_saveAll hafter
    rw [hgrows.home_eq]
    exact hgrows.place_eq hholds.leads
  · intro before e after hes hshares
    obtain ⟨t₁, hholds, hafter⟩ := hsplit before e after hes
    rw [(grows_saveAll hafter).home_eq] at hshares
    subst hes
    obtain ⟨he, hnames⟩ := List.forall_mem_cons.mp (List.forall_mem_append.mp hnames).2
    have hplaces : ∀ f ∈ after, e.place t₁.home root ≠ f.place t₁.home root := fun f hf heq =>
      hshares f hf ((Entry.place_eq_iff he (hnames f hf)).mp heq)
    exact (hholds.saveAll hplaces hafter).isReadBack

/-! ## Chains with plain names -/

/-- That the chain is a single name that can be used, as is the name of the file, the path of the file is
not too long, and the payload can be written. -/
structure Entry.IsPlain (root : FilePath) (e : Entry) : Prop where
  isOneChain : FilePath.IsOneName e.chain
  isUsableChain : FileTree.IsUsable e.chain
  noSlash : '/' ∉ e.name.toList
  isUsableName : FileTree.IsUsable (e.name ++ ".json")
  fits : FilePath.nameSize (e.file root).text ≤ FileTree.maxPathLength
  isWritten : ∃ j, e.payload.written? = .ok j

/-- That no file is in the way of the root, and files and directories stand below it where those of
entries do. -/
structure IsStore (root : FilePath) (t : FileTree) : Prop where
  isClear : t.IsClear root
  files : ∀ ns, t.isFileAt (root.destination t.home ++ ns) = true → ns.length = 3
  directories : ∀ ns, t.isDirectoryAt (root.destination t.home ++ ns) = true → ns.length ≤ 2

theorem Entry.IsPlain.directory_eq
    (h : e.IsPlain root) :
    directory root e.chain e.observedAt =
      ⟨root.start, root.names ++ [e.chain, e.observedAt.directoryName]⟩ := by
  rw [Store.directory_eq, FilePath.div_of_isOneName root h.isOneChain, List.append_assoc,
    List.singleton_append]

theorem Entry.IsPlain.file_eq
    (h : e.IsPlain root) :
    e.file root =
      ⟨root.start, root.names ++ [e.chain, e.observedAt.directoryName] ++ [e.name ++ ".json"]⟩ := by
  rw [Entry.file, Store.file, FilePath.div_of_isOneName _ (isOneName_jsonName h.noSlash),
    h.directory_eq]

theorem Entry.IsPlain.destination_directory
    (h : e.IsPlain root)
    (home : Place) :
    (directory root e.chain e.observedAt).destination home =
      root.destination home ++ [e.chain, e.observedAt.directoryName] := by
  have hnames : FilePath.above ∉ [e.chain, e.observedAt.directoryName] := by
    simp [h.isUsableChain.notAbove.symm, e.observedAt.isUsable_directoryName.notAbove.symm]
  rw [h.directory_eq]
  exact FilePath.destination_append hnames home root

/-- The file of an entry with plain names is three names below the root. -/
theorem Entry.IsPlain.place_eq
    (h : e.IsPlain root)
    (home : Place) :
    e.place home root =
      root.destination home ++ [e.chain, e.observedAt.directoryName, e.name ++ ".json"] := by
  have hchain : FilePath.above ∉ [e.chain] := by simp [h.isUsableChain.notAbove.symm]
  rw [Entry.place_eq h.noSlash, FilePath.div_of_isOneName root h.isOneChain,
    FilePath.destination_append hchain, List.append_assoc]
  rfl

/-- That two entries are of one chain, one second and one name. -/
def Entry.IsOfOne (e e' : Entry) : Prop :=
  e.chain = e'.chain ∧ e.observedAt.second = e'.observedAt.second ∧ e.name = e'.name

theorem Entry.IsPlain.shares_iff
    (h : e.IsPlain root)
    (h' : e'.IsPlain root) :
    e.Shares home root e' ↔ e.IsOfOne e' := by
  rw [← Entry.place_eq_iff h.noSlash h'.noSlash, h.place_eq, h'.place_eq, List.append_cancel_left_eq]
  simp only [List.cons.injEq, and_true, Instant.directoryName_eq_iff]
  exact and_congr_right' (and_congr_right' ⟨jsonName_inj, congrArg (· ++ ".json")⟩)

/-- The directory of an entry has no file in the way. -/
theorem IsStore.isClear_directory
    (ht : IsStore root t)
    (h : e.IsPlain root) :
    t.IsClear (directory root e.chain e.observedAt) where
  usable := by
    rw [h.directory_eq]
    intro n hn
    simp only [List.mem_append, List.mem_cons, List.not_mem_nil, or_false] at hn
    rcases hn with hn | rfl | rfl
    · exact ht.isClear.usable n hn
    · exact h.isUsableChain
    · exact e.observedAt.isUsable_directoryName
  fits := by
    have hfits := h.fits
    rw [h.file_eq] at hfits
    rw [h.directory_eq]
    exact Nat.le_trans (FilePath.nameSize_text_le root.start _ [_]) hfits
  noFile := by
    intro place hplace
    rw [h.destination_directory] at hplace
    rcases List.prefix_or_prefix_of_prefix hplace (List.prefix_append _ _) with hroot | ⟨ns, rfl⟩
    · exact ht.isClear.noFile place hroot
    · have hlength := hplace.length_le
      have hfile := ht.files ns
      simp only [List.length_append, List.length_cons, List.length_nil] at hlength
      cases hcase : t.isFileAt (root.destination t.home ++ ns) with
      | false => rfl
      | true =>
        have hnames := hfile hcase
        omega

/-- The tree of a store is one still when its directories and the file of an entry have been added. -/
theorem IsStore.withFile
    {ds : List Place} {octets : List UInt8}
    (ht : IsStore root t)
    (h : e.IsPlain root)
    (hdirectories : ∀ ns,
      (t.withDirectories ds).isDirectoryAt (root.destination t.home ++ ns) = true → ns.length ≤ 2) :
    IsStore root ((t.withDirectories ds).withFile (e.place t.home root) octets) where
  isClear := by
    refine ⟨ht.isClear.usable, ht.isClear.fits, fun place hplace => ?_⟩
    have hne : place ≠ e.place t.home root := by
      rintro rfl
      have hlength := hplace.length_le
      rw [h.place_eq] at hlength
      simp [FileTree.withFile] at hlength
    rw [FileTree.isFileAt_withFile_of_ne hne]
    exact ht.isClear.noFile place hplace
  files := by
    intro ns hns
    by_cases heq : root.destination t.home ++ ns = e.place t.home root
    · rw [h.place_eq] at heq
      rw [List.append_cancel_left heq]
      rfl
    · exact ht.files ns ((FileTree.isFileAt_withFile_of_ne heq octets).symm.trans hns)
  directories := by
    intro ns hns
    rcases FileTree.isDirectoryAt_of_withFile hns with hold | ⟨hway, hne⟩
    · exact hdirectories ns hold
    · -- a directory on the way to the file has fewer names than the file
      have hbelow : root.destination t.home ++ ns <+: e.place t.home root := hway
      have hle := hbelow.length_le
      have hlt : (root.destination t.home ++ ns).length ≠ (e.place t.home root).length :=
        fun heq => hne (hbelow.eq_of_length heq)
      rw [h.place_eq] at hle hlt
      simp only [List.length_append, List.length_cons, List.length_nil] at hle hlt
      omega

/-- An entry with plain names is saved, and the tree is that of a store still. -/
theorem Entry.IsPlain.exists_save
    (h : e.IsPlain root)
    (ht : IsStore root t) :
    ∃ t', e.save root t = .ok t' ∧ IsStore root t' := by
  obtain ⟨j, hj⟩ := h.isWritten
  have hclear := ht.isClear_directory h
  obtain ⟨ds, hds, hmade, hdirectory⟩ := FileTree.ensureDirectories_of_isClear hclear
  -- what stands below the root in the tree with the directories
  have hdirectories : ∀ ns,
      (t.withDirectories ds).isDirectoryAt (root.destination t.home ++ ns) = true → ns.length ≤ 2 := by
    intro ns hns
    rcases FileTree.isDirectoryAt_withDirectories_iff.mp hns with hold | ⟨-, d, hd, hway⟩
    · exact ht.directories ns hold
    · have hlength := (hway.trans (hds d hd)).length_le
      rw [h.destination_directory] at hlength
      simpa using hlength
  have hplace : (t.withDirectories ds).place (e.file root) = .ok (e.place t.home root) := by
    rw [h.directory_eq] at hclear
    have hleads := (hclear.withDirectories ds).place_append_singleton h.isUsableName (h.file_eq ▸ h.fits)
    rw [FileTree.home_withDirectories, ← h.directory_eq, if_pos hdirectory, ← h.file_eq] at hleads
    exact hleads
  have hfree : (t.withDirectories ds).isDirectoryAt (e.place t.home root) = false := by
    rw [h.place_eq]
    refine Bool.eq_false_iff.mpr fun hthere => ?_
    have hlength := hdirectories _ hthere
    simp at hlength
  have hwrite : (t.withDirectories ds).write (e.file root) (j.writeAsIs layout) = .ok _ :=
    FileTree.write_eq_ok_iff.mpr
      ⟨_, _, hplace, hfree, Json.octets_writeAsIs (Json.Layout.isPlain_lines 2) j, rfl⟩
  exact ⟨_, Entry.save_eq_ok_iff.mpr ⟨_, hmade, j, hj, hwrite⟩, ht.withFile h hdirectories⟩

theorem exists_saveAll
    (ht : IsStore root t)
    (hes : ∀ e ∈ es, e.IsPlain root) :
    ∃ t', saveAll root es t = .ok t' ∧ IsStore root t' := by
  induction es generalizing t with
  | nil => exact ⟨t, rfl, ht⟩
  | cons e es ih =>
    obtain ⟨he, hes⟩ := List.forall_mem_cons.mp hes
    obtain ⟨t₁, hsave, ht₁⟩ := he.exists_save ht
    obtain ⟨t', h, ht'⟩ := ih ht₁ hes
    exact ⟨t', bind_eq_ok_iff.mpr ⟨t₁, hsave, h⟩, ht'⟩

/-- The entry of a snapshot, in a file of facts. -/
def Entry.ofFacts (f : Facts) : Entry := ⟨f.chainId, f.observedAt, "facts", .json f.toJson⟩

/-- The facts of a chain whose identifier is a plain name can be saved. -/
theorem isPlain_ofFacts
    {f : Facts}
    (hone : FilePath.IsOneName f.chainId)
    (husable : FileTree.IsUsable f.chainId)
    (hfits : FilePath.nameSize ((Entry.ofFacts f).file root).text ≤ FileTree.maxPathLength) :
    (Entry.ofFacts f).IsPlain root where
  isOneChain := hone
  isUsableChain := husable
  noSlash := show '/' ∉ "facts".toList by decide
  isUsableName := show FileTree.IsUsable "facts.json" from ⟨by decide, by decide, by decide, by decide⟩
  fits := hfits
  isWritten := ⟨_, rfl⟩

/-- A tree without files and directories is that of a store with any root that is not too long and whose
names can be used. -/
theorem isStore_empty
    (h : ∀ n ∈ root.names, FileTree.IsUsable n)
    (hfits : FilePath.nameSize root.text ≤ FileTree.maxPathLength) :
    IsStore root {} where
  isClear := ⟨h, hfits, fun _ _ => rfl⟩
  files := fun _ hns => nomatch hns
  directories := fun ns hns => by
    have hnone : root.destination [] ++ ns = [] := by
      simpa [FileTree.isDirectoryAt, FileTree.isFileAt, FileTree.octetsAt?, valueAt?] using hns
    simp [(List.append_eq_nil_iff.mp hnone).2]

/-- The bare chain a second later. -/
def secondLater : Facts := { Facts.bareChain with observedAt := ⟨86401000000, by decide⟩ }

theorem isPlain_bareChain
    {i : Instant}
    (hfits : FilePath.nameSize ((Entry.ofFacts { Facts.bareChain with observedAt := i }).file root).text ≤
      FileTree.maxPathLength) :
    (Entry.ofFacts { Facts.bareChain with observedAt := i }).IsPlain root :=
  isPlain_ofFacts (show FilePath.IsOneName "1" from ⟨by decide, by decide⟩)
    (show FileTree.IsUsable "1" from ⟨by decide, by decide, by decide, by decide⟩) hfits

theorem isStore_kept : IsStore (.ofText "kept") {} := by
  refine isStore_empty ?_ (by decide +kernel)
  have hnames : (FilePath.ofText "kept").names = ["kept"] := by decide
  rw [hnames, List.forall_mem_singleton]
  exact ⟨by decide, by decide, by decide, by decide⟩

/-- What a store keeps of what is saved in it. Entries are saved in one file exactly if they share chain
directory, second and name, and what is saved is read back unless something is saved in its file later.
Where the names of the chains are plain, everything is saved, strictly below the root, and entries that
are of one chain, second and name are the only ones to share a file. -/
theorem saveAll_keeps
    (hnames : ∀ e ∈ es, '/' ∉ e.name.toList) :
    (∀ e ∈ es, ∀ e' ∈ es, e.place t.home root = e'.place t.home root ↔ e.Shares t.home root e') ∧
      (∀ t', saveAll root es t = .ok t' → Keeps t' root es) ∧
      (IsStore root t → (∀ e ∈ es, e.IsPlain root) →
        (∀ e ∈ es, ∃ n ns, e.place t.home root = root.destination t.home ++ n :: ns) ∧
        (∀ e ∈ es, ∀ e' ∈ es, e.Shares t.home root e' ↔ e.IsOfOne e') ∧
        ∃ t', saveAll root es t = .ok t' ∧ IsStore root t' ∧
          (es.Pairwise (¬ ·.IsOfOne ·) → ∀ e ∈ es, e.IsReadBack t' root)) := by
  refine ⟨fun e he e' he' => Entry.place_eq_iff (hnames e he) (hnames e' he'),
    fun t' => keeps_of_saveAll hnames, fun ht hplain => ?_⟩
  obtain ⟨t', h, ht'⟩ := exists_saveAll ht hplain
  refine ⟨fun e he => ⟨_, _, (hplain e he).place_eq t.home⟩,
    fun e he e' he' => (hplain e he).shares_iff (hplain e' he'), t', h, ht', fun hapart e he => ?_⟩
  obtain ⟨before, after, rfl⟩ := List.append_of_mem he
  refine (keeps_of_saveAll hnames h).isReadBack before e after rfl fun f hf hshares => ?_
  have hof : e.IsOfOne f :=
    ((hplain e he).shares_iff (hplain f (by simp [hf]))).mp hshares
  exact List.rel_of_pairwise_cons (List.pairwise_append.mp hapart).2.1 hf hof

/-- Two snapshots of a chain, a second apart, are kept. -/
theorem saveAll_keeps_secondLater :
    ∃ t', saveAll (.ofText "kept") [.ofFacts Facts.bareChain, .ofFacts secondLater] {} = .ok t' ∧
      (Entry.ofFacts Facts.bareChain).IsReadBack t' (.ofText "kept") ∧
      (Entry.ofFacts secondLater).IsReadBack t' (.ofText "kept") := by
  have hplain : ∀ e ∈ [Entry.ofFacts Facts.bareChain, .ofFacts secondLater],
      e.IsPlain (.ofText "kept") :=
    List.forall_mem_cons.mpr ⟨isPlain_bareChain (by decide +kernel),
      List.forall_mem_singleton.mpr (isPlain_bareChain (by decide +kernel))⟩
  obtain ⟨-, -, hkeeps⟩ := saveAll_keeps (t := {}) fun e he => (hplain e he).noSlash
  obtain ⟨-, -, t', h, -, hread⟩ := hkeeps isStore_kept hplain
  have hapart : ¬ (Entry.ofFacts Facts.bareChain).IsOfOne (.ofFacts secondLater) := fun hof =>
    absurd hof.2.1 (by decide)
  have hall := hread (List.pairwise_pair.mpr hapart)
  exact ⟨t', h, hall _ (by simp), hall _ (by simp)⟩

/-! ## What is lost -/

/-- Facts that share a file are not both read back, if they are different in more than parameters. -/
theorem not_isReadBack_ofFacts
    {f g : Facts}
    (hf : f.IsNormal)
    (hg : g.IsNormal)
    (hwritable : f.toJson.isWritable = true)
    (hwritable' : g.toJson.isWritable = true)
    (hwhole : f.toJson.isWhole = true)
    (hwhole' : g.toJson.isWhole = true)
    (hother : g.withoutParameters ≠ f.withoutParameters)
    (hfile : (Entry.ofFacts f).file root = (Entry.ofFacts g).file root)
    (hread : (Entry.ofFacts g).IsReadBack t root) :
    ¬ (Entry.ofFacts f).IsReadBack t root := by
  rintro ⟨j, octets, hj, hoctets, htext, hvalue⟩
  obtain ⟨j', octets', hj', hoctets', htext', hvalue'⟩ := hread
  cases hj
  cases hj'
  rw [hfile, hoctets'] at hoctets
  rw [← Except.ok.inj hoctets, htext'] at htext
  -- the one text is read as the values of both
  have hreadable :=
    Json.isReadable_of_isWritable hwritable (Facts.hasDistinctKeys_toJson hf.parameters) hwhole
  have hreadable' :=
    Json.isReadable_of_isWritable hwritable' (Facts.hasDistinctKeys_toJson hg.parameters) hwhole'
  have hsame := hvalue hreadable.sorted
  rw [← Except.ok.inj htext, hvalue' hreadable'.sorted] at hsame
  exact hother (Facts.withoutParameters_eq_of_sorted_eq hf hg (Except.ok.inj hsame).symm)

/-- The bare chain a microsecond later. -/
def microsecondLater : Facts := { Facts.bareChain with observedAt := ⟨86400000001, by decide⟩ }

/-- The bare chain under an identifier that starts with a slash. -/
def rootedChain : Facts := { Facts.bareChain with chainId := "/1" }

theorem isReachable_microsecondLater : microsecondLater.IsReachable := by
  refine .ofValue (v := microsecondLater.toValue) (Facts.ofValue_eq_ok_iff.mpr ⟨_, rfl, ⟨rfl, rfl⟩, ?_⟩)
  exact ⟨rfl, Facts.chainId_of_lookup? rfl, rfl, rfl, rfl, rfl, rfl, rfl, rfl,
    Facts.parameters_of_lookup? rfl⟩

theorem isReachable_rootedChain : rootedChain.IsReachable := by
  refine .ofValue (v := rootedChain.toValue) (Facts.ofValue_eq_ok_iff.mpr ⟨_, rfl, ⟨rfl, rfl⟩, ?_⟩)
  have hread : Reading.chainId (.text "/1") = .accepted "/1" :=
    (Reading.readsBack_chainId (by decide) (by decide)).read_eq
  exact ⟨rfl, Fields.required_eq_accepted_iff.mpr ⟨_, rfl, hread⟩, rfl, rfl, rfl, rfl, rfl, rfl, rfl,
    Facts.parameters_of_lookup? rfl⟩

/-- Of two snapshots of a chain, a microsecond apart, the first is lost, and a chain whose identifier
starts with a slash is not saved below the root. -/
theorem saveAll_loses_snapshot :
    (Facts.bareChain.IsReachable ∧ microsecondLater.IsReachable ∧
      Facts.bareChain.observedAt ≠ microsecondLater.observedAt ∧
      ∃ t', saveAll (.ofText "kept") [.ofFacts Facts.bareChain, .ofFacts microsecondLater] {} = .ok t' ∧
        ¬ (Entry.ofFacts Facts.bareChain).IsReadBack t' (.ofText "kept")) ∧
    rootedChain.IsReachable ∧
      ¬ (FilePath.ofText "kept").destination [] <+:
        (Entry.ofFacts rootedChain).place [] (.ofText "kept") := by
  refine ⟨⟨Facts.isReachable_bareChain, isReachable_microsecondLater, by decide, ?_⟩,
    isReachable_rootedChain, by decide +kernel⟩
  have hplain : ∀ e ∈ [Entry.ofFacts Facts.bareChain, .ofFacts microsecondLater],
      e.IsPlain (.ofText "kept") :=
    List.forall_mem_cons.mpr ⟨isPlain_bareChain (by decide +kernel),
      List.forall_mem_singleton.mpr (isPlain_bareChain (by decide +kernel))⟩
  obtain ⟨t', h, -⟩ := exists_saveAll isStore_kept hplain
  refine ⟨t', h, ?_⟩
  have hkeeps := keeps_of_saveAll (fun e he => (hplain e he).noSlash) h
  have hread := hkeeps.isReadBack [Entry.ofFacts Facts.bareChain] _ [] rfl (by simp)
  refine not_isReadBack_ofFacts (Facts.isNormal_of_ofValue Facts.isReachable_bareChain.ofValue_toValue)
    (Facts.isNormal_of_ofValue isReachable_microsecondLater.ofValue_toValue) (by decide +kernel)
    (by decide +kernel) (by decide +kernel) (by decide +kernel) (fun h => ?_) (by decide +kernel) hread
  exact absurd (congrArg Facts.observedAt h) (by decide)

end Store
end RollupAudit
