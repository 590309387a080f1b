import Mathlib.Data.List.Induction
import RollupAudit.Proofs.Files.Directory

/-!
# Directories that are made

Making a directory, and those above it, does nothing to a tree but to add directories. It succeeds
for every path whose names can be used if no file is in the way.

**Results.**
* `FileTree.exists_withDirectories_of_ensureDirectories`: directories that are made are added.
* `FileTree.ensureDirectories_of_isClear`: directories are made where no file is in the way.
* `FileTree.write_withDirectories`: what a file changes that is written after that.
-/

namespace RollupAudit
namespace FileTree

variable {t t' : FileTree} {p : FilePath} {place other : Place} {ds : List Place}

/-- The tree with further directories. -/
def withDirectories (t : FileTree) (ds : List Place) : FileTree :=
  { t with directories := t.directories ++ ds }

@[simp] theorem withDirectories_nil : t.withDirectories [] = t := by
  rw [withDirectories, List.append_nil]

@[simp] theorem withDirectories_withDirectories
    {es : List Place} :
    (t.withDirectories ds).withDirectories es = t.withDirectories (ds ++ es) := by
  simp only [withDirectories, List.append_assoc]

@[simp] theorem home_withDirectories : (t.withDirectories ds).home = t.home := rfl

@[simp] theorem isFileAt_withDirectories : (t.withDirectories ds).isFileAt place = t.isFileAt place := rfl

/-- A directory is where one was, or at or above one of the further ones, unless a file is there. -/
theorem isDirectoryAt_withDirectories_iff :
    (t.withDirectories ds).isDirectoryAt place = true ↔
      t.isDirectoryAt place = true ∨ t.isFileAt place = false ∧ ∃ d ∈ ds, place <+: d := by
  rw [isDirectoryAt, isDirectoryAt, isFileAt_withDirectories]
  cases t.isFileAt place with
  | true => simp
  | false =>
    simp only [withDirectories, List.any_append, Bool.not_false, Bool.true_and, Bool.or_eq_true,
      List.any_eq_true, List.isPrefixOf_iff_prefix, true_and]
    rw [← or_assoc, or_right_comm]

/-! ## Whatever is made -/

theorem exists_withDirectories_of_makeDirectory
    (h : t.makeDirectory p = .ok t') :
    ∃ ds, t' = t.withDirectories ds := by
  unfold makeDirectory at h
  obtain ⟨place, -, h⟩ := bind_eq_ok_iff.mp h
  split at h
  · cases h
  · cases h
    exact ⟨[place], rfl⟩

theorem exists_withDirectories_of_ensureDirectory
    (h : t.ensureDirectory p = .ok t') :
    ∃ ds, t' = t.withDirectories ds := by
  unfold ensureDirectory at h
  split at h
  · cases h
  · cases h
  · cases h
  · obtain ⟨isDirectory, -, h⟩ := bind_eq_ok_iff.mp h
    split at h
    · cases h
      exact ⟨[], withDirectories_nil.symm⟩
    · cases h
  · cases h
    exact exists_withDirectories_of_makeDirectory (by assumption)

/-- Directories that are made are added, and all else stays. -/
theorem exists_withDirectories_of_ensureDirectories
    (h : t.ensureDirectories p = .ok t') :
    ∃ ds, t' = t.withDirectories ds := by
  unfold ensureDirectories at h
  generalize p.names.reverse = names at h
  induction names generalizing t' with
  | nil => exact exists_withDirectories_of_ensureDirectory h
  | cons n names ih =>
    rw [ensureAll] at h
    split at h
    · obtain ⟨t₁, h₁, h⟩ := bind_eq_ok_iff.mp h
      obtain ⟨ds, rfl⟩ := ih h₁
      obtain ⟨es, rfl⟩ := exists_withDirectories_of_ensureDirectory h
      exact ⟨ds ++ es, withDirectories_withDirectories⟩
    · exact exists_withDirectories_of_ensureDirectory h

/-! ## Where no file is in the way -/

/-- That a name can be followed, and leads into a directory. -/
structure IsUsable (n : String) : Prop where
  notAbove : n ≠ FilePath.above
  noZero : '\x00' ∉ n.toList
  noBarred : (Text.codePoints n.toList).any FilePath.isBarred = false
  isShort : FilePath.nameSize n ≤ maxNameLength

/-- That a path is not too long and its names can be used, and there is no file where it leads, nor on
the way. -/
structure IsClear (t : FileTree) (p : FilePath) : Prop where
  usable : ∀ n ∈ p.names, IsUsable n
  fits : FilePath.nameSize p.text ≤ maxPathLength
  noFile : ∀ place, place <+: p.destination t.home → t.isFileAt place = false

theorem above_notMem_of_usable
    {names : List String}
    (h : ∀ n ∈ names, IsUsable n) :
    FilePath.above ∉ names :=
  fun hmem => (h _ hmem).notAbove rfl

/-- What is above a directory and no file is a directory. -/
theorem isDirectoryAt_of_above
    (h : t.isDirectoryAt place = true)
    (hother : other <+: place)
    (hfile : t.isFileAt other = false) :
    t.isDirectoryAt other = true := by
  obtain ⟨known, hknown, hplace⟩ := stands_iff.mp (.inr h)
  have hstands := stands_iff.mpr ⟨known, hknown, hother.trans hplace⟩
  simpa [hfile] using hstands

variable {start : PathStart} {names : List String} {n : String}

/-- Where no file is in the way, names that can be used lead somewhere exactly if the last of them is
that of something in a directory; otherwise a directory is missing. -/
theorem follow_append_singleton
    (hnames : ∀ m ∈ names, IsUsable m)
    (hn : IsUsable n)
    (hfile : ∀ other, other <+: place ++ names → t.isFileAt other = false) :
    t.follow place (names ++ [n]) =
      if t.isDirectoryAt (place ++ names) then .ok (place ++ names ++ [n]) else .error .missing := by
  induction names generalizing place with
  | nil =>
    have hlength : ¬ maxNameLength < FilePath.nameSize n := Nat.not_lt.mpr hn.isShort
    have hhere := hfile place (List.prefix_append _ _)
    rw [List.append_nil]
    cases hdirectory : t.isDirectoryAt place <;>
      simp [follow, hhere, hdirectory, hn.notAbove, hlength]
  | cons m names ih =>
    obtain ⟨hm, hnames⟩ := List.forall_mem_cons.mp hnames
    have hlength : ¬ maxNameLength < FilePath.nameSize m := Nat.not_lt.mpr hm.isShort
    have hhere := hfile place (List.prefix_append _ _)
    cases hdirectory : t.isDirectoryAt place with
    | false =>
      have hmissing : t.isDirectoryAt (place ++ m :: names) ≠ true := by
        intro hthere
        rw [isDirectoryAt_of_above hthere (List.prefix_append _ _) hhere] at hdirectory
        cases hdirectory
      simp [follow, hhere, hdirectory, hmissing]
    | true =>
      rw [List.append_cons] at hfile
      simpa [follow, hhere, hdirectory, hm.notAbove, hlength] using ih hnames hfile

theorem isFollowed_of_usable
    (h : ∀ m ∈ p.names, IsUsable m)
    (hfits : FilePath.nameSize p.text ≤ maxPathLength) :
    IsFollowed p where
  noBarrier := by
    have hbarred : p.hasBarred = false := by
      rw [FilePath.hasBarred, List.any_eq_false]
      exact fun m hm => by simpa using (h m hm).noBarred
    have hzero : p.hasZero = false := by
      rw [FilePath.hasZero, List.any_eq_false]
      exact fun m hm => by simpa using (h m hm).noZero
    rw [FilePath.barrier?, hbarred, hzero]
    rfl
  fits := hfits

theorem destination_of_usable
    (h : ∀ m ∈ names, IsUsable m) :
    FilePath.destination t.home ⟨start, names⟩ = FilePath.destination t.home ⟨start, []⟩ ++ names :=
  FilePath.destination_append (above_notMem_of_usable h) t.home ⟨start, []⟩

theorem IsClear.of_append
    {more : List String}
    (h : t.IsClear ⟨start, names ++ more⟩) :
    t.IsClear ⟨start, names⟩ where
  usable := fun m hm => h.usable m (List.mem_append_left _ hm)
  fits := Nat.le_trans (FilePath.nameSize_text_le start names more) h.fits
  noFile := by
    have hmore : ∀ m ∈ more, IsUsable m := fun m hm => h.usable m (List.mem_append_right _ hm)
    have hfurther := FilePath.destination_append (above_notMem_of_usable hmore) t.home ⟨start, names⟩
    exact fun place hplace => h.noFile place (hplace.trans (hfurther ▸ List.prefix_append _ _))

theorem IsClear.withDirectories
    (h : t.IsClear p)
    (ds : List Place) :
    (t.withDirectories ds).IsClear p where
  usable := h.usable
  fits := h.fits
  noFile := h.noFile

/-- A path that goes on from a clear one leads somewhere exactly if the clear one is that of a
directory. -/
theorem IsClear.place_append_singleton
    (h : t.IsClear ⟨start, names⟩)
    (hn : IsUsable n)
    (hfits : FilePath.nameSize (FilePath.text ⟨start, names ++ [n]⟩) ≤ maxPathLength) :
    t.place ⟨start, names ++ [n]⟩ =
      if t.isDirectoryAt (FilePath.destination t.home ⟨start, names⟩) then
        .ok (FilePath.destination t.home ⟨start, names ++ [n]⟩)
      else .error ⟨.missing, ⟨start, names ++ [n]⟩⟩ := by
  have hall : ∀ m ∈ names ++ [n], IsUsable m :=
    List.forall_mem_append.mpr ⟨h.usable, List.forall_mem_singleton.mpr hn⟩
  have hbase : t.base ⟨start, names ++ [n]⟩ = FilePath.destination t.home ⟨start, []⟩ := by
    cases start <;> rfl
  have hfile := h.noFile
  rw [destination_of_usable h.usable] at hfile
  rw [place_of_isFollowed (isFollowed_of_usable hall hfits), hbase,
    follow_append_singleton h.usable hn hfile, destination_of_usable h.usable,
    destination_of_usable hall, List.append_assoc]
  cases t.isDirectoryAt (FilePath.destination t.home ⟨start, []⟩ ++ names) <;> rfl

/-- A directory that there may be already is made where a path leads, unless a file is there. -/
theorem ensureDirectory_of_place
    (h : t.place p = .ok place)
    (hfile : t.isFileAt place = false) :
    ∃ ds, (∀ d ∈ ds, d = place) ∧ t.ensureDirectory p = .ok (t.withDirectories ds) ∧
      (t.withDirectories ds).isDirectoryAt place = true := by
  unfold ensureDirectory makeDirectory isDirectory? finds
  cases hdirectory : t.isDirectoryAt place with
  | true =>
    refine ⟨[], by simp, ?_, by simpa⟩
    simp [h, hdirectory, bind, Except.bind, throw, throwThe, MonadExceptOf.throw, pure, Except.pure]
  | false =>
    refine ⟨[place], by simp, by simp [h, hfile, hdirectory, bind, Except.bind]; rfl, ?_⟩
    exact isDirectoryAt_withDirectories_iff.mpr (.inr ⟨hfile, place, by simp, List.prefix_rfl⟩)

theorem ensureDirectory_of_missing
    (h : t.place p = .error ⟨.missing, p⟩) :
    t.ensureDirectory p = .error ⟨.missing, p⟩ := by
  simp [ensureDirectory, makeDirectory, h, bind, Except.bind]

theorem ensureAll_append_singleton :
    ensureAll start (names ++ [n]).reverse t =
      match t.ensureDirectory ⟨start, names ++ [n]⟩ with
      | .error ⟨.missing, _⟩ => do
        let t ← ensureAll start names.reverse t
        t.ensureDirectory ⟨start, names ++ [n]⟩
      | r => r := by
  have hnames : (n :: names.reverse).reverse = names ++ [n] := by
    rw [List.reverse_cons, List.reverse_reverse]
  rw [List.reverse_concat, ← hnames]
  rfl

theorem ensureAll_of_isClear
    (h : t.IsClear ⟨start, names⟩) :
    ∃ ds, (∀ d ∈ ds, d <+: FilePath.destination t.home ⟨start, names⟩) ∧
      ensureAll start names.reverse t = .ok (t.withDirectories ds) ∧
      (t.withDirectories ds).isDirectoryAt (FilePath.destination t.home ⟨start, names⟩) = true := by
  have hfile := h.noFile _ List.prefix_rfl
  induction names using List.reverseRecOn with
  | nil =>
    have hplace : t.place ⟨start, []⟩ = .ok (FilePath.destination t.home ⟨start, []⟩) := by
      cases start <;> exact place_eq_ok_iff.mpr ⟨isFollowed_of_usable h.usable h.fits, rfl⟩
    obtain ⟨ds, hds, hmade, hdirectory⟩ := ensureDirectory_of_place hplace hfile
    exact ⟨ds, fun d hd => hds d hd ▸ List.prefix_rfl, hmade, hdirectory⟩
  | append_singleton names n ih =>
    have hn := h.usable n (List.mem_append_right _ (List.mem_singleton_self n))
    have hplace := h.of_append.place_append_singleton hn h.fits
    rw [ensureAll_append_singleton]
    cases hparent : t.isDirectoryAt (FilePath.destination t.home ⟨start, names⟩) with
    | true =>
      rw [hparent, if_pos rfl] at hplace
      obtain ⟨ds, hds, hmade, hdirectory⟩ := ensureDirectory_of_place hplace hfile
      rw [hmade]
      exact ⟨ds, fun d hd => hds d hd ▸ List.prefix_rfl, rfl, hdirectory⟩
    | false =>
      rw [hparent, if_neg (by simp)] at hplace
      -- the directories above are made first, and then the path leads to a place in one of them
      obtain ⟨ds, hds, hmade, hdirectory⟩ := ih h.of_append (h.of_append.noFile _ List.prefix_rfl)
      have hplace' := (h.of_append.withDirectories ds).place_append_singleton hn h.fits
      rw [home_withDirectories, hdirectory, if_pos rfl] at hplace'
      obtain ⟨es, hes, hmade', hdirectory'⟩ := ensureDirectory_of_place hplace' hfile
      rw [ensureDirectory_of_missing hplace, hmade]
      refine ⟨ds ++ es, ?_, by simpa [bind, Except.bind] using hmade', by simpa using hdirectory'⟩
      intro d hd
      rcases List.mem_append.mp hd with hd | hd
      · have hlast : FilePath.above ∉ [n] := by simpa using hn.notAbove.symm
        have hfurther := FilePath.destination_append hlast t.home ⟨start, names⟩
        exact (hds d hd).trans (hfurther ▸ List.prefix_append _ _)
      · exact hes d hd ▸ List.prefix_rfl

/-- Directories are made as far as a clear path leads, where there are none. -/
theorem ensureDirectories_of_isClear
    (h : t.IsClear p) :
    ∃ ds, (∀ d ∈ ds, d <+: p.destination t.home) ∧
      t.ensureDirectories p = .ok (t.withDirectories ds) ∧
      (t.withDirectories ds).isDirectoryAt (p.destination t.home) = true :=
  ensureAll_of_isClear h

/-! ## Trees that grow -/

/-- That a tree has the directories of another one, and the same working directory. -/
structure Grows (t t' : FileTree) : Prop where
  home_eq : t'.home = t.home
  isDirectoryAt : ∀ place, t.isDirectoryAt place = true → t'.isDirectoryAt place = true

/-- That a tree grows to another one, and files change at one place only. -/
structure ChangesAt (t t' : FileTree) (target : Place) : Prop extends Grows t t' where
  octetsAt?_eq : ∀ place, place ≠ target → t'.octetsAt? place = t.octetsAt? place

variable {t'' : FileTree} {text : String}

theorem Grows.trans
    (h : Grows t t')
    (h' : Grows t' t'') :
    Grows t t'' :=
  ⟨h'.home_eq.trans h.home_eq, fun place hplace => h'.isDirectoryAt place (h.isDirectoryAt place hplace)⟩

/-- A path leads to the same place in a tree that has grown. -/
theorem Grows.place_eq
    (h : Grows t t')
    (hplace : t.place p = .ok place) :
    t'.place p = .ok place := by
  obtain ⟨hp, hfollow⟩ := place_eq_ok_iff.mp hplace
  have hbase : t'.base p = t.base p := by rw [base, base, h.home_eq]
  rw [place_eq_ok_iff, hbase]
  exact ⟨hp, follow_of_forall_isDirectoryAt h.isDirectoryAt hfollow⟩

theorem grows_withDirectories (t : FileTree) (ds : List Place) : Grows t (t.withDirectories ds) :=
  ⟨rfl, fun _ h => isDirectoryAt_withDirectories_iff.mpr (.inl h)⟩

/-- A file that is written after directories have been made is where its path leads, and no other file
changes. -/
theorem write_withDirectories
    (h : (t.withDirectories ds).write p text = .ok t') :
    ∃ octets, Text.octets text = .ok octets ∧ t'.place p = .ok (p.destination t.home) ∧
      t'.octetsAt? (p.destination t.home) = some octets ∧ ChangesAt t t' (p.destination t.home) := by
  obtain ⟨target, octets, hplace, hdirectory, hoctets, rfl⟩ := write_eq_ok_iff.mp h
  have htarget := eq_destination_of_place hplace
  rw [home_withDirectories] at htarget
  subst htarget
  have hgrows : Grows (t.withDirectories ds)
      ((t.withDirectories ds).withFile (p.destination t.home) octets) :=
    ⟨rfl, isDirectoryAt_withFile_of_isDirectoryAt _ hdirectory⟩
  exact ⟨octets, hoctets, hgrows.place_eq hplace, octetsAt?_withFile_self _ _,
    ⟨(grows_withDirectories t ds).trans hgrows, fun _ hne => octetsAt?_withFile_of_ne hne _⟩⟩

end FileTree
end RollupAudit
