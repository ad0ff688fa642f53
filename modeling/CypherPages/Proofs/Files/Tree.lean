import CypherPages.Files.Tree
import CypherPages.Proofs.Entries

/-! # Writing files

A write puts a text at one place, where a file may be or nothing, in a directory that is there
already. All other files and all directories stay, and the path that the text was written to leads
to it from then on. -/

namespace CypherPages.FileTree

/-- A tree after a text was written to the file that a path names. -/
structure Written (before : FileTree) (path : Path) (text : Text) (after : FileTree) : Prop where
  /-- One file holds the text now, and all others are as they were. -/
  file : ∃ place, before.locate path = .ok place ∧ before.isDirectory place = false ∧
    after.files.get? place = some text ∧
      ∀ other, other ≠ place → after.files.get? other = before.files.get? other
  current : after.current = before.current
  directories : ∀ place, after.isDirectory place = before.isDirectory place
  readBack : after.read path = .ok text

/-- The tree with a text as the file at a place. -/
def withFile (tree : FileTree) (place : Place) (text : Text) : FileTree :=
  { tree with files := tree.files.set place text }

variable {tree : FileTree} {place other : Place} {text : Text}

/-! ### Directories -/

theorem isDirectory_iff : tree.isDirectory place = true ↔ place = [] ∨
    (∃ directory ∈ tree.current :: tree.directories, place <+: directory) ∨
      ∃ file ∈ tree.files.map Prod.fst, place <+: file ∧ place ≠ file := by
  simp only [isDirectory, Bool.or_eq_true, List.isEmpty_iff, List.any_eq_true,
    Bool.and_eq_true, List.isPrefixOf_iff_prefix, bne_iff_ne, ne_eq, or_assoc, List.mem_map]
  refine or_congr_right (or_congr_right ⟨?_, ?_⟩)
  · rintro ⟨entry, hentry, hunder⟩
    exact ⟨_, ⟨entry, hentry, rfl⟩, hunder⟩
  · rintro ⟨_, ⟨entry, hentry, rfl⟩, hunder⟩
    exact ⟨entry, hentry, hunder⟩

/-- What leads to a directory is a directory. -/
theorem isDirectory_of_prefix (h : tree.isDirectory place = true) (hunder : other <+: place) :
    tree.isDirectory other = true := by
  rw [isDirectory_iff] at h ⊢
  rcases h with rfl | ⟨directory, hdirectory, hplace⟩ | ⟨file, hfile, hplace, hne⟩
  · exact .inl (List.prefix_nil.mp hunder)
  · exact .inr (.inl ⟨directory, hdirectory, hunder.trans hplace⟩)
  · refine .inr (.inr ⟨file, hfile, hunder.trans hplace, ?_⟩)
    rintro rfl
    exact hne (hplace.eq_of_length_le hunder.length_le)

/-- Everything on the way to a place is a directory. -/
def Approached (tree : FileTree) (place : Place) : Prop :=
  ∀ other, other <+: place → other ≠ place → tree.isDirectory other = true

theorem approached_of_isDirectory (h : tree.isDirectory place = true) : tree.Approached place :=
  fun _ hunder _ => isDirectory_of_prefix h hunder

/-- Names lead from directory to directory. -/
theorem approached_of_follow {names : List Text} {last : Place} (hplace : tree.Approached place)
    (h : tree.follow place names = .ok last) : tree.Approached last := by
  induction names generalizing place with
  | nil => cases h; exact hplace
  | cons name rest ih =>
      rw [follow] at h
      split_ifs at h with hfile habsent hup hlong
      all_goals have hdirectory : tree.isDirectory place = true := by simpa using habsent
      · exact ih (fun other hother _ => isDirectory_of_prefix hdirectory
          (hother.trans (List.dropLast_prefix place))) h
      · exact ih (fun other hother hne => isDirectory_of_prefix hdirectory
          ((List.prefix_concat_iff.mp hother).resolve_left hne)) h

theorem approached_of_locate {path : Path} (h : tree.locate path = .ok place) :
    tree.Approached place := by
  refine approached_of_follow (approached_of_isDirectory ?_) h
  rw [isDirectory_iff]
  split
  · exact .inl rfl
  · exact .inr (.inl ⟨tree.current, List.mem_cons_self, List.prefix_rfl⟩)

/-! ### Another file -/

/-- A file makes no directory of anything. -/
theorem isDirectory_withFile (h : tree.Approached place) (text : Text) (other : Place) :
    (tree.withFile place text).isDirectory other = tree.isDirectory other := by
  rw [Bool.eq_iff_iff]
  constructor
  · rw [isDirectory_iff]
    rintro (rfl | hdirectory | ⟨file, hfile, hunder, hne⟩)
    · exact isDirectory_iff.mpr (.inl rfl)
    · exact isDirectory_iff.mpr (.inr (.inl hdirectory))
    · rcases Entries.mem_keys_set hfile with rfl | hfile
      · exact h other hunder hne
      · exact isDirectory_iff.mpr (.inr (.inr ⟨file, hfile, hunder, hne⟩))
  · rw [isDirectory_iff, isDirectory_iff]
    refine Or.imp_right (Or.imp_right ?_)
    rintro ⟨file, hfile, hunder⟩
    exact ⟨file, Entries.mem_keys_set_of_mem hfile, hunder⟩

theorem isFile_withFile (hne : other ≠ place) (text : Text) :
    (tree.withFile place text).isFile other = tree.isFile other := by
  have hother : (place == other) = false := beq_eq_false_iff_ne.mpr hne.symm
  rw [isFile, withFile, Entries.get?_set, hother, if_neg Bool.false_ne_true, isFile]

/-- A file where no directory is stands in nobody's way. -/
theorem follow_withFile (happroached : tree.Approached place)
    (hplace : tree.isDirectory place = false) {names : List Text} {start last : Place}
    (h : tree.follow start names = .ok last) :
    (tree.withFile place text).follow start names = .ok last := by
  induction names generalizing start with
  | nil => exact h
  | cons name rest ih =>
      rw [follow] at h ⊢
      split_ifs at h with hfile habsent hup hlong
      -- A name is looked up in a directory only, and no directory is where the file is.
      all_goals
        have hne : start ≠ place := by
          rintro rfl
          simp [hplace] at habsent
        rw [isFile_withFile hne, isDirectory_withFile happroached, if_neg hfile, if_neg habsent]
      · rw [if_pos hup, ih h]
      · rw [if_neg hup, if_neg hlong, ih h]

/-! ### Writing -/

theorem write_eq_ok {path : Path} {after : FileTree} (h : tree.write path text = .ok after) :
    ∃ place, tree.locate path = .ok place ∧ tree.isDirectory place = false ∧
      after = tree.withFile place text := by
  rw [write] at h
  cases hplace : tree.locate path with
  | error fault => rw [hplace] at h; cases h
  | ok place =>
      simp only [hplace] at h
      split_ifs at h with hdirectory
      cases h
      exact ⟨place, rfl, Bool.eq_false_iff.mpr hdirectory, rfl⟩

theorem write_of_locate {path : Path} (hlocate : tree.locate path = .ok place)
    (hplace : tree.isDirectory place = false) (text : Text) :
    tree.write path text = .ok (tree.withFile place text) := by
  simp only [write, hlocate, hplace, Bool.false_eq_true, if_false]
  rfl

theorem written_of_write {path : Path} {after : FileTree} (h : tree.write path text = .ok after) :
    tree.Written path text after := by
  obtain ⟨place, hlocate, hplace, rfl⟩ := write_eq_ok h
  have happroached := approached_of_locate hlocate
  have htext : (tree.withFile place text).files.get? place = some text := by
    rw [withFile, Entries.get?_set, beq_self_eq_true, if_pos rfl]
  refine ⟨⟨place, hlocate, hplace, htext, fun other hother => ?_⟩, rfl,
    isDirectory_withFile happroached text, ?_⟩
  · rw [withFile, Entries.get?_set, beq_eq_false_iff_ne.mpr hother.symm,
      if_neg Bool.false_ne_true]
  · have hagain : (tree.withFile place text).locate path = .ok place :=
      follow_withFile happroached hplace hlocate
    simp only [read, hagain, htext]

end CypherPages.FileTree
