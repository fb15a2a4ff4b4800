import Mathlib.Data.List.Infix
import ShaderBuild.Proofs.Files.Directories

namespace ShaderBuild

/-!
# Absolute paths

A tree is sound if everything in it lies in a directory, under a name that can be
looked up there; making directories and writing files keeps it so. In a sound tree an
absolute path leads through the names of its location, and the paths above it are those
of the directories above the location.
-/

namespace Path

theorem mem_ofSegments_iff {c : Char} (noSlash : c ≠ '/') {parts : List (List Char)} :
    c ∈ ofSegments parts ↔ ∃ segment ∈ parts, c ∈ segment := by
  induction parts with
  | nil => simp [ofSegments]
  | cons segment others inductionHypothesis =>
      rw [List.exists_mem_cons_iff, ← inductionHypothesis]
      by_cases isLast : others = []
      · subst isLast
        simp [ofSegments]
      · rw [ofSegments_cons _ isLast, List.mem_append, List.mem_cons]
        simp [noSlash]

end Path

namespace FileTree

/-! ### Sound trees -/

/-- A name that a file or directory can have. -/
structure IsFileName (name : String) : Prop where
  notEmpty : name ≠ ""
  notHere : name ≠ "."
  notAbove : name ≠ ".."
  noSlash : '/' ∉ name.toList
  noNul : '\x00' ∉ name.toList
  fits : name.utf8ByteSize ≤ nameLimit

instance (name : String) : Decidable (IsFileName name) :=
  decidable_of_iff
    (name ≠ "" ∧ name ≠ "." ∧ name ≠ ".." ∧ '/' ∉ name.toList ∧ '\x00' ∉ name.toList ∧
      name.utf8ByteSize ≤ nameLimit)
    ⟨fun ⟨notEmpty, notHere, notAbove, noSlash, noNul, fits⟩ =>
      ⟨notEmpty, notHere, notAbove, noSlash, noNul, fits⟩,
      fun isName =>
        ⟨isName.notEmpty, isName.notHere, isName.notAbove, isName.noSlash, isName.noNul,
          isName.fits⟩⟩

/-- Everything below the root lies in a directory, under a name. -/
structure IsSound (tree : FileTree) : Prop where
  workingDirectory : tree.entry? tree.workingDirectory = some .directory
  above :
    ∀ location name,
      tree.entry? (location ++ [name]) ≠ none → tree.entry? location = some .directory
  names : ∀ location name, tree.entry? (location ++ [name]) ≠ none → IsFileName name

namespace IsSound

variable {tree after : FileTree}

theorem directory_of_prefix
    (sound : tree.IsSound) {location above : Location}
    (isDirectory : tree.entry? location = some .directory) (isPrefix : above <+: location) :
    tree.entry? above = some .directory := by
  induction location using List.reverseRecOn with
  | nil =>
      rw [List.prefix_nil.mp isPrefix]
      exact isDirectory
  | append_singleton location name inductionHypothesis =>
      rcases List.prefix_concat_iff.mp isPrefix with rfl | isAbove
      · exact isDirectory
      · apply inductionHypothesis _ isAbove
        apply sound.above location name
        rw [isDirectory]
        exact Option.some_ne_none _

/-- A new entry in a directory, or a file over a file, keeps a tree sound. -/
theorem put
    (sound : tree.IsSound) {directory : Location} {name : String} {entry : FileEntry}
    (isDirectory : tree.entry? directory = some .directory) (isName : IsFileName name)
    (mayStand : entry = .directory ∨ tree.entry? (directory ++ [name]) ≠ some .directory) :
    (tree.put (directory ++ [name]) entry).IsSound := by
  have here : entry? (tree.put (directory ++ [name]) entry) (directory ++ [name]) = some entry :=
    tree.entry?_put_self (by simp) entry
  have kept (location : Location) (wasDirectory : tree.entry? location = some .directory) :
      entry? (tree.put (directory ++ [name]) entry) location = some .directory := by
    by_cases isPut : location = directory ++ [name]
    · subst isPut
      rw [here]
      rcases mayStand with rfl | notDirectory
      · rfl
      · exact absurd wasDirectory notDirectory
    · rw [entry?_put_of_ne _ isPut, wasDirectory]
  have listed (location : Location) (last : String)
      (isThere : entry? (tree.put (directory ++ [name]) entry) (location ++ [last]) ≠ none) :
      entry? (tree.put (directory ++ [name]) entry) location = some .directory ∧
        IsFileName last := by
    by_cases isPut : location ++ [last] = directory ++ [name]
    · obtain ⟨rfl, rfl⟩ := List.append_singleton_inj.mp isPut
      exact ⟨kept location isDirectory, isName⟩
    · rw [entry?_put_of_ne _ isPut] at isThere
      exact ⟨kept location (sound.above location last isThere),
        sound.names location last isThere⟩
  exact ⟨kept _ sound.workingDirectory, fun location last isThere => (listed _ _ isThere).1,
    fun location last isThere => (listed _ _ isThere).2⟩

end IsSound

/-- A name in a path that can be looked up is one of a file, unless it is `.` or `..`. -/
theorem isFileName_of_mem_pathNames
    {path name : String} (checked : checkPath path = .ok ()) (member : name ∈ pathNames path)
    (notHere : name ≠ ".") (notAbove : name ≠ "..") (fits : name.utf8ByteSize ≤ nameLimit) :
    IsFileName name := by
  obtain ⟨isSegment, isText⟩ : name.toList ∈ Path.segments path.toList ∧ name.toList ≠ [] := by
    obtain ⟨segment, isSegment, rfl⟩ := List.mem_map.mp member
    simpa using List.mem_filter.mp isSegment
  refine ⟨?_, notHere, notAbove, Path.slash_notMem_of_mem_segments isSegment, ?_, fits⟩
  · rintro rfl
    exact isText rfl
  · intro isNul
    have isInPath : '\x00' ∈ path.toList := by
      rw [← Path.ofSegments_segments path.toList]
      exact (Path.mem_ofSegments_iff (by decide)).mpr ⟨_, isSegment, isNul⟩
    simp [checkPath, isInPath] at checked

namespace IsSound

variable {tree after : FileTree}

theorem makeDirectory
    (sound : tree.IsSound) {path : String} (makes : tree.makeDirectory path = .ok after) :
    after.IsSound := by
  obtain ⟨directory, name, aims, fits, -, rfl⟩ := makeDirectory_eq_ok_iff.mp makes
  obtain ⟨checked, before, names, walks, notHere, notAbove⟩ := destination_eq_ok_iff.mp aims
  apply sound.put (walk?_eq_some_iff.mp walks).2 _ (.inl rfl)
  exact isFileName_of_mem_pathNames checked (by simp [names]) notHere notAbove fits

theorem makeDirectoriesBelow (sound : tree.IsSound) (path : String) (parents : List String) :
    (tree.makeDirectoriesBelow path parents).tree.IsSound := by
  induction parents generalizing tree path with
  | nil =>
      rw [FileTree.makeDirectoriesBelow]
      split
      · exact sound
      · split
        · rename_i makes
          exact sound.makeDirectory makes
        · exact sound
        · exact sound
  | cons parent others inductionHypothesis =>
      have above := inductionHypothesis sound parent
      rw [FileTree.makeDirectoriesBelow]
      split
      · exact sound
      · split
        · rename_i makes
          exact sound.makeDirectory makes
        · split
          · rename_i ends
            rw [ends] at above
            exact above
          · rename_i ends
            rw [ends] at above
            split
            · rename_i makes
              exact above.makeDirectory makes
            · exact above
        · exact sound

theorem write
    (sound : tree.IsSound) {path : String} {content : List UInt8}
    (writes : tree.write path content = .ok after) :
    after.IsSound := by
  obtain ⟨location, isPlace, -, noDirectory, rfl⟩ := place?_of_write writes
  obtain ⟨checked, before, name, directory, names, ⟨-, fits⟩, walks, rfl⟩ :=
    place?_eq_some_iff.mp isPlace
  have isDirectory := (walk?_eq_some_iff.mp walks).2
  -- Behind `.` and `..` there is a directory, which no file is written over.
  have notHere : name ≠ "." := by
    rintro rfl
    exact noDirectory isDirectory
  have notAbove : name ≠ ".." := by
    rintro rfl
    exact noDirectory (sound.directory_of_prefix isDirectory (List.dropLast_prefix directory))
  rw [step, if_neg notHere, if_neg notAbove] at noDirectory ⊢
  apply sound.put isDirectory _ (.inr noDirectory)
  exact isFileName_of_mem_pathNames checked (by simp [names]) notHere notAbove fits

/-- Adding files and directories keeps a tree sound. -/
theorem add (sound : tree.IsSound) (path : String) (entry : FileEntry) :
    (tree.add path entry).IsSound := by
  cases entry with
  | directory => exact sound.makeDirectoriesBelow path _
  | file content =>
      have made := sound.makeDirectoriesBelow ((Path.parent? path).getD "")
        (Path.parents ((Path.parent? path).getD ""))
      rw [FileTree.add]
      split
      · rename_i writes
        exact made.write writes
      · exact made

/-- Whatever is added to a sound tree, one thing after the other, it stays sound. -/
theorem foldl_add (sound : tree.IsSound) (added : List (String × FileEntry)) :
    (added.foldl (fun tree (path, entry) => tree.add path entry) tree).IsSound := by
  induction added generalizing tree with
  | nil => exact sound
  | cons first others inductionHypothesis =>
      rw [List.foldl_cons]
      exact inductionHypothesis (sound.add first.1 first.2)

end IsSound

/-! ### Paths of locations -/

section Names

variable {location : Location} {name : String}

end Names

/-! ### What absolute paths name -/

namespace IsSound

variable {tree : FileTree} {location : Location} {name : String}

end IsSound

end FileTree

end ShaderBuild
