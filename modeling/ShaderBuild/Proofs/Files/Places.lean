import ShaderBuild.FileTree
import ShaderBuild.Proofs.Fallible

namespace ShaderBuild

/-!
# Places of paths

The place of a path is the location where a file of that name is, or would be made.
It depends on the directories of a tree and on no file, so writing files moves no
place. Reading a path reads the file at its place, if it may be opened, and writing
puts one there.
-/

namespace FileTree

/-! ### Entries -/

theorem entry?_put_self
    (tree : FileTree) {location : Location} (notRoot : location ≠ []) (entry : FileEntry) :
    entry? (tree.put location entry) location = some entry := by
  unfold entry? put
  rw [if_neg notRoot, List.find?_append, List.find?_eq_none.mpr]
  · simp
  · intro other member
    simpa using (List.mem_filter.mp member).2

theorem entry?_put_of_ne
    (tree : FileTree) {location other : Location}
    (different : other ≠ location) (entry : FileEntry) :
    entry? (tree.put location entry) other = tree.entry? other := by
  unfold entry? put
  split
  · rfl
  · have sameTest :
        (fun held : Location × FileEntry =>
            decide (decide (held.1 ≠ location) = true ∧ decide (held.1 = other) = true)) =
          fun held => decide (held.1 = other) := by
      funext held
      by_cases isOther : held.1 = other <;> simp [isOther, different]
    rw [List.find?_append, List.find?_filter, sameTest, List.find?_singleton,
      if_neg (by simpa using different.symm), Option.or_none]

@[simp] theorem start_put
    (tree : FileTree) (location : Location) (entry : FileEntry) (path : String) :
    (tree.put location entry).start path = tree.start path := rfl

/-! ### Walking through directories -/

/-- Follow names from a location through directories, to a directory. -/
def walk? (tree : FileTree) (location : Location) : List String → Option Location
  | [] => if tree.entry? location = some .directory then some location else none
  | name :: others =>
      if tree.entry? location = some .directory ∧ name.utf8ByteSize ≤ nameLimit then
        tree.walk? (step location name) others
      else
        none

theorem checkDirectory_eq_ok_iff {tree : FileTree} {location : Location} :
    tree.checkDirectory location = .ok () ↔ tree.entry? location = some .directory := by
  unfold checkDirectory
  split <;> simp_all

theorem checkLength_eq_ok_iff {name : String} :
    checkLength name = .ok () ↔ name.utf8ByteSize ≤ nameLimit := by
  unfold checkLength
  split <;> simp_all

theorem checkName_eq_ok_iff {tree : FileTree} {location : Location} {name : String} :
    tree.checkName location name = .ok () ↔
      tree.entry? location = some .directory ∧ name.utf8ByteSize ≤ nameLimit := by
  rw [checkName, check_bind_eq_ok_iff, checkDirectory_eq_ok_iff, checkLength_eq_ok_iff]

theorem follow_cons_eq_ok_iff
    {tree : FileTree} {location last : Location} {name : String} {others : List String} :
    tree.follow location (name :: others) = .ok last ↔
      (tree.entry? location = some .directory ∧ name.utf8ByteSize ≤ nameLimit) ∧
        tree.entry? (step location name) ≠ none ∧
          tree.follow (step location name) others = .ok last := by
  rw [follow, check_bind_eq_ok_iff, checkName_eq_ok_iff]
  refine and_congr_right fun _ => ?_
  cases found : tree.entry? (step location name) <;> simp [found]

/-- A walk along names comes to a further name where it comes to a directory. -/
theorem follow_concat_eq_ok_iff
    {tree : FileTree} {location last : Location} {names : List String} {name : String} :
    tree.follow location (names ++ [name]) = .ok last ↔
      ∃ directory,
        tree.follow location names = .ok directory ∧
          (tree.entry? directory = some .directory ∧ name.utf8ByteSize ≤ nameLimit) ∧
            tree.entry? (step directory name) ≠ none ∧ step directory name = last := by
  induction names generalizing location with
  | nil =>
      rw [List.nil_append, follow_cons_eq_ok_iff]
      simp [follow]
  | cons first others inductionHypothesis =>
      rw [List.cons_append, follow_cons_eq_ok_iff, inductionHypothesis]
      simp only [follow_cons_eq_ok_iff]
      constructor
      · rintro ⟨isDirectory, isEntry, directory, follows, rest⟩
        exact ⟨directory, ⟨isDirectory, isEntry, follows⟩, rest⟩
      · rintro ⟨directory, ⟨isDirectory, isEntry, follows⟩, rest⟩
        exact ⟨isDirectory, isEntry, directory, follows, rest⟩

theorem directory_of_walk?
    {tree : FileTree} {location last : Location} {names : List String}
    (walks : tree.walk? location names = some last) :
    tree.entry? location = some .directory := by
  cases names with
  | nil =>
      rw [walk?] at walks
      split at walks
      · assumption
      · cases walks
  | cons name others =>
      rw [walk?] at walks
      split at walks
      · rename_i canGo
        exact canGo.1
      · cases walks

/-- Names lead to a directory just if they lead through directories. -/
theorem walk?_eq_some_iff
    {tree : FileTree} {location last : Location} {names : List String} :
    tree.walk? location names = some last ↔
      tree.follow location names = .ok last ∧ tree.entry? last = some .directory := by
  induction names generalizing location with
  | nil =>
      rw [walk?, follow]
      by_cases isDirectory : tree.entry? location = some .directory
      · rw [if_pos isDirectory]
        constructor
        · rintro ⟨⟩
          exact ⟨rfl, isDirectory⟩
        · rintro ⟨⟨⟩, -⟩
          rfl
      · rw [if_neg isDirectory]
        constructor
        · rintro ⟨⟩
        · rintro ⟨⟨⟩, noDirectory⟩
          exact absurd noDirectory isDirectory
  | cons name others inductionHypothesis =>
      rw [walk?, follow_cons_eq_ok_iff]
      split
      · rename_i canGo
        rw [inductionHypothesis]
        constructor
        · rintro ⟨follows, isDirectory⟩
          refine ⟨⟨canGo, ?_, follows⟩, isDirectory⟩
          rw [directory_of_walk? (inductionHypothesis.mpr ⟨follows, isDirectory⟩)]
          exact Option.some_ne_none _
        · rintro ⟨⟨-, -, follows⟩, isDirectory⟩
          exact ⟨follows, isDirectory⟩
      · rename_i cannotGo
        constructor
        · rintro ⟨⟩
        · rintro ⟨⟨canGo, -⟩, -⟩
          exact absurd canGo cannotGo

/-! ### Places -/

/-- The location of the file that a path names, whether or not there is one. -/
def place? (tree : FileTree) (path : String) : Option Location :=
  match checkPath path with
  | .error _ => none
  | .ok () =>
      (pathNames path).getLast?.bind fun name =>
        if endsInSlash path = false ∧ name.utf8ByteSize ≤ nameLimit then
          (tree.walk? (tree.start path) (pathNames path).dropLast).map (step · name)
        else
          none

theorem place?_eq_some_iff {tree : FileTree} {path : String} {location : Location} :
    tree.place? path = some location ↔
      checkPath path = .ok () ∧
        ∃ before name directory,
          pathNames path = before ++ [name] ∧
            (endsInSlash path = false ∧ name.utf8ByteSize ≤ nameLimit) ∧
              tree.walk? (tree.start path) before = some directory ∧
                step directory name = location := by
  unfold place?
  cases checkPath path with
  | error fault =>
      simp
  | ok nothing =>
      simp only [Option.bind_eq_some_iff, List.getLast?_eq_some_iff, Option.ite_none_right_eq_some,
        Option.map_eq_some_iff, true_and]
      constructor
      · rintro ⟨name, ⟨before, names⟩, fits, directory, walks, arrives⟩
        rw [names, List.dropLast_concat] at walks
        exact ⟨before, name, directory, names, fits, walks, arrives⟩
      · rintro ⟨before, name, directory, names, fits, walks, arrives⟩
        refine ⟨name, ⟨before, names⟩, fits, directory, ?_, arrives⟩
        rw [names, List.dropLast_concat]
        exact walks

/-! ### Looking up -/

theorem locate_eq_ok_iff {tree : FileTree} {path : String} {location : Location} :
    tree.locate path = .ok location ↔
      checkPath path = .ok () ∧
        tree.follow (tree.start path)
            (if endsInSlash path then pathNames path ++ ["."] else pathNames path) =
          .ok location := by
  rw [locate, check_bind_eq_ok_iff]

theorem lookup_eq_ok_iff {tree : FileTree} {path : String} {entry : FileEntry} :
    tree.lookup path = .ok entry ↔
      ∃ location, tree.locate path = .ok location ∧ tree.entry? location = some entry := by
  rw [lookup, bind_eq_ok_iff]
  refine exists_congr fun location => and_congr_right fun _ => ?_
  cases tree.entry? location <;> simp

/-- What is open for reading is what a path names, where that may be opened. -/
theorem openEntry_eq_ok_iff {tree : FileTree} {path : String} {entry : FileEntry} :
    tree.openEntry path = .ok entry ↔
      ∃ location, tree.locate path = .ok location ∧
        location ∉ tree.unreadable ∧ tree.entry? location = some entry := by
  rw [openEntry, bind_eq_ok_iff]
  refine exists_congr fun location => and_congr_right fun isLocation => ?_
  split
  · rename_i locked
    simp [locked]
  · rename_i notLocked
    rw [lookup_eq_ok_iff]
    simp [isLocation, notLocked]

theorem read_eq_ok_iff_openEntry {tree : FileTree} {path : String} {content : List UInt8} :
    tree.read path = .ok content ↔ tree.openEntry path = .ok (.file content) := by
  rw [read, bind_eq_ok_iff]
  constructor
  · rintro ⟨entry, opens, isFile⟩
    cases entry <;> cases isFile
    exact opens
  · intro opens
    exact ⟨_, opens, rfl⟩

/-- A path is readable just if it can be read. -/
theorem isReadable_iff {tree : FileTree} {path : String} :
    tree.isReadable path = true ↔ ∃ content, tree.read path = .ok content := by
  simp only [read_eq_ok_iff_openEntry, isReadable]
  split <;> simp_all

theorem isDirectory_iff {tree : FileTree} {path : String} :
    tree.isDirectory path = true ↔
      ∃ location, tree.locate path = .ok location ∧
        tree.entry? location = some .directory := by
  rw [← lookup_eq_ok_iff, isDirectory]
  split <;> simp_all

/-- Only slashes end in no segment. -/
theorem getLast?_of_segments_eq_nil
    {text : List Char} (notEmpty : text ≠ [])
    (noText : ∀ segment ∈ Path.segments text, segment = []) :
    text.getLast? = some '/' := by
  induction text with
  | nil => exact absurd rfl notEmpty
  | cons c rest inductionHypothesis =>
      rw [Path.segments] at noText
      split at noText
      · rename_i isSlash
        rcases List.eq_nil_or_concat' rest with rfl | ⟨before, last, rfl⟩
        · rw [isSlash, List.getLast?_singleton]
        · rw [← List.cons_append, List.getLast?_concat, ← List.getLast?_concat (l := before)]
          refine inductionHypothesis (by simp) fun segment member => ?_
          exact noText segment (List.mem_cons_of_mem _ member)
      · split at noText <;> simp at noText

theorem pathNames_ne_nil
    {path : String} (checked : checkPath path = .ok ()) (noSlash : endsInSlash path = false) :
    pathNames path ≠ [] := by
  intro noNames
  have notEmpty : path.toList ≠ [] := by
    intro empty
    rw [String.toList_eq_nil_iff] at empty
    simp [checkPath, empty] at checked
  refine absurd (getLast?_of_segments_eq_nil notEmpty fun segment member => ?_) ?_
  · simpa using List.filter_eq_nil_iff.mp (List.map_eq_nil_iff.mp noNames) segment member
  · simpa [endsInSlash] using noSlash

/-- A path names the file at a location just if that is its place. -/
theorem locate_file_eq_ok_iff
    {tree : FileTree} {path : String} {location : Location} {content : List UInt8}
    (isFile : tree.entry? location = some (.file content)) :
    tree.locate path = .ok location ↔ tree.place? path = some location := by
  rw [locate_eq_ok_iff, place?_eq_some_iff]
  refine and_congr_right fun checked => ?_
  cases slash : endsInSlash path with
  | true =>
      -- A path that ends in a slash leads to a directory, if anywhere.
      simp only [reduceCtorEq, false_and, and_false, exists_false, iff_false, if_true,
        follow_concat_eq_ok_iff, not_exists]
      rintro directory ⟨-, ⟨isDirectory, -⟩, -, arrives⟩
      rw [← arrives, step, if_pos rfl, isDirectory] at isFile
      cases isFile
  | false =>
      obtain ⟨before, name, names⟩ :=
        (List.eq_nil_or_concat' (pathNames path)).resolve_left (pathNames_ne_nil checked slash)
      simp only [Bool.false_eq_true, if_false, true_and, names, follow_concat_eq_ok_iff,
        walk?_eq_some_iff]
      constructor
      · rintro ⟨directory, follows, ⟨isDirectory, fits⟩, -, arrives⟩
        exact ⟨before, name, directory, rfl, fits, ⟨follows, isDirectory⟩, arrives⟩
      · rintro ⟨before', name', directory, split, fits, ⟨follows, isDirectory⟩, arrives⟩
        obtain ⟨rfl, rfl⟩ := List.append_singleton_inj.mp split
        refine ⟨directory, follows, ⟨isDirectory, fits⟩, ?_, arrives⟩
        rw [arrives, isFile]
        exact Option.some_ne_none _

/-- A path that names a file names the file at its place. -/
theorem lookup_file_eq_ok_iff {tree : FileTree} {path : String} {content : List UInt8} :
    tree.lookup path = .ok (.file content) ↔
      ∃ location, tree.place? path = some location ∧
        tree.entry? location = some (.file content) := by
  rw [lookup_eq_ok_iff]
  exact exists_congr fun location => and_congr_left locate_file_eq_ok_iff

/-- A path is read as the file at its place, where that may be opened. -/
theorem read_eq_ok_iff {tree : FileTree} {path : String} {content : List UInt8} :
    tree.read path = .ok content ↔
      ∃ location, tree.place? path = some location ∧
        location ∉ tree.unreadable ∧ tree.entry? location = some (.file content) := by
  rw [read_eq_ok_iff_openEntry, openEntry_eq_ok_iff]
  exact exists_congr fun location => and_congr_left fun ⟨_, isFile⟩ => locate_file_eq_ok_iff isFile

/-! ### Making something -/

/-- What can be made at a path is the last name in the directory that the others lead to. -/
theorem destination_eq_ok_iff
    {tree : FileTree} {path : String} {directory : Location} {name : String} :
    tree.destination path = .ok (directory, some name) ↔
      checkPath path = .ok () ∧
        ∃ before, pathNames path = before ++ [name] ∧
          tree.walk? (tree.start path) before = some directory ∧ name ≠ "." ∧ name ≠ ".." := by
  rw [destination, check_bind_eq_ok_iff]
  refine and_congr_right fun _ => ?_
  rcases List.eq_nil_or_concat' (pathNames path) with noNames | ⟨before, last, names⟩
  · simp [noNames]
  · simp only [names, List.getLast?_concat, List.dropLast_concat, walk?_eq_some_iff]
    constructor
    · intro aims
      obtain ⟨reached, follows, aims⟩ := bind_eq_ok_iff.mp aims
      obtain ⟨isDirectory, aims⟩ := check_bind_eq_ok_iff.mp aims
      split at aims
      · cases aims
      · rename_i isName
        cases aims
        exact ⟨before, rfl, ⟨follows, checkDirectory_eq_ok_iff.mp isDirectory⟩,
          by simpa using isName⟩
    · rintro ⟨before', split, ⟨follows, isDirectory⟩, isName⟩
      obtain ⟨rfl, rfl⟩ := List.append_singleton_inj.mp split
      refine bind_eq_ok_iff.mpr ⟨directory, follows, check_bind_eq_ok_iff.mpr
        ⟨checkDirectory_eq_ok_iff.mpr isDirectory, ?_⟩⟩
      rw [if_neg (by simpa using isName)]

theorem makeDirectory_eq_ok_iff {tree after : FileTree} {path : String} :
    tree.makeDirectory path = .ok after ↔
      ∃ directory name,
        tree.destination path = .ok (directory, some name) ∧
          name.utf8ByteSize ≤ nameLimit ∧
            tree.entry? (directory ++ [name]) = none ∧
              tree.put (directory ++ [name]) .directory = after := by
  rw [makeDirectory, bind_eq_ok_iff]
  constructor
  · rintro ⟨⟨directory, _ | name⟩, aims, makes⟩
    · cases makes
    · obtain ⟨fits, makes⟩ := check_bind_eq_ok_iff.mp makes
      split at makes
      · cases makes
      · rename_i isFree
        cases makes
        exact ⟨directory, name, aims, checkLength_eq_ok_iff.mp fits, isFree, rfl⟩
  · rintro ⟨directory, name, aims, fits, isFree, rfl⟩
    refine ⟨_, aims, check_bind_eq_ok_iff.mpr ⟨checkLength_eq_ok_iff.mpr fits, ?_⟩⟩
    rw [isFree]

/-- A file that is written is put at its place, where no directory is. -/
theorem place?_of_write
    {tree after : FileTree} {path : String} {content : List UInt8}
    (writes : tree.write path content = .ok after) :
    ∃ location,
      tree.place? path = some location ∧ location ≠ [] ∧
        tree.entry? location ≠ some .directory ∧ after = tree.put location (.file content) := by
  obtain ⟨⟨directory, _ | name⟩, aims, writes⟩ := bind_eq_ok_iff.mp writes
  · cases writes
  · obtain ⟨checked, before, names, walks, notHere, notAbove⟩ := destination_eq_ok_iff.mp aims
    dsimp only at writes
    split at writes
    · cases writes
    · rename_i noSlash
      obtain ⟨fits, writes⟩ := check_bind_eq_ok_iff.mp writes
      split at writes
      · cases writes
      · rename_i noDirectory
        cases writes
        refine ⟨directory ++ [name], place?_eq_some_iff.mpr ⟨checked, before, name, directory,
          names, ⟨by simpa using noSlash, checkLength_eq_ok_iff.mp fits⟩, walks, ?_⟩, by simp,
          noDirectory, rfl⟩
        rw [step, if_neg notHere, if_neg notAbove]

/-! ### Changed files -/

/-- Between two trees only files change, and only at some locations. -/
structure ChangesFiles (changed : Location → Prop) (tree after : FileTree) : Prop where
  workingDirectory : after.workingDirectory = tree.workingDirectory
  unreadable : after.unreadable = tree.unreadable
  directory :
    ∀ location,
      after.entry? location = some .directory ↔ tree.entry? location = some .directory
  elsewhere : ∀ location, ¬changed location → after.entry? location = tree.entry? location

namespace ChangesFiles

variable {changed : Location → Prop} {tree after : FileTree} {path : String}

protected theorem refl (changed : Location → Prop) (tree : FileTree) :
    ChangesFiles changed tree tree :=
  ⟨rfl, rfl, fun _ => Iff.rfl, fun _ _ => rfl⟩

theorem put
    (changes : ChangesFiles changed tree after) {location : Location}
    (isChanged : changed location) (notRoot : location ≠ [])
    (noDirectory : after.entry? location ≠ some .directory) (content : List UInt8) :
    ChangesFiles changed tree (after.put location (.file content)) where
  workingDirectory := changes.workingDirectory
  unreadable := changes.unreadable
  directory other := by
    rw [← changes.directory]
    by_cases same : other = location
    · subst same
      rw [entry?_put_self _ notRoot]
      exact ⟨nofun, fun isDirectory => absurd isDirectory noDirectory⟩
    · rw [entry?_put_of_ne _ same]
  elsewhere other notChanged := by
    rw [← changes.elsewhere other notChanged, entry?_put_of_ne]
    rintro rfl
    exact notChanged isChanged

theorem start_eq (changes : ChangesFiles changed tree after) (path : String) :
    after.start path = tree.start path := by
  rw [start, start, changes.workingDirectory]

theorem walk?_eq
    (changes : ChangesFiles changed tree after) (location : Location) (names : List String) :
    after.walk? location names = tree.walk? location names := by
  induction names generalizing location with
  | nil => simp only [walk?, changes.directory]
  | cons name others inductionHypothesis =>
      simp only [walk?, changes.directory, inductionHypothesis]

theorem place?_eq (changes : ChangesFiles changed tree after) (path : String) :
    after.place? path = tree.place? path := by
  simp only [place?, changes.start_eq, changes.walk?_eq]

/-- A path reads alike if its place is not one that changes. -/
theorem read_eq_ok_iff
    (changes : ChangesFiles changed tree after)
    (kept : ∀ location, tree.place? path = some location → ¬changed location)
    {content : List UInt8} :
    after.read path = .ok content ↔ tree.read path = .ok content := by
  rw [FileTree.read_eq_ok_iff, FileTree.read_eq_ok_iff, changes.place?_eq]
  refine exists_congr fun location => and_congr_right fun isPlace => ?_
  rw [changes.unreadable, changes.elsewhere location (kept location isPlace)]

theorem isReadable_eq
    (changes : ChangesFiles changed tree after)
    (kept : ∀ location, tree.place? path = some location → ¬changed location) :
    after.isReadable path = tree.isReadable path := by
  rw [Bool.eq_iff_iff, isReadable_iff, isReadable_iff]
  exact exists_congr fun _ => changes.read_eq_ok_iff kept

theorem readText_eq_ok_iff
    (changes : ChangesFiles changed tree after)
    (kept : ∀ location, tree.place? path = some location → ¬changed location)
    {text : List Char} :
    after.readText path = .ok text ↔ tree.readText path = .ok text := by
  rw [readText, readText, bind_eq_ok_iff, bind_eq_ok_iff]
  simp only [changes.read_eq_ok_iff kept]

/-- What can be read reads alike, also where it is no text. -/
theorem readText_eq_of_isReadable
    (changes : ChangesFiles changed tree after)
    (kept : ∀ location, tree.place? path = some location → ¬changed location)
    (isReadable : tree.isReadable path = true) :
    after.readText path = tree.readText path := by
  obtain ⟨content, reads⟩ := isReadable_iff.mp isReadable
  rw [readText, readText, reads, (changes.read_eq_ok_iff kept).mpr reads]

end ChangesFiles

end FileTree

end ShaderBuild
