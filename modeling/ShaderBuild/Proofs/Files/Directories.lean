import ShaderBuild.Proofs.Files.Places

namespace ShaderBuild

/-!
# Directories above files

The path of what holds a file leads there by fewer names of the same text, so that
where a file has a place the directory above it exists. Making directories that
exist changes nothing; otherwise the ones that are missing are added, and nothing
that was there is lost.
-/

namespace Path

/-! ### Texts and segments -/

theorem segments_ne_nil (text : List Char) : segments text ≠ [] := by
  cases text with
  | nil => simp [segments]
  | cons c rest =>
      rw [segments]
      split
      · simp
      · split <;> simp

theorem ofSegments_cons
    (segment : List Char) {others : List (List Char)} (notLast : others ≠ []) :
    ofSegments (segment :: others) = segment ++ '/' :: ofSegments others := by
  cases others with
  | nil => exact absurd rfl notLast
  | cons next rest => simp [ofSegments]

theorem ofSegments_append
    {first second : List (List Char)} (hasFirst : first ≠ []) (hasSecond : second ≠ []) :
    ofSegments (first ++ second) = ofSegments first ++ '/' :: ofSegments second := by
  induction first with
  | nil => exact absurd rfl hasFirst
  | cons segment others inductionHypothesis =>
      rw [List.cons_append, ofSegments_cons _ (by simp [hasSecond])]
      cases others with
      | nil => rw [List.nil_append, ofSegments]
      | cons next rest =>
          rw [inductionHypothesis (by simp), ofSegments_cons segment (List.cons_ne_nil next rest),
            List.append_assoc, List.cons_append]

theorem ofSegments_segments (text : List Char) : ofSegments (segments text) = text := by
  induction text with
  | nil => rw [segments, ofSegments]
  | cons c rest inductionHypothesis =>
      rw [segments]
      split
      · rename_i isSlash
        rw [ofSegments_cons _ (segments_ne_nil rest), inductionHypothesis, isSlash,
          List.nil_append]
      · cases split : segments rest with
        | nil => exact absurd split (segments_ne_nil rest)
        | cons segment others =>
            rw [split] at inductionHypothesis
            cases others with
            | nil =>
                rw [ofSegments] at inductionHypothesis
                simp only [ofSegments, inductionHypothesis]
            | cons next remaining =>
                rw [ofSegments_cons _ (by simp)] at inductionHypothesis
                simp only [ofSegments_cons _ (List.cons_ne_nil next remaining), List.cons_append,
                  inductionHypothesis]

theorem slash_notMem_of_mem_segments
    {text segment : List Char} (member : segment ∈ segments text) :
    '/' ∉ segment := by
  induction text generalizing segment with
  | nil =>
      rw [segments, List.mem_singleton] at member
      simp [member]
  | cons c rest inductionHypothesis =>
      rw [segments] at member
      split at member
      · rcases List.mem_cons.mp member with rfl | isLater
        · simp
        · exact inductionHypothesis isLater
      · rename_i noSlash
        cases split : segments rest with
        | nil => exact absurd split (segments_ne_nil rest)
        | cons first others =>
            simp only [split, List.mem_cons] at member inductionHypothesis
            rcases member with rfl | isLater
            · simpa [Ne.symm noSlash] using inductionHypothesis (Or.inl rfl)
            · exact inductionHypothesis (Or.inr isLater)

theorem segments_append_slash
    {segment : List Char} (noSlash : '/' ∉ segment) (rest : List Char) :
    segments (segment ++ '/' :: rest) = segment :: segments rest := by
  induction segment with
  | nil => rw [List.nil_append, segments, if_pos rfl]
  | cons c others inductionHypothesis =>
      rw [List.mem_cons, not_or] at noSlash
      rw [List.cons_append, segments, if_neg (Ne.symm noSlash.1), inductionHypothesis noSlash.2]

theorem segments_of_slash_notMem {segment : List Char} (noSlash : '/' ∉ segment) :
    segments segment = [segment] := by
  induction segment with
  | nil => rw [segments]
  | cons c others inductionHypothesis =>
      rw [List.mem_cons, not_or] at noSlash
      rw [segments, if_neg (Ne.symm noSlash.1), inductionHypothesis noSlash.2]

theorem segments_append
    {text tail last : List Char} {before : List (List Char)}
    (split : segments text = before ++ [last]) (noSlash : '/' ∉ tail) :
    segments (text ++ tail) = before ++ [last ++ tail] := by
  induction text generalizing before last with
  | nil =>
      have only : [] ++ [[]] = before ++ [last] := split
      obtain ⟨rfl, rfl⟩ := List.append_singleton_inj.mp only
      rw [List.nil_append, segments_of_slash_notMem noSlash]
      rfl
  | cons c rest inductionHypothesis =>
      rw [segments] at split
      rw [List.cons_append, segments]
      split at split
      · rename_i isSlash
        rw [if_pos isSlash]
        cases before with
        | nil => simp [segments_ne_nil] at split
        | cons first others =>
            obtain ⟨rfl, goesOn⟩ := List.cons.inj split
            rw [inductionHypothesis goesOn, List.cons_append]
      · rename_i isText
        rw [if_neg isText]
        cases parts : segments rest with
        | nil => exact absurd parts (segments_ne_nil rest)
        | cons first others =>
            rw [parts] at split
            cases before with
            | nil =>
                obtain ⟨rfl, rfl⟩ := List.cons.inj split
                have alone : segments rest = [] ++ [first] := parts
                rw [inductionHypothesis alone]
                rfl
            | cons second more =>
                obtain ⟨rfl, rfl⟩ := List.cons.inj split
                have goesOn : segments rest = (first :: more) ++ [last] := parts
                rw [inductionHypothesis goesOn]
                rfl

theorem segments_ofSegments
    {parts : List (List Char)} (notEmpty : parts ≠ [])
    (noSlash : ∀ segment ∈ parts, '/' ∉ segment) :
    segments (ofSegments parts) = parts := by
  induction parts with
  | nil => exact absurd rfl notEmpty
  | cons segment others inductionHypothesis =>
      obtain ⟨noSlashHere, noSlashLater⟩ := List.forall_mem_cons.mp noSlash
      by_cases isLast : others = []
      · rw [isLast, ofSegments, segments_of_slash_notMem noSlashHere]
      · rw [ofSegments_cons _ isLast, segments_append_slash noSlashHere,
          inductionHypothesis isLast noSlashLater]

/-! ### Parents -/

/-- A stem ends in a segment that is not empty. -/
theorem exists_of_mem_stems
    {taken parts stem : List (List Char)} (member : stem ∈ stems taken parts) :
    ∃ between name rest,
      name ≠ [] ∧ parts = between ++ name :: rest ∧ stem = taken ++ (between ++ [name]) := by
  induction parts generalizing taken with
  | nil => cases member
  | cons segment others inductionHypothesis =>
      have later (isLater : stem ∈ stems (taken ++ [segment]) others) :
          ∃ between name rest,
            name ≠ [] ∧ segment :: others = between ++ name :: rest ∧
              stem = taken ++ (between ++ [name]) := by
        obtain ⟨between, name, rest, isName, rfl, rfl⟩ := inductionHypothesis isLater
        exact ⟨segment :: between, name, rest, isName, rfl, by simp⟩
      simp only [stems] at member
      split at member
      · rename_i segmentCounts
        rcases List.mem_cons.mp member with rfl | isLater
        · refine ⟨[], segment, others, ?_, rfl, rfl⟩
          rintro rfl
          simp [counts] at segmentCounts
        · exact later isLater
      · exact later member

/-- Each stem goes on from the ones before it, to a further segment that is not empty. -/
theorem pairwise_stems (taken parts : List (List Char)) :
    (stems taken parts).Pairwise fun shorter longer =>
      ∃ between name, name ≠ [] ∧ longer = shorter ++ (between ++ [name]) := by
  induction parts generalizing taken with
  | nil => exact List.Pairwise.nil
  | cons segment others inductionHypothesis =>
      simp only [stems]
      split
      · refine List.pairwise_cons.mpr ⟨fun longer isLater => ?_, inductionHypothesis _⟩
        obtain ⟨between, name, -, isName, -, isLonger⟩ := exists_of_mem_stems isLater
        exact ⟨between, name, isName, isLonger⟩
      · exact inductionHypothesis _

/-- A parent is the top or a beginning of the segments that leaves a name behind it. -/
theorem segments_of_parent? {path parent : String} (isParent : parent? path = some parent) :
    parent = top path ∨
      ∃ stem between name rest,
        stem ≠ [] ∧ name ≠ [] ∧ parent = String.ofList (ofSegments stem) ∧
          segments path.toList = stem ++ (between ++ name :: rest) := by
  unfold parent? parents at isParent
  split at isParent
  · cases isParent
  · rename_i longer shorter isReverse
    cases shorter with
    | nil =>
        left
        simpa using isParent.symm
    | cons stem others =>
        right
        -- The parent's stem is the last but one, and the last stem goes on from it.
        rw [List.reverse_eq_iff] at isReverse
        have isStem (part : List (List Char)) (isOne : part = stem ∨ part = longer) :
            part ∈ stems [] (segments path.toList) := by
          rw [isReverse]
          rcases isOne with rfl | rfl <;> simp
        obtain ⟨before, last, -, -, -, stem_eq⟩ := exists_of_mem_stems (isStem stem (Or.inl rfl))
        obtain ⟨upTo, final, rest, -, parts_eq, longer_eq⟩ :=
          exists_of_mem_stems (isStem longer (Or.inr rfl))
        have isPair := pairwise_stems [] (segments path.toList)
        rw [isReverse] at isPair
        simp only [List.reverse_cons, List.append_assoc, List.cons_append, List.nil_append,
          List.pairwise_append, List.pairwise_cons, List.mem_cons, List.not_mem_nil, or_false,
          forall_eq] at isPair
        obtain ⟨between, name, isName, goesOn⟩ := isPair.2.1.1
        refine ⟨stem, between, name, rest, by simp [stem_eq], isName, by simpa using isParent.symm,
          ?_⟩
        calc
          segments path.toList = longer ++ rest := by simp [parts_eq, longer_eq]
          _ = stem ++ (between ++ name :: rest) := by simp [goesOn]

end Path

namespace FileTree

/-! ### The directory above a file -/

/-- The path of something above a path: a beginning of its text, with fewer names. -/
structure IsAbove (above path : String) : Prop where
  text : above.toList <+: path.toList
  names : pathNames above <+: (pathNames path).dropLast

theorem pathNames_of_segments
    {path : String} {parts : List (List Char)} (split : Path.segments path.toList = parts) :
    pathNames path = (parts.filter (· ≠ [])).map String.ofList := by
  rw [pathNames, split]

theorem isAbove_of_parent?
    {path parent : String} (isParent : Path.parent? path = some parent) :
    IsAbove parent path := by
  rcases Path.segments_of_parent? isParent with rfl | ⟨stem, between, name, rest, isStem, isName,
    rfl, split⟩
  · unfold Path.top
    split
    · rename_i isAbsolute
      refine ⟨?_, List.nil_prefix⟩
      obtain ⟨others, starts⟩ :=
        List.head?_eq_some_iff.mp (by simpa [Path.isAbsolute] using isAbsolute)
      exact ⟨others, starts.symm⟩
    · exact ⟨List.nil_prefix, List.nil_prefix⟩
  · have noSlash : ∀ segment ∈ stem, '/' ∉ segment := by
      intro segment member
      have isSegment : segment ∈ Path.segments path.toList := by simp [split, member]
      exact Path.slash_notMem_of_mem_segments isSegment
    have stemNames :
        pathNames (String.ofList (Path.ofSegments stem)) =
          (stem.filter (· ≠ [])).map String.ofList :=
      pathNames_of_segments
        (by rw [String.toList_ofList, Path.segments_ofSegments isStem noSlash])
    refine ⟨⟨'/' :: Path.ofSegments (between ++ name :: rest), ?_⟩, ?_⟩
    · rw [String.toList_ofList, ← Path.ofSegments_append isStem (by simp), ← split,
        Path.ofSegments_segments]
    · rw [pathNames_of_segments split, stemNames, List.filter_append, List.map_append,
        List.dropLast_append_of_ne_nil]
      · exact List.prefix_append _ _
      · simp [isName]

theorem IsAbove.checkPath
    {above path : String} (isAbove : IsAbove above path) (notEmpty : above ≠ "")
    (checked : FileTree.checkPath path = .ok ()) :
    FileTree.checkPath above = .ok () := by
  obtain ⟨others, goesOn⟩ := isAbove.text
  have path_eq : path = above ++ String.ofList others :=
    String.toList_injective (by rw [String.toList_append, String.toList_ofList, goesOn])
  have shorter : above.utf8ByteSize ≤ path.utf8ByteSize := by
    rw [path_eq, String.utf8ByteSize_append]
    exact Nat.le_add_right _ _
  unfold FileTree.checkPath at checked ⊢
  rw [← goesOn, List.contains_eq_mem] at checked
  split at checked
  · cases checked
  · rename_i noNul
    split at checked
    · cases checked
    · split at checked
      · cases checked
      · rw [if_neg, if_neg notEmpty, if_neg (by omega)]
        intro nul
        exact noNul (by simp_all)

/-- Where a path starts is told by any beginning of its text. -/
theorem start_of_text
    {above path : String} (text : above.toList <+: path.toList) (notEmpty : above ≠ "")
    (tree : FileTree) :
    tree.start above = tree.start path := by
  obtain ⟨others, goesOn⟩ := text
  have isText : above.toList ≠ [] := by rwa [Ne, String.toList_eq_nil_iff]
  rw [start, start, Path.isAbsolute, Path.isAbsolute, ← goesOn,
    List.head?_append_of_ne_nil _ isText]

theorem walk?_append
    (tree : FileTree) (location : Location) (first second : List String) :
    tree.walk? location (first ++ second) =
      (tree.walk? location first).bind (tree.walk? · second) := by
  induction first generalizing location with
  | nil =>
      rw [List.nil_append, walk?]
      split
      · rfl
      · rename_i noDirectory
        cases arrives : tree.walk? location second with
        | none => rfl
        | some last => exact absurd (directory_of_walk? arrives) noDirectory
  | cons name others inductionHypothesis =>
      rw [List.cons_append, walk?, walk?, inductionHypothesis]
      split <;> rfl

/-- A path names a directory just if its names lead to one. -/
theorem locate_directory_iff {tree : FileTree} {path : String} {location : Location} :
    (tree.locate path = .ok location ∧ tree.entry? location = some .directory) ↔
      checkPath path = .ok () ∧
        tree.walk? (tree.start path) (pathNames path) = some location := by
  rw [locate_eq_ok_iff, walk?_eq_some_iff, and_assoc]
  refine and_congr_right fun _ => and_congr_left fun isDirectory => ?_
  split
  · rw [follow_concat_eq_ok_iff]
    constructor
    · rintro ⟨directory, follows, -, -, rfl⟩
      exact follows
    · intro follows
      refine ⟨location, follows, ⟨isDirectory, by decide⟩, ?_, rfl⟩
      rw [step, if_pos rfl, isDirectory]
      exact Option.some_ne_none _
  · rfl

theorem ChangesFiles.locate_directory
    {changed : Location → Prop} {tree after : FileTree}
    (changes : ChangesFiles changed tree after) {path : String} {location : Location}
    (locates : tree.locate path = .ok location)
    (isDirectory : tree.entry? location = some .directory) :
    after.locate path = .ok location := by
  obtain ⟨checked, walks⟩ := locate_directory_iff.mp ⟨locates, isDirectory⟩
  refine (locate_directory_iff.mpr ⟨checked, ?_⟩).1
  rw [changes.start_eq, changes.walk?_eq, walks]

theorem isDirectory_iff_walk {tree : FileTree} {path : String} :
    tree.isDirectory path = true ↔
      checkPath path = .ok () ∧
        ∃ location, tree.walk? (tree.start path) (pathNames path) = some location := by
  simp only [isDirectory_iff, locate_directory_iff, exists_and_left]

/-- Where a path has a place, the directory above it exists. -/
theorem isDirectory_of_place?
    {tree : FileTree} {above path : String} {location : Location}
    (isPlace : tree.place? path = some location)
    (isAbove : IsAbove above path) (notEmpty : above ≠ "") :
    tree.isDirectory above = true := by
  obtain ⟨checked, before, name, directory, names, -, walks, -⟩ := place?_eq_some_iff.mp isPlace
  obtain ⟨others, goesOn⟩ := isAbove.names
  rw [names, List.dropLast_concat] at goesOn
  rw [← goesOn, walk?_append, Option.bind_eq_some_iff] at walks
  obtain ⟨reached, arrives, -⟩ := walks
  refine isDirectory_iff_walk.mpr ⟨isAbove.checkPath notEmpty checked, reached, ?_⟩
  rw [start_of_text isAbove.text notEmpty, arrives]

/-! ### Making directories -/

theorem makeDirectory_of_isDirectory
    {tree : FileTree} {path : String} (isDirectory : tree.isDirectory path = true) :
    tree.makeDirectory path = .error .exists := by
  obtain ⟨checked, last, walks⟩ := isDirectory_iff_walk.mp isDirectory
  rcases List.eq_nil_or_concat' (pathNames path) with noNames | ⟨before, name, names⟩
  · simp [makeDirectory, destination, checked, noNames, bind, Except.bind]
  · rw [names, walk?_append, Option.bind_eq_some_iff] at walks
    obtain ⟨directory, walks, arrives⟩ := walks
    obtain ⟨follows, isDirectory⟩ := walk?_eq_some_iff.mp walks
    obtain ⟨goes, isEntry⟩ := walk?_eq_some_iff.mp arrives
    obtain ⟨⟨-, fits⟩, -, goes⟩ := follow_cons_eq_ok_iff.mp goes
    cases goes
    have isThere : tree.checkDirectory directory = .ok () :=
      checkDirectory_eq_ok_iff.mpr isDirectory
    by_cases isName : name = "." ∨ name = ".."
    · simp [makeDirectory, destination, checked, names, follows, isThere, isName, bind,
        Except.bind]
    · rw [not_or] at isName
      rw [step, if_neg isName.1, if_neg isName.2] at isEntry
      simp [makeDirectory, destination, checked, names, follows, isThere, isName, bind,
        Except.bind, checkLength_eq_ok_iff.mpr fits, isEntry]

theorem makeDirectories_of_isDirectory
    {tree : FileTree} {path : String} (isDirectory : tree.isDirectory path = true) :
    tree.makeDirectories path = ⟨tree, none⟩ := by
  unfold makeDirectories
  cases Path.parents path <;>
    simp [makeDirectoriesBelow, makeDirectory_of_isDirectory isDirectory, isDirectory]

/-- Between two trees directories are added, at some of the given paths, and nothing else. -/
structure AddsDirectories (paths : List String) (tree after : FileTree) : Prop where
  workingDirectory : after.workingDirectory = tree.workingDirectory
  unreadable : after.unreadable = tree.unreadable
  kept :
    ∀ location entry, tree.entry? location = some entry → after.entry? location = some entry
  added :
    ∀ location, tree.entry? location = none → after.entry? location ≠ none →
      after.entry? location = some .directory ∧
        ∃ path ∈ paths, after.locate path = .ok location

theorem walk?_of_kept
    {tree after : FileTree} {location last : Location} {names : List String}
    (kept : ∀ location,
      tree.entry? location = some .directory → after.entry? location = some .directory)
    (walks : tree.walk? location names = some last) :
    after.walk? location names = some last := by
  induction names generalizing location with
  | nil =>
      rw [walk?, Option.ite_none_right_eq_some] at walks ⊢
      exact ⟨kept _ walks.1, walks.2⟩
  | cons name others inductionHypothesis =>
      rw [walk?, Option.ite_none_right_eq_some] at walks ⊢
      exact ⟨⟨kept _ walks.1.1, walks.1.2⟩, inductionHypothesis walks.2⟩

namespace AddsDirectories

variable {paths morePaths : List String} {tree after last : FileTree}

protected theorem refl (paths : List String) (tree : FileTree) :
    AddsDirectories paths tree tree :=
  ⟨rfl, rfl, fun _ _ => id, fun _ isFree isTaken => absurd isFree isTaken⟩

theorem of_subset (adds : AddsDirectories paths tree after) (subset : paths ⊆ morePaths) :
    AddsDirectories morePaths tree after where
  workingDirectory := adds.workingDirectory
  unreadable := adds.unreadable
  kept := adds.kept
  added location isFree isTaken := by
    obtain ⟨isDirectory, path, member, locates⟩ := adds.added location isFree isTaken
    exact ⟨isDirectory, path, subset member, locates⟩

theorem locate_directory
    (adds : AddsDirectories paths tree after) {path : String} {location : Location}
    (locates : tree.locate path = .ok location)
    (isDirectory : tree.entry? location = some .directory) :
    after.locate path = .ok location := by
  obtain ⟨checked, walks⟩ := locate_directory_iff.mp ⟨locates, isDirectory⟩
  refine (locate_directory_iff.mpr ⟨checked, ?_⟩).1
  rw [start, adds.workingDirectory]
  exact walk?_of_kept (adds.kept · _) walks

protected theorem trans
    (first : AddsDirectories paths tree after) (second : AddsDirectories paths after last) :
    AddsDirectories paths tree last where
  workingDirectory := second.workingDirectory.trans first.workingDirectory
  unreadable := second.unreadable.trans first.unreadable
  kept location entry holds := second.kept _ _ (first.kept _ _ holds)
  added location isFree isTaken := by
    cases between : after.entry? location with
    | none => exact second.added location between isTaken
    | some entry =>
        obtain ⟨isDirectory, path, member, locates⟩ :=
          first.added location isFree (by simp [between])
        exact ⟨second.kept _ _ isDirectory, path, member,
          second.locate_directory locates isDirectory⟩

theorem of_makeDirectory
    {path : String} (member : path ∈ paths) (makes : tree.makeDirectory path = .ok after) :
    AddsDirectories paths tree after := by
  obtain ⟨directory, name, aims, fits, isFree, rfl⟩ := makeDirectory_eq_ok_iff.mp makes
  obtain ⟨checked, before, names, walks, isName⟩ := destination_eq_ok_iff.mp aims
  have notRoot : directory ++ [name] ≠ [] := by simp
  have kept (location : Location) (entry : FileEntry)
      (holds : tree.entry? location = some entry) :
      entry? (tree.put (directory ++ [name]) .directory) location = some entry := by
    rw [entry?_put_of_ne _ (by rintro rfl; simp [isFree] at holds), holds]
  refine ⟨rfl, rfl, kept, fun location wasFree isTaken => ?_⟩
  by_cases isMade : location = directory ++ [name]
  · subst isMade
    have isDirectory := tree.entry?_put_self notRoot .directory
    refine ⟨isDirectory, path, member, (locate_directory_iff.mpr ⟨checked, ?_⟩).1⟩
    rw [names, walk?_append, start_put, walk?_of_kept (kept · _) walks, Option.bind_some, walk?,
      if_pos ⟨kept _ _ (walk?_eq_some_iff.mp walks).2, fits⟩, step, if_neg isName.1,
      if_neg isName.2, walk?, if_pos isDirectory]
  · exact absurd ((entry?_put_of_ne _ isMade _).trans wasFree) isTaken

/-- Whatever becomes of it, making directories only adds the path and ones above it. -/
theorem of_makeDirectoriesBelow (tree : FileTree) (path : String) (parents : List String) :
    AddsDirectories (path :: parents) tree (tree.makeDirectoriesBelow path parents).tree := by
  induction parents generalizing tree path with
  | nil =>
      rw [makeDirectoriesBelow]
      split
      · exact .refl _ _
      · split
        · rename_i makes
          exact of_makeDirectory (List.mem_singleton_self path) makes
        · exact .refl _ _
        · exact .refl _ _
  | cons parent others inductionHypothesis =>
      have below := (inductionHypothesis tree parent).of_subset (List.subset_cons_self path _)
      rw [makeDirectoriesBelow]
      split
      · exact .refl _ _
      · split
        · rename_i makes
          exact of_makeDirectory List.mem_cons_self makes
        · split
          · rename_i ends
            rw [ends] at below
            exact below
          · rename_i ends
            rw [ends] at below
            split
            · rename_i makes
              exact below.trans (of_makeDirectory List.mem_cons_self makes)
            · exact below
        · exact .refl _ _

theorem of_makeDirectories (tree : FileTree) (path : String) :
    AddsDirectories (Path.withParents path) tree (tree.makeDirectories path).tree :=
  of_makeDirectoriesBelow tree path (Path.parents path)

end AddsDirectories

end FileTree

end ShaderBuild
