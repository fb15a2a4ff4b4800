import ShaderBuild.Proofs.Files.Reading
import ShaderBuild.Proofs.Text.Utf8

namespace ShaderBuild

/-!
# The first readable candidate

A search and the resolver built on it try paths in one order, which is also the order
in which a failed request reports them. A path is passed over unless it can be opened
for reading, whether or not there is a file. No path that ends in a slash is readable,
so the empty name, which is never searched for, would not be found either.
-/

namespace FileTree

theorem read_of_endsInSlash
    {tree : FileTree} {path : String} (ends : endsInSlash path = true) (bytes : List UInt8) :
    tree.read path ≠ .ok bytes := by
  intro reads
  obtain ⟨location, isPlace, -⟩ := read_eq_ok_iff.mp reads
  obtain ⟨-, -, -, -, -, ⟨noSlash, -⟩, -⟩ := place?_eq_some_iff.mp isPlace
  rw [ends] at noSlash
  cases noSlash

theorem isReadable_eq_false_iff {tree : FileTree} {path : String} :
    tree.isReadable path = false ↔ ∀ bytes, tree.read path ≠ .ok bytes := by
  rw [← Bool.not_eq_true, isReadable_iff, not_exists]

theorem readText_of_decode
    {tree : FileTree} {path : String} {bytes : List UInt8} {content : List Char}
    (reads : tree.read path = .ok bytes) (decodes : Text.decode bytes = .ok content) :
    tree.readText path = .ok content := by
  simp only [readText, reads, decodes, bind, Except.bind]

theorem readText_of_undecodable
    {tree : FileTree} {path : String} {bytes : List UInt8} {fault : Text.Malformed}
    (reads : tree.read path = .ok bytes) (fails : Text.decode bytes = .error fault) :
    tree.readText path = .error .notUtf8 := by
  simp only [readText, reads, fails, bind, Except.bind]

end FileTree

/-! ### Candidates -/

@[simp] theorem candidate_empty (name : String) : candidate "" name = name :=
  if_pos rfl

theorem candidate_of_endsInSlash
    {base : String} (ends : FileTree.endsInSlash base = true) (name : String) :
    candidate base name = base ++ name := by
  have notEmpty : base ≠ "" := by
    rintro rfl
    cases ends
  rw [candidate, if_neg notEmpty, if_pos (of_decide_eq_true ends)]

/-- A base that is not written as a directory is joined to the name by a slash. -/
theorem candidate_of_not_endsInSlash
    {base : String} (notEmpty : base ≠ "") (noSlash : FileTree.endsInSlash base = false)
    (name : String) :
    candidate base name = base ++ "/" ++ name := by
  rw [candidate, if_neg notEmpty, if_neg (of_decide_eq_false noSlash)]

/-- Below a base the empty name is the base itself, written as a directory. -/
theorem isReadable_candidate_empty (tree : FileTree) (base : String) :
    tree.isReadable (candidate base "") = false := by
  rw [FileTree.isReadable_eq_false_iff]
  intro bytes reads
  by_cases noBase : base = ""
  · -- The empty path is refused before anything is looked up.
    rw [noBase, candidate_empty] at reads
    obtain ⟨location, isPlace, -⟩ := FileTree.read_eq_ok_iff.mp reads
    obtain ⟨checked, -⟩ := FileTree.place?_eq_some_iff.mp isPlace
    cases checked
  · apply FileTree.read_of_endsInSlash _ bytes reads
    cases ends : FileTree.endsInSlash base with
    | true => rwa [candidate_of_endsInSlash ends, String.append_empty]
    | false =>
        rw [candidate_of_not_endsInSlash noBase ends, String.append_empty]
        simp [FileTree.endsInSlash]

/-! ### Paths tried in order -/

/-- The path is readable and those before it in a list are not. -/
def FileTree.IsFirstReadable (tree : FileTree) (paths : List String) (path : String) : Prop :=
  ∃ before after bytes,
    paths = before ++ path :: after ∧ tree.read path = .ok bytes ∧
      ∀ earlier ∈ before, ∀ others, tree.read earlier ≠ .ok others

theorem FileTree.find?_eq_some_iff_isFirstReadable
    {tree : FileTree} {paths : List String} {path : String} :
    paths.find? tree.isReadable = some path ↔ tree.IsFirstReadable paths path := by
  simp only [List.find?_eq_some_iff_append, FileTree.isReadable_iff, Bool.not_eq_true',
    FileTree.isReadable_eq_false_iff, FileTree.IsFirstReadable]
  constructor
  · rintro ⟨⟨bytes, reads⟩, before, after, split, earlier⟩
    exact ⟨before, after, bytes, split, reads, earlier⟩
  · rintro ⟨before, after, bytes, split, reads, earlier⟩
    exact ⟨⟨bytes, reads⟩, before, after, split, earlier⟩

/--
What a request for a name is answered with by trying paths in order; the paths that
were searched are those of the whole request.
-/
inductive FileTree.Answers (tree : FileTree) (target : String) (searched : List String) :
    List String → Except IncludeFault IncludedSource → Prop where
  | text {path : String} {others : List String} {content : List Char}
      (reads : tree.read path = .ok (Text.encode content)) :
      Answers tree target searched (path :: others) (.ok ⟨path, content⟩)
  /-- A readable file that is no text ends the search. -/
  | noText {path : String} {others : List String} {bytes : List UInt8}
      (reads : tree.read path = .ok bytes)
      (undecodable : ∀ content, bytes ≠ Text.encode content) :
      Answers tree target searched (path :: others)
        (.error (.unreadable path "stream did not contain valid UTF-8"))
  | next {path : String} {others : List String}
      {answer : Except IncludeFault IncludedSource}
      (unreadable : ∀ bytes, tree.read path ≠ .ok bytes)
      (later : Answers tree target searched others answer) :
      Answers tree target searched (path :: others) answer
  | missing : Answers tree target searched [] (.error (.notFound target searched))

namespace FileTree

variable {tree : FileTree} {target path : String} {searched others : List String}
variable {answer : Except IncludeFault IncludedSource}

theorem answers_cons_iff_of_unreadable (unreadable : ∀ bytes, tree.read path ≠ .ok bytes) :
    tree.Answers target searched (path :: others) answer ↔
      tree.Answers target searched others answer := by
  constructor
  · rintro (reads | ⟨reads, -⟩ | ⟨-, later⟩)
    · exact absurd reads (unreadable _)
    · exact absurd reads (unreadable _)
    · exact later
  · exact .next unreadable

/-- A readable path answers at once, whatever follows it. -/
theorem answers_cons_iff_of_read
    {bytes : List UInt8} (reads : tree.read path = .ok bytes) :
    tree.Answers target searched (path :: others) answer ↔
      (match tree.readText path with
        | .ok content => .ok ⟨path, content⟩
        | .error fault => .error (.unreadable path fault.message)) = answer := by
  cases decodes : Text.decode bytes with
  | ok content =>
      obtain rfl := Text.decode_eq_ok_iff.mp decodes
      rw [readText_of_decode reads decodes]
      constructor
      · rintro (again | ⟨again, undecodable⟩ | ⟨unreadable, -⟩)
        · rw [reads, Except.ok.injEq] at again
          rw [Text.decode_eq_ok_iff.mpr again, Except.ok.injEq] at decodes
          rw [decodes]
        · rw [reads, Except.ok.injEq] at again
          exact absurd again.symm (undecodable content)
        · exact absurd reads (unreadable _)
      · rintro rfl
        exact .text reads
  | error fault =>
      have undecodable : ∀ content, bytes ≠ Text.encode content := by
        intro content isEncoding
        rw [Text.decode_eq_ok_iff.mpr isEncoding] at decodes
        cases decodes
      rw [readText_of_undecodable reads decodes]
      constructor
      · rintro (again | - | ⟨unreadable, -⟩)
        · rw [reads, Except.ok.injEq] at again
          exact absurd again (undecodable _)
        · rfl
        · exact absurd reads (unreadable _)
      · rintro rfl
        exact .noText reads undecodable

end FileTree

namespace SearchPath

variable (search : SearchPath) (tree : FileTree)

theorem find?_eq_find?_candidates (name : String) :
    search.find? tree name = (search.candidates name).find? tree.isReadable := by
  rw [find?]
  split
  · rename_i noName
    symm
    rw [List.find?_eq_none]
    intro path member
    obtain ⟨base, -, rfl⟩ := List.mem_map.mp member
    rw [noName, isReadable_candidate_empty]
    exact Bool.false_ne_true
  · rfl

theorem locateInclude?_eq_find?_candidates (request : IncludeRequest) :
    search.locateInclude? tree request =
      (search.includeCandidates request).find? tree.isReadable := by
  have below := search.find?_eq_find?_candidates tree request.target
  rw [locateInclude?_eq_find?, tried, includeCandidates, List.find?_append, List.find?_append,
    ← below, find?]
  split <;> rfl

/-- The answer to a request, given the paths that are yet to be tried. -/
theorem answers_iff_of_find?
    (target : String) (searched remaining : List String)
    (answer : Except IncludeFault IncludedSource) :
    tree.Answers target searched remaining answer ↔
      (match remaining.find? tree.isReadable with
        | none => .error (.notFound target searched)
        | some path =>
            match tree.readText path with
            | .ok content => .ok ⟨path, content⟩
            | .error fault => .error (.unreadable path fault.message)) = answer := by
  induction remaining with
  | nil =>
      constructor
      · rintro ⟨⟩
        rfl
      · rintro rfl
        exact .missing
  | cons path others inductionHypothesis =>
      rw [List.find?_cons]
      cases isReadable : tree.isReadable path with
      | false =>
          rw [FileTree.answers_cons_iff_of_unreadable (FileTree.isReadable_eq_false_iff.mp isReadable)]
          exact inductionHypothesis
      | true =>
          obtain ⟨bytes, reads⟩ := FileTree.isReadable_iff.mp isReadable
          exact FileTree.answers_cons_iff_of_read reads

/--
A request is answered from the first readable path among the one beside the requesting
source, which only a relative name in quotes has, and those below the bases; when no
path is readable, all of them are reported. A search finds the first readable path
below its bases, and searching two lists of bases is searching the second one where
the first one has nothing.
-/
theorem resolver_takes_first_readable :
    (∀ request answer,
      let beside :=
        if request.kind = .relative ∧ Path.isAbsolute request.target = false then
          [candidate ((Path.parent? request.requestingSource).getD "") request.target]
        else []
      let paths := beside ++ search.bases.map fun base => candidate base request.target
      (search.resolver tree).resolve request = answer ↔
        tree.Answers request.target paths paths answer) ∧
      (∀ name path,
        search.find? tree name = some path ↔
          tree.IsFirstReadable (search.bases.map fun base => candidate base name) path) ∧
        ∀ others name,
          find? ⟨search.bases ++ others⟩ tree name =
            (search.find? tree name).or (find? ⟨others⟩ tree name) := by
  refine ⟨?_, ?_, ?_⟩
  · intro request answer beside paths
    have paths_eq : search.includeCandidates request = paths := by
      rw [includeCandidates, sibling?]
      by_cases isBeside : request.kind = .relative ∧ Path.isAbsolute request.target = false
      · simp [paths, beside, candidates, isBeside]
      · have notBeside :
            ¬(decide (request.kind = .relative) && !Path.isAbsolute request.target) := by
          simpa using isBeside
        simp [paths, beside, candidates, isBeside, notBeside]
    rw [answers_iff_of_find?, ← paths_eq, ← locateInclude?_eq_find?_candidates]
    rfl
  · intro name path
    rw [find?_eq_find?_candidates, FileTree.find?_eq_some_iff_isFirstReadable, candidates]
  · intro others name
    rw [find?_eq_find?_candidates, find?_eq_find?_candidates, find?_eq_find?_candidates,
      candidates, candidates, candidates, List.map_append, List.find?_append]

/-- A file that may not be opened is passed over, although it is there. -/
example :
    let tree : FileTree :=
      ⟨[(["a"], .directory), (["a", "x"], .file []), (["b"], .directory), (["b", "x"], .file [])],
        [], []⟩
    find? ⟨["a", "b"]⟩ tree "x" = some "a/x" ∧
      find? ⟨["a", "b"]⟩ (tree.lock ["a", "x"]) "x" = some "b/x" := by
  decide +kernel

end SearchPath

end ShaderBuild
