import ShaderBuild.Command
import ShaderBuild.Proofs.Files.Directories
import ShaderBuild.Proofs.Files.Reading

namespace ShaderBuild

/-!
# Checking and compiling

Checking and compiling the same inputs fail alike, as long as no binary is written
over something that a later input is made of. A compilation changes nothing but the
files its binaries are written to and the directories missing above a given output.
-/

namespace FileTree

theorem pathNames_of_last
    {path : String} {parts : List (List Char)} {last : List Char}
    (split : Path.segments path.toList = parts ++ [last]) (isText : last ≠ []) :
    pathNames path = (parts.filter (· ≠ [])).map String.ofList ++ [String.ofList last] := by
  rw [pathNames_of_segments split]
  simp [isText]

/-- The names of an input's default output are the same but for the last one. -/
theorem pathNames_defaultOutput
    {path name : String} {before : List String}
    (noSlash : endsInSlash path = false) (names : pathNames path = before ++ [name]) :
    pathNames (defaultOutput path) = before ++ [name ++ ".spv"] := by
  obtain ⟨parts, last, split⟩ :=
    (List.eq_nil_or_concat' (Path.segments path.toList)).resolve_left (Path.segments_ne_nil _)
  have isText : last ≠ [] := by
    rintro rfl
    by_cases isAlone : parts = []
    · rw [isAlone] at split
      simp [pathNames_of_segments split] at names
    · have ends := Path.ofSegments_segments path.toList
      rw [split, Path.ofSegments_append isAlone (by simp)] at ends
      simp [endsInSlash, ← ends, Path.ofSegments] at noSlash
  have splitOutput :
      Path.segments (defaultOutput path).toList = parts ++ [last ++ ".spv".toList] := by
    rw [defaultOutput, String.toList_append]
    exact Path.segments_append split (by decide)
  rw [pathNames_of_last split isText] at names
  obtain ⟨rfl, rfl⟩ := List.append_singleton_inj.mp names
  rw [pathNames_of_last splitOutput (by simp), String.ofList_append, String.ofList_toList]

/--
Where an input has a place, its default output has one in the same directory, unless its
name is too long.
-/
theorem place?_defaultOutput
    {tree other : FileTree} {path : String} {location place : Location}
    (isPlace : tree.place? path = some location)
    (fits : other.place? (defaultOutput path) = some place) :
    ∃ location, tree.place? (defaultOutput path) = some location := by
  obtain ⟨checked, before, name, directory, names, ⟨noSlash, -⟩, walks, -⟩ :=
    place?_eq_some_iff.mp isPlace
  obtain ⟨checkedOutput, beforeOutput, nameOutput, -, namesOutput, fits, -⟩ :=
    place?_eq_some_iff.mp fits
  have split := (pathNames_defaultOutput noSlash names).symm.trans namesOutput
  obtain ⟨rfl, rfl⟩ := List.append_singleton_inj.mp split
  have notEmpty : path ≠ "" := by
    rintro rfl
    simp [checkPath] at checked
  refine ⟨_, place?_eq_some_iff.mpr
    ⟨checkedOutput, before, _, directory, namesOutput, fits, ?_, rfl⟩⟩
  rw [← start_of_text _ notEmpty, walks]
  rw [defaultOutput, String.toList_append]
  exact List.prefix_append _ _

end FileTree

/-! ### Writing a binary -/

/-- A fault of a write rather than of an input. -/
def CommandFault.isWriting : CommandFault → Bool
  | .file .creatingDirectory _ _ => true
  | .file .writingBinary _ _ => true
  | _ => false

section Writing

variable {tree : FileTree} {path : String} {content : List UInt8}

theorem isWriting_of_writeBinary
    {fault : CommandFault} (fails : (writeBinary tree path content).fault = some fault) :
    fault.isWriting = true := by
  unfold writeBinary at fails
  dsimp only at fails
  split at fails
  · cases fails
    rfl
  · split at fails <;> cases fails
    rfl

/-- A binary that is written is put at its place in the tree with the directories above it. -/
theorem put_of_writeBinary
    (succeeds : (writeBinary tree path content).fault = none) :
    ∃ made location,
      tree.makeDirectories ((Path.parent? path).getD "") = ⟨made, none⟩ ∧
        made.place? path = some location ∧ location ≠ [] ∧
          made.entry? location ≠ some .directory ∧
            (writeBinary tree path content).tree = made.put location (.file content) := by
  unfold writeBinary at succeeds ⊢
  dsimp only at succeeds ⊢
  split at succeeds
  · cases succeeds
  · rename_i made makes
    split at succeeds
    · rename_i after writes
      obtain ⟨location, isPlace, notRoot, noDirectory, rfl⟩ := FileTree.place?_of_write writes
      exact ⟨made, location, makes, isPlace, notRoot, noDirectory, rfl⟩
    · cases succeeds

theorem makeDirectories_empty (tree : FileTree) : tree.makeDirectories "" = ⟨tree, none⟩ := by
  have noParents : Path.parents "" = [] := by decide
  rw [FileTree.makeDirectories, noParents, FileTree.makeDirectoriesBelow, if_pos rfl]

/-- A binary written beside an input that has a place needs no directory. -/
theorem put_of_writeBinary_beside
    {location : Location} (isPlace : tree.place? path = some location)
    (succeeds : (writeBinary tree (defaultOutput path) content).fault = none) :
    ∃ location,
      tree.place? (defaultOutput path) = some location ∧ location ≠ [] ∧
        tree.entry? location ≠ some .directory ∧
          (writeBinary tree (defaultOutput path) content).tree =
            tree.put location (.file content) := by
  obtain ⟨made, location, makes, isMade, notRoot, noDirectory, puts⟩ :=
    put_of_writeBinary succeeds
  obtain ⟨beside, isBeside⟩ := FileTree.place?_defaultOutput isPlace isMade
  have nothingMade :
      tree.makeDirectories ((Path.parent? (defaultOutput path)).getD "") = ⟨tree, none⟩ := by
    cases parent : Path.parent? (defaultOutput path) with
    | none => exact makeDirectories_empty tree
    | some above =>
        by_cases isEmpty : above = ""
        · rw [isEmpty]
          exact makeDirectories_empty tree
        · exact FileTree.makeDirectories_of_isDirectory
            (FileTree.isDirectory_of_place? isBeside (FileTree.isAbove_of_parent? parent) isEmpty)
  -- The tree in which the binary is written is the one at the start.
  rw [nothingMade] at makes
  cases makes
  exact ⟨location, isMade, notRoot, noDirectory, puts⟩

end Writing

namespace Session

theorem place?_of_binary?
    {session : Session} {tree : FileTree} {path : String} {module : ShaderModule}
    (isBinary : session.binary? tree path = some module) :
    ∃ location, tree.place? path = some location := by
  obtain ⟨_, text, -, reads, -⟩ := binary?_eq_some_iff.mp isBinary
  obtain ⟨content, reads, -⟩ := bind_eq_ok_iff.mp reads
  obtain ⟨location, isPlace, -⟩ := FileTree.read_eq_ok_iff.mp reads
  exact ⟨location, isPlace⟩

end Session

namespace Command

/-- Where the binary of an input goes. -/
def destination (output : Option String) (input : String) : String :=
  output.getD (defaultOutput input)

/-! ### One input -/

section OneInput

variable {session : Session} {tree : FileTree} {input : String}

theorem compileFile_of_no_binary
    (noBinary : session.binary? tree input = none) (output : Option String) :
    ∃ fault, compileFile session output tree input = ⟨tree, some fault⟩ := by
  unfold compileFile
  cases builds : session.build tree input with
  | error fault => exact ⟨fault, rfl⟩
  | ok module =>
      rw [Session.binary?, builds] at noBinary
      cases noBinary

theorem compileFile_of_binary?
    {module : ShaderModule}
    (isBinary : session.binary? tree input = some module) (output : Option String) :
    compileFile session output tree input =
      writeBinary tree (destination output input) module.bytes := by
  unfold compileFile
  cases builds : session.build tree input with
  | error fault =>
      rw [Session.binary?, builds] at isBinary
      cases isBinary
  | ok built =>
      rw [Session.binary?, builds] at isBinary
      cases isBinary
      rfl

theorem fault_of_writeBinary
    {path : String} {content : List UInt8}
    (writes : ∀ fault ∈ (writeBinary tree path content).fault, fault.isWriting = false) :
    (writeBinary tree path content).fault = none := by
  cases fails : (writeBinary tree path content).fault with
  | none => rfl
  | some fault =>
      have isWriting := isWriting_of_writeBinary fails
      rw [writes fault fails] at isWriting
      cases isWriting

end OneInput

/-! ### Binaries beside their inputs -/

/-- The binary that is the last to be written to a location, if any is. -/
def lastBinary?
    (session : Session) (tree : FileTree) (location : Location) (inputs : List String) :
    Option ShaderModule :=
  inputs.reverse.findSome? fun input =>
    if tree.place? (defaultOutput input) = some location then session.binary? tree input else none

theorem lastBinary?_cons
    (session : Session) (tree : FileTree) (location : Location) (input : String)
    (others : List String) :
    lastBinary? session tree location (input :: others) =
      (lastBinary? session tree location others).or
        (if tree.place? (defaultOutput input) = some location then session.binary? tree input
          else none) := by
  rw [lastBinary?, List.reverse_cons, List.findSome?_append, List.findSome?_singleton]
  rfl

theorem lastBinary?_ne_none
    {session : Session} {tree : FileTree} {location : Location} {inputs : List String}
    {input : String} (member : input ∈ inputs)
    (isPlace : tree.place? (defaultOutput input) = some location)
    (isBinary : session.binary? tree input ≠ none) :
    lastBinary? session tree location inputs ≠ none := by
  intro notWritten
  rw [lastBinary?, List.findSome?_eq_none_iff] at notWritten
  exact isBinary (by simpa [isPlace] using notWritten input (List.mem_reverse.mpr member))

/-- The last binary is the one of an input behind which no input with a binary goes there. -/
theorem split_of_lastBinary?
    {session : Session} {tree : FileTree} {location : Location} {inputs : List String}
    {module : ShaderModule} (isLast : lastBinary? session tree location inputs = some module) :
    ∃ earlier last later,
      inputs = earlier ++ last :: later ∧
        tree.place? (defaultOutput last) = some location ∧
          session.binary? tree last = some module ∧
            ∀ other ∈ later, tree.place? (defaultOutput other) = some location →
              session.binary? tree other = none := by
  rw [lastBinary?, List.findSome?_eq_some_iff] at isLast
  obtain ⟨later, last, earlier, split, isModule, noneLater⟩ := isLast
  rw [List.reverse_eq_iff] at split
  rw [Option.ite_none_right_eq_some] at isModule
  refine ⟨earlier.reverse, last, later.reverse, by simp [split], isModule.1, isModule.2,
    fun other isLater sharesPlace => ?_⟩
  have notHere := noneLater other (List.mem_reverse.mp isLater)
  rwa [if_pos sharesPlace] at notHere

/-- What compiling one input without a given output comes to, told by the tree at the start. -/
inductive WritesOneBeside
    (session : Session) (tree : FileTree) (input : String) (current : FileTree) :
    BinaryWritten → Prop where
  | failed (fault : CommandFault) (noBinary : session.binary? tree input = none) :
      WritesOneBeside session tree input current ⟨current, some fault⟩
  | wrote
      {module : ShaderModule} {location : Location}
      (isBinary : session.binary? tree input = some module)
      (isPlace : tree.place? (defaultOutput input) = some location)
      (notRoot : location ≠ [])
      (noDirectory : current.entry? location ≠ some .directory) :
      WritesOneBeside session tree input current
        ⟨current.put location (.file module.bytes), none⟩

theorem writesOneBeside_of_compileFile
    {session : Session} {tree current : FileTree} {changed : Location → Prop} {input : String}
    (changes : FileTree.ChangesFiles changed tree current)
    (apart : ∀ read ∈ input :: session.probed tree input, ∀ location,
      tree.place? read = some location → ¬changed location)
    (writes : ∀ fault ∈ (compileFile session none current input).fault,
      fault.isWriting = false) :
    WritesOneBeside session tree input current (compileFile session none current input) := by
  -- So far only destinations have changed, so the input is built as in the first tree.
  have sameBinary := Session.binary?_eq changes apart
  cases isBinary : session.binary? tree input with
  | none =>
      obtain ⟨fault, fails⟩ := compileFile_of_no_binary (sameBinary.trans isBinary) none
      rw [fails]
      exact .failed fault isBinary
  | some module =>
      obtain ⟨place, isPlace⟩ := Session.place?_of_binary? (sameBinary.trans isBinary)
      rw [compileFile_of_binary? (sameBinary.trans isBinary), destination,
        Option.getD_none] at writes ⊢
      have succeeds := fault_of_writeBinary writes
      obtain ⟨location, isBeside, notRoot, noDirectory, puts⟩ :=
        put_of_writeBinary_beside isPlace succeeds
      rw [changes.place?_eq] at isBeside
      generalize writeBinary current (defaultOutput input) module.bytes = written at puts succeeds ⊢
      obtain ⟨after, fault⟩ := written
      cases puts
      cases succeeds
      exact .wrote isBinary isBeside notRoot noDirectory

namespace WritesOneBeside

variable {session : Session} {tree current : FileTree} {input : String} {written : BinaryWritten}

theorem changes
    {changed : Location → Prop}
    (step : WritesOneBeside session tree input current written)
    (sofar : FileTree.ChangesFiles changed tree current)
    (covers : ∀ location, tree.place? (defaultOutput input) = some location → changed location) :
    FileTree.ChangesFiles changed tree written.tree := by
  cases step with
  | failed => exact sofar
  | wrote _ isPlace notRoot noDirectory =>
      exact sofar.put (covers _ isPlace) notRoot noDirectory _

theorem failures (step : WritesOneBeside session tree input current written) :
    written.fault.toList.length = if (session.binary? tree input).isNone then 1 else 0 := by
  cases step with
  | failed fault noBinary => simp [noBinary]
  | wrote isBinary => simp [isBinary]

theorem placed
    (step : WritesOneBeside session tree input current written)
    (isBinary : session.binary? tree input ≠ none) :
    ∃ location, tree.place? (defaultOutput input) = some location := by
  cases step with
  | failed fault noBinary => exact absurd noBinary isBinary
  | wrote _ isPlace => exact ⟨_, isPlace⟩

theorem entry?_eq
    (step : WritesOneBeside session tree input current written) (location : Location) :
    written.tree.entry? location =
      ((if tree.place? (defaultOutput input) = some location then session.binary? tree input
          else none).map (FileEntry.file ·.bytes)).or
        (current.entry? location) := by
  cases step with
  | failed fault noBinary => simp [noBinary]
  | @wrote module place isBinary isPlace notRoot noDirectory =>
      rw [isPlace, isBinary]
      by_cases isHere : location = place
      · subst isHere
        rw [FileTree.entry?_put_self _ notRoot, if_pos rfl]
        rfl
      · rw [FileTree.entry?_put_of_ne _ isHere, if_neg (by simpa using Ne.symm isHere)]
        rfl

end WritesOneBeside

/-- What compiling inputs without a given output makes of a tree, told by the tree at the start. -/
structure WritesBeside
    (session : Session) (tree current : FileTree) (changed : Location → Prop)
    (inputs : List String) (after : FileTree) (faults : List CommandFault) : Prop where
  changes : FileTree.ChangesFiles changed tree after
  failures : faults.length = inputs.countP fun input => (session.binary? tree input).isNone
  placed :
    ∀ input ∈ inputs, session.binary? tree input ≠ none →
      ∃ location, tree.place? (defaultOutput input) = some location
  entries :
    ∀ location,
      after.entry? location =
        ((lastBinary? session tree location inputs).map (FileEntry.file ·.bytes)).or
          (current.entry? location)

theorem writesBeside_of_compileFiles
    {session : Session} {tree current : FileTree} {inputs : List String}
    (changed : Location → Prop)
    (changes : FileTree.ChangesFiles changed tree current)
    (covers : ∀ input ∈ inputs, ∀ location,
      tree.place? (defaultOutput input) = some location → changed location)
    (apart : ∀ input ∈ inputs, ∀ read ∈ input :: session.probed tree input, ∀ location,
      tree.place? read = some location → ¬changed location)
    (writes : ∀ fault ∈ (compileFiles session none current inputs).2, fault.isWriting = false) :
    WritesBeside session tree current changed inputs
      (compileFiles session none current inputs).1
      (compileFiles session none current inputs).2 := by
  induction inputs generalizing current with
  | nil => exact ⟨changes, rfl, by simp, fun location => by simp [lastBinary?, compileFiles]⟩
  | cons input others inductionHypothesis =>
      obtain ⟨coversHere, coversLater⟩ := List.forall_mem_cons.mp covers
      obtain ⟨apartHere, apartLater⟩ := List.forall_mem_cons.mp apart
      simp only [compileFiles, List.forall_mem_append, Option.mem_toList] at writes ⊢
      have step := writesOneBeside_of_compileFile changes apartHere writes.1
      have rest :=
        inductionHypothesis (step.changes changes coversHere) coversLater apartLater writes.2
      refine ⟨rest.changes, ?_, ?_, fun location => ?_⟩
      · rw [List.length_append, step.failures, rest.failures, List.countP_cons, Nat.add_comm]
      · exact List.forall_mem_cons.mpr ⟨step.placed, rest.placed⟩
      · rw [rest.entries, step.entry?_eq, lastBinary?_cons, Option.map_or, Option.or_assoc]

/-! ### What a compilation leaves -/

/-- What a compilation leaves of a tree when all its binaries are written. -/
structure LeavesBinaries
    (session : Session) (output : Option String) (inputs : List String)
    (tree after : FileTree) : Prop where
  workingDirectory : after.workingDirectory = tree.workingDirectory
  unreadable : after.unreadable = tree.unreadable
  /-- The destination of an input holds the last of the binaries that go there. -/
  written :
    ∀ input ∈ inputs, session.binary? tree input ≠ none →
      ∃ earlier last later module,
        inputs = earlier ++ last :: later ∧ session.binary? tree last = some module ∧
          after.place? (destination output last) = after.place? (destination output input) ∧
          (∀ other ∈ later, session.binary? tree other ≠ none →
            after.place? (destination output other) ≠
              after.place? (destination output input)) ∧
          after.lookup (destination output input) = .ok (.file module.bytes)
  /-- Nothing else is changed, but for directories that were missing above a given output. -/
  elsewhere :
    ∀ location, after.entry? location ≠ tree.entry? location →
      ∃ input ∈ inputs, session.binary? tree input ≠ none ∧
        (after.place? (destination output input) = some location ∨
          ∃ path ∈ output, ∃ above ∈ Path.withParents ((Path.parent? path).getD ""),
            tree.entry? location = none ∧ after.entry? location = some .directory ∧
              after.locate above = .ok location)

theorem LeavesBinaries.refl
    {session : Session} {output : Option String} {inputs : List String} {tree : FileTree}
    (noBinary : ∀ input ∈ inputs, session.binary? tree input = none) :
    LeavesBinaries session output inputs tree tree :=
  ⟨rfl, rfl, fun input member isBinary => absurd (noBinary input member) isBinary,
    fun _ differs => absurd rfl differs⟩

theorem WritesBeside.leavesBinaries
    {session : Session} {tree after : FileTree} {changed : Location → Prop}
    {inputs : List String} {faults : List CommandFault}
    (writes : WritesBeside session tree tree changed inputs after faults) :
    LeavesBinaries session none inputs tree after where
  workingDirectory := writes.changes.workingDirectory
  unreadable := writes.changes.unreadable
  written input member isBinary := by
    obtain ⟨location, isPlace⟩ := writes.placed input member isBinary
    simp only [destination, Option.getD_none, writes.changes.place?_eq, isPlace]
    obtain ⟨module, isLast⟩ :=
      Option.ne_none_iff_exists'.mp (lastBinary?_ne_none member isPlace isBinary)
    have holds := writes.entries location
    rw [isLast] at holds
    obtain ⟨earlier, last, later, split, isPlaceOfLast, isModule, noneLater⟩ :=
      split_of_lastBinary? isLast
    refine ⟨earlier, last, later, module, split, isModule, isPlaceOfLast,
      fun other isLater otherBinary sharesPlace => ?_, ?_⟩
    · exact otherBinary (noneLater other isLater sharesPlace)
    · refine FileTree.lookup_file_eq_ok_iff.mpr ⟨location, ?_, holds⟩
      rw [writes.changes.place?_eq, isPlace]
  elsewhere location differs := by
    rw [writes.entries] at differs
    cases isLast : lastBinary? session tree location inputs with
    | none => simp [isLast] at differs
    | some module =>
        obtain ⟨earlier, last, later, rfl, isPlace, isModule, -⟩ := split_of_lastBinary? isLast
        refine ⟨last, by simp, by simp [isModule], .inl ?_⟩
        rw [destination, Option.getD_none, writes.changes.place?_eq]
        exact isPlace

/-- A binary for a given output is left there, below directories that may have been missing. -/
theorem leavesBinaries_of_output
    {session : Session} {path input : String} {tree : FileTree} {module : ShaderModule}
    (isBinary : session.binary? tree input = some module)
    (succeeds : (writeBinary tree path module.bytes).fault = none) :
    LeavesBinaries session (some path) [input] tree
      (writeBinary tree path module.bytes).tree := by
  obtain ⟨made, location, makes, isPlace, notRoot, noDirectory, puts⟩ :=
    put_of_writeBinary succeeds
  have adds := FileTree.AddsDirectories.of_makeDirectories tree ((Path.parent? path).getD "")
  rw [makes] at adds
  have changes := (FileTree.ChangesFiles.refl (· = location) made).put rfl notRoot noDirectory
    module.bytes
  have isPlaceAfter := (changes.place?_eq path).trans isPlace
  rw [puts]
  refine ⟨adds.workingDirectory, adds.unreadable, ?_,
    fun other differs => ⟨input, by simp, by simp [isBinary], ?_⟩⟩
  · rintro input' isInput -
    obtain rfl := List.mem_singleton.mp isInput
    refine ⟨[], input', [], module, rfl, isBinary, rfl, by simp, ?_⟩
    exact FileTree.lookup_file_eq_ok_iff.mpr
      ⟨location, isPlaceAfter, made.entry?_put_self notRoot _⟩
  · by_cases isHere : other = location
    · exact .inl (isHere ▸ isPlaceAfter)
    · refine .inr ⟨path, rfl, ?_⟩
      rw [changes.elsewhere other isHere] at differs ⊢
      cases held : tree.entry? other with
      | some entry => exact absurd ((adds.kept other entry held).trans held.symm) differs
      | none =>
          obtain ⟨isDirectory, above, isAbove, locates⟩ := adds.added other held (held ▸ differs)
          exact ⟨above, isAbove, rfl, isDirectory, changes.locate_directory locates isDirectory⟩

/-! ### Agreement -/

/-- Every write of a compilation succeeds, and none is to a file that an input is made of. -/
structure Undisturbed
    (engine : Engine) (tree : FileTree) (arguments : ShaderArguments) (output : Option String)
    (decode : ProjectConfig.Decoder) :
    Prop where
  single : output.isSome → arguments.files.length ≤ 1
  writes :
    ∀ fault ∈ (runCompile engine tree arguments output decode).reported, fault.isWriting = false
  apart :
    ∀ session, Session.prepare engine tree arguments decode = .ok session →
      ∀ input ∈ arguments.files, ∀ read ∈ input :: session.probed tree input,
        ∀ other ∈ arguments.files, ∀ location,
          tree.place? read = some location →
            tree.place? (destination output other) ≠ some location

theorem length_reported
    (session : Session) (tree : FileTree) (inputs : List String) :
    ((inputs.map fun path => (path, session.build tree path)).filterMap fun (_, result) =>
        match result with
        | .ok _ => none
        | .error fault => some fault).length =
      inputs.countP fun input => (session.binary? tree input).isNone := by
  induction inputs with
  | nil => rfl
  | cons input others inductionHypothesis =>
      cases builds : session.build tree input <;>
        simp_all [Session.binary?, Except.toOption]

theorem runCompile_of_prepare
    {engine : Engine} {tree : FileTree} {arguments : ShaderArguments} {output : Option String}
    {decode : ProjectConfig.Decoder} {session : Session}
    (single : output.isSome → arguments.files.length ≤ 1)
    (prepares : Session.prepare engine tree arguments decode = .ok session) :
    let (after, faults) := compileFiles session output tree arguments.files
    runCompile engine tree arguments output decode =
      ⟨after, if faults = [] then [summaryLine arguments.files.length] else [], faults,
        buildFault? faults.length arguments.files.length⟩ := by
  have isSingle : ¬(output.isSome && decide (arguments.files.length > 1)) = true := by
    simpa using single
  rw [runCompile, if_neg isSingle, prepares]

theorem compileFiles_output
    {session : Session} {path : String} {tree : FileTree} {inputs : List String}
    (single : inputs.length ≤ 1)
    (writes : ∀ fault ∈ (compileFiles session (some path) tree inputs).2,
      fault.isWriting = false) :
    (compileFiles session (some path) tree inputs).2.length =
        (inputs.countP fun input => (session.binary? tree input).isNone) ∧
      LeavesBinaries session (some path) inputs tree
        (compileFiles session (some path) tree inputs).1 := by
  cases inputs with
  | nil => exact ⟨rfl, .refl (by simp)⟩
  | cons input others =>
      obtain rfl : others = [] := by simpa using single
      simp only [compileFiles, List.append_nil] at writes ⊢
      cases isBinary : session.binary? tree input with
      | none =>
          obtain ⟨fault, fails⟩ := compileFile_of_no_binary isBinary (some path)
          rw [fails]
          exact ⟨by simp [isBinary], .refl (by simpa using isBinary)⟩
      | some module =>
          rw [compileFile_of_binary? isBinary] at writes ⊢
          have succeeds := fault_of_writeBinary fun fault fails =>
            writes fault (Option.mem_toList.mpr fails)
          rw [succeeds]
          exact ⟨by simp [isBinary], leavesBinaries_of_output isBinary succeeds⟩

/-- Checking and compiling agree, and a compilation leaves its binaries and nothing else. -/
theorem check_agrees_with_compile
    {engine : Engine} {tree : FileTree} {arguments : ShaderArguments} {output : Option String}
    {decode : ProjectConfig.Decoder}
    (undisturbed : Undisturbed engine tree arguments output decode) :
    (runCheck engine tree arguments decode).tree = tree ∧
      match Session.prepare engine tree arguments decode with
      | .error fault =>
          (runCheck engine tree arguments decode).fault = some fault ∧
            (runCompile engine tree arguments output decode).fault = some fault ∧
              (runCompile engine tree arguments output decode).tree = tree
      | .ok session =>
          let failed := arguments.files.countP fun input => (session.binary? tree input).isNone
          (runCheck engine tree arguments decode).fault =
              buildFault? failed arguments.files.length ∧
            (runCompile engine tree arguments output decode).fault =
                buildFault? failed arguments.files.length ∧
              LeavesBinaries session output arguments.files tree
                (runCompile engine tree arguments output decode).tree := by
  obtain ⟨single, writes, apart⟩ := undisturbed
  have mayRun : ¬(output.isSome && decide (arguments.files.length > 1)) = true := by
    simpa using single
  cases prepares : Session.prepare engine tree arguments decode with
  | error fault => simp [runCheck, runCompile, prepares, mayRun]
  | ok session =>
      rw [runCompile_of_prepare single prepares] at writes ⊢
      have checks :
          (runCheck engine tree arguments decode).tree = tree ∧
            (runCheck engine tree arguments decode).fault =
              buildFault?
                (arguments.files.countP fun input => (session.binary? tree input).isNone)
                arguments.files.length := by
        rw [runCheck, prepares]
        exact ⟨rfl, congrArg (buildFault? · _) (length_reported session tree arguments.files)⟩
      refine ⟨checks.1, checks.2, ?_⟩
      cases output with
      | none =>
          have beside := writesBeside_of_compileFiles
            (fun location => ∃ other ∈ arguments.files,
              tree.place? (defaultOutput other) = some location)
            (.refl _ tree) (fun other member _ isPlace => ⟨other, member, isPlace⟩)
            (fun input member read isRead location isPlace ⟨other, isOther, sharesPlace⟩ =>
              apart session prepares input member read isRead other isOther location isPlace
                sharesPlace)
            writes
          exact ⟨by rw [beside.failures], beside.leavesBinaries⟩
      | some path =>
          obtain ⟨failures, leaves⟩ := compileFiles_output (single rfl) writes
          exact ⟨by rw [failures], leaves⟩

/-- A session with an engine and nothing else. -/
def plainSession (engine : Engine) : Session :=
  ⟨⟨{}, engine, by decide⟩, ⟨[]⟩, [], none, "main"⟩

theorem prepare_without_project
    (engine : Engine) (decode : ProjectConfig.Decoder) {tree : FileTree} {first : String}
    (noProject : ProjectConfig.root? tree first = none) (others : List String) :
    Session.prepare engine tree { files := first :: others } decode =
      .ok (plainSession engine) := by
  have isProject : Session.project tree { files := first :: others } decode = .ok {} := by
    change ProjectConfig.discover tree first decode = .ok {}
    unfold ProjectConfig.discover
    generalize ProjectConfig.root? tree first = found at noProject
    rw [noProject]
  have noDefines : ProjectConfig.sortedDefines {} = [] := by
    simp [ProjectConfig.sortedDefines, DefineTable.empty]
  rw [Session.prepare, isProject]
  change (Session.mergeDefines (ProjectConfig.sortedDefines {}) [] >>= fun defines => _) = _
  rw [noDefines]
  rfl

/-- An engine that tells compilations of different inputs apart. -/
def lengthEngine : Engine :=
  ⟨"length", fun job => .words [UInt32.ofNat job.unit.root.length]⟩

theorem undisturbed_of_places
    {engine : Engine} {tree : FileTree} {first : String} {others : List String}
    {decode : ProjectConfig.Decoder}
    (noProject : ProjectConfig.root? tree first = none)
    (writes :
      ∀ fault ∈ (runCompile engine tree { files := first :: others } none decode).reported,
        fault.isWriting = false)
    (apart :
      ∀ input ∈ first :: others, ∀ read ∈ input :: (plainSession engine).probed tree input,
        ∀ other ∈ first :: others,
          tree.place? read ≠ none → tree.place? read ≠ tree.place? (defaultOutput other)) :
    Undisturbed engine tree { files := first :: others } none decode := by
  refine ⟨nofun, writes, fun session prepares input member read isRead other isOther location
    isPlace => ?_⟩
  rw [prepare_without_project engine decode noProject others] at prepares
  obtain rfl : plainSession engine = session := Except.ok.inj prepares
  rw [← isPlace]
  exact Ne.symm (apart input member read isRead other isOther (by simp [isPlace]))

/-- An input that includes a file of unknown stage, which is another input. -/
def includingTree : FileTree :=
  ⟨[(["a.vert"], .file (Text.encode "#include \"b.glsl\"\n".toList)), (["b.glsl"], .file [])],
    [], []⟩

theorem check_agrees_with_compile_include :
    Undisturbed lengthEngine includingTree { files := ["a.vert", "b.glsl"] } none
        ProjectConfig.ofToml ∧
      (runCheck lengthEngine includingTree { files := ["a.vert", "b.glsl"] }).fault =
          some (.buildFailed 1 2) ∧
        (runCompile lengthEngine includingTree { files := ["a.vert", "b.glsl"] } none).fault =
            some (.buildFailed 1 2) ∧
          LeavesBinaries (plainSession lengthEngine) none ["a.vert", "b.glsl"] includingTree
            (runCompile lengthEngine includingTree { files := ["a.vert", "b.glsl"] } none).tree := by
  have noProject : ProjectConfig.root? includingTree "a.vert" = none := by decide +kernel
  have undisturbed :
      Undisturbed lengthEngine includingTree { files := ["a.vert", "b.glsl"] } none
        ProjectConfig.ofToml :=
    undisturbed_of_places noProject (by decide +kernel) (by decide +kernel)
  obtain ⟨-, agrees⟩ := check_agrees_with_compile undisturbed
  rw [prepare_without_project lengthEngine _ noProject ["b.glsl"]] at agrees
  have failed :
      (["a.vert", "b.glsl"].countP fun input =>
        ((plainSession lengthEngine).binary? includingTree input).isNone) = 1 := by
    decide +kernel
  have isFault := congrArg (buildFault? · 2) failed
  exact ⟨undisturbed, agrees.1.trans isFault, agrees.2.1.trans isFault, agrees.2.2⟩

/-- Two spellings of one input share a destination, which holds the later binary alone. -/
theorem shared_destination_overwritten :
    let tree : FileTree := ⟨[(["a.vert"], .file [])], [], []⟩
    let arguments : ShaderArguments := { files := ["a.vert", "./a.vert"] }
    Undisturbed lengthEngine tree arguments none ProjectConfig.ofToml ∧
      Session.prepare lengthEngine tree arguments = .ok (plainSession lengthEngine) ∧
        (plainSession lengthEngine).binary? tree "a.vert" = some (.binary [6]) ∧
          (runCompile lengthEngine tree arguments none).tree.lookup
              (destination none "a.vert") ≠
            .ok (.file (ShaderModule.binary [6]).bytes) := by
  have noProject :
      ProjectConfig.root? ⟨[(["a.vert"], .file [])], [], []⟩ "a.vert" = none := by
    decide +kernel
  exact ⟨undisturbed_of_places noProject (by decide +kernel) (by decide +kernel),
    prepare_without_project lengthEngine _ noProject ["./a.vert"], by decide +kernel,
    by decide +kernel⟩

end Command

end ShaderBuild
