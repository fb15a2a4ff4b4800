import Mathlib.Data.List.Dedup
import ShaderBuild.Proofs.Fallible
import ShaderBuild.Session

namespace ShaderBuild

/-!
# Preparing a session

The macros of a session come from a project file and from the command line. A name
has one macro: the last one that the command line gives it, or else the project's. The
project's own names come first, in ascending order, however its table is listed; the
names of the command line follow where they are given last. All of this holds whatever
decodes the project file.
-/

/-! ### Macros of a project -/

namespace ProjectConfig

theorem sortedDefines_perm (project : ProjectConfig) :
    project.sortedDefines.Perm project.defines.entries :=
  List.mergeSort_perm _ _

/-- The order in which macros are sorted: by name, and then by value. -/
def comesBefore (first second : String × String) : Bool :=
  first.1 < second.1 || (first.1 = second.1 && first.2 ≤ second.2)

theorem comesBefore_iff {first second : String × String} :
    comesBefore first second = true ↔
      first.1 < second.1 ∨ first.1 = second.1 ∧ first.2 ≤ second.2 := by
  simp [comesBefore]

theorem comesBefore_trans (first second third : String × String)
    (before : comesBefore first second = true) (after : comesBefore second third = true) :
    comesBefore first third = true := by
  rw [comesBefore_iff] at before after ⊢
  rcases before with less | ⟨same, least⟩
  · rcases after with less' | ⟨same', -⟩
    · exact .inl (String.lt_trans less less')
    · exact .inl (same' ▸ less)
  · rcases after with less' | ⟨same', least'⟩
    · exact .inl (same ▸ less')
    · exact .inr ⟨same.trans same', String.le_trans least least'⟩

theorem comesBefore_total (first second : String × String) :
    (comesBefore first second || comesBefore second first) = true := by
  rw [Bool.or_eq_true, comesBefore_iff, comesBefore_iff]
  by_cases same : first.1 = second.1
  · rcases String.le_total first.2 second.2 with least | least
    · exact .inl (.inr ⟨same, least⟩)
    · exact .inr (.inr ⟨same.symm, least⟩)
  · by_cases less : first.1 < second.1
    · exact .inl (.inl less)
    · by_cases more : second.1 < first.1
      · exact .inr (.inl more)
      · exact absurd (String.le_antisymm (String.not_lt.mp more) (String.not_lt.mp less)) same

/-- Sorted by name and then by value, distinct names ascend. -/
theorem ascending_sortedDefines (project : ProjectConfig) :
    project.sortedDefines.Pairwise fun first second => first.1 < second.1 := by
  have sorted :
      project.sortedDefines.Pairwise fun first second => comesBefore first second = true :=
    List.pairwise_mergeSort comesBefore_trans comesBefore_total project.defines.entries
  have apart : project.sortedDefines.Pairwise fun first second => first.1 ≠ second.1 :=
    List.pairwise_map.mp
      (((sortedDefines_perm project).map _).nodup_iff.mpr project.defines.distinct)
  refine (sorted.and apart).imp ?_
  rintro first second ⟨isBefore, different⟩
  rcases comesBefore_iff.mp isBefore with less | ⟨same, -⟩
  · exact less
  · exact absurd same different

/-- However the table of macros is listed, they are sorted alike. -/
theorem sortedDefines_of_perm
    {project : ProjectConfig} {listing : DefineTable}
    (isListing : listing.entries.Perm project.defines.entries) :
    sortedDefines { project with defines := listing } = project.sortedDefines := by
  refine List.Perm.eq_of_pairwise ?_ (ascending_sortedDefines _) (ascending_sortedDefines project)
    ((sortedDefines_perm _).trans (isListing.trans (sortedDefines_perm project).symm))
  intro first second _ _ less more
  exact absurd (String.lt_trans less more) (String.lt_irrefl _)

end ProjectConfig

/-! ### Macros of the command line -/

/-- A character that a macro's name may start with. -/
def IsNameStart (c : Char) : Prop :=
  'A' ≤ c ∧ c ≤ 'Z' ∨ 'a' ≤ c ∧ c ≤ 'z' ∨ c = '_'

/-- A letter or an underscore, and letters, underscores and digits behind it. -/
def IsMacroName (name : List Char) : Prop :=
  ∃ first others,
    name = first :: others ∧ IsNameStart first ∧
      ∀ c ∈ others, IsNameStart c ∨ '0' ≤ c ∧ c ≤ '9'

/-- What an argument says before its first `=`. -/
def macroName (text : String) : String :=
  String.ofList (text.toList.takeWhile (· ≠ '='))

/-- What an argument says behind its first `=`; a name alone stands for 1. -/
def macroValue (text : String) : String :=
  match text.toList.dropWhile (· ≠ '=') with
  | [] => "1"
  | _ :: value => String.ofList value

/-- The value that the last argument for a name gives it. -/
def lastValue? (texts : List String) (name : String) : Option String :=
  ((texts.filter (macroName · = name)).getLast?).map macroValue

namespace Session

theorem isAlpha_or_underscore_iff {c : Char} :
    (c.isAlpha || c = '_') = true ↔ IsNameStart c := by
  have isLetter :
      c.isAlpha = (decide ('A' ≤ c ∧ c ≤ 'Z') || decide ('a' ≤ c) && decide (c ≤ 'z')) := rfl
  simp only [isLetter, Bool.or_eq_true, Bool.and_eq_true, decide_eq_true_eq, IsNameStart, or_assoc]

theorem isIdentifierChar_iff {c : Char} :
    Condition.isIdentifierChar c = true ↔ IsNameStart c ∨ '0' ≤ c ∧ c ≤ '9' := by
  rw [← isAlpha_or_underscore_iff]
  simp only [Condition.isIdentifierChar, Char.isAlphanum, Char.isDigit, Bool.or_eq_true,
    Bool.and_eq_true, decide_eq_true_eq]
  exact or_right_comm

theorem isMacroName_iff {name : List Char} : isMacroName name = true ↔ IsMacroName name := by
  cases name with
  | nil =>
      simp [isMacroName, IsMacroName]
  | cons first others =>
      rw [isMacroName, Bool.and_eq_true, isAlpha_or_underscore_iff, List.all_eq_true]
      simp only [isIdentifierChar_iff]
      constructor
      · rintro ⟨starts, goesOn⟩
        exact ⟨first, others, rfl, starts, goesOn⟩
      · rintro ⟨_, _, isName, starts, goesOn⟩
        cases isName
        exact ⟨starts, goesOn⟩

/-- An argument is read as its name and value, if the name is one. -/
theorem parseDefine_eq (text : String) :
    parseDefine text =
      if isMacroName (macroName text).toList then .ok (macroName text, macroValue text)
      else .error (.invalidDefine text) := by
  have sameTest : (fun c : Char => !decide (c = '=')) = fun c => decide (c ≠ '=') := by
    funext c
    exact (decide_not ..).symm
  rw [parseDefine, Text.splitAround?, Text.cutBefore, sameTest, macroName, macroValue,
    String.toList_ofList]
  cases behind : text.toList.dropWhile fun c => decide (c ≠ '=') with
  | nil =>
      have isWhole : text.toList.takeWhile (fun c => decide (c ≠ '=')) = text.toList := by
        have split := @List.takeWhile_append_dropWhile _ (fun c => decide (c ≠ '=')) text.toList
        rwa [behind, List.append_nil] at split
      rw [isWhole]
  | cons mark value => rfl

theorem parseDefine_of_isMacroName
    {text : String} (isName : IsMacroName (macroName text).toList) :
    parseDefine text = .ok (macroName text, macroValue text) := by
  rw [parseDefine_eq, if_pos (isMacroName_iff.mpr isName)]

theorem parseDefine_of_not_isMacroName
    {text : String} (noName : ¬IsMacroName (macroName text).toList) :
    parseDefine text = .error (.invalidDefine text) := by
  rw [parseDefine_eq, if_neg (mt isMacroName_iff.mp noName)]

/-! ### Macros of a session -/

/-- The macros of arguments, each name where it is given last. -/
def latestDefines : List String → List (String × String)
  | [] => []
  | text :: others =>
      if macroName text ∈ others.map macroName then latestDefines others
      else (macroName text, macroValue text) :: latestDefines others

theorem map_latestDefines (texts : List String) :
    (latestDefines texts).map (·.1) = (texts.map macroName).dedup := by
  induction texts with
  | nil => rfl
  | cons text others inductionHypothesis =>
      rw [latestDefines, List.map_cons, List.dedup_cons]
      split
      · exact inductionHypothesis
      · rw [List.map_cons, inductionHypothesis]

theorem lastValue?_cons (text : String) (others : List String) (name : String) :
    lastValue? (text :: others) name =
      (lastValue? others name).or
        (if macroName text = name then some (macroValue text) else none) := by
  unfold lastValue?
  rw [List.filter_cons]
  by_cases isName : macroName text = name
  · simp only [isName, decide_true, if_true]
    cases found : (others.filter (macroName · = name)).getLast? with
    | none =>
        rw [List.getLast?_eq_none_iff] at found
        rw [found]
        rfl
    | some last =>
        rw [List.getLast?_cons, found]
        rfl
  · simp [isName]

theorem lastValue?_eq_none_iff {texts : List String} {name : String} :
    lastValue? texts name = none ↔ name ∉ texts.map macroName := by
  rw [lastValue?, Option.map_eq_none_iff, List.getLast?_eq_none_iff, List.filter_eq_nil_iff]
  simp

theorem mem_latestDefines {texts : List String} {name value : String} :
    (name, value) ∈ latestDefines texts ↔ lastValue? texts name = some value := by
  induction texts with
  | nil =>
      simp [latestDefines, lastValue?]
  | cons text others inductionHypothesis =>
      rw [latestDefines, lastValue?_cons]
      split
      · rename_i isLater
        rw [inductionHypothesis]
        by_cases isName : macroName text = name
        · -- A later argument gives the name its value.
          rw [isName] at isLater
          obtain ⟨later, isValue⟩ :=
            Option.ne_none_iff_exists'.mp fun noValue => lastValue?_eq_none_iff.mp noValue isLater
          rw [isValue, Option.some_or]
        · rw [if_neg isName, Option.or_none]
      · rename_i isLast
        rw [List.mem_cons, Prod.mk.injEq, inductionHypothesis]
        by_cases isName : macroName text = name
        · subst isName
          rw [lastValue?_eq_none_iff.mpr isLast]
          simp [eq_comm]
        · simp [isName, Ne.symm isName]

theorem foldl_addDefine (defines : List (String × String)) (texts : List String) :
    texts.foldl (fun defines text => addDefine defines (macroName text, macroValue text)) defines =
      defines.filter (fun define => define.1 ∉ texts.map macroName) ++ latestDefines texts := by
  induction texts generalizing defines with
  | nil => simp [latestDefines]
  | cons text others inductionHypothesis =>
      rw [List.foldl_cons, inductionHypothesis, addDefine, List.filter_append, List.filter_filter,
        List.append_assoc, latestDefines]
      have sameKept :
          (defines.filter fun define =>
              decide (define.1 ∉ others.map macroName) && decide (define.1 ≠ macroName text)) =
            defines.filter fun define => decide (define.1 ∉ (text :: others).map macroName) := by
        apply List.filter_congr
        intro define _
        rw [Bool.eq_iff_iff]
        simp only [List.map_cons, List.mem_cons, not_or, Bool.and_eq_true, decide_eq_true_eq]
        exact and_comm
      rw [sameKept]
      congr 1
      split
      · rename_i isLater
        rw [List.filter_cons_of_neg (by simpa only [decide_eq_true_eq, not_not] using isLater)]
        rfl
      · rename_i isLast
        rw [List.filter_cons_of_pos (by simpa only [decide_eq_true_eq] using isLast)]
        rfl

/-- Every argument is a macro: they are added one after the other. -/
theorem mergeDefines_of_isMacroName
    {texts : List String} (defines : List (String × String))
    (names : ∀ text ∈ texts, IsMacroName (macroName text).toList) :
    mergeDefines defines texts =
      .ok (defines.filter (fun define => define.1 ∉ texts.map macroName) ++
        latestDefines texts) := by
  rw [← foldl_addDefine, mergeDefines]
  induction texts generalizing defines with
  | nil => rfl
  | cons text others inductionHypothesis =>
      rw [List.foldlM_cons, List.foldl_cons,
        parseDefine_of_isMacroName (names text List.mem_cons_self)]
      apply inductionHypothesis
      intro later member
      exact names later (List.mem_cons_of_mem text member)

/-- The first argument that is no macro is the one that is reported. -/
theorem mergeDefines_of_not_isMacroName
    {before after : List String} {text : String} (defines : List (String × String))
    (names : ∀ text ∈ before, IsMacroName (macroName text).toList)
    (noName : ¬IsMacroName (macroName text).toList) :
    mergeDefines defines (before ++ text :: after) = .error (.invalidDefine text) := by
  have reaches := mergeDefines_of_isMacroName defines names
  rw [mergeDefines] at reaches
  rw [mergeDefines, List.foldlM_append, reaches]
  change mergeDefines _ (text :: after) = _
  rw [mergeDefines, List.foldlM_cons, parseDefine_of_not_isMacroName noName]
  rfl

/--
What the macros of a session are, given those of its project and the arguments of
the command line.
-/
structure Overrides (project : List (String × String)) (texts : List String)
    (macros : List (String × String)) : Prop where
  unique : (macros.map (·.1)).Nodup
  /-- Names that only the project has, ascending, and then names where they are given last. -/
  names :
    ∃ own : List String,
      macros.map (·.1) = own ++ (texts.map macroName).dedup ∧ own.Pairwise (· < ·) ∧
        ∀ name, name ∈ own ↔ name ∈ project.map (·.1) ∧ name ∉ texts.map macroName
  /-- The last argument for a name decides, or else the project. -/
  values :
    ∀ name value,
      (name, value) ∈ macros ↔
        lastValue? texts name = some value ∨
          lastValue? texts name = none ∧ (name, value) ∈ project

theorem overrides_sortedDefines (project : ProjectConfig) (texts : List String) :
    Overrides project.defines.entries texts
      (project.sortedDefines.filter (fun define => define.1 ∉ texts.map macroName) ++
        latestDefines texts) := by
  have samePlaces := project.sortedDefines_perm
  have ascending :
      ((project.sortedDefines.filter fun define => define.1 ∉ texts.map macroName).map
        (·.1)).Pairwise (· < ·) :=
    List.pairwise_map.mpr
      ((ProjectConfig.ascending_sortedDefines project).sublist List.filter_sublist)
  have isOwn (name : String) :
      name ∈ (project.sortedDefines.filter fun define =>
          define.1 ∉ texts.map macroName).map (·.1) ↔
        name ∈ project.defines.entries.map (·.1) ∧ name ∉ texts.map macroName := by
    rw [← (samePlaces.map (·.1)).mem_iff]
    simp only [List.mem_map, List.mem_filter, decide_eq_true_eq]
    constructor
    · rintro ⟨define, ⟨member, notGiven⟩, rfl⟩
      exact ⟨⟨define, member, rfl⟩, notGiven⟩
    · rintro ⟨⟨define, member, rfl⟩, notGiven⟩
      exact ⟨define, ⟨member, notGiven⟩, rfl⟩
  refine ⟨?_, ⟨_, ?_, ascending, isOwn⟩, ?_⟩
  · rw [List.map_append, map_latestDefines, List.nodup_append]
    refine ⟨ascending.imp fun less => ?_, List.nodup_dedup _, ?_⟩
    · rintro rfl
      exact String.lt_irrefl _ less
    · rintro name own _ given rfl
      exact ((isOwn name).mp own).2 (List.mem_dedup.mp given)
  · rw [List.map_append, map_latestDefines]
  · intro name value
    rw [List.mem_append, List.mem_filter, mem_latestDefines, samePlaces.mem_iff, or_comm]
    simp only [decide_eq_true_eq, lastValue?_eq_none_iff]
    rw [and_comm]

/-! ### Project files -/

/-- The project file that arguments belong to: the one they name, or the nearest one. -/
def projectPath? (tree : FileTree) (arguments : ShaderArguments) : Option String :=
  match arguments.config, arguments.files with
  | some path, _ => some path
  | none, first :: _ =>
      (ProjectConfig.root? tree first).map (Path.join · ProjectConfig.fileName)
  | none, [] => none

theorem project_of_projectPath?
    {tree : FileTree} {arguments : ShaderArguments} {path : String}
    (isPath : projectPath? tree arguments = some path) (decode : ProjectConfig.Decoder) :
    project tree arguments decode = ProjectConfig.load tree path decode := by
  rw [projectPath?] at isPath
  rw [project]
  cases config : arguments.config with
  | some named =>
      rw [config] at isPath
      cases isPath
      rfl
  | none =>
      rw [config] at isPath
      cases files : arguments.files with
      | nil =>
          rw [files] at isPath
          cases isPath
      | cons first others =>
          rw [files] at isPath
          change (ProjectConfig.root? tree first).map _ = some path at isPath
          change ProjectConfig.discover tree first decode = _
          unfold ProjectConfig.discover
          generalize ProjectConfig.root? tree first = found at isPath
          obtain ⟨directory, rfl, rfl⟩ := Option.map_eq_some_iff.mp isPath
          rfl

theorem load_of_decode
    {tree : FileTree} {decode : ProjectConfig.Decoder}
    {path : String} {text : List Char} {written : ProjectConfig}
    (reads : tree.readText path = .ok text) (decodes : decode text = .ok written) :
    ProjectConfig.load tree path decode =
      .ok { written with
        includePaths :=
          written.includePaths.map (ProjectConfig.rebase ((Path.parent? path).getD "")) } := by
  rw [ProjectConfig.load, reads]
  dsimp only
  rw [decodes]

theorem create_of_valid
    {config : CompilerConfig} (valid : config.fault? = none) (engine : Engine) :
    Compiler.create config engine = .ok ⟨config, engine, valid⟩ := by
  unfold Compiler.create
  split
  · rfl
  · rename_i fault isFault
    rw [valid] at isFault
    cases isFault

/-- A session is made of what is decoded, and of what the command line adds to it. -/
theorem prepare_of_decode
    {engine : Engine} {tree : FileTree} {arguments : ShaderArguments}
    {decode : ProjectConfig.Decoder} {path : String} {text : List Char} {written : ProjectConfig}
    (isPath : projectPath? tree arguments = some path)
    (reads : tree.readText path = .ok text) (decodes : decode text = .ok written)
    (valid : written.compiler.fault? = none) :
    prepare engine tree arguments decode =
      (mergeDefines written.sortedDefines arguments.defines).map fun defines =>
        ⟨⟨written.compiler, engine, valid⟩,
          ⟨arguments.includeDirectories ++
            written.includePaths.map (ProjectConfig.rebase ((Path.parent? path).getD ""))⟩,
          defines, arguments.stage, arguments.entryPoint⟩ := by
  have loads := (project_of_projectPath? isPath decode).trans (load_of_decode reads decodes)
  rw [prepare, loads]
  change (mergeDefines written.sortedDefines _ >>= fun defines => _) = _
  cases mergeDefines written.sortedDefines arguments.defines with
  | error fault => rfl
  | ok defines => simp only [create_of_valid valid, bind, Except.bind, Except.map]

/--
A session of a project file has each macro once, the command line's before the
project's, and it searches the directories of the command line before the project's.
A decoder that lists the project's table of macros in another order makes the same
session. It is refused for the first argument that names no macro.
-/
theorem prepare_overrides_project
    {engine : Engine} {tree : FileTree} {arguments : ShaderArguments}
    {decode : ProjectConfig.Decoder} {path : String} {text : List Char} {written : ProjectConfig}
    (isPath : projectPath? tree arguments = some path)
    (reads : tree.readText path = .ok text) (decodes : decode text = .ok written)
    (valid : written.compiler.fault? = none) :
    (∀ before text after,
      arguments.defines = before ++ text :: after →
        (∀ earlier ∈ before, IsMacroName (macroName earlier).toList) →
          ¬IsMacroName (macroName text).toList →
            prepare engine tree arguments decode = .error (.invalidDefine text)) ∧
      ((∀ text ∈ arguments.defines, IsMacroName (macroName text).toList) →
        ∃ session,
          prepare engine tree arguments decode = .ok session ∧
            Overrides written.defines.entries arguments.defines session.defines ∧
              (∀ (other : ProjectConfig.Decoder) (listing : DefineTable),
                listing.entries.Perm written.defines.entries →
                  other text = .ok { written with defines := listing } →
                    prepare engine tree arguments other = .ok session) ∧
                session.search.bases =
                  arguments.includeDirectories ++
                    written.includePaths.map
                      (ProjectConfig.rebase ((Path.parent? path).getD ""))) := by
  have prepares := @prepare_of_decode engine tree arguments decode _ _ _ isPath reads decodes valid
  refine ⟨?_, ?_⟩
  · intro before text after split names noName
    rw [prepares, split, mergeDefines_of_not_isMacroName _ names noName]
    rfl
  · intro names
    have merges := mergeDefines_of_isMacroName written.sortedDefines names
    rw [merges] at prepares
    refine ⟨_, prepares, overrides_sortedDefines written arguments.defines, ?_, rfl⟩
    intro other listing isListing decodesOther
    rw [prepare_of_decode isPath reads decodesOther valid,
      ProjectConfig.sortedDefines_of_perm isListing, merges]
    rfl

/--
A project above the input, whose macro `B` is given again on the command line, and
whose macros another decoder lists in their order.
-/
theorem prepare_overrides_project_twice :
    let engine : Engine := ⟨"none", fun _ => .words []⟩
    let content :=
      ("[defines]\nB = \"2\"\nA = \"x\"\n" ++ "[include]\npaths = [\"inc\", \"/abs\"]\n").toList
    let tree : FileTree :=
      ⟨[(["w"], .directory), (["w", "glint.toml"], .file (Text.encode content)),
        (["w", "s"], .directory)], ["w"], []⟩
    let arguments (defines : List String) : ShaderArguments :=
      { files := ["s/a.vert"], includeDirectories := ["i"], defines := defines }
    let written : ProjectConfig :=
      { includePaths := ["inc", "/abs"], defines := ⟨[("B", "2"), ("A", "x")], by decide⟩ }
    let other : ProjectConfig.Decoder := fun _ =>
      .ok { written with defines := ⟨[("A", "x"), ("B", "2")], by decide⟩ }
    (∀ defines, projectPath? tree (arguments defines) = some "/w/glint.toml") ∧
      tree.readText "/w/glint.toml" = .ok content ∧
        ProjectConfig.ofToml content = .ok written ∧ written.compiler.fault? = none ∧
          (∃ session,
            prepare engine tree (arguments ["B=3", "Z", "B=3=4"]) ProjectConfig.ofToml =
                .ok session ∧
              prepare engine tree (arguments ["B=3", "Z", "B=3=4"]) other = .ok session ∧
              (∃ own : List String, session.defines.map (·.1) = own ++ ["Z", "B"]) ∧
                ("B", "3=4") ∈ session.defines ∧ ("Z", "1") ∈ session.defines ∧
                  ("A", "x") ∈ session.defines ∧ ("B", "2") ∉ session.defines ∧
                    session.search.bases = ["i", "/w/inc", "/abs"]) ∧
            prepare engine tree (arguments ["Z", "2B=", "=3"]) ProjectConfig.ofToml =
              .error (.invalidDefine "2B=") := by
  intro engine content tree arguments written other
  have isRoot : ProjectConfig.root? tree "s/a.vert" = some "/w" := by decide +kernel
  have isPath (defines : List String) :
      projectPath? tree (arguments defines) = some "/w/glint.toml" := by
    change (ProjectConfig.root? tree "s/a.vert").map (Path.join · ProjectConfig.fileName) = _
    generalize ProjectConfig.root? tree "s/a.vert" = found at isRoot
    rw [isRoot]
    decide +kernel
  have reads : tree.readText "/w/glint.toml" = .ok content := by decide +kernel
  have decodes : ProjectConfig.ofToml content = .ok written := by decide +kernel
  have valid : written.compiler.fault? = none := by decide +kernel
  have prepared (defines : List String) :=
    @prepare_overrides_project engine tree (arguments defines) ProjectConfig.ofToml _ _ _
      (isPath defines) reads decodes valid
  have areNames (texts : List String)
      (checked : ∀ text ∈ texts, isMacroName (macroName text).toList = true) :
      ∀ text ∈ texts, IsMacroName (macroName text).toList :=
    fun text member => isMacroName_iff.mp (checked text member)
  obtain ⟨session, prepares, overrides, sameSession, bases⟩ :=
    (prepared ["B=3", "Z", "B=3=4"]).2 (areNames _ (by decide +kernel))
  refine ⟨isPath, reads, decodes, valid, ⟨session, prepares, ?_, ?_, ?_, ?_, ?_, ?_, ?_⟩, ?_⟩
  · exact sameSession other _ (by decide) rfl
  · obtain ⟨own, names, -⟩ := overrides.names
    exact ⟨own, names.trans (congrArg (own ++ ·) (by decide +kernel))⟩
  · exact (overrides.values _ _).mpr (by decide +kernel)
  · exact (overrides.values _ _).mpr (by decide +kernel)
  · exact (overrides.values _ _).mpr (by decide +kernel)
  · intro member
    exact absurd ((overrides.values _ _).mp member) (by decide +kernel)
  · exact bases.trans (by decide +kernel)
  · apply (prepared ["Z", "2B=", "=3"]).1 ["Z"] "2B=" ["=3"] rfl (areNames _ (by decide +kernel))
    exact mt isMacroName_iff.mpr (by decide +kernel)

end Session

end ShaderBuild
