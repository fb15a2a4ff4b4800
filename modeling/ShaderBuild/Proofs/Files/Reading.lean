import ShaderBuild.Proofs.Expansion.DepthLimit
import ShaderBuild.Proofs.Files.Places
import ShaderBuild.Session

namespace ShaderBuild

/-!
# What a compilation reads

An expansion depends on its resolver only through the answers to the requests it
makes, and the answer to a request only on the paths that are probed for it. So the
module made of an input depends on nothing but the input and the paths that were
probed while its includes were resolved.
-/

/-! ### Requests that are answered alike -/

namespace Expansion

variable {allowed : IncludeRequest → Prop} {expansion : Expansion}

theorem Requests.of_after
    {events : List ExpansionEvent} (requests : (expansion.after events).Requests allowed) :
    expansion.Requests allowed := by
  intro request member
  exact requests request (by rw [requests_after]; exact List.mem_append_right _ member)

theorem Requests.first_of_andThen
    {next : MacroTable → Expansion} (requests : (expansion.andThen next).Requests allowed) :
    expansion.Requests allowed := by
  cases result : expansion.result with
  | ok macros =>
      rw [andThen_of_ok result] at requests
      intro request member
      exact requests request (by rw [requests_after]; exact List.mem_append_left _ member)
  | error failure =>
      rwa [andThen_of_error result] at requests

/-- What follows an expansion may be replaced where the requests tell no difference. -/
theorem andThen_congr
    {next other : MacroTable → Expansion}
    (alike : ∀ macros, (next macros).Requests allowed → other macros = next macros)
    (requests : (expansion.andThen next).Requests allowed) :
    expansion.andThen other = expansion.andThen next := by
  cases result : expansion.result with
  | ok macros =>
      rw [andThen_of_ok result] at requests
      rw [andThen_of_ok result, andThen_of_ok result, alike macros requests.of_after]
  | error failure =>
      rw [andThen_of_error result, andThen_of_error result]

end Expansion

/-- A visit depends on how files are included only where it includes one. -/
theorem Visit.run_congr
    {allowed : IncludeRequest → Prop} {splice other : Includer}
    (alike : ∀ origin kind target macros,
      (splice origin kind target macros).Requests allowed →
        other origin kind target macros = splice origin kind target macros)
    {source : String} {nested : Bool} {context : LineContext} {lines : List (List Char)}
    (requests : (run ⟨source, nested, splice⟩ context lines).Requests allowed) :
    run ⟨source, nested, other⟩ context lines = run ⟨source, nested, splice⟩ context lines := by
  induction lines generalizing context with
  | nil => rfl
  | cons line others inductionHypothesis =>
      rcases context.advances_or_includes_or_stops line with
        ⟨next, keeps⟩ | ⟨kind, target, includes⟩ | ⟨problem, stops⟩
      · rw [run_of_advance? keeps] at requests
        rw [run_of_advance? keeps, run_of_advance? keeps, inductionHypothesis requests.of_after]
      · rw [run_of_includes? includes] at requests
        rw [run_of_includes? includes, run_of_includes? includes]
        dsimp only at requests ⊢
        rw [alike _ _ _ _ requests.first_of_andThen]
        refine Expansion.andThen_congr (fun macros requests => ?_) requests
        rw [inductionHypothesis requests.of_after]
      · rw [run_of_stop stops, run_of_stop stops]

namespace ExpansionSettings

variable {first second : Resolver}

theorem includer_congr
    {depthLimit : Nat} {defines : List (String × String)}
    {levels depth : Nat} {origin : Origin} {kind : IncludeKind} {target : String}
    {macros : MacroTable}
    (requests :
      (includer ⟨some first, depthLimit, defines⟩ levels depth origin kind target macros).Requests
        fun request => second.resolve request = first.resolve request) :
    includer ⟨some second, depthLimit, defines⟩ levels depth origin kind target macros =
      includer ⟨some first, depthLimit, defines⟩ levels depth origin kind target macros := by
  -- Both resolvers exist, so without levels left both includes fail alike.
  induction levels generalizing depth origin kind target macros with
  | zero => rfl
  | succ levels inductionHypothesis =>
      have answers :
          second.resolve ⟨target, kind, origin.source, depth + 1⟩ =
            first.resolve ⟨target, kind, origin.source, depth + 1⟩ := by
        refine requests _ ?_
        simp only [includer]
        split <;> simp [Expansion.requests, Expansion.after, ExpansionEvent.request?]
      simp only [includer, answers] at requests ⊢
      split at requests
      · rfl
      · rename_i included isIncluded
        rw [Visit.start] at requests
        rw [Visit.start, Visit.start, Visit.run_congr (fun _ _ _ _ => inductionHypothesis)
          requests.of_after]

/-- Another resolver gives the same expansion if it answers every request alike. -/
theorem expand_congr
    {depthLimit : Nat} {defines : List (String × String)} {root : String} {content : List Char}
    (answers : ∀ request ∈ (expand ⟨some first, depthLimit, defines⟩ root content).requests,
      second.resolve request = first.resolve request) :
    expand ⟨some second, depthLimit, defines⟩ root content =
      expand ⟨some first, depthLimit, defines⟩ root content := by
  have requests :
      (expand ⟨some first, depthLimit, defines⟩ root content).Requests
        fun request => second.resolve request = first.resolve request := answers
  rw [expand, Visit.start] at requests
  rw [expand, expand, Visit.start, Visit.start,
    Visit.run_congr (fun _ _ _ _ => includer_congr) requests.of_after]

end ExpansionSettings

/-! ### Probed paths -/

namespace SearchPath

/-- The paths that may be tried for a request, in order; the empty name has no candidates. -/
def tried (search : SearchPath) (request : IncludeRequest) : List String :=
  (sibling? request).toList ++
    if request.target = "" then [] else search.candidates request.target

/-- The paths that are tried for a request, up to the first one that is readable. -/
def probes (search : SearchPath) (tree : FileTree) (request : IncludeRequest) : List String :=
  (search.tried request).take ((search.tried request).findIdx tree.isReadable + 1)

/-- A request is answered by the first path that is readable. -/
theorem locateInclude?_eq_find?
    (search : SearchPath) (tree : FileTree) (request : IncludeRequest) :
    search.locateInclude? tree request = (search.tried request).find? tree.isReadable := by
  have candidates :
      search.find? tree request.target =
        (if request.target = "" then [] else search.candidates request.target).find?
          tree.isReadable := by
    unfold find?
    split <;> rfl
  unfold locateInclude? tried
  rw [List.find?_append, candidates]
  cases sibling? request with
  | none => rfl
  | some path =>
      cases isReadable : tree.isReadable path <;> simp [Option.filter, isReadable]

/-- Looking along a list depends on the elements up to the first hit alone. -/
theorem find?_congr_take
    {paths : List String} {test other : String → Bool}
    (alike : ∀ path ∈ paths.take (paths.findIdx test + 1), other path = test path) :
    paths.find? other = paths.find? test := by
  induction paths with
  | nil => rfl
  | cons path others inductionHypothesis =>
      have alikeHere : other path = test path :=
        alike path (by simp)
      rw [List.find?_cons, List.find?_cons, alikeHere]
      cases hit : test path with
      | true => rfl
      | false =>
          refine inductionHypothesis fun later member => alike later ?_
          rw [List.findIdx_cons, hit]
          exact List.mem_cons_of_mem _ member

theorem mem_probes_of_find?
    {search : SearchPath} {tree : FileTree} {request : IncludeRequest} {path : String}
    (found : (search.tried request).find? tree.isReadable = some path) :
    path ∈ search.probes tree request := by
  unfold probes
  generalize search.tried request = paths at found
  induction paths with
  | nil => cases found
  | cons first others inductionHypothesis =>
      rw [List.find?_cons] at found
      rw [List.findIdx_cons]
      cases hit : tree.isReadable first with
      | true =>
          rw [hit] at found
          cases found
          simp
      | false =>
          rw [hit] at found
          exact List.mem_cons_of_mem _ (inductionHypothesis found)

/-- A request is answered alike as long as nothing changes at the paths probed for it. -/
theorem resolve_eq
    {changed : Location → Prop} {tree after : FileTree}
    (changes : FileTree.ChangesFiles changed tree after)
    {search : SearchPath} {request : IncludeRequest}
    (kept : ∀ path ∈ search.probes tree request, ∀ location,
      tree.place? path = some location → ¬changed location) :
    (search.resolver after).resolve request = (search.resolver tree).resolve request := by
  have locates : search.locateInclude? after request = search.locateInclude? tree request := by
    rw [locateInclude?_eq_find?, locateInclude?_eq_find?]
    exact find?_congr_take fun path member => changes.isReadable_eq (kept path member)
  simp only [resolver, locates]
  cases found : search.locateInclude? tree request with
  | none => rfl
  | some path =>
      rw [locateInclude?_eq_find?] at found
      simp only [changes.readText_eq_of_isReadable (kept path (mem_probes_of_find? found))
        (List.find?_some found)]

end SearchPath

/-! ### What a session reads -/

namespace Session

/-- The options of the compilation of a file. -/
def options (session : Session) (tree : FileTree) (path : String) : CompileOptions :=
  { sourceName := some path
    resolver := some (session.search.resolver tree)
    defines := session.defines }

/-- The paths that are probed while the includes of an input are resolved. -/
def probed (session : Session) (tree : FileTree) (path : String) : List String :=
  match session.stageOf path, tree.readText path with
  | .ok _, .ok content =>
      ((session.compiler.expansionSettings (session.options tree path)).expand path
        content).requests.flatMap (session.search.probes tree)
  | _, _ => []

/-- The module made of an input, if one is made. -/
def binary? (session : Session) (tree : FileTree) (path : String) : Option ShaderModule :=
  (session.build tree path).toOption

theorem compile_eq
    {changed : Location → Prop} {tree after : FileTree}
    (changes : FileTree.ChangesFiles changed tree after)
    {session : Session} {path : String} {content : List Char}
    (kept :
      ∀ request ∈ ((session.compiler.expansionSettings (session.options tree path)).expand path
        content).requests,
        ∀ probe ∈ session.search.probes tree request, ∀ location,
          tree.place? probe = some location → ¬changed location)
    (stage : ShaderStage) :
    session.compiler.compile content stage session.entryPoint (session.options after path) =
      session.compiler.compile content stage session.entryPoint (session.options tree path) := by
  have expands :
      (session.compiler.expansionSettings (session.options after path)).expand path content =
        (session.compiler.expansionSettings (session.options tree path)).expand path content :=
    ExpansionSettings.expand_congr fun request member =>
      SearchPath.resolve_eq changes (kept request member)
  have units :
      ExpandedUnit.expand (session.compiler.expansionSettings (session.options after path))
          (session.options after path).source content =
        ExpandedUnit.expand (session.compiler.expansionSettings (session.options tree path))
          (session.options tree path).source content := by
    rw [ExpandedUnit.expand, ExpandedUnit.expand]
    exact congrArg (Expansion.unit · path) expands
  unfold Compiler.compile Compiler.compilation
  rw [units]
  rfl

theorem binary?_eq_some_iff_build
    {session : Session} {tree : FileTree} {path : String} {module : ShaderModule} :
    session.binary? tree path = some module ↔ session.build tree path = .ok module := by
  rw [binary?]
  cases session.build tree path <;> simp [Except.toOption]

/-- A binary comes of an input whose stage is known, that is a text, and that compiles. -/
theorem binary?_eq_some_iff
    {session : Session} {tree : FileTree} {path : String} {module : ShaderModule} :
    session.binary? tree path = some module ↔
      ∃ stage content,
        session.stageOf path = .ok stage ∧ tree.readText path = .ok content ∧
          session.compiler.compile content stage session.entryPoint (session.options tree path) =
            module ∧
            module.success = true := by
  have compiles {made : ShaderModule} :
      session.compileFile tree path = .ok made ↔
        ∃ stage, session.stageOf path = .ok stage ∧ ∃ content, tree.readText path = .ok content ∧
          session.compiler.compile content stage session.entryPoint (session.options tree path) =
            made := by
    rw [compileFile, bind_eq_ok_iff]
    refine exists_congr fun stage => and_congr_right fun _ => ?_
    cases tree.readText path <;> simp [options]
  rw [binary?_eq_some_iff_build, build, bind_eq_ok_iff]
  constructor
  · rintro ⟨made, isMade, succeeds⟩
    split at succeeds
    · rename_i isSuccess
      cases succeeds
      obtain ⟨stage, isStage, content, reads, isModule⟩ := compiles.mp isMade
      exact ⟨stage, content, isStage, reads, isModule, isSuccess⟩
    · cases succeeds
  · rintro ⟨stage, content, isStage, reads, isModule, isSuccess⟩
    exact ⟨module, compiles.mpr ⟨stage, isStage, content, reads, isModule⟩, if_pos isSuccess⟩

/--
Whether a binary comes of an input, and which, depends only on the files at the input
and the probed paths.
-/
theorem binary?_eq
    {changed : Location → Prop} {tree after : FileTree}
    (changes : FileTree.ChangesFiles changed tree after)
    {session : Session} {path : String}
    (kept : ∀ read ∈ path :: session.probed tree path, ∀ location,
      tree.place? read = some location → ¬changed location) :
    session.binary? after path = session.binary? tree path := by
  refine Option.ext fun module => ?_
  simp only [binary?_eq_some_iff, changes.readText_eq_ok_iff (kept path List.mem_cons_self)]
  refine exists_congr fun stage => exists_congr fun content => and_congr_right fun isStage =>
    and_congr_right fun reads => ?_
  rw [compile_eq changes]
  intro request member probe isProbe
  refine kept probe (List.mem_cons_of_mem _ ?_)
  rw [probed, isStage, reads]
  exact List.mem_flatMap.mpr ⟨request, member, isProbe⟩

end Session

end ShaderBuild
