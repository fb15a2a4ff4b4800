import Mathlib.Data.List.Forall2
import ShaderBuild.Compiler
import ShaderBuild.Proofs.LineMap
import ShaderBuild.Proofs.Text.Utf8

namespace ShaderBuild

/-!
# How a compilation ends

A compilation of bytes ends in one of three ways: the bytes are no text, the text does
not expand, or the engine is asked once and its answer decides. In each of them the
module either shows a binary, which is exactly what the engine answered, or shows a
failure with at least one problem, and never parts of both.
-/

namespace ShaderModule

/-- What a module shows that holds a binary. -/
structure ShowsBinary (module : ShaderModule) (words : List UInt32) : Prop where
  success : module.success = true
  words_eq : module.words = words
  byteSize_eq : module.byteSize = 4 * words.length
  diagnostics_eq : module.diagnostics = []
  message_eq : module.message = ""
  toExcept_eq : module.toExcept = .ok words

/-- What a module shows that holds problems. -/
structure ShowsFailure (module : ShaderModule) : Prop where
  success : module.success = false
  words_eq : module.words = []
  byteSize_eq : module.byteSize = 0
  diagnostics_ne : module.diagnostics ≠ []
  message_ne : module.message ≠ ""
  message_eq :
    module.message =
      String.join (module.diagnostics.map fun diagnostic => diagnostic.render ++ "\n")
  toExcept_eq : module.toExcept = .error module.diagnostics

theorem showsBinary_binary (words : List UInt32) : (binary words).ShowsBinary words :=
  ⟨rfl, rfl, rfl, rfl, rfl, rfl⟩

theorem message_failed (first : Diagnostic) (others : List Diagnostic) :
    (failed first others).message =
      first.render ++ "\n" ++
        String.join (others.map fun diagnostic => diagnostic.render ++ "\n") :=
  String.join_cons

theorem showsFailure_failed (first : Diagnostic) (others : List Diagnostic) :
    (failed first others).ShowsFailure where
  success := rfl
  words_eq := rfl
  byteSize_eq := rfl
  diagnostics_ne := List.cons_ne_nil _ _
  message_ne := by
    rw [message_failed, ne_eq, String.append_eq_empty_iff, String.append_eq_empty_iff]
    exact fun isEmpty => absurd isEmpty.1.2 (by decide)
  message_eq := rfl
  toExcept_eq := rfl

/-- A module shows a failure unless it is a success. -/
theorem showsFailure_of_success_eq_false
    {module : ShaderModule}
    (fails : module.success = false) :
    module.ShowsFailure := by
  cases module with
  | binary words =>
      cases fails
  | failed first others =>
      exact showsFailure_failed first others

/-- Problems make a failed module that shows them, or a general one if there are none. -/
theorem diagnostics_ofDiagnostics (source : String) (problems : List Diagnostic) :
    (ofDiagnostics source problems).diagnostics =
      if problems = [] then [⟨source, none, noDiagnostic⟩] else problems := by
  cases problems <;> rfl

@[simp] theorem success_ofDiagnostics (source : String) (problems : List Diagnostic) :
    (ofDiagnostics source problems).success = false := by
  cases problems <;> rfl

end ShaderModule

namespace Compiler

section

variable
  (compiler : Compiler)
  (stage : ShaderStage)
  (entryPoint : String)
  (options : CompileOptions)

/-- The ways in which a compilation of bytes may end. -/
inductive Ends : List UInt8 → Compilation → Prop where
  /-- The bytes are no text. -/
  | malformed
      {bytes : List UInt8} {fault : Text.Malformed}
      (undecodable : Text.decode bytes = .error fault) :
      Ends bytes
        ⟨[], .failure options.source ("source text is not valid UTF-8: " ++ fault.message)⟩
  /-- The text does not expand. -/
  | unexpanded
      {text : List Char} {problem : Diagnostic}
      (fails :
        ExpandedUnit.expand (compiler.expansionSettings options) options.source text =
          .error problem) :
      Ends (Text.encode text) ⟨[], .failed problem []⟩
  /-- The engine is asked once. -/
  | answered
      {text : List Char} {unit : ExpandedUnit}
      (expands :
        ExpandedUnit.expand (compiler.expansionSettings options) options.source text =
          .ok unit) :
      Ends (Text.encode text)
        ⟨[compiler.job unit stage entryPoint options],
          conclude options.source unit
            (compiler.engine.compile (compiler.job unit stage entryPoint options))⟩

/-- The engine is to be given a job for the bytes: they are a text, and it expands. -/
def Asks (bytes : List UInt8) (job : CompileJob) : Prop :=
  ∃ text unit,
    bytes = Text.encode text ∧
      ExpandedUnit.expand (compiler.expansionSettings options) options.source text =
        .ok unit ∧
      job = compiler.job unit stage entryPoint options

theorem bytesCompilation_encode (text : List Char) :
    compiler.bytesCompilation (Text.encode text) stage entryPoint options =
      compiler.compilation text stage entryPoint options := by
  unfold bytesCompilation
  rw [Text.decode_eq_ok_iff.mpr rfl]

theorem ends_compilation (text : List Char) :
    compiler.Ends stage entryPoint options (Text.encode text)
      (compiler.compilation text stage entryPoint options) := by
  unfold compilation
  cases expands :
    ExpandedUnit.expand (compiler.expansionSettings options) options.source text with
  | error problem =>
      exact .unexpanded expands
  | ok unit =>
      exact .answered expands

theorem ends_bytesCompilation (bytes : List UInt8) :
    compiler.Ends stage entryPoint options bytes
      (compiler.bytesCompilation bytes stage entryPoint options) := by
  cases decodes : Text.decode bytes with
  | error fault =>
      unfold bytesCompilation
      rw [decodes]
      exact .malformed decodes
  | ok text =>
      obtain rfl := Text.decode_eq_ok_iff.mp decodes
      rw [bytesCompilation_encode]
      exact compiler.ends_compilation stage entryPoint options text

end

/-! ### What the engine is asked -/

section

variable
  {compiler : Compiler}
  {stage : ShaderStage}
  {entryPoint : String}
  {options : CompileOptions}
  {bytes : List UInt8}
  {ended : Compilation}

theorem not_asks_of_undecodable
    {fault : Text.Malformed}
    (undecodable : Text.decode bytes = .error fault)
    (job : CompileJob) :
    ¬ compiler.Asks stage entryPoint options bytes job := by
  rintro ⟨text, unit, rfl, -, -⟩
  rw [Text.decode_eq_ok_iff.mpr rfl] at undecodable
  cases undecodable

/-- A text is encoded in one way only. -/
theorem eq_of_encode_eq {first second : List Char} (same : Text.encode first = Text.encode second) :
    first = second := by
  have decodes := Text.decode_eq_ok_iff.mpr same
  rw [Text.decode_eq_ok_iff.mpr rfl] at decodes
  exact Except.ok.inj decodes

theorem asks_encode_iff {text : List Char} {job : CompileJob} :
    compiler.Asks stage entryPoint options (Text.encode text) job ↔
      ∃ unit,
        ExpandedUnit.expand (compiler.expansionSettings options) options.source text =
            .ok unit ∧
          job = compiler.job unit stage entryPoint options := by
  constructor
  · rintro ⟨other, unit, same, expands, rfl⟩
    obtain rfl := eq_of_encode_eq same
    exact ⟨unit, expands, rfl⟩
  · rintro ⟨unit, expands, rfl⟩
    exact ⟨text, unit, rfl, expands, rfl⟩

/-- The jobs given to the engine are the one for the bytes, if there is one. -/
theorem Ends.mem_jobs_iff
    (ends : compiler.Ends stage entryPoint options bytes ended)
    {job : CompileJob} :
    job ∈ ended.jobs ↔ compiler.Asks stage entryPoint options bytes job := by
  cases ends with
  | malformed undecodable =>
      exact iff_of_false List.not_mem_nil (not_asks_of_undecodable undecodable job)
  | unexpanded fails =>
      rw [asks_encode_iff]
      simp [fails]
  | answered expands =>
      rw [asks_encode_iff]
      simp [expands]

theorem Ends.jobs_of_asks
    (ends : compiler.Ends stage entryPoint options bytes ended)
    {job : CompileJob}
    (asks : compiler.Asks stage entryPoint options bytes job) :
    ended.jobs = [job] := by
  rw [← ends.mem_jobs_iff] at asks
  cases ends with
  | malformed | unexpanded =>
      cases asks
  | answered expands =>
      rw [List.mem_singleton.mp asks]

theorem Ends.jobs_of_not_asks
    (ends : compiler.Ends stage entryPoint options bytes ended)
    (never : ∀ job, ¬ compiler.Asks stage entryPoint options bytes job) :
    ended.jobs = [] :=
  List.eq_nil_iff_forall_not_mem.mpr fun job member =>
    never job (ends.mem_jobs_iff.mp member)

/-- A job carries what the call and the configuration say. -/
theorem Ends.job_eq
    (ends : compiler.Ends stage entryPoint options bytes ended)
    {job : CompileJob}
    (given : job ∈ ended.jobs) :
    job =
      { unit := job.unit
        stage := stage
        entryPoint := if entryPoint = "" then "main" else entryPoint
        defines := options.defines
        target := compiler.config.spirvVersion
        debugNames := compiler.config.debugNames } := by
  obtain ⟨_, _, -, -, rfl⟩ := ends.mem_jobs_iff.mp given
  rfl

/-! ### What the module shows -/

theorem Ends.success_iff
    (ends : compiler.Ends stage entryPoint options bytes ended) :
    ended.module.success = true ↔
      ∃ job ∈ ended.jobs, ∃ words, compiler.engine.compile job = .words words := by
  cases ends with
  | malformed | unexpanded =>
      simp [ShaderModule.failure, ShaderModule.success]
  | answered expands =>
      simp only [List.mem_singleton, exists_eq_left]
      cases compiler.engine.compile (compiler.job _ stage entryPoint options) with
      | words words =>
          simp [conclude, ShaderModule.success]
      | diagnostics problems =>
          simp [conclude]
      | breakdown message =>
          simp [conclude, ShaderModule.failure, ShaderModule.success]

/-- The module is made of the engine's answer to the one job that it is given. -/
theorem Ends.module_eq
    (ends : compiler.Ends stage entryPoint options bytes ended)
    {job : CompileJob}
    (given : job ∈ ended.jobs) :
    ended.module = conclude options.source job.unit (compiler.engine.compile job) := by
  cases ends with
  | malformed | unexpanded =>
      cases given
  | answered expands =>
      rw [List.mem_singleton.mp given]
      rfl

theorem root_expand
    {settings : ExpansionSettings}
    {root : String}
    {text : List Char}
    {unit : ExpandedUnit}
    (expands : ExpandedUnit.expand settings root text = .ok unit) :
    unit.root = root := by
  unfold ExpandedUnit.expand Expansion.unit at expands
  split at expands
  · cases expands
    rfl
  · cases expands

theorem Ends.root_eq
    (ends : compiler.Ends stage entryPoint options bytes ended)
    {job : CompileJob}
    (given : job ∈ ended.jobs) :
    job.unit.root = options.source := by
  obtain ⟨text, unit, -, expands, rfl⟩ := ends.mem_jobs_iff.mp given
  exact root_expand expands

/-- Every problem of the engine is reported, in order, where it lies. -/
theorem reportedAs_conclude
    (source : String)
    (unit : ExpandedUnit)
    {problems : List EngineDiagnostic}
    (nonempty : problems ≠ []) :
    List.Forall₂ (fun problem => unit.ReportedAs problem.message problem.offset)
      problems (conclude source unit (.diagnostics problems)).diagnostics := by
  rw [conclude, ShaderModule.diagnostics_ofDiagnostics, if_neg (by simpa using nonempty),
    List.forall₂_map_right_iff, List.forall₂_same]
  intro problem _
  exact unit.reportedAs_diagnosticAt problem.offset problem.message

/-! ### Every compilation -/

/-- What is asked of a compilation of bytes, whichever way it ends. -/
structure IsConsistent
    (compiler : Compiler)
    (stage : ShaderStage)
    (entryPoint : String)
    (options : CompileOptions)
    (bytes : List UInt8)
    (ended : Compilation) : Prop where
  /-- The engine is asked once if the bytes are a text that expands. -/
  askedOnce :
    ∀ job, compiler.Asks stage entryPoint options bytes job → ended.jobs = [job]
  /-- Otherwise it is not asked. -/
  neverAsked :
    (∀ job, ¬ compiler.Asks stage entryPoint options bytes job) → ended.jobs = []
  /-- A job is for the given stage, entry point and macros, and for the configuration. -/
  carried :
    ∀ job ∈ ended.jobs,
      job =
        { unit := job.unit
          stage := stage
          entryPoint := if entryPoint = "" then "main" else entryPoint
          defines := options.defines
          target := compiler.config.spirvVersion
          debugNames := compiler.config.debugNames }
  success_iff :
    ended.module.success = true ↔
      ∃ job ∈ ended.jobs, ∃ words, compiler.engine.compile job = .words words
  binary :
    ∀ job ∈ ended.jobs, ∀ words,
      compiler.engine.compile job = .words words → ended.module.ShowsBinary words
  failure :
    ended.module.success = false → ended.module.ShowsFailure
  /-- The engine's problems keep their order and number, and each is located. -/
  located :
    ∀ job ∈ ended.jobs, ∀ problems,
      compiler.engine.compile job = .diagnostics problems → problems ≠ [] →
        job.unit.root = options.source ∧
          List.Forall₂ (fun problem => job.unit.ReportedAs problem.message problem.offset)
            problems ended.module.diagnostics
  /-- An engine that fails without a problem fails the module with a general one. -/
  unexplained :
    ∀ job ∈ ended.jobs,
      compiler.engine.compile job = .diagnostics [] →
        ended.module.diagnostics = [⟨options.source, none, ShaderModule.noDiagnostic⟩]
  brokenDown :
    ∀ job ∈ ended.jobs, ∀ message,
      compiler.engine.compile job = .breakdown message →
        ended.module.diagnostics =
          [⟨options.source, none,
            "internal compiler error: " ++ message.getD "unknown panic"⟩]
  unexpanded :
    ∀ text problem,
      bytes = Text.encode text →
        ExpandedUnit.expand (compiler.expansionSettings options) options.source text =
            .error problem →
          ended.module.diagnostics = [problem]
  malformed :
    (∀ text, bytes ≠ Text.encode text) →
      ∃ fault,
        Text.decode bytes = .error fault ∧
          ended.module.diagnostics =
            [⟨options.source, none, "source text is not valid UTF-8: " ++ fault.message⟩]

theorem Ends.diagnostics_of_unexpanded
    (ends : compiler.Ends stage entryPoint options bytes ended)
    {text : List Char}
    {problem : Diagnostic}
    (encoded : bytes = Text.encode text)
    (fails :
      ExpandedUnit.expand (compiler.expansionSettings options) options.source text =
        .error problem) :
    ended.module.diagnostics = [problem] := by
  cases ends with
  | malformed undecodable =>
      rw [Text.decode_eq_ok_iff.mpr encoded] at undecodable
      cases undecodable
  | unexpanded otherFails =>
      obtain rfl := eq_of_encode_eq encoded
      rw [otherFails] at fails
      cases fails
      rfl
  | answered expands =>
      obtain rfl := eq_of_encode_eq encoded
      rw [expands] at fails
      cases fails

theorem Ends.diagnostics_of_malformed
    (ends : compiler.Ends stage entryPoint options bytes ended)
    (noText : ∀ text, bytes ≠ Text.encode text) :
    ∃ fault,
      Text.decode bytes = .error fault ∧
        ended.module.diagnostics =
          [⟨options.source, none, "source text is not valid UTF-8: " ++ fault.message⟩] := by
  cases ends with
  | malformed undecodable =>
      exact ⟨_, undecodable, rfl⟩
  | unexpanded | answered =>
      exact absurd rfl (noText _)

theorem Ends.isConsistent
    (ends : compiler.Ends stage entryPoint options bytes ended) :
    compiler.IsConsistent stage entryPoint options bytes ended where
  askedOnce _ asks := ends.jobs_of_asks asks
  neverAsked never := ends.jobs_of_not_asks never
  carried _ given := ends.job_eq given
  success_iff := ends.success_iff
  binary job given words answer := by
    rw [ends.module_eq given, answer]
    exact ShaderModule.showsBinary_binary words
  failure fails := ShaderModule.showsFailure_of_success_eq_false fails
  located job given problems answer nonempty := by
    refine ⟨ends.root_eq given, ?_⟩
    rw [ends.module_eq given, answer]
    exact reportedAs_conclude options.source job.unit nonempty
  unexplained job given answer := by
    rw [ends.module_eq given, answer]
    rfl
  brokenDown job given message answer := by
    rw [ends.module_eq given, answer]
    rfl
  unexpanded _ _ encoded fails := ends.diagnostics_of_unexpanded encoded fails
  malformed noText := ends.diagnostics_of_malformed noText

/-- What an engine answers to other jobs makes no difference. -/
theorem compilation_congr
    {other : Compiler}
    (sameConfig : other.config = compiler.config)
    {text : List Char}
    (sameAnswers :
      ∀ job, compiler.Asks stage entryPoint options (Text.encode text) job →
        other.engine.compile job = compiler.engine.compile job) :
    other.compilation text stage entryPoint options =
      compiler.compilation text stage entryPoint options := by
  have sameSettings : other.expansionSettings options = compiler.expansionSettings options := by
    rw [expansionSettings, expansionSettings, sameConfig]
  have sameJob
      (unit : ExpandedUnit) :
      other.job unit stage entryPoint options = compiler.job unit stage entryPoint options := by
    rw [job, job, sameConfig]
  unfold compilation
  rw [sameSettings]
  cases expands :
    ExpandedUnit.expand (compiler.expansionSettings options) options.source text with
  | error problem =>
      rfl
  | ok unit =>
      have sameAnswer := sameAnswers _ (asks_encode_iff.mpr ⟨unit, expands, rfl⟩)
      simp only [sameJob, sameAnswer]

end

/--
A compilation of bytes ends in one consistent module. Bytes that encode a text are
compiled as the text is, and of the engine only its answer to the one job that it is
given counts.
-/
theorem bytesCompilation_isConsistent
    (compiler : Compiler)
    (bytes : List UInt8)
    (stage : ShaderStage)
    (entryPoint : String)
    (options : CompileOptions) :
    compiler.IsConsistent stage entryPoint options bytes
        (compiler.bytesCompilation bytes stage entryPoint options) ∧
      (∀ text,
        bytes = Text.encode text →
          compiler.bytesCompilation bytes stage entryPoint options =
            compiler.compilation text stage entryPoint options) ∧
      ∀ other : Compiler,
        other.config = compiler.config →
          (∀ job, compiler.Asks stage entryPoint options bytes job →
            other.engine.compile job = compiler.engine.compile job) →
          other.bytesCompilation bytes stage entryPoint options =
            compiler.bytesCompilation bytes stage entryPoint options := by
  refine ⟨(compiler.ends_bytesCompilation stage entryPoint options bytes).isConsistent, ?_, ?_⟩
  · rintro text rfl
    exact compiler.bytesCompilation_encode stage entryPoint options text
  · intro other sameConfig sameAnswers
    cases decodes : Text.decode bytes with
    | error fault =>
        unfold bytesCompilation
        rw [decodes]
    | ok text =>
        obtain rfl := Text.decode_eq_ok_iff.mp decodes
        rw [bytesCompilation_encode, bytesCompilation_encode]
        exact compilation_congr sameConfig sameAnswers

/-- Offsets in the second line, in the version line put before the text, and beyond. -/
example :
    let compiler : Compiler :=
      ⟨{}, ⟨"", fun _ => .diagnostics [⟨some 14, "a"⟩, ⟨some 3, "b"⟩, ⟨some 99, "c"⟩]⟩, rfl⟩
    let bytes := Text.encode "\nint x;".toList
    (compiler.bytesCompilation bytes .vertex "" {}).module.diagnostics =
      [⟨"shader", some 2, "a"⟩, ⟨"shader", none, "b"⟩, ⟨"shader", none, "c"⟩] := by
  decide +kernel

end Compiler

end ShaderBuild
