import ShaderBuild.Foreign.Owner
import ShaderBuild.Proofs.Compilation

namespace ShaderBuild.Foreign

/-!
# Sources passed through the C interface

A source may be passed with its length or with a zero byte at its end, as it is or
through an owner, and its entry point may be left out. All these ways come to one
compilation, and the accessors report the module that it makes. A zero character in a
module's message would end the text for a C program, so a space takes its place.
-/

/-! ### Memory -/

/-- Memory is read up to its first zero byte, whatever follows. -/
theorem terminated_append_zero
    {bytes : List UInt8}
    (noZero : 0 ∉ bytes)
    (after : List UInt8) :
    terminated (bytes ++ 0 :: after) = bytes := by
  have nonzero : ∀ byte ∈ bytes, decide (byte ≠ 0) = true := by
    intro byte member
    rw [decide_eq_true_eq]
    rintro rfl
    exact noZero member
  unfold terminated
  rw [List.takeWhile_append_of_pos nonzero, List.takeWhile_cons_of_neg (by decide),
    List.append_nil]

/-- Only the zero character is encoded with a zero byte. -/
theorem eq_zero_of_mem_utf8EncodeChar {c : Char} (member : 0 ∈ String.utf8EncodeChar c) :
    c = '\x00' := by
  have zero_iff (n : Nat) : 0 = UInt8.ofNat n ↔ n % 256 = 0 := by
    rw [← UInt8.toNat_inj, UInt8.toNat_ofNat', eq_comm]
    rfl
  have codeZero : c.val.toNat = 0 := by
    unfold String.utf8EncodeChar at member
    simp only at member
    split at member
    · simp only [List.mem_singleton, zero_iff] at member
      omega
    · split at member
      · simp only [List.mem_cons, List.not_mem_nil, or_false, zero_iff] at member
        omega
      · split at member
        · simp only [List.mem_cons, List.not_mem_nil, or_false, zero_iff] at member
          omega
        · simp only [List.mem_cons, List.not_mem_nil, or_false, zero_iff] at member
          omega
  exact Char.ext (UInt32.toNat_inj.mp codeZero)

theorem zero_notMem_encode {text : List Char} (noZero : '\x00' ∉ text) :
    0 ∉ Text.encode text := by
  intro member
  obtain ⟨c, inText, isByte⟩ := List.mem_flatMap.mp member
  rw [eq_zero_of_mem_utf8EncodeChar isByte] at inText
  exact noZero inText

/-! ### Entry points -/

/-- A name of the usual entry point: its own, or none. -/
def IsUsualName (name : String) : Prop :=
  name = "" ∨ name = Compiler.defaultEntryPoint

/-- Memory that stands for the usual entry point. -/
inductive NamesUsual : Option (List UInt8) → Prop where
  | absent : NamesUsual none
  | named
      {name : String} {after : List UInt8}
      (usual : IsUsualName name) :
      NamesUsual (some (Text.encode name.toList ++ 0 :: after))

theorem IsUsualName.zero_notMem {name : String} (usual : IsUsualName name) :
    '\x00' ∉ name.toList := by
  rcases usual with rfl | rfl <;> decide

/-- An entry point without a name has the usual one. -/
theorem IsUsualName.compileBytes_eq
    {name : String}
    (usual : IsUsualName name)
    (compiler : Compiler)
    (bytes : List UInt8)
    (stage : ShaderStage)
    (options : CompileOptions) :
    compiler.compileBytes bytes stage name options =
      compiler.compileBytes bytes stage Compiler.defaultEntryPoint options := by
  have sameJob
      (unit : ExpandedUnit) :
      compiler.job unit stage name options =
        compiler.job unit stage Compiler.defaultEntryPoint options := by
    rcases usual with rfl | rfl <;> rfl
  unfold Compiler.compileBytes Compiler.bytesCompilation Compiler.compilation
  simp only [sameJob]

/-- An owner names the entry point by a text that ends in a zero byte. -/
theorem entryPointName_encode
    {name : String}
    (noZero : '\x00' ∉ name.toList)
    (source : Option (List UInt8))
    (length kind : Int)
    (after : List UInt8) :
    (CompileCall.mk source length kind
      (some (Text.encode name.toList ++ 0 :: after))).entryPointName = .ok name := by
  unfold CompileCall.entryPointName
  simp only
  rw [terminated_append_zero (zero_notMem_encode noZero), Text.decode_eq_ok_iff.mpr rfl]
  exact congrArg Except.ok String.ofList_toList

theorem NamesUsual.entryPointName
    {memory : Option (List UInt8)}
    (usual : NamesUsual memory)
    (source : Option (List UInt8))
    (length kind : Int) :
    ∃ name,
      IsUsualName name ∧
        (CompileCall.mk source length kind memory).entryPointName = .ok name := by
  cases usual with
  | absent =>
      exact ⟨_, .inr rfl, rfl⟩
  | named usual =>
      exact ⟨_, usual, entryPointName_encode usual.zero_notMem source length kind _⟩

@[simp] theorem stageOfNumber?_stageNumber (stage : ShaderStage) :
    stageOfNumber? (stageNumber stage) = some stage := by
  cases stage <;> rfl

/-- A call with a known stage compiles its source. -/
theorem CompileCall.run_eq_compileBytes
    {call : CompileCall}
    {stage : ShaderStage}
    {name : String}
    (known : stageOfNumber? call.kind = some stage)
    (named : call.entryPointName = .ok name)
    (compiler : Compiler) :
    call.run compiler = compiler.compileBytes call.sourceBytes stage name {} := by
  unfold run
  rw [known, named]

theorem NamesUsual.run_eq_compileBytes
    {name : Option (List UInt8)}
    (usual : NamesUsual name)
    (source : Option (List UInt8))
    (length : Int)
    (stage : ShaderStage)
    (compiler : Compiler) :
    (CompileCall.mk source length (stageNumber stage) name).run compiler =
      compiler.compileBytes
        (CompileCall.mk source length (stageNumber stage) name).sourceBytes
        stage Compiler.defaultEntryPoint {} := by
  have known := stageOfNumber?_stageNumber stage
  obtain ⟨name, isUsual, named⟩ := usual.entryPointName source length (stageNumber stage)
  rw [CompileCall.run_eq_compileBytes known named, isUsual.compileBytes_eq]

/-! ### Sources -/

section

variable (bytes after : List UInt8) (kind : Int) (name : Option (List UInt8))

/-- A length counts, also where the bytes hold zeros. -/
theorem sourceBytes_counted :
    (CompileCall.mk (some (bytes ++ after)) bytes.length kind name).sourceBytes = bytes := by
  have counted : ¬ (bytes.length : Int) < 0 := Int.not_lt.mpr (Int.natCast_nonneg _)
  unfold CompileCall.sourceBytes
  simp only [counted, if_false, Int.toNat_natCast, List.take_left]

/-- With a negative length the bytes end at the first zero. -/
theorem sourceBytes_terminated
    {length : Int}
    (negative : length < 0)
    {bytes : List UInt8}
    (noZero : 0 ∉ bytes) :
    (CompileCall.mk (some (bytes ++ 0 :: after)) length kind name).sourceBytes = bytes := by
  unfold CompileCall.sourceBytes
  simp only [negative, if_true]
  exact terminated_append_zero noZero after

end

/-! ### Reports -/

/-- What the accessors tell of a module. -/
structure ModuleReport where
  success : Bool
  byteLength : Nat
  bytes : List UInt8
  words : List UInt32
  message : String
  deriving Repr, DecidableEq

/-- What the accessors are to tell of a module. -/
def ModuleReport.of (module : ShaderModule) : ModuleReport where
  success := module.success
  byteLength := module.byteSize
  bytes := module.bytes
  words := module.words
  message := Heap.withoutZeros module.message

/-- A report tells a module's binary as it is, and its message but for zeros. -/
structure ModuleReport.IsFaithful (report : ModuleReport) (module : ShaderModule) : Prop where
  success : report.success = module.success
  byteLength : report.byteLength = module.byteSize
  bytes : report.bytes = module.bytes
  words : report.words = module.words
  message :
    report.message.toList = module.message.toList.map fun c => if c = '\x00' then ' ' else c
  /-- A program that reads the message up to a zero byte reads all of it. -/
  untruncated :
    ∀ after,
      terminated (Text.encode report.message.toList ++ 0 :: after) =
        Text.encode report.message.toList
  message_eq_empty_iff : report.message = "" ↔ module.success = true

theorem toList_withoutZeros (text : String) :
    (Heap.withoutZeros text).toList =
      text.toList.map fun c => if c = '\x00' then ' ' else c :=
  String.toList_ofList

theorem zero_notMem_withoutZeros (text : String) :
    '\x00' ∉ (Heap.withoutZeros text).toList := by
  rw [toList_withoutZeros, List.mem_map]
  rintro ⟨c, -, isZero⟩
  split at isZero
  · exact absurd isZero (by decide)
  · rename_i notZero
    exact notZero isZero

theorem message_eq_empty_iff (module : ShaderModule) :
    module.message = "" ↔ module.success = true := by
  cases module with
  | binary words =>
      exact iff_of_true rfl rfl
  | failed first others =>
      exact iff_of_false (ShaderModule.showsFailure_failed first others).message_ne
        Bool.false_ne_true

theorem ModuleReport.isFaithful_of (module : ShaderModule) :
    (ModuleReport.of module).IsFaithful module where
  success := rfl
  byteLength := rfl
  bytes := rfl
  words := rfl
  message := toList_withoutZeros module.message
  untruncated := terminated_append_zero (zero_notMem_encode (zero_notMem_withoutZeros _))
  message_eq_empty_iff := by
    have message_iff := message_eq_empty_iff module
    rw [← String.toList_eq_nil_iff] at message_iff ⊢
    change (Heap.withoutZeros module.message).toList = [] ↔ module.success = true
    rw [toList_withoutZeros, List.map_eq_nil_iff, message_iff]

namespace Heap

/-- What the accessors tell of what a handle names. -/
def report (heap : Heap) (handle : Handle) : ModuleReport where
  success := heap.success handle
  byteLength := heap.byteLength handle
  bytes := heap.bytes handle
  words := heap.words handle
  message := heap.message handle

theorem report_eq_of_get?
    {heap : Heap}
    {handle : Handle}
    {module : ShaderModule}
    (names : heap.modules.get? handle = some module) :
    heap.report handle = .of module := by
  simp only [report, success, byteLength, bytes, words, message, names, Option.map_some,
    Option.getD_some]
  rfl

theorem report_addModule (heap : Heap) (module : ShaderModule) :
    (heap.addModule module).1.report (heap.addModule module).2 = .of module :=
  report_eq_of_get? (heap.modules.get?_allocate_self module)

theorem compile_of_live
    {heap : Heap}
    {handle : Handle}
    {compiler : Compiler}
    (live : heap.compilers.get? handle = some compiler)
    (call : CompileCall) :
    heap.compile handle call = heap.addModule (call.run compiler) := by
  unfold compile
  rw [live]

end Heap

/-! ### Ways of passing a source -/

/-- What a compilation through an owner leaves: the heap, and the handle of the module. -/
def ownedHandle (made : Heap × ModuleOwner) : Heap × Handle :=
  (made.1, made.2.handle)

/-- The ways of passing a source for the usual entry point, and what each of them leaves. -/
inductive Passes
    (heap : Heap) (compiler : Handle) (stage : ShaderStage) (source : List UInt8) :
    Heap × Handle → Prop where
  /-- With its length, in a buffer that goes on. -/
  | counted
      {after : List UInt8} {name : Option (List UInt8)}
      (usual : NamesUsual name) :
      Passes heap compiler stage source
        (heap.compile compiler
          ⟨some (source ++ after), source.length, stageNumber stage, name⟩)
  /-- With a negative length, in a buffer that goes on after a zero byte. -/
  | terminated
      {after : List UInt8} {length : Int} {name : Option (List UInt8)}
      (noZero : 0 ∉ source)
      (negative : length < 0)
      (usual : NamesUsual name) :
      Passes heap compiler stage source
        (heap.compile compiler
          ⟨some (source ++ 0 :: after), length, stageNumber stage, name⟩)
  /-- As a text, through an owner. -/
  | text
      {text : List Char} {name : String}
      (encoded : source = Text.encode text)
      (fits : source.length ≤ longestSource)
      (usual : IsUsualName name) :
      Passes heap compiler stage source
        (ownedHandle (CompilerOwner.compileText ⟨compiler⟩ heap text stage name))
  /-- As memory that a zero byte ends, through an owner. -/
  | terminatedOwned
      {after : List UInt8}
      (noZero : 0 ∉ source) :
      Passes heap compiler stage source
        (ownedHandle
          (CompilerOwner.compileTerminated ⟨compiler⟩ heap (source ++ 0 :: after) stage))

/-- An owner passes a text with its length. -/
theorem compileText_eq_compile
    {text : List Char}
    {name : String}
    (noZero : '\x00' ∉ name.toList)
    (fits : (Text.encode text).length ≤ longestSource)
    (heap : Heap)
    (compiler : Handle)
    (stage : ShaderStage) :
    ownedHandle (CompilerOwner.compileText ⟨compiler⟩ heap text stage name) =
      heap.compile compiler
        ⟨some (Text.encode text), (Text.encode text).length, stageNumber stage,
          some (Text.encode name.toList ++ [0])⟩ := by
  have noneFound : ¬ name.toList.contains '\x00' = true := by
    rwa [List.contains_iff_mem]
  unfold CompilerOwner.compileText
  simp only
  rw [if_neg noneFound, if_neg (Nat.not_lt_of_le fits)]
  rfl

/-- Each way comes to a call that compiles the source for the usual entry point. -/
theorem Passes.exists_call
    {heap : Heap}
    {handle : Handle}
    {stage : ShaderStage}
    {source : List UInt8}
    {made : Heap × Handle}
    (passes : Passes heap handle stage source made) :
    ∃ call : CompileCall,
      made = heap.compile handle call ∧
        ∀ compiler,
          call.run compiler =
            compiler.compileBytes source stage Compiler.defaultEntryPoint {} := by
  -- Every way has its own call; what the calls have in common is the compilation they run.
  cases passes with
  | counted usual =>
      refine ⟨_, rfl, fun compiler => ?_⟩
      rw [usual.run_eq_compileBytes, sourceBytes_counted]
  | terminated noZero negative usual =>
      refine ⟨_, rfl, fun compiler => ?_⟩
      rw [usual.run_eq_compileBytes, sourceBytes_terminated _ _ _ negative noZero]
  | @text text name encoded fits usual =>
      subst encoded
      refine ⟨_, compileText_eq_compile usual.zero_notMem fits heap handle stage,
        fun compiler => ?_⟩
      have whole := sourceBytes_counted (Text.encode text) [] (stageNumber stage)
        (some (Text.encode name.toList ++ [0]))
      rw [List.append_nil] at whole
      rw [(NamesUsual.named usual).run_eq_compileBytes, whole]
  | terminatedOwned noZero =>
      refine ⟨_, rfl, fun compiler => ?_⟩
      rw [NamesUsual.absent.run_eq_compileBytes,
        sourceBytes_terminated _ _ _ (by decide) noZero]

/-! ### The interface -/

section

variable {heap : Heap} {handle : Handle} {compiler : Compiler}
  (live : heap.compilers.get? handle = some compiler)

include live

theorem ne_none_of_live : handle ≠ none := by
  rintro rfl
  cases live

theorem report_compile (call : CompileCall) :
    (heap.compile handle call).1.report (heap.compile handle call).2 =
      .of (call.run compiler) := by
  rw [Heap.compile_of_live live]
  exact heap.report_addModule (call.run compiler)

/-- A live compiler makes a module of every call. -/
theorem compile_ne_none (call : CompileCall) : (heap.compile handle call).2 ≠ none := by
  rw [Heap.compile_of_live live]
  exact Option.some_ne_none _

/-- An owner of a live compiler makes a failed module where it passes nothing on. -/
theorem rejected_eq_addModule (reason : String) :
    ownedHandle (CompilerOwner.rejected ⟨handle⟩ heap reason) =
      heap.addModule (.failure CompileOptions.defaultSource reason) := by
  have valid : (CompilerOwner.mk handle).isValid = true :=
    Option.isSome_iff_ne_none.mpr (ne_none_of_live live)
  unfold CompilerOwner.rejected
  rw [if_pos valid]
  rfl

end

/-- A text is passed on, or it is rejected. -/
theorem compileText_cases
    (owner : CompilerOwner)
    (heap : Heap)
    (text : List Char)
    (stage : ShaderStage)
    (name : String) :
    (∃ call, owner.compileText heap text stage name = owner.compileCall heap call) ∨
      ∃ reason, owner.compileText heap text stage name = owner.rejected heap reason := by
  unfold CompilerOwner.compileText
  simp only
  split
  · exact .inr ⟨_, rfl⟩
  · split
    · exact .inr ⟨_, rfl⟩
    · exact .inl ⟨_, rfl⟩

/-- A compilation makes a null module only if the compiler's handle is null. -/
structure NullForNull (heap : Heap) (handle : Handle) : Prop where
  compile : ∀ call, (heap.compile handle call).2 = none ↔ handle = none
  compileText :
    ∀ text stage name,
      (CompilerOwner.compileText ⟨handle⟩ heap text stage name).2.handle = none ↔
        handle = none
  compileTerminated :
    ∀ memory stage,
      (CompilerOwner.compileTerminated ⟨handle⟩ heap memory stage).2.handle = none ↔
        handle = none

theorem nullForNull_none (heap : Heap) : NullForNull heap none where
  compile _ := iff_of_true rfl rfl
  compileText text stage name := by
    refine iff_of_true ?_ rfl
    rcases compileText_cases ⟨none⟩ heap text stage name with
      ⟨call, passed⟩ | ⟨reason, rejected⟩
    · rw [passed]
      rfl
    · rw [rejected]
      rfl
  compileTerminated _ _ := iff_of_true rfl rfl

/-- A live compiler makes no null module, whatever is wrong with the other arguments. -/
theorem nullForNull_of_live
    {heap : Heap}
    {handle : Handle}
    {compiler : Compiler}
    (live : heap.compilers.get? handle = some compiler) :
    NullForNull heap handle where
  compile call := iff_of_false (compile_ne_none live call) (ne_none_of_live live)
  compileText text stage name := by
    refine iff_of_false ?_ (ne_none_of_live live)
    rcases compileText_cases ⟨handle⟩ heap text stage name with
      ⟨call, passed⟩ | ⟨reason, rejected⟩
    · rw [passed]
      exact compile_ne_none live call
    · rw [rejected]
      have made := congrArg Prod.snd (rejected_eq_addModule live reason)
      change (CompilerOwner.rejected ⟨handle⟩ heap reason).2.handle = _ at made
      rw [made]
      exact Option.some_ne_none _
  compileTerminated memory stage :=
    iff_of_false (compile_ne_none live _) (ne_none_of_live live)

/--
Every way of passing a source to a live compiler gives a module with one report, that of
the compilation of the source's bytes for the usual entry point. Of every compilation
the accessors tell the module faithfully. Only a null compiler makes null modules.
-/
theorem compile_through_interface
    {heap : Heap}
    {handle : Handle}
    {compiler : Compiler}
    (live : heap.compilers.get? handle = some compiler) :
    (∀ stage source made,
        Passes heap handle stage source made →
          made.1.report made.2 =
            .of (compiler.compileBytes source stage Compiler.defaultEntryPoint {})) ∧
      (∀ call,
        ((heap.compile handle call).1.report (heap.compile handle call).2).IsFaithful
          (call.run compiler)) ∧
      (∀ reason,
        let made := CompilerOwner.rejected ⟨handle⟩ heap reason
        (made.1.report made.2.handle).IsFaithful
          (.failure CompileOptions.defaultSource reason)) ∧
      ∀ given, given = none ∨ given = handle → NullForNull heap given := by
  refine ⟨?_, ?_, ?_, ?_⟩
  · intro stage source made passes
    obtain ⟨call, rfl, compiles⟩ := passes.exists_call
    rw [report_compile live, compiles]
  · intro call
    rw [report_compile live]
    exact ModuleReport.isFaithful_of (call.run compiler)
  · intro reason made
    have rejected := rejected_eq_addModule live reason
    change ((ownedHandle made).1.report (ownedHandle made).2).IsFaithful _
    rw [rejected, Heap.report_addModule]
    exact ModuleReport.isFaithful_of _
  · rintro given (rfl | rfl)
    · exact nullForNull_none heap
    · exact nullForNull_of_live live

/-- A message with a zero, and a source in a buffer that goes on after its zero byte. -/
theorem compile_through_interface_zeros :
    let engine : Engine := ⟨"", fun _ => .diagnostics [⟨some 13, "a\x00b"⟩]⟩
    let compiler : Compiler := ⟨{}, engine, rfl⟩
    let heap := (Heap.empty.createCompiler engine).1
    let made := heap.compile (some 0) ⟨some [120, 0, 255], -3, 0, some [0, 255]⟩
    heap.compilers.get? (some 0) = some compiler ∧
      made.1.report made.2 = ⟨false, 0, [], [], "shader:1: error: a b\n"⟩ ∧
        NullForNull heap (some 0) := by
  intro engine compiler heap made
  have live : heap.compilers.get? (some 0) = some compiler := rfl
  obtain ⟨agree, -, -, nulls⟩ := compile_through_interface live
  have passes : Passes heap (some 0) .vertex [120] made :=
    .terminated (by decide) (by decide) (.named (.inl rfl))
  refine ⟨live, ?_, nulls (some 0) (.inr rfl)⟩
  rw [agree .vertex [120] made passes]
  decide +kernel

end ShaderBuild.Foreign
