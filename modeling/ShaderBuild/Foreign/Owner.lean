import ShaderBuild.Foreign.Interface

namespace ShaderBuild.Foreign

/-!
# Owners

An owner holds one handle, perhaps the null one, and is the only one to release it.
An owner without a handle is invalid: what it compiles is an invalid module, and what
it reports is a failure without a message.
-/

/-- Holds the handle of a compiler. -/
structure CompilerOwner where
  handle : Handle := none
  deriving Repr, DecidableEq

/-- Holds the handle of a module. -/
structure ModuleOwner where
  handle : Handle := none
  deriving Repr, DecidableEq

/-- Why an owner cannot be made, or cannot compile a source. -/
inductive OwnerFault where
  | creationFailed
  | sourceTooLong (bytes : Nat)
  deriving Repr, DecidableEq

/-- The report of a fault. -/
def OwnerFault.message : OwnerFault → String
  | .creationFailed => "compiler initialization failed"
  | .sourceTooLong bytes => s!"source is too long for the C interface ({bytes} bytes)"

/-- The length of the longest source that a C number can give. -/
def longestSource : Nat := (1 <<< 31) - 1

namespace CompilerOwner

/-- Whether there is a handle. -/
def isValid (owner : CompilerOwner) : Bool :=
  owner.handle.isSome

/-- Make a compiler and own it; the owner is invalid if that fails. -/
def create (heap : Heap) (engine : Engine) : Heap × CompilerOwner :=
  let (heap, handle) := heap.createCompiler engine
  (heap, ⟨handle⟩)

/-- Compile what a call holds. -/
def compileCall (owner : CompilerOwner) (heap : Heap) (call : CompileCall) :
    Heap × ModuleOwner :=
  let (heap, handle) := heap.compile owner.handle call
  (heap, ⟨handle⟩)

/-- The failed module of a source that cannot be passed on. -/
def rejected (owner : CompilerOwner) (heap : Heap) (reason : String) : Heap × ModuleOwner :=
  if owner.isValid then
    let (heap, handle) := heap.addModule (.failure CompileOptions.defaultSource reason)
    (heap, ⟨handle⟩)
  else
    (heap, {})

/-- Compile a text for a named entry point. -/
def compileText
    (owner : CompilerOwner) (heap : Heap) (source : List Char) (stage : ShaderStage)
    (entryPoint : String) :
    Heap × ModuleOwner :=
  let content := Text.encode source
  if entryPoint.toList.contains '\x00' then
    owner.rejected heap "entry point name contains a NUL byte"
  else if content.length > longestSource then
    owner.rejected heap (OwnerFault.sourceTooLong content.length).message
  else
    owner.compileCall heap
      ⟨some content, content.length, stageNumber stage,
        some (Text.encode entryPoint.toList ++ [0])⟩

/-- Compile memory that a zero byte ends. -/
def compileTerminated
    (owner : CompilerOwner) (heap : Heap) (memory : List UInt8) (stage : ShaderStage) :
    Heap × ModuleOwner :=
  owner.compileCall heap ⟨some memory, -1, stageNumber stage, none⟩

/-- Take the handle away; the owner that had it becomes invalid. -/
def take (owner : CompilerOwner) : CompilerOwner × CompilerOwner :=
  (owner, {})

/-- The end of an owner releases its handle. -/
def drop (owner : CompilerOwner) (heap : Heap) : Heap :=
  heap.releaseCompiler owner.handle

/-- The owner on one line, for reading. -/
def describe (owner : CompilerOwner) : String :=
  s!"Compiler \x7b valid: {owner.isValid} \x7d"

end CompilerOwner

namespace ModuleOwner

/-- Whether there is a handle. -/
def isValid (owner : ModuleOwner) : Bool :=
  owner.handle.isSome

/-- Own a handle that nothing else owns. -/
def ofRaw (handle : Handle) : ModuleOwner :=
  ⟨handle⟩

/-- The handle that is given up with its owner. -/
def intoRaw (owner : ModuleOwner) : Handle :=
  owner.handle

/-- Take the handle away; the owner that had it becomes invalid. -/
def take (owner : ModuleOwner) : ModuleOwner × ModuleOwner :=
  (owner, {})

/-- The end of an owner releases its handle. -/
def drop (owner : ModuleOwner) (heap : Heap) : Heap :=
  heap.releaseModule owner.handle

/-- The owner on one line, for reading. -/
def describe (owner : ModuleOwner) (heap : Heap) : String :=
  s!"SpvModule \x7b valid: {owner.isValid}, success: {heap.success owner.handle}, " ++
    s!"len: {heap.byteLength owner.handle} \x7d"

end ModuleOwner

end ShaderBuild.Foreign
