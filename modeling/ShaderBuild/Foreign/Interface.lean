import ShaderBuild.Compiler
import ShaderBuild.Foreign.Arena

namespace ShaderBuild.Foreign

/-!
# The C interface

Compilers and modules are reached through handles. A compilation takes memory and
numbers as a C program passes them; whatever is wrong with them is reported by the
module, and only a null compiler makes a null module. The accessors of a null module
give the values of a failed module without a message.
-/

/-- Everything that has been allocated. -/
structure Heap where
  compilers : Arena Compiler
  modules : Arena ShaderModule

/-- The arguments of a compilation. -/
structure CompileCall where
  /-- The memory that the source starts at; none is the null pointer. -/
  source : Option (List UInt8)
  /-- Length of the source in bytes; a negative one says that a zero byte ends it. -/
  length : Int
  kind : Int
  /-- The memory that the entry point's name starts at, which a zero byte ends. -/
  entryPoint : Option (List UInt8)
  deriving Repr, DecidableEq

/-- The bytes of memory up to the first zero byte. -/
def terminated (memory : List UInt8) : List UInt8 :=
  memory.takeWhile (· ≠ 0)

/-- The stage that a number stands for. -/
def stageOfNumber? : Int → Option ShaderStage
  | 0 => some .vertex
  | 1 => some .fragment
  | _ => none

/-- The number that stands for a stage. -/
def stageNumber : ShaderStage → Int
  | .vertex => 0
  | .fragment => 1

namespace CompileCall

/-- The bytes of the source; a null pointer is an empty source. -/
def sourceBytes (call : CompileCall) : List UInt8 :=
  match call.source with
  | none => []
  | some memory =>
      if call.length < 0 then terminated memory else memory.take call.length.toNat

/-- The entry point's name; a null pointer stands for the usual one. -/
def entryPointName (call : CompileCall) : Except Text.Malformed String :=
  match call.entryPoint with
  | none => .ok Compiler.defaultEntryPoint
  | some memory => String.ofList <$> Text.decode (terminated memory)

/-- The module made of a call; an unknown stage counts before a malformed name. -/
def run (call : CompileCall) (compiler : Compiler) : ShaderModule :=
  match stageOfNumber? call.kind, call.entryPointName with
  | none, _ => .failure CompileOptions.defaultSource s!"unknown shader kind {call.kind}"
  | some _, .error fault =>
      .failure CompileOptions.defaultSource
        ("entry point name is not valid UTF-8: " ++ fault.message)
  | some stage, .ok name => compiler.compileBytes call.sourceBytes stage name {}

end CompileCall

namespace Heap

/-- Nothing is allocated. -/
def empty : Heap := ⟨.empty, .empty⟩

/-- Make a compiler with the usual configuration; the handle is null if there is none. -/
def createCompiler (heap : Heap) (engine : Engine) : Heap × Handle :=
  match Compiler.create {} engine with
  | .ok compiler =>
      let (compilers, handle) := heap.compilers.allocate compiler
      ({ heap with compilers }, handle)
  | .error _ => (heap, none)

/-- Release a compiler; its modules stay. -/
def releaseCompiler (heap : Heap) (handle : Handle) : Heap :=
  { heap with compilers := heap.compilers.release handle }

/-- Put a module on the heap. -/
def addModule (heap : Heap) (module : ShaderModule) : Heap × Handle :=
  let (modules, handle) := heap.modules.allocate module
  ({ heap with modules }, handle)

/-- Compile; the handle is null if that of the compiler is. -/
def compile (heap : Heap) (compiler : Handle) (call : CompileCall) : Heap × Handle :=
  match heap.compilers.get? compiler with
  | some compiler => heap.addModule (call.run compiler)
  | none => (heap, none)

/-- Release a module. -/
def releaseModule (heap : Heap) (handle : Handle) : Heap :=
  { heap with modules := heap.modules.release handle }

/-! ### Accessors -/

/-- Whether a module holds a binary. -/
def success (heap : Heap) (handle : Handle) : Bool :=
  ((heap.modules.get? handle).map ShaderModule.success).getD false

/-- Length of a module's binary in bytes. -/
def byteLength (heap : Heap) (handle : Handle) : Nat :=
  ((heap.modules.get? handle).map ShaderModule.byteSize).getD 0

/-- The words of a module's binary. -/
def words (heap : Heap) (handle : Handle) : List UInt32 :=
  ((heap.modules.get? handle).map ShaderModule.words).getD []

/-- The bytes of a module's binary. -/
def bytes (heap : Heap) (handle : Handle) : List UInt8 :=
  ((heap.modules.get? handle).map ShaderModule.bytes).getD []

/-- A text that a zero byte can end: a space takes the place of every zero character. -/
def withoutZeros (text : String) : String :=
  String.ofList (text.toList.map fun c => if c = '\x00' then ' ' else c)

/-- A module's message. -/
def message (heap : Heap) (handle : Handle) : String :=
  ((heap.modules.get? handle).map fun module => withoutZeros module.message).getD ""

end Heap

end ShaderBuild.Foreign
