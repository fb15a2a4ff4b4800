import ShaderBuild.Foreign.Owner

namespace ShaderBuild.Foreign

/-!
# Workspaces

A program that works with handles and owners keeps them under names. Its operations
change the heap and what the names stand for: a name that is written anew gives up
what it stood for, a name without a handle stands for the null handle, and a name
without an owner gets an invalid one when it is used.
-/

/-- Values by name, each name once. -/
abbrev Slots (α : Type) := List (String × α)

namespace Slots

/-- What a name stands for. -/
def get? (slots : Slots α) (name : String) : Option α :=
  List.lookup name slots

/-- Let a name stand for nothing. -/
def erase (slots : Slots α) (name : String) : Slots α :=
  slots.filter (·.1 ≠ name)

/-- Let a name stand for a value. -/
def put (slots : Slots α) (name : String) (value : α) : Slots α :=
  slots.erase name ++ [(name, value)]

end Slots

/-- A heap, and what is known of it under which name. -/
structure Workspace where
  heap : Heap
  rawCompilers : Slots Handle
  rawModules : Slots Handle
  compilers : Slots CompilerOwner
  modules : Slots ModuleOwner

/-- What a program does with handles and owners. -/
inductive Operation where
  /-- Make a compiler. -/
  | createRaw (compiler : String)
  | releaseCompiler (compiler : String)
  | releaseModule (module : String)
  /-- Compile with a raw compiler into a raw module. -/
  | compileRaw (compiler module : String) (call : CompileCall)
  /-- Look at a raw module. -/
  | viewRaw (module : String)
  /-- Make a compiler and an owner for it. -/
  | create (compiler : String)
  /-- Make an owner without a handle. -/
  | createInvalid (compiler : String)
  /-- Look at the owner of a compiler. -/
  | viewCompiler (compiler : String)
  /-- Move the compiler of one owner to another one. -/
  | takeCompiler (source target : String)
  /-- Move the module of one owner to another one. -/
  | takeModule (source target : String)
  | dropCompiler (compiler : String)
  | dropModule (module : String)
  /-- Compile a text. -/
  | compileText (compiler module : String) (source : List Char) (stage : ShaderStage)
      (entryPoint : String)
  /-- Compile memory that a zero byte ends. -/
  | compileTerminated (compiler module : String) (memory : List UInt8) (stage : ShaderStage)
  /-- Look at the owner of a module. -/
  | viewModule (module : String)
  /-- Make a raw module of an owned one. -/
  | intoRaw (module raw : String)
  /-- Make an owned module of a raw one. -/
  | ofRaw (raw module : String)
  /-- Compare the binaries of two modules. -/
  | compare (first second : String)
  deriving Repr, DecidableEq

/-- What an operation answers. -/
inductive Answer where
  | nothing
  | handle (handle : Handle)
  | compiler (owner : CompilerOwner)
  | module (owner : ModuleOwner)
  /-- Whether the owner a handle was taken from is valid now, and the one it went to. -/
  | moved (sourceValid targetValid : Bool)
  | truth (value : Bool)
  deriving Repr, DecidableEq

namespace Workspace

/-- Nothing is allocated and nothing has a name. -/
def empty : Workspace := ⟨.empty, [], [], [], []⟩

/-! ### Names -/

/-- The raw compiler of a name. -/
def rawCompiler (workspace : Workspace) (name : String) : Handle :=
  (workspace.rawCompilers.get? name).getD none

/-- The raw module of a name. -/
def rawModule (workspace : Workspace) (name : String) : Handle :=
  (workspace.rawModules.get? name).getD none

/-- The owner of a compiler of a name. -/
def compiler (workspace : Workspace) (name : String) : CompilerOwner :=
  (workspace.compilers.get? name).getD {}

/-- The owner of a module of a name. -/
def module (workspace : Workspace) (name : String) : ModuleOwner :=
  (workspace.modules.get? name).getD {}

/-- Let a name stand for a raw compiler, and release the one it stood for. -/
def putRawCompiler (workspace : Workspace) (name : String) (handle : Handle) : Workspace :=
  { workspace with
    heap := workspace.heap.releaseCompiler (workspace.rawCompiler name)
    rawCompilers := workspace.rawCompilers.put name handle }

/-- Let a name stand for a raw module, and release the one it stood for. -/
def putRawModule (workspace : Workspace) (name : String) (handle : Handle) : Workspace :=
  { workspace with
    heap := workspace.heap.releaseModule (workspace.rawModule name)
    rawModules := workspace.rawModules.put name handle }

/-- Let a name stand for an owner of a compiler, and drop the one it stood for. -/
def putCompiler (workspace : Workspace) (name : String) (owner : CompilerOwner) : Workspace :=
  { workspace with
    heap := (workspace.compiler name).drop workspace.heap
    compilers := workspace.compilers.put name owner }

/-- Let a name stand for an owner of a module, and drop the one it stood for. -/
def putModule (workspace : Workspace) (name : String) (owner : ModuleOwner) : Workspace :=
  { workspace with
    heap := (workspace.module name).drop workspace.heap
    modules := workspace.modules.put name owner }

/-- Keep the owner of a compiler under its name, now that it is used. -/
def touchCompiler (workspace : Workspace) (name : String) : Workspace :=
  { workspace with compilers := workspace.compilers.put name (workspace.compiler name) }

/-- Keep the owner of a module under its name, now that it is used. -/
def touchModule (workspace : Workspace) (name : String) : Workspace :=
  { workspace with modules := workspace.modules.put name (workspace.module name) }

/-! ### Operations -/

/-- Let a name stand for the owner of a newly made module. -/
def keepModule (workspace : Workspace) (name : String) (made : Heap × ModuleOwner) :
    Workspace × Answer :=
  ({ workspace with heap := made.1 }.putModule name made.2, .module made.2)

/-- Carry out an operation; compilers are made with the given engine. -/
def step (engine : Engine) (workspace : Workspace) : Operation → Workspace × Answer
  | .createRaw name =>
      let (heap, handle) := workspace.heap.createCompiler engine
      ({ workspace with heap }.putRawCompiler name handle, .handle handle)
  | .releaseCompiler name =>
      let workspace := workspace.putRawCompiler name none
      ({ workspace with rawCompilers := workspace.rawCompilers.erase name }, .nothing)
  | .releaseModule name =>
      let workspace := workspace.putRawModule name none
      ({ workspace with rawModules := workspace.rawModules.erase name }, .nothing)
  | .compileRaw compiler module call =>
      let (heap, handle) := workspace.heap.compile (workspace.rawCompiler compiler) call
      ({ workspace with heap }.putRawModule module handle, .handle handle)
  | .viewRaw name => (workspace, .handle (workspace.rawModule name))
  | .create name =>
      let (heap, owner) := CompilerOwner.create workspace.heap engine
      ({ workspace with heap }.putCompiler name owner, .compiler owner)
  | .createInvalid name => (workspace.putCompiler name {}, .nothing)
  | .viewCompiler name => (workspace.touchCompiler name, .compiler (workspace.compiler name))
  | .takeCompiler source target =>
      let (taken, left) := (workspace.compiler source).take
      let workspace := { workspace with compilers := workspace.compilers.put source left }
      (workspace.putCompiler target taken, .moved left.isValid taken.isValid)
  | .takeModule source target =>
      let (taken, left) := (workspace.module source).take
      let workspace := { workspace with modules := workspace.modules.put source left }
      (workspace.putModule target taken, .moved left.isValid taken.isValid)
  | .dropCompiler name =>
      let existed := (workspace.compilers.get? name).isSome
      let workspace := workspace.putCompiler name {}
      ({ workspace with compilers := workspace.compilers.erase name }, .truth existed)
  | .dropModule name =>
      let existed := (workspace.modules.get? name).isSome
      let workspace := workspace.putModule name {}
      ({ workspace with modules := workspace.modules.erase name }, .truth existed)
  | .compileText compiler module source stage entryPoint =>
      let workspace := workspace.touchCompiler compiler
      workspace.keepModule module
        ((workspace.compiler compiler).compileText workspace.heap source stage entryPoint)
  | .compileTerminated compiler module memory stage =>
      let workspace := workspace.touchCompiler compiler
      workspace.keepModule module
        ((workspace.compiler compiler).compileTerminated workspace.heap memory stage)
  | .viewModule name => (workspace.touchModule name, .module (workspace.module name))
  | .intoRaw name raw =>
      let handle := (workspace.module name).intoRaw
      let workspace := { workspace with modules := workspace.modules.erase name }
      (workspace.putRawModule raw handle, .handle handle)
  | .ofRaw raw name =>
      let owner := ModuleOwner.ofRaw (workspace.rawModule raw)
      let workspace := { workspace with rawModules := workspace.rawModules.erase raw }
      (workspace.putModule name owner, .module owner)
  | .compare first second =>
      let workspace := (workspace.touchModule first).touchModule second
      (workspace, .truth
        (workspace.heap.bytes (workspace.module first).handle =
          workspace.heap.bytes (workspace.module second).handle))

/-- Carry out operations in order. -/
def run (engine : Engine) (workspace : Workspace) (operations : List Operation) : Workspace :=
  operations.foldl (fun workspace operation => (workspace.step engine operation).1) workspace

end Workspace

end ShaderBuild.Foreign
