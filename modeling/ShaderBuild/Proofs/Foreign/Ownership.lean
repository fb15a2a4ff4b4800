import ShaderBuild.Proofs.Foreign.Passing
import ShaderBuild.Proofs.Foreign.Shelf

namespace ShaderBuild.Foreign

/-!
# Ownership over a whole run

Compilers and modules are held under the names of a workspace. Every operation keeps
the ledgers of both and leaves alone the modules of names that it does not write or
give up, and so does every run.
-/

/-! ### What makes modules -/

section

variable (heap : Heap) (owner : CompilerOwner)

end

namespace Workspace

/-- Who holds which compiler. -/
def compilerHandle (workspace : Workspace) : Holder → Handle :=
  OwnerKind.holding ⟨CompilerOwner.handle, {}, rfl⟩ workspace.rawCompilers workspace.compilers

/-- Who holds which module. -/
def moduleHandle (workspace : Workspace) : Holder → Handle :=
  OwnerKind.holding ⟨ModuleOwner.handle, {}, rfl⟩ workspace.rawModules workspace.modules

/-- The compilers of a workspace, with none in hand. -/
def compilerShelf (workspace : Workspace) : Shelf Compiler :=
  ⟨workspace.heap.compilers, workspace.compilerHandle, none⟩

/-- The modules of a workspace, with none in hand. -/
def moduleShelf (workspace : Workspace) : Shelf ShaderModule :=
  ⟨workspace.heap.modules, workspace.moduleHandle, none⟩

variable {workspace : Workspace} {name : String} {untouched : Holder → Prop}

end Workspace

/-! ### One operation -/

namespace Operation

end Operation

namespace Workspace

variable {workspace : Workspace} {untouched : Holder → Prop}

/-- Everything that has been allocated is held under a name or has been released. -/
structure IsAccounted (workspace : Workspace) : Prop where
  compilers : workspace.compilerShelf.IsAccounted
  modules : workspace.moduleShelf.IsAccounted

/-- A module outlives its compiler, changes hands, and is released when it is overwritten. -/
example :
    let workspace :=
      empty.run ⟨"", fun _ => .words [7]⟩
        [.create "c", .compileText "c" "m" "".toList .vertex "", .dropCompiler "c",
          .intoRaw "m" "r", .ofRaw "r" "n", .takeModule "n" "m",
          .compileText "c" "m" "".toList .vertex ""]
    workspace.heap.compilers.released = [0] ∧ workspace.heap.modules.released = [0] ∧
      (workspace.module "m").isValid = false := by
  decide +kernel

end Workspace

end ShaderBuild.Foreign
