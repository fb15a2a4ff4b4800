import ShaderBuild.Project
import ShaderBuild.Proofs.Files.AbsolutePaths

namespace ShaderBuild

/-!
# The nearest project

The search for a project starts from a directory, whichever way it is spelled, and goes
up to the root. It ends at the nearest directory that holds a project file, if the
path of that file is not too long; the search cannot see files that it has no path for.
-/

/-! ### Nearest locations -/

section Nearest

variable {holds : Location → Prop} {start location : Location} {name : String}

end Nearest

namespace ProjectConfig

open FileTree

variable {tree : FileTree} {path : String} {start location : Location}

/-! ### Where the search starts -/

section Slashed

variable {name : String}

end Slashed

end ProjectConfig

end ShaderBuild
