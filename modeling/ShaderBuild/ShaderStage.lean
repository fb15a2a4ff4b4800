import ShaderBuild.Path

namespace ShaderBuild

/-!
# Shader stages
-/

/-- The pipeline stage a shader is compiled for. -/
inductive ShaderStage where
  | vertex
  | fragment
  deriving Repr, DecidableEq

namespace ShaderStage

/-- The name of a stage. -/
def name : ShaderStage → String
  | .vertex => "vertex"
  | .fragment => "fragment"

/-- The stage a name stands for, in either case and long or short; else the name in lower case. -/
def ofName (text : String) : Except String ShaderStage :=
  match String.ofList (text.toList.map Char.toLower) with
  | "vertex" | "vert" => .ok .vertex
  | "fragment" | "frag" => .ok .fragment
  | other => .error other

/-- The report of a name that stands for no stage. -/
def unknownName (name : String) : String :=
  "unknown shader kind \"" ++ name ++ "\""

/-- The stage that a path's extension tells. -/
def ofPath? (path : String) : Option ShaderStage :=
  match Path.extension? path with
  | some "vert" => some .vertex
  | some "frag" => some .fragment
  | _ => none

end ShaderStage

end ShaderBuild
