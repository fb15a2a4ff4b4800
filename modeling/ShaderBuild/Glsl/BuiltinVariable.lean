import ShaderBuild.Glsl.Type

namespace ShaderBuild.Glsl

/-!
# Variables of the language's own

The variables that a shader uses without declaring them, each of which a pipeline
stage may have or not.
-/

/-- A variable of the language's own. -/
structure BuiltinVariable where
  name : String
  /-- Whether an entry point hands its value on; it is handed the others. -/
  isOutput : Bool
  /-- What reports call it. -/
  report : String
  atVertex : Bool
  atFragment : Bool
  /-- What its value, or each element of it, is made of. -/
  form : Form
  /-- Whether its value is an array of open size. -/
  isArray : Bool := false
  deriving Repr, DecidableEq

namespace BuiltinVariable

/-- Whether a variable is available at a stage. -/
def availableAt (builtin : BuiltinVariable) : ShaderStage → Bool
  | .vertex => builtin.atVertex
  | .fragment => builtin.atFragment

/-- What reports call the position. -/
def positionReport (isInvariant : Bool) : String :=
  "Position \x7b invariant: " ++ toString isInvariant ++ " \x7d"

/-- Whether a variable is the position. -/
def isPosition (builtin : BuiltinVariable) : Bool :=
  builtin.report = positionReport false || builtin.report = positionReport true

/-- The variable, of which each shader that computes it has to make the same. -/
def invariant (builtin : BuiltinVariable) : BuiltinVariable :=
  if builtin.isPosition then { builtin with report := positionReport true } else builtin

/-- The variables that entry points hand on. -/
def outputs : List BuiltinVariable := [
  ⟨"gl_Position", true, positionReport false, true, false, .vector 4 .float, false⟩,
  ⟨"gl_PointSize", true, "PointSize", true, false, .single .float, false⟩,
  ⟨"gl_ClipDistance", true, "ClipDistance", true, false, .single .float, true⟩,
  ⟨"gl_CullDistance", true, "CullDistance", true, false, .single .float, true⟩,
  ⟨"gl_FragDepth", true, "FragDepth", false, true, .single .float, false⟩]

/-- The variables that entry points are handed. -/
def inputs : List BuiltinVariable := [
  ⟨"gl_FragCoord", false, positionReport false, false, true, .vector 4 .float, false⟩,
  ⟨"gl_FrontFacing", false, "FrontFacing", false, true, .single .bool, false⟩,
  ⟨"gl_PointCoord", false, "PointCoord", false, true, .vector 2 .float, false⟩,
  ⟨"gl_SampleID", false, "SampleIndex", false, true, .single .uint, false⟩,
  ⟨"gl_PrimitiveID", false, "PrimitiveIndex", false, true, .single .uint, false⟩,
  ⟨"gl_VertexIndex", false, "VertexIndex", true, false, .single .uint, false⟩,
  ⟨"gl_InstanceIndex", false, "InstanceIndex", true, false, .single .uint, false⟩,
  ⟨"gl_BaseVertex", false, "BaseVertex", true, false, .single .uint, false⟩,
  ⟨"gl_BaseInstance", false, "BaseInstance", true, false, .single .uint, false⟩,
  ⟨"gl_GlobalInvocationID", false, "GlobalInvocationId", false, false, .vector 3 .uint, false⟩,
  ⟨"gl_NumWorkGroups", false, "NumWorkGroups", false, false, .vector 3 .uint, false⟩,
  ⟨"gl_WorkGroupSize", false, "WorkGroupSize", false, false, .vector 3 .uint, false⟩,
  ⟨"gl_WorkGroupID", false, "WorkGroupId", false, false, .vector 3 .uint, false⟩,
  ⟨"gl_LocalInvocationID", false, "LocalInvocationId", false, false, .vector 3 .uint, false⟩,
  ⟨"gl_LocalInvocationIndex", false, "LocalInvocationIndex", false, false, .single .uint, false⟩]

/-- The variable of a name. -/
def find? (name : String) : Option BuiltinVariable :=
  (outputs ++ inputs).find? (·.name = name)

end BuiltinVariable

end ShaderBuild.Glsl
