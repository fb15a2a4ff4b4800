import ShaderBuild.Glsl.Reader.Expression

namespace ShaderBuild.Glsl

/-!
# Qualifiers

The words and the layouts before the type of a declaration. A declaration takes the
ones it has a use for; what is left over is a problem.
-/

/-- Where a variable is stored, or that it is none. -/
inductive Storage where
  | constant | input | output | uniform | buffer | shared
  deriving Repr, DecidableEq

/-- The storage that a word asks for. -/
def Storage.ofWord? : String → Option Storage
  | "const" => some constant
  | "in" => some input
  | "out" => some output
  | "uniform" => some uniform
  | "buffer" => some buffer
  | "shared" => some shared
  | _ => none

/-- The interpolation that a word asks for. -/
def Interpolation.ofWord? : String → Option Interpolation
  | "flat" => some flat
  | "noperspective" => some linear
  | "smooth" => some perspective
  | _ => none

/-- The sampling that a word asks for. -/
def Sampling.ofWord? : String → Option Sampling
  | "centroid" => some centroid
  | "sample" => some sample
  | _ => none

/-- What a word lets a shader do with memory. -/
def StorageAccess.ofWord? : String → Option StorageAccess
  | "readonly" => some ⟨true, false⟩
  | "writeonly" => some ⟨false, true⟩
  | _ => none

/-- The formats of images, with their names in reports and the kinds of their elements. -/
def imageFormats : List (String × String × Scalar) := [
  ("rgba32f", "Rgba32Float", .float), ("rgba16f", "Rgba16Float", .float),
  ("rg32f", "Rg32Float", .float), ("rg16f", "Rg16Float", .float),
  ("r11f_g11f_b10f", "Rg11b10Float", .float), ("r32f", "R32Float", .float),
  ("r16f", "R16Float", .float), ("rgba16", "Rgba16Unorm", .float),
  ("rgb10_a2ui", "Rgb10a2Uint", .uint), ("rgb10_a2", "Rgb10a2Unorm", .float),
  ("rgba8", "Rgba8Unorm", .float), ("rg16", "Rg16Unorm", .float), ("rg8", "Rg8Unorm", .float),
  ("r16", "R16Unorm", .float), ("r8", "R8Unorm", .float), ("rgba16_snorm", "Rgba16Snorm", .float),
  ("rgba8_snorm", "Rgba8Snorm", .float), ("rg16_snorm", "Rg16Snorm", .float),
  ("rg8_snorm", "Rg8Snorm", .float), ("r16_snorm", "R16Snorm", .float),
  ("r8_snorm", "R8Snorm", .float), ("rgba32i", "Rgba32Sint", .int),
  ("rgba16i", "Rgba16Sint", .int), ("rgba8i", "Rgba8Sint", .int), ("rg32i", "Rg32Sint", .int),
  ("rg16i", "Rg16Sint", .int), ("rg8i", "Rg8Sint", .int), ("r32i", "R32Sint", .int),
  ("r16i", "R16Sint", .int), ("r8i", "R8Sint", .int), ("rgba32ui", "Rgba32Uint", .uint),
  ("rgba16ui", "Rgba16Uint", .uint), ("rgba8ui", "Rgba8Uint", .uint),
  ("rg32ui", "Rg32Uint", .uint), ("rg16ui", "Rg16Uint", .uint), ("rg8ui", "Rg8Uint", .uint),
  ("r32ui", "R32Uint", .uint), ("r16ui", "R16Uint", .uint), ("r8ui", "R8Uint", .uint)]

/-- What a setting of a layout is about; a layout has one setting for each. -/
inductive LayoutKey where
  | placement
  | format
  | named (name : String)
  deriving Repr, DecidableEq

/-- What is set by a setting of a layout. -/
inductive LayoutValue where
  | placement (rule : Reader.PlacementRule)
  | format (name : String) (kind : Scalar)
  | number (value : Nat)
  | nothing
  deriving Repr, DecidableEq

/-- A setting of a layout. -/
structure LayoutSetting where
  key : LayoutKey
  value : LayoutValue
  span : Span
  deriving Repr, DecidableEq

/-- The qualifiers of a declaration; with each kind, the last one. -/
structure Qualifiers where
  storage : Option (Storage × Span) := none
  isInvariant : Option Span := none
  interpolation : Option (Interpolation × Span) := none
  sampling : Option (Sampling × Span) := none
  precision : Option Span := none
  memory : Option (StorageAccess × Span) := none
  layout : List LayoutSetting := []
  deriving Repr, DecidableEq

namespace Qualifiers

/-- The kind of storage, if one is asked for. -/
def storage? (qualifiers : Qualifiers) : Option Storage :=
  qualifiers.storage.map (·.1)

/-- The setting of the layout about something. -/
def setting? (qualifiers : Qualifiers) (key : LayoutKey) : Option LayoutSetting :=
  qualifiers.layout.find? (·.key = key)

/-- Leave out a setting of the layout. -/
def without (qualifiers : Qualifiers) (key : LayoutKey) : Qualifiers :=
  { qualifiers with layout := qualifiers.layout.filter (·.key ≠ key) }

/-- Add a setting of the layout in place of the one about the same. -/
def withSetting (qualifiers : Qualifiers) (setting : LayoutSetting) : Qualifiers :=
  { qualifiers with layout := (qualifiers.without setting.key).layout ++ [setting] }

/-- The problems of qualifiers that a declaration has no use for. -/
def unused (qualifiers : Qualifiers) : List (Span × String) :=
  let misused (span : Option Span) (message : String) : List (Span × String) :=
    (span.map (·, message)).toList
  misused qualifiers.isInvariant "Invariant qualifier can only be used in in/out variables" ++
    misused (qualifiers.interpolation.map (·.2))
      "Interpolation qualifiers can only be used in in/out variables" ++
    misused (qualifiers.sampling.map (·.2))
      "Sampling qualifiers can only be used in in/out variables" ++
    misused (qualifiers.memory.map (·.2))
      "Memory qualifiers can only be used in storage variables" ++
    qualifiers.layout.map fun setting => (setting.span, "Unexpected qualifier")

end Qualifiers

namespace Reader

/-- Note that a qualifier has one of its kind before it, if it has. -/
def noteRepeated (isRepeated : Bool) (kind : String) (span : Span) : Reader Unit := do
  if isRepeated then
    note span ("Cannot use more than one " ++ kind ++ " qualifier per declaration")

/-- What two qualifiers of memory let a shader do. -/
def restrict (given added : StorageAccess) : StorageAccess :=
  ⟨given.canLoad && added.canLoad, given.canStore && added.canStore⟩

/-- Add a qualifier of memory; one that takes away what is already taken away is noted. -/
def addMemory (found : Qualifiers) (access : StorageAccess) (span : Span) : Reader Qualifiers := do
  let (given, former) := found.memory.getD ({}, .nowhere)
  if !allows given ⟨!access.canLoad, !access.canStore⟩ then
    note span "The same memory qualifier can only be used once"
  return { found with memory := some (restrict given access, former.join span) }

/-- Add the qualifier that a word is. -/
def addQualifier (found : Qualifiers) (word : String) (span : Span) : Reader Qualifiers := do
  match Storage.ofWord? word, Interpolation.ofWord? word, Sampling.ofWord? word,
      StorageAccess.ofWord? word with
  | some storage, _, _, _ =>
      noteRepeated found.storage.isSome "storage" span
      return { found with storage := some (storage, span) }
  | _, some interpolation, _, _ =>
      noteRepeated found.interpolation.isSome "interpolation" span
      return { found with interpolation := some (interpolation, span) }
  | _, _, some sampling, _ =>
      noteRepeated found.sampling.isSome "sampling" span
      return { found with sampling := some (sampling, span) }
  | _, _, _, some access => addMemory found access span
  | none, none, none, none =>
      match word with
      | "invariant" =>
          noteRepeated found.isInvariant.isSome "invariant" span
          return { found with isInvariant := some span }
      | "highp" | "mediump" | "lowp" =>
          noteRepeated found.precision.isSome "precision" span
          return { found with precision := some span }
      | _ => return found

/-- The number that a layout's setting is given; what is wrong with it is noted. -/
def settingNumber (steps : Nat) : Reader (Nat × Span) :=
  tryCatch (constantNumber steps) fun
    | .problem problem => do
        modify fun state => { state with problems := problem :: state.problems }
        return (0, .nowhere)
    | .breakdown message => breakDown message

/-- Read the setting that a name begins. -/
def namedSetting (name : String) (span : Span) (steps : Nat) : Reader LayoutSetting := do
  match PlacementRule.ofWord? name, imageFormats.lookup name with
  | some rule, _ => return ⟨.placement, .placement rule, span⟩
  | none, some (report, kind) => return ⟨.format, .format report kind, span⟩
  | none, none =>
      if ← skip (.mark "=") then
        let (value, stop) ← settingNumber steps
        return ⟨.named name, .number value, span.join stop⟩
      else return ⟨.named name, .nothing, span⟩

/-- Read the settings of a layout up to its closing bracket. -/
def layout (found : Qualifiers) : Nat → Reader Qualifiers
  | 0 => outOfSteps
  | steps + 1 => do
      let placed ← next
      let found ←
        if isIdentifier placed.lexeme then
          pure (found.withSetting (← namedSetting placed.lexeme.name (spanOf placed) steps))
        else
          note (spanOf placed) ("Expected identifier, found " ++ placed.lexeme.report)
          pure found
      if ← skip (.mark ",") then
        layout found steps
      else
        discard (expect (.mark ")"))
        return found

/-- Read qualifiers, as many as there are. -/
def qualifiersFrom (found : Qualifiers) : Nat → Reader Qualifiers
  | 0 => outOfSteps
  | steps + 1 => do
      if ← qualifierFollows then
        let placed ← next
        if placed.lexeme = .word "layout" then
          discard (expect (.mark "("))
          qualifiersFrom (← layout found steps) steps
        else
          qualifiersFrom (← addQualifier found placed.lexeme.name (spanOf placed)) steps
      else
        return found

/-- Take a setting that needs a number; the result is the number. -/
def takeNumber (qualifiers : Qualifiers) (name : String) : Reader (Option Nat × Qualifiers) := do
  match qualifiers.setting? (.named name) with
  | none => return (none, qualifiers)
  | some setting =>
      let left := qualifiers.without (.named name)
      match setting.value with
      | .number value => return (some value, left)
      | _ =>
          note setting.span "Qualifier expects a uint value"
          return (some 0, left)

/-- Take a setting that needs no value; the result says whether there is one. -/
def takeFlag (qualifiers : Qualifiers) (name : String) : Reader (Bool × Qualifiers) := do
  match qualifiers.setting? (.named name) with
  | none => return (false, qualifiers)
  | some setting =>
      if setting.value ≠ .nothing then
        note setting.span "Qualifier doesn't expect a value"
      return (true, qualifiers.without (.named name))

/-- Note the qualifiers that are left over. -/
def noteUnused (qualifiers : Qualifiers) : Reader Unit := do
  for (span, message) in qualifiers.unused do
    note span message

end Reader

end ShaderBuild.Glsl
