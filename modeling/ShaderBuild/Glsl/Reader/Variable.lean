import ShaderBuild.Glsl.Reader.Qualifiers

namespace ShaderBuild.Glsl.Reader

/-!
# Variables

What a declaration of a variable adds to the program or to the function that is read,
and which of its qualifiers it takes.
-/

/-- A variable that is declared. -/
structure Declared where
  name : Option String
  span : Span
  type : TypeId
  initial : Option NodeId := none

/-! ### Variables outside functions -/

/-- The interpolation of a value that no qualifier asks for. -/
def usualInterpolation? (form : Form) : Option Interpolation :=
  form.kind?.map fun kind => if kind.isReal then .perspective else .flat

/-- Add a variable of the interface of entry points. -/
def addInterfaceVariable (isOutput : Bool) (qualifiers : Qualifiers) (declared : Declared) :
    Reader (GlobalName × Qualifiers) := do
  let (location, qualifiers) ← takeNumber qualifiers "location"
  let usual := usualInterpolation? (← formOfType declared.type)
  let interpolation := (qualifiers.interpolation.map (·.1)) <|> usual
  let number ← addGlobalVariable
    { name := declared.name, space := .run, type := declared.type, initial := declared.initial }
    declared.span
  let index ← addInterface
    { name := declared.name
      binding := .location (location.getD 0) interpolation (qualifiers.sampling.map (·.1))
      number := number
      isOutput := isOutput }
  let added : GlobalName :=
    { name := declared.name.getD ""
      meaning := .whole number
      interface := some index
      isMutable := isOutput }
  return (added, { qualifiers with interpolation := none, sampling := none })

/-- Add a constant. -/
def addConstant (qualifiers : Qualifiers) (declared : Declared) :
    Reader (GlobalName × Qualifiers) := do
  match declared.initial with
  | none => refuse declared.span "const values must have an initializer"
  | some initial =>
      let number := (← program).constants.size
      modifyProgram fun program =>
        { program with
          constants := program.constants.push
            { name := declared.name, type := declared.type, initial := initial }
          constantSpans := program.constantSpans.push declared.span }
      let added : GlobalName :=
        { name := declared.name.getD ""
          meaning := .constant number declared.type
          isMutable := false }
      return (added, qualifiers)

/-- The type of a stored image with the access and the format that qualifiers ask for. -/
def storedImageType (qualifiers : Qualifiers) (declared : Declared) (dimension : ImageDimension)
    (isArrayed : Bool) (format : String) (kind : Scalar) (access : StorageAccess) :
    Reader (TypeId × Qualifiers) := do
  let access := (qualifiers.memory.map (·.1)).getD access
  let (format, kind) ←
    match (qualifiers.setting? .format).map LayoutSetting.value with
    | some (LayoutValue.format format kind) => pure (format, kind)
    | _ =>
        note declared.span "image types require a format layout qualifier"
        pure (format, kind)
  let type ← typeOfForm (.image dimension isArrayed (.storage format kind access))
  return (type, { qualifiers.without .format with memory := none })

/-- The space of a uniform variable, with its type. -/
def uniformSpace (qualifiers : Qualifiers) (declared : Declared) :
    Reader (AddressSpace × TypeId × Qualifiers) := do
  match ← formOfType declared.type with
  | .image dimension isArrayed (.storage format kind access) =>
      let (type, left) ←
        storedImageType qualifiers declared dimension isArrayed format kind access
      return (.handle, type, left)
  | .image _ _ _ | .sampler _ => return (.handle, declared.type, qualifiers)
  | _ =>
      let (isPushed, left) ← takeFlag qualifiers "push_constant"
      return (if isPushed then .pushConstant else .uniform, declared.type, left)

/-- The space of a variable that is neither a constant nor part of the interface. -/
def spaceOf (qualifiers : Qualifiers) (declared : Declared) :
    Reader (AddressSpace × TypeId × Qualifiers) := do
  match qualifiers.storage? with
  | some .buffer =>
      let access := (qualifiers.memory.map (·.1)).getD {}
      return (.storage access, declared.type, { qualifiers with memory := none })
  | some .uniform => uniformSpace qualifiers declared
  | some .shared => return (.workgroup, declared.type, qualifiers)
  | _ => return (.run, declared.type, qualifiers)

/-- The resource that a variable is bound to, if those of its space are. -/
def takeResource (space : AddressSpace) (qualifiers : Qualifiers) (span : Span) :
    Reader (Option (Nat × Nat) × Qualifiers) := do
  match space with
  | .uniform | .storage _ | .handle =>
      let (binding, qualifiers) ← takeNumber qualifiers "binding"
      if binding.isNone then
        note span "uniform/buffer blocks require layout(binding=X)"
      let (set, qualifiers) ← takeNumber qualifiers "set"
      return (binding.map fun binding => (set.getD 0, binding), qualifiers)
  | _ => return (none, qualifiers)

/-- Add a variable that is neither a constant nor part of the interface. -/
def addOtherVariable (qualifiers : Qualifiers) (declared : Declared) :
    Reader (GlobalName × Qualifiers) := do
  let (space, type, qualifiers) ← spaceOf qualifiers declared
  let (resource, qualifiers) ← takeResource space qualifiers declared.span
  let number ← addGlobalVariable
    { name := declared.name
      space := space
      resource := resource
      type := type
      initial := declared.initial }
    declared.span
  let added : GlobalName :=
    { name := declared.name.getD "", meaning := .whole number, isMutable := true }
  return (added, qualifiers)

/-- Make a name known in the draft and in those of functions that follow. -/
def publish (added : GlobalName) : Reader Unit := do
  addGlobalName added
  modify fun state => { state with globalNames := state.globalNames.push added }

/--
Declare a variable outside functions. The result is what it stands for, and the
qualifiers that are left over, which are noted.
-/
def declareGlobal (qualifiers : Qualifiers) (declared : Declared) :
    Reader (GlobalMeaning × Qualifiers) := do
  let (added, left) ←
    match qualifiers.storage? with
    | some .input => addInterfaceVariable false qualifiers declared
    | some .output => addInterfaceVariable true qualifiers declared
    | some .constant => addConstant qualifiers declared
    | _ => addOtherVariable qualifiers declared
  if declared.name.isSome then
    publish added
  noteUnused left
  return (added.meaning, left)

/-- Make a variable of the language's own invariant. -/
def makeInvariant (name : String) (span : Span) : Reader Unit := do
  match (← findVariable? name span).bind (·.interface) with
  | none => pure ()
  | some index =>
      let change (found : InterfaceVariable) : InterfaceVariable :=
        match found.binding with
        | .builtin builtin => { found with binding := .builtin builtin.invariant }
        | _ => found
      modify fun state => { state with interface := state.interface.modify index change }

/-! ### Variables of functions -/

/-- Declare a variable of a function; the result is the node that stands for it. -/
def declareLocal (qualifiers : Qualifiers) (declared : Declared) : Reader NodeId := do
  match qualifiers.storage with
  | none | some (.constant, _) => pure ()
  | some (_, span) => note span "Locals cannot have a storage qualifier"
  let node ← addLocal declared.name declared.type declared.initial declared.span
  match declared.name with
  | none => pure ()
  | some name =>
      let isMutable := qualifiers.storage? ≠ some .constant
      if !(← declare name { node := node, isPlace := true, isMutable := isMutable }) then
        note declared.span ("Variable already declared: " ++ name)
  noteUnused qualifiers
  return node

end ShaderBuild.Glsl.Reader
