import ShaderBuild.Glsl.Validity.Functions

namespace ShaderBuild.Glsl

/-!
# Validity of entry points

What a pipeline stage asks of its entry point: what it does, the values that it is
handed and hands on, and how the resources of the program are used.
-/

/-- What reports call a stage. -/
def stageReport : ShaderStage → String
  | .vertex => "Vertex"
  | .fragment => "Fragment"

/-! ### Exchanged values -/

/-- Why a value cannot be exchanged. -/
inductive VaryingFault where
  | type (type : TypeId)
  | notExchanged (type : TypeId)
  | noInterpolation
  | interpolation
  | repeatedBuiltin (builtin : BuiltinVariable)
  | builtinStage (builtin : BuiltinVariable)
  | builtinType (builtin : BuiltinVariable)
  | repeatedLocation (location : Nat)
  deriving Repr, DecidableEq

/-- What reports call a fault. -/
def VaryingFault.report : VaryingFault → String
  | .type found => "The type " ++ entryReport found ++ " does not match the varying"
  | .notExchanged found =>
      "The type " ++ entryReport found ++
        " cannot be used for user-defined entry point inputs or outputs"
  | .noInterpolation =>
      "Interpolation must be specified on vertex shader outputs and fragment shader inputs"
  | .interpolation => "Interpolation is not valid"
  | .repeatedBuiltin builtin => "Built-in " ++ builtin.report ++ " is present more than once"
  | .builtinStage builtin => "Built-in " ++ builtin.report ++ " is not available at this stage"
  | .builtinType builtin => "Built-in type for " ++ builtin.report ++ " is invalid"
  | .repeatedLocation location => s!"Multiple bindings at location {location} are present"

/-- What has been exchanged so far, in one direction. -/
structure Exchange where
  stage : ShaderStage
  isOutput : Bool
  /-- The language's own variables, the position in one form. -/
  builtins : List BuiltinVariable := []
  locations : List Nat := []

namespace Exchange

/-- Whether a type is that of a variable of the language's own. -/
def builtinFits (typed : TypedProgram) (builtin : BuiltinVariable) (type : TypeId) : Bool :=
  match typed.form type with
  | .array base _ _ => builtin.isArray && typed.form base = builtin.form
  | form => !builtin.isArray && form = builtin.form

/-- The variable that stands for all that are exchanged for the same thing. -/
def canonical (builtin : BuiltinVariable) : String :=
  builtin.invariant.report

/-- Exchange a value for a variable of the language's own. -/
def addBuiltin (typed : TypedProgram) (exchange : Exchange) (type : TypeId)
    (builtin : BuiltinVariable) : Except VaryingFault Exchange := do
  if exchange.builtins.any fun found => canonical found = canonical builtin then
    throw (.repeatedBuiltin builtin)
  if !builtin.availableAt exchange.stage || builtin.isOutput ≠ exchange.isOutput then
    throw (.builtinStage builtin)
  if !builtinFits typed builtin type then
    throw (.builtinType builtin)
  return { exchange with builtins := builtin :: exchange.builtins }

/-- Whether values are found between the corners of a shape. -/
def interpolates (exchange : Exchange) : Bool :=
  match exchange.stage with
  | .vertex => exchange.isOutput
  | .fragment => !exchange.isOutput

/-- Exchange a value at a location. -/
def addLocation (typed : TypedProgram) (exchange : Exchange) (type : TypeId) (location : Nat)
    (interpolation : Option Interpolation) : Except VaryingFault Exchange := do
  if !(typed.factsOf type).has [.exchanged] then
    throw (.notExchanged type)
  if exchange.locations.contains location then
    throw (.repeatedLocation location)
  match (typed.form type).kind? with
  | none => throw (.type type)
  | some kind =>
      if exchange.interpolates then
        if kind.isReal then
          if interpolation.isNone then throw .noInterpolation
        else if interpolation ≠ some .flat then throw .interpolation
      return { exchange with locations := location :: exchange.locations }

/-- Exchange a value. -/
def add (typed : TypedProgram) (exchange : Exchange) (type : TypeId) :
    Binding → Except VaryingFault Exchange
  | .builtin builtin => exchange.addBuiltin typed type builtin
  | .location location interpolation _ =>
      exchange.addLocation typed type location interpolation

end Exchange

/-! ### Entry points -/

/-- Why an entry point is invalid. -/
inductive EntryFault where
  | depthTest
  | workgroupSize
  | function (fault : FunctionFault)
  | stage
  | argument (index : Nat) (fault : VaryingFault)
  | result (fault : VaryingFault)
  | noPosition
  | pushConstants
  | usage (number : Nat) (use : GlobalUse)
  | resource (number : Nat)
  deriving Repr, DecidableEq

/-- What reports call a fault. -/
def EntryFault.report : EntryFault → String
  | .depthTest => "Early depth test is not applicable"
  | .workgroupSize => "Workgroup size is not applicable"
  | .function fault => fault.report
  | .stage => "Uses operations forbidden at this stage"
  | .argument index fault => s!"Argument {index} varying error: " ++ fault.report
  | .result fault => fault.report
  | .noPosition => "Vertex shaders must return a `@builtin(position)` output value"
  | .pushConstants => "More than 1 push constant variable is used"
  | .usage number use =>
      "Global variable " ++ entryReport number ++ " is used incorrectly as " ++ use.report
  | .resource number => "Bindings for " ++ entryReport number ++ " conflict with other resource"

/-- Why looking at an entry point ends. -/
inductive EntryStop where
  | fault (fault : EntryFault)
  /-- The engine itself fails, with a message. -/
  | breakdown (message : String)

/-- The stop at an entry point that is one at its function. -/
def FunctionStop.atEntry : FunctionStop → EntryStop
  | .fault found => .fault (.function found)
  | .breakdown message => .breakdown message

namespace OuterSite

variable (site : OuterSite)

/-- Check what an entry point is handed. -/
def checkInputs (entry : EntryPoint) : Except EntryFault Unit := do
  let arguments := entry.function.arguments
  let mut exchange : Exchange := { stage := entry.stage, isOutput := false }
  for (index, argument) in (List.range arguments.length).zip arguments do
    match argument.binding with
    | none => pure ()
    | some binding =>
        exchange ← (exchange.add site.typed argument.type binding).mapError (.argument index)

/-- The parts of a result with what they are exchanged for. -/
def resultParts (result : FunctionResult) : List (TypeId × Binding) :=
  match site.typed.form result.type with
  | .record members _ => (members.map (·.type)).zip result.bindings
  | _ => result.bindings.map fun binding => (result.type, binding)

/-- Check what an entry point hands on. -/
def checkOutputs (entry : EntryPoint) : Except EntryFault Unit := do
  let parts := (entry.function.result.map site.resultParts).getD []
  let start : Exchange := { stage := entry.stage, isOutput := true }
  let found ← (parts.foldlM addPart start).mapError .result
  if entry.stage = .vertex && !found.builtins.any (·.isPosition) then
    throw .noPosition
where
  /-- Exchange one more part. -/
  addPart (exchange : Exchange) (part : TypeId × Binding) : Except VaryingFault Exchange :=
    exchange.add site.typed part.1 part.2

/-- The uses of a variable that its space and its type allow. -/
def allowedUse (global : GlobalVariable) : GlobalUse :=
  let ofAccess (access : StorageAccess) : GlobalUse :=
    ⟨access.canLoad, access.canStore, true⟩
  match global.space with
  | .storage access => ofAccess access
  | .handle =>
      match site.typed.form global.type with
      | .image _ _ (.storage _ _ access) => ofAccess access
      | _ => ⟨true, false, true⟩
  | .uniform => ⟨true, false, true⟩
  | .pushConstant => ⟨true, false, false⟩
  | .run | .workgroup | .call => ⟨true, true, true⟩

/-- The variables that are used, with their numbers and their uses. -/
def usedGlobals (usage : Usage) : List (Nat × GlobalVariable × GlobalUse) :=
  let globals := site.typed.program.globals.toList.zip usage.globals.toList
  ((List.range globals.length).zip globals).filter (·.2.2.isSome)

/-- Check the uses of variables, of which no two are bound to the same resource. -/
def checkUses (taken : List (Nat × Nat)) :
    List (Nat × GlobalVariable × GlobalUse) → Except EntryFault Unit
  | [] => .ok ()
  | (number, global, use) :: others => do
      if !use.isWithin (site.allowedUse global) then
        throw (.usage number use)
      match global.resource with
      | none => checkUses taken others
      | some resource =>
          if taken.contains resource then throw (.resource number)
          checkUses (resource :: taken) others

/-- Check what an entry point exchanges and uses. -/
def checkInterface (entry : EntryPoint) (facts : FunctionFacts) : Except EntryFault Unit := do
  if facts.isForFragments && entry.stage ≠ .fragment then
    throw .stage
  site.checkInputs entry
  site.checkOutputs entry
  let used := site.usedGlobals facts.usage
  if (used.filter fun found => found.2.1.space = .pushConstant).length > 1 then
    throw .pushConstants
  site.checkUses [] used

/-- Check an entry point. -/
def checkEntry (entry : EntryPoint) : Except EntryStop Unit := do
  if entry.testsDepthFirst && entry.stage ≠ .fragment then
    throw (.fault .depthTest)
  if entry.workgroupSize.any (· ≠ 0) then
    throw (.fault .workgroupSize)
  let facts ← (site.checkFunction entry.function).mapError (·.atEntry)
  (site.checkInterface entry facts).mapError .fault

end OuterSite

end ShaderBuild.Glsl
