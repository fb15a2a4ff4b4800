import ShaderBuild.Glsl.Lowering.LanguageCall

namespace ShaderBuild.Glsl.Reader

/-!
# Calls

Which of the functions of a name a call is for, how its arguments are handed over, and
what is written back to them afterwards.
-/

/-! ### Functions of one name -/

/-- Put a value in place of that of a key, or behind the others. -/
def assign (name : String) (value : α) : List (String × α) → List (String × α)
  | [] => [(name, value)]
  | (key, former) :: others =>
      if key = name then (name, value) :: others else (key, former) :: assign name value others

/-- The functions of a name, with the variants of the language's own that are asked for. -/
def functionGroup (name : String) (asked : Variations) : Reader FunctionGroup := do
  let state ← get
  let (group, asked) :=
    match state.functions.lookup name with
    | some group => (group, asked)
    | none => ({}, { asked with standard := true })
  let (types, group) := FunctionGroup.addVariants state.program.types group name asked
  set
    { state with
      program := { state.program with types := types }
      functions := assign name group state.functions }
  return group

/-- Put the functions of a name in place of the former ones. -/
def setFunctionGroup (name : String) (group : FunctionGroup) : Reader Unit :=
  modify fun state => { state with functions := assign name group state.functions }

/-! ### The choice of a function -/

/-- A parameter, the argument for it, and the conversion in the best function so far. -/
structure Trial where
  type : TypeId
  info : ParameterInfo
  argument : PlacedValue
  earlier : Conversion

/-- What is tried for the parameters of a function with the arguments of a call. -/
def Trial.ofOverload (overload : Overload) (arguments : List PlacedValue)
    (earlier : List Conversion) : List Trial :=
  (((overload.parameters.zip overload.infos).zip arguments).zip earlier).map
    fun (((type, info), argument), earlier) => ⟨type, info, argument, earlier⟩

/-- Whether the access to a stored image allows all that another one does. -/
def allows (given needed : StorageAccess) : Bool :=
  (given.canLoad || !needed.canLoad) && (given.canStore || !needed.canStore)

/--
Whether a stored image suits a parameter, if both are such. What may be done with the
image is no part of its type here, but a problem if it is not enough.
-/
def storedImageSuits? (overload : Overload) (name : String) (parameter argument : Form)
    (span : Span) : Reader (Option Bool) := do
  match parameter, argument with
  | .image dimension isArrayed (.storage format kind needed),
    .image givenDimension givenIsArrayed (.storage givenFormat givenKind given) =>
      let isSame := format = givenFormat || (overload.isInternal && kind = givenKind)
      if dimension ≠ givenDimension || isArrayed ≠ givenIsArrayed || !isSame then
        return some false
      if !allows given needed then
        note span ("'" ++ name ++ "': image needs " ++ needed.report ++ " access but only " ++
          given.report ++ " was provided")
      return some true
  | _, _ => return none

/-- How an argument becomes one for a parameter; none if it does not. -/
def conversionFor? (overload : Overload) (name : String) (trial : Trial) (span : Span) :
    Reader (Option Conversion) := do
  if trial.info.isDepth then
    useAsDepth trial.argument.1 trial.argument.2
  let argument ← formOf trial.argument.1 trial.argument.2
  let parameter ← formOfType trial.type
  match ← storedImageSuits? overload name parameter argument span with
  | some suits => return if suits then some .exact else none
  | none =>
      if parameter = argument then return some .exact
      else if trial.info.use = .both then return none
      else if trial.info.use.isWritten then return Conversion.ofForms? argument parameter
      else return Conversion.ofForms? parameter argument

/-- Compare a function with the best one so far; the result also says whether it suits. -/
def compareOverload (overload : Overload) (name : String) (span : Span)
    (comparison : Comparison) : List Trial → Reader (Comparison × Bool)
  | [] => return (comparison, true)
  | trial :: trials => do
      match ← conversionFor? overload name trial span with
      | none => return (comparison, false)
      | some conversion =>
          compareOverload overload name span (comparison.add trial.earlier conversion) trials

/-- The choice after one more function, if it has as many parameters as there are arguments. -/
def considerOverload (name : String) (arguments : List PlacedValue) (span : Span)
    (choice : Choice) (overload : Overload) : Reader Choice := do
  if choice.isFinal || overload.parameters.length ≠ arguments.length then
    return choice
  let (comparison, suits) ←
    compareOverload overload name span {}
      (Trial.ofOverload overload arguments choice.conversions)
  if suits then return choice.add overload comparison
  return { choice with isAmbiguous := choice.isAmbiguous || comparison.isAmbiguous }

/-- The function of a name that a call with some arguments is for. -/
def chooseOverload (name : String) (arguments : List PlacedValue) (span : Span) :
    Reader Overload := do
  let forms ← arguments.mapM fun argument => formOf argument.1 argument.2
  let group ← functionGroup name (.ofForms forms)
  let choice ← group.overloads.foldlM (considerOverload name arguments span)
    { conversions := arguments.map fun _ => .none }
  if choice.isAmbiguous then
    note span ("Ambiguous best function for '" ++ name ++ "'")
  match choice.found with
  | some overload => return overload
  | none => refuse span ("Unknown function '" ++ name ++ "'")

/-! ### Arguments -/

/-- Add a variable to the function; the result is the node that stands for it. -/
def addLocal (name : Option String) (type : TypeId) (initial : Option NodeId) (span : Span) :
    Reader NodeId := do
  let number := (← draft).locals.size
  modifyDraft fun draft =>
    { draft with locals := draft.locals.push { name := name, type := type, initial := initial } }
  addNode (.localVariable number) span

/-- What is written back to an argument after a call. -/
structure WriteBack where
  target : NodeId
  source : NodeId
  /-- The kind that the value is brought to. -/
  kind : Option Scalar

/-- The type of the variable that a function is handed in place of an argument, if it is. -/
def proxyType? : Form → Reader (Option TypeId)
  | .vector size kind => do return some (← typeOfForm (.vector size kind))
  | .pointer base space => return if space = .call then none else some base
  | .partPointer size kind space => do
      if space = .call then return none
      match size with
      | some size => return some (← typeOfForm (.vector size kind))
      | none => return some (← typeOfForm (.single kind))
  | _ => return none

/-- What is to be written back to an argument, component for component if it is such. -/
def writeBacks (target proxy : NodeId) (kind : Option Scalar) : Reader (List WriteBack) := do
  match ← draftNode target with
  | .swizzle vector pattern =>
      let vector ← storedVector vector
      (pattern.zip (List.range pattern.length)).mapM fun (component, index) => do
        let place ← addNode (.accessIndex vector component) .nowhere
        let part ← addNode (.accessIndex proxy index) .nowhere
        return ⟨place, part, kind⟩
  | _ => return [⟨target, proxy, kind⟩]

/--
Hand over a place that the function writes to. The result is what is handed over, and
what is to be written back if it is not the place itself.
-/
def passPlace (trial : Trial) (place : PlacedValue) : Reader (NodeId × List WriteBack) := do
  let form ← formOf place.1 place.2
  let proxyType ← proxyType? form
  let value ←
    if form.space?.isSome then addNode (.load place.1) .nowhere else pure place.1
  let argument ← formOf trial.argument.1 trial.argument.2
  let isConverted := argument ≠ (← formOfType trial.type)
  match if isConverted then some trial.type else proxyType with
  | none => return (place.1, [])
  | some type =>
      let proxy ← addLocal none type none .nowhere
      if trial.info.use = .both then
        perform (.store proxy value)
      let kind := if isConverted then argument.components? else none
      return (proxy, ← writeBacks place.1 proxy kind)

/-- Hand over a value. -/
def passValue (trial : Trial) (value : PlacedValue) : Reader NodeId := do
  convertToForm (← formOfType trial.type) value.1 value.2

/-! ### Calls -/

/-- Write back to an argument. -/
def performWriteBack (span : Span) (write : WriteBack) : Reader Unit := do
  let value ← addNode (.load write.source) span
  let value ← match write.kind with
    | some kind => convert kind value span
    | none => pure value
  flushNodes
  perform (.store write.target value)

/-- Call a function with arguments that are handed over. -/
def callOverload (overload : Overload) (arguments : List NodeId) (writes : List WriteBack)
    (span : Span) : Reader (Option NodeId) := do
  match overload.kind with
  | .language function => callLanguage function arguments span
  | .call function =>
      finishNodes
      let result ←
        if overload.isVoid then pure none
        else pure (some (← addNode (.callResult function) .nowhere))
      perform (.call function arguments result)
      gatherNodes
      for write in writes do
        performWriteBack span write
      return result

end ShaderBuild.Glsl.Reader
