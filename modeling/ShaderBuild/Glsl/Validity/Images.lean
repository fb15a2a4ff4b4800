import ShaderBuild.Glsl.Validity.Globals
import ShaderBuild.Glsl.Validity.NodeFault
import ShaderBuild.Glsl.Validity.Operands

namespace ShaderBuild.Glsl

/-!
# Validity of accesses to images

What images can be sampled, loaded from and asked about, and with what.
-/

/-- A function of a valid program with the types of its nodes. -/
structure FunctionSite where
  typed : TypedProgram
  function : Function
  /-- What the values of the function's nodes are made of. -/
  forms : Array Form
  /-- What the values of the program's constant nodes are made of. -/
  values : Array Form

namespace FunctionSite

variable (site : FunctionSite)

/-- What the value of a node is made of. -/
def form (node : NodeId) : Form :=
  (site.forms[node]?).getD default

/-- The type of the variable or the argument that a node is. -/
def handleType (node : NodeId) : Except NodeFault TypeId :=
  match site.function.nodes[node]? with
  | some (.globalVariable number) =>
      .ok (((site.typed.program.globals[number]?).map (·.type)).getD 0)
  | some (.argument index) => .ok (((site.function.arguments[index]?).map (·.type)).getD 0)
  | _ => .error .notGlobal

/-! ### Parts of an access -/

/-- Check that there is an index into an array of images exactly if there is an array. -/
def checkArrayIndex (isArrayed : Bool) (index : Option NodeId) : Except NodeFault Unit := do
  if isArrayed ≠ index.isSome then
    throw .arrayIndexMisplaced
  match index with
  | some index =>
      if !(site.form index).isSingleOf (·.isWhole) then throw (.arrayIndex index)
  | none => return

/-- Check that there is an index of another kind exactly if one is needed. -/
def checkOtherIndex (isNeeded : Bool) (index : Option NodeId) : Except NodeFault Unit := do
  match index with
  | some index =>
      if !isNeeded then throw .otherIndexMisplaced
      if !(site.form index).isSingleOf (·.isWhole) then throw (.otherIndex index)
  | none => if isNeeded then throw .otherIndexMisplaced

/-- Whether the images of a class have several levels of detail. -/
def hasLevels : ImageClass → Bool
  | .sampled _ isMulti | .depth isMulti => !isMulti
  | .storage _ _ _ => false

/-- Whether whole numbers are coordinates in an image; those of a cube are no such. -/
def isTexelCoordinate (dimension : ImageDimension) (form : Form) : Bool :=
  match dimension with
  | .line => form.isSingleOf (·.isWhole)
  | .plane => form.isVectorOf (·.isWhole) && form.isCoordinateOf 2 (·.isWhole)
  | .solid => form.isVectorOf (·.isWhole) && form.isCoordinateOf 3 (·.isWhole)
  | .cube => false

/-! ### Samples -/

/-- How many numbers the coordinates of a sample have. -/
def coordinateSize : ImageDimension → Nat
  | .line => 1
  | .plane => 2
  | .solid | .cube => 3

/-- Whether images of a class can be compared with a reference, if they can be sampled. -/
def samplesDepth? : ImageClass → Option Bool
  | .sampled kind false => if kind.isReal then some false else none
  | .depth false => some true
  | _ => none

/-- Check the level of detail of a sample. -/
def checkLevel (dimension : ImageDimension) : SampleLevel → Except NodeFault Unit
  | .automatic | .zero => .ok ()
  | .exact level =>
      if (site.form level).isSingleOf (·.isReal) then .ok () else .error (.exactLevel level)
  | .bias bias => if (site.form bias).isSingleOf (·.isReal) then .ok () else .error (.bias bias)
  | .gradient first second =>
      let fits (gradient : NodeId) :=
        (site.form gradient).isCoordinateOf (coordinateSize dimension) (·.isReal)
      if !fits first then .error (.gradient dimension first)
      else if !fits second then .error (.gradient dimension second)
      else .ok ()

/-- Check the reference that a sample is compared with. -/
def checkReference (sample : Sample) : Except NodeFault Unit := do
  match sample.reference with
  | none => return
  | some reference =>
      if !(site.form reference).isSingleOf (·.isReal) then
        throw (.reference reference)
      match sample.level with
      | .automatic | .zero => return
      | _ => throw .referenceLevel

/-- Check the offset of a sample. -/
def checkOffset (dimension : ImageDimension) : Option NodeId → Except NodeFault Unit
  | none => .ok ()
  | some offset =>
      let form := (site.values[offset]?).getD default
      if form.isCoordinateOf (coordinateSize dimension) (· = .int) then .ok ()
      else .error (.offset dimension offset)

/-- Check a sample. -/
def checkSample (sample : Sample) : Except NodeFault Unit := do
  let imageType ← site.handleType sample.image
  let samplerType ← site.handleType sample.sampler
  match site.typed.form samplerType, site.typed.form imageType with
  | .sampler compares, .image dimension isArrayed use =>
      site.checkArrayIndex isArrayed sample.arrayIndex
      match samplesDepth? use with
      | none => throw (.imageClass use)
      | some hasDepth =>
          let hasReference := sample.reference.isSome
          if compares ≠ hasReference || compares && !hasDepth then
            throw (.comparison use compares hasReference)
      let coordinate := site.form sample.coordinate
      if !coordinate.isCoordinateOf (coordinateSize dimension) (·.isReal) then
        throw (.coordinate dimension sample.coordinate)
      site.checkOffset dimension sample.offset
      site.checkReference sample
      site.checkLevel dimension sample.level
  | .sampler _, _ => throw (.notImage imageType)
  | _, _ => throw (.notImage samplerType)

/-! ### Texels and questions -/

/-- Check a load of a single element. -/
def checkTexel (texel : Texel) : Except NodeFault Unit := do
  let type ← site.handleType texel.image
  match site.typed.form type with
  | .image dimension isArrayed use =>
      if !isTexelCoordinate dimension (site.form texel.coordinate) then
        throw (.coordinate dimension texel.coordinate)
      site.checkArrayIndex isArrayed texel.arrayIndex
      site.checkOtherIndex use.isMulti texel.sample
      site.checkOtherIndex (hasLevels use) texel.level
  | _ => throw (.notImage type)

/-- Check a question about an image. -/
def checkQuery (image : NodeId) (query : ImageQuery) : Except NodeFault Unit := do
  let type ← site.handleType image
  match site.typed.form type with
  | .image _ isArrayed use =>
      match query with
      | .size none => return
      | .size (some level) =>
          if !(site.form level).isSingleOf (·.isWhole) then throw (.otherIndex level)
          if !hasLevels use then throw (.imageClass use)
      | .layerCount => if !isArrayed then throw (.imageClass use)
  | _ => throw (.notImage type)

/-- Check where and what an element is stored, but for the type of the element. -/
def checkImageStore (image coordinate : NodeId) (arrayIndex : Option NodeId) :
    Except NodeFault Form := do
  match site.function.nodes[image]? with
  | some (.globalVariable _) => pure ()
  | _ => throw .notGlobal
  let type ← site.handleType image
  match site.typed.form type with
  | .image dimension isArrayed use =>
      if !isTexelCoordinate dimension (site.form coordinate) then
        throw (.coordinate dimension coordinate)
      site.checkArrayIndex isArrayed arrayIndex
      match use with
      | .storage _ kind _ => return .vector 4 kind
      | use => throw (.imageClass use)
  | _ => throw (.notImage type)

end FunctionSite

end ShaderBuild.Glsl
