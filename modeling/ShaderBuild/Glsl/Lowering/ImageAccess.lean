import ShaderBuild.Glsl.Lowering.Operation

namespace ShaderBuild.Glsl.Reader

/-!
# Access to images

Samples and elements of images. The coordinates of a call hold all that says where to
look: the coordinates in one image, then the number of the image in an array, then
what a depth is compared with. An image that is used with a sampler that compares
becomes one of depths.
-/

/-- Where to look in an image. -/
structure ImagePlace where
  coordinate : NodeId
  arrayIndex : Option NodeId := none
  reference : Option NodeId := none
  /-- Whether an argument of its own says what to compare with. -/
  usesExtra : Bool := false

/-- How many numbers say where to look in one image, if they are more than one. -/
def planeSize? : ImageDimension → Option Nat
  | .line => none
  | .plane => some 2
  | .solid | .cube => some 3

/-- The size of a vector. -/
def vectorSize? : Form → Option Nat
  | .vector size _ => some size
  | _ => none

/-- The most numbers that coordinates hold. -/
def coordinateLimit : Nat := 4

/-- The coordinates in one image out of those of a call. -/
def ownCoordinate (dimension : ImageDimension) (coordinate : NodeId) (span : Span) :
    Reader NodeId := do
  match planeSize? dimension, vectorSize? (← formOf coordinate span) with
  | some size, some given =>
      if size ≠ given then resize size coordinate .nowhere else return coordinate
  | none, some _ => addNode (.accessIndex coordinate 0) .nowhere
  | _, _ => return coordinate

/-- Where to look in an image according to the coordinates of a call. -/
def imagePlace (image coordinate : NodeId) (extra : Option NodeId) (span : Span) :
    Reader ImagePlace := do
  match ← formOf image span with
  | .image dimension isArrayed use =>
      let own ← ownCoordinate dimension coordinate span
      let isStored := match use with
        | .storage _ _ _ => true
        | _ => false
      let first := (planeSize? dimension).getD 1
      let hasIndex := isArrayed && !(isStored && dimension = .cube)
      let arrayIndex ←
        if hasIndex then pure (some (← addNode (.accessIndex coordinate first) .nowhere))
        else pure none
      let next := if hasIndex then first + 1 else first
      match use with
      | .depth _ =>
          if next = coordinateLimit then
            return { coordinate := own, arrayIndex := arrayIndex, reference := extra,
                     usesExtra := true }
          let reference ← addNode (.accessIndex coordinate next) .nowhere
          return { coordinate := own, arrayIndex := arrayIndex, reference := some reference }
      | _ => return { coordinate := own, arrayIndex := arrayIndex }
  | _ =>
      note span "Type is not an image"
      return { coordinate := coordinate }

/-- Coordinates divided by the last of them. -/
def dividedCoordinates (coordinate : NodeId) (span : Span) : Reader NodeId := do
  match ← formOf coordinate span with
  | .vector size _ =>
      let divisor ← addNode (.accessIndex coordinate (size - 1)) .nowhere
      if size = 2 then
        let dividend ← addNode (.accessIndex coordinate 0) .nowhere
        addNode (.binary .divide dividend divisor) .nowhere
      else
        let divisor ← addNode (.splat (size - 1) divisor) .nowhere
        let dividend ← resize (size - 1) coordinate .nowhere
        addNode (.binary .divide dividend divisor) .nowhere
  | _ => breakDown "internal error: entered unreachable code"

/-! ### Images of depths -/

/-- The image of depths that an image becomes, if it becomes one. -/
def depthForm? : Form → Option Form
  | .image dimension isArrayed (.sampled _ isMulti) =>
      some (.image dimension isArrayed (.depth isMulti))
  | .image dimension isArrayed (.depth isMulti) =>
      some (.image dimension isArrayed (.depth isMulti))
  | _ => none

/-- The type of depths that a type becomes, which is noted if there is none. -/
def depthType (type : TypeId) (span : Span) : Reader TypeId := do
  match depthForm? (← formOfType type) with
  | some form =>
      if (← formOfType type) = form then return type else typeOfForm form
  | none =>
      note span "Not a texture"
      return type

/-- Make an image one of depths. -/
def makeDepth (image : NodeId) (span : Span) : Reader Unit := do
  match (← currentPool).node image with
  | .globalVariable number =>
      match (← program).globals[number]? with
      | none => pure ()
      | some found =>
          let type ← depthType found.type span
          modifyProgram fun program =>
            { program with
              globals := program.globals.setIfInBounds number { found with type := type } }
  | .argument index =>
      match (← draft).arguments[index]? with
      | none => pure ()
      | some found =>
          modifyDraft fun draft =>
            { draft with
              infos := draft.infos.modify index fun info => { info with isDepth := true } }
          let type ← depthType found.type span
          modifyDraft fun draft =>
            { draft with
              arguments := draft.arguments.set index { found with type := type }
              parameters := draft.parameters.set index type }
  | _ => note span "Not a valid texture expression"

/-- Use an image with a sampler that compares. -/
def useAsDepth (image : NodeId) (span : Span) : Reader Unit := do
  makeDepth image span
  resolveAgain image span

/-- Remember the sampler that an image is used with. -/
def pairSampler (image sampler : NodeId) : Reader Unit :=
  modifyDraft fun draft => { draft with samplers := (image, sampler) :: draft.samplers }

/-! ### Samples -/

/-- A constant that is found by a shader, or the problem that there is none. -/
def constantOffset (offset : NodeId) : Reader (Option NodeId) :=
  tryCatch (do return some (← liftConstant offset)) fun
    | .problem problem => do
        modify fun state => { state with problems := problem :: state.problems }
        return none
    | .breakdown message => breakDown message

/-- Take a sample from an image with the sampler that it is used with. -/
def takeSample (image : NodeId) (level : SampleLevel) (place : ImagePlace)
    (offset : Option NodeId) (span : Span) : Reader NodeId := do
  match (← draft).samplers.lookup image with
  | none => refuse span "Bad call"
  | some sampler =>
      let arrayIndex ← place.arrayIndex.mapM fun index => convert .int index span
      addNode
        (.sample
          { image := image
            sampler := sampler
            coordinate := place.coordinate
            arrayIndex := arrayIndex
            offset := offset
            level := level
            reference := place.reference })
        span

/-- The argument of a call at an index, which its variant makes sure of. -/
def argumentAt (arguments : List NodeId) (index : Nat) : Reader NodeId :=
  match arguments[index]? with
  | some argument => return argument
  | none => breakDown (TypeFault.outOfRange arguments.length index)

/-- The level of a sample that the arguments from one on say, and how many arguments do. -/
def sampleLevel (compares : Bool) (level : LevelArgument) (arguments : List NodeId) :
    Reader (SampleLevel × Nat) := do
  match level with
  | .none => return (.automatic, 0)
  | .exact =>
      if compares then return (.zero, 1)
      return (.exact (← argumentAt arguments 2), 1)
  | .gradient =>
      if compares then return (.zero, 2)
      return (.gradient (← argumentAt arguments 2) (← argumentAt arguments 3), 2)

/-- Call a function that takes samples. -/
def callSample (projects hasOffset compares : Bool) (level : LevelArgument)
    (arguments : List NodeId) (span : Span) : Reader NodeId := do
  let image ← argumentAt arguments 0
  let given ← argumentAt arguments 1
  let coordinate ← if projects then dividedCoordinates given span else pure given
  let place ← imagePlace image coordinate arguments[2]? span
  let used := if place.usesExtra then 3 else 2
  let (level, count) ← sampleLevel compares level arguments
  let used := used + count
  let offset ← if hasOffset then constantOffset (← argumentAt arguments used) else pure none
  let used := if hasOffset then used + 1 else used
  let level :=
    match level, arguments[used]? with
    | .automatic, some bias => .bias bias
    | level, _ => level
  takeSample image level place offset span

/-- Ask for the size of an image, with that of the array if it is in one. -/
def callSize (isArrayed : Bool) (arguments : List NodeId) (span : Span) : Reader NodeId := do
  let image ← argumentAt arguments 0
  let size ← addNode (.query image (.size arguments[1]?)) .nowhere
  let size ←
    if isArrayed then
      let parts ←
        match ← formOf size span with
        | .vector count _ =>
            (List.range count).mapM fun index => addNode (.accessIndex size index) .nowhere
        | _ => pure [size]
      let layers ← addNode (.query image .layerCount) .nowhere
      let type ← typeOfForm (.vector (parts.length + 1) .uint)
      addNode (.compose type (parts ++ [layers])) span
    else pure size
  convert .int size .nowhere

/-- Load an element of an image. -/
def callLoad (isMulti : Bool) (arguments : List NodeId) (span : Span) : Reader NodeId := do
  let image ← argumentAt arguments 0
  let place ← imagePlace image (← argumentAt arguments 1) none span
  addNode
    (.texel
      { image := image
        coordinate := place.coordinate
        arrayIndex := place.arrayIndex
        sample := if isMulti then arguments[2]? else none
        level := if isMulti then none else arguments[2]? })
    .nowhere

/-- Store an element of an image. -/
def callStore (arguments : List NodeId) (span : Span) : Reader Unit := do
  let image ← argumentAt arguments 0
  let place ← imagePlace image (← argumentAt arguments 1) none span
  flushNodes
  perform (.imageStore image place.coordinate place.arrayIndex (← argumentAt arguments 2))

end ShaderBuild.Glsl.Reader
