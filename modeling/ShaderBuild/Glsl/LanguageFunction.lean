import ShaderBuild.Glsl.Node

namespace ShaderBuild.Glsl

/-!
# Functions of the language's own

What the functions of the language do, and in which variants, by the types of their
arguments, they come. The order of the variants matters where several of them suit a
call.
-/

/-- How a sample is given its level of detail. -/
inductive LevelArgument where
  | none
  | exact
  | gradient
  deriving Repr, DecidableEq

/-- What a function of the language does. -/
inductive LanguageFunction where
  /-- Puts an image and a sampler together; one that compares makes the image one of depths. -/
  | combine (compares : Bool)
  /-- Takes a sample, at coordinates that may have a divisor, and with an offset. -/
  | sample (projects hasOffset compares : Bool) (level : LevelArgument)
  | imageSize (isArrayed : Bool)
  | imageLoad (isMulti : Bool)
  | imageStore
  | math (function : MathFunction)
  | lowestUnsignedBit
  | highestUnsignedBit
  | extractBits
  | insertBits
  | relational (function : RelationalFunction)
  | unary (operator : UnaryOperator)
  | binary (operator : BinaryOperator)
  /-- The rest of a division to the floor; the divisor is spread over a vector of a size. -/
  | modulo (size : Option Nat)
  /-- A function of which one argument is spread over a vector of a size. -/
  | spread (function : MathFunction) (size : Option Nat) (argument : Nat)
  /-- Chooses between two values. -/
  | choose
  /-- Brings a value into bounds, which are spread over a vector of a size. -/
  | bound (size : Option Nat)
  | reinterpret (kind : Scalar)
  | derivative
  | barrier
  /-- A smooth step, the ends of which are spread over a vector of a size. -/
  | smoothStep (size : Option Nat)
  deriving Repr, DecidableEq

/-- A variant of a function: the types of its arguments and what it does. -/
abbrev FunctionVariant := List Form × LanguageFunction

namespace LanguageFunction

/-- The sizes that a value may have; none for a single one. -/
def allSizes : List (Option Nat) := [none, some 2, some 3, some 4]

/-- The sizes of vectors. -/
def vectorSizes : List (Option Nat) := [some 2, some 3, some 4]

/-- The sizes of values with that of single ones last. -/
def vectorsFirst : List (Option Nat) := [some 2, some 3, some 4, none]

/-- The sizes of two arguments, of which the second may be a single value. -/
def sizePairs : List (Option Nat × Option Nat) :=
  allSizes.map (·, none) ++ vectorSizes.map fun size => (size, size)

/-- The pairs of sizes of vectors. -/
def vectorPairs : List (Nat × Nat) :=
  [2, 3, 4].flatMap fun first => [2, 3, 4].map (first, ·)

/-- A value of a kind and a size. -/
def sized (kind : Scalar) : Option Nat → Form
  | some size => .vector size kind
  | none => .single kind

/-! ### Samplers -/

/-- What the names of samplers end in, with the images that they belong to. -/
def samplerEnds : List (String × ImageDimension × Bool × Bool) := [
  ("1D", .line, false, false), ("1DArray", .line, true, false), ("2D", .plane, false, false),
  ("2DArray", .plane, true, false), ("2DMS", .plane, false, true),
  ("2DMSArray", .plane, true, true), ("3D", .solid, false, false), ("Cube", .cube, false, false),
  ("CubeArray", .cube, true, false)]

/-- The samplers, with the images that they belong to. -/
def samplers : List (String × Form) :=
  samplerEnds.map fun (ending, dimension, isArrayed, isMulti) =>
    ("sampler" ++ ending, .image dimension isArrayed (.sampled .float isMulti))

/-- What the names of samplers that compare have in the middle. -/
def comparingEnds : List (String × ImageDimension × Bool) := [
  ("1D", .line, false), ("1DArray", .line, true), ("2D", .plane, false), ("2DArray", .plane, true),
  ("Cube", .cube, false), ("CubeArray", .cube, true)]

/-- The variants of the function that makes a sampler of a name. -/
def samplerVariants (name : String) : List FunctionVariant :=
  match samplers.lookup name with
  | some image => [([image, .sampler false], .combine false)]
  | none =>
      match comparingEnds.find? fun ending => name = "sampler" ++ ending.1 ++ "Shadow" with
      | some (_, dimension, isArrayed) =>
          [ImageClass.sampled .float false, .depth false].map fun use =>
            ([.image dimension isArrayed use, .sampler true], .combine true)
      | none => []

/-! ### Numbers -/

/-- Functions of one value that is a number with a fraction, or a vector of such. -/
def floatFunctions : List (String × LanguageFunction) := [
  ("sin", .math .sin), ("exp", .math .exp), ("exp2", .math .exp2), ("sinh", .math .sinh),
  ("cos", .math .cos), ("cosh", .math .cosh), ("tan", .math .tan), ("tanh", .math .tanh),
  ("acos", .math .acos), ("asin", .math .asin), ("log", .math .log), ("log2", .math .log2),
  ("radians", .math .radians), ("degrees", .math .degrees), ("asinh", .math .asinh),
  ("acosh", .math .acosh), ("atanh", .math .atanh), ("floatBitsToInt", .reinterpret .int),
  ("floatBitsToUint", .reinterpret .uint), ("dFdx", .derivative), ("dFdxFine", .derivative),
  ("dFdxCoarse", .derivative), ("dFdy", .derivative), ("dFdyFine", .derivative),
  ("dFdyCoarse", .derivative), ("fwidth", .derivative), ("fwidthFine", .derivative),
  ("fwidthCoarse", .derivative)]

/-- Functions of a value's bits, by whether its numbers are signed. -/
def bitFunctions : List (String × LanguageFunction × LanguageFunction) := [
  ("bitCount", .math .countOneBits, .math .countOneBits),
  ("bitfieldReverse", .math .reverseBits, .math .reverseBits),
  ("bitfieldExtract", .extractBits, .extractBits), ("bitfieldInsert", .insertBits, .insertBits),
  ("findLSB", .math .lowestBit, .lowestUnsignedBit),
  ("findMSB", .math .highestBit, .highestUnsignedBit)]

/-- The arguments of a function of bits beside the first. -/
def bitArguments (operand : Form) : LanguageFunction → List Form
  | .extractBits => [.single .int, .single .int]
  | .insertBits => [operand, .single .int, .single .int]
  | _ => []

/-- Functions that pack a vector of a size into a word. -/
def packFunctions : List (String × MathFunction × Nat) := [
  ("packSnorm4x8", .pack4x8Snorm, 4), ("packUnorm4x8", .pack4x8Unorm, 4),
  ("packSnorm2x16", .pack2x16Unorm, 2), ("packUnorm2x16", .pack2x16Snorm, 2),
  ("packHalf2x16", .pack2x16Float, 2)]

/-- Functions that unpack a word. -/
def unpackFunctions : List (String × MathFunction) := [
  ("unpackSnorm4x8", .unpack4x8Snorm), ("unpackUnorm4x8", .unpack4x8Unorm),
  ("unpackSnorm2x16", .unpack2x16Snorm), ("unpackUnorm2x16", .unpack2x16Unorm),
  ("unpackHalf2x16", .unpack2x16Float)]

/-- Functions of vectors of truth values. -/
def truthFunctions : List (String × LanguageFunction) := [
  ("all", .relational .all), ("any", .relational .any), ("not", .unary .logicalNot)]

/-- Comparisons of vectors. -/
def comparisons : List (String × BinaryOperator) := [
  ("lessThan", .less), ("greaterThan", .greater), ("lessThanEqual", .lessEqual),
  ("greaterThanEqual", .greaterEqual), ("equal", .equal), ("notEqual", .notEqual)]

/-- The functions that give the less or the greater of two values. -/
def extremes : List (String × MathFunction) := [("min", .min), ("max", .max)]

/-- The functions of a value's size and of its sign. -/
def signFunctions : List (String × MathFunction) := [("abs", .abs), ("sign", .sign)]

/-- The kinds of numbers that are not doubles. -/
def numberKinds : List Scalar := [.float, .int, .uint]

/-- The variants of a comparison for vectors of kinds. -/
def comparisonVariants (operator : BinaryOperator) (kinds : List Scalar) :
    List FunctionVariant :=
  kinds.flatMap fun kind => vectorSizes.map fun size =>
    ([sized kind size, sized kind size], .binary operator)

/-- A variant of a function that mixes two values. -/
def mixVariant (kind : Scalar) (isChoice isSpread : Bool) (size : Option Nat) :
    FunctionVariant :=
  let operand := sized kind size
  if isChoice then ([operand, operand, sized .bool size], .choose)
  else
    ([operand, operand, if isSpread then .single kind else operand], .spread .mix size 2)

/-- A variant of a function that brings values into bounds. -/
def boundVariant (kind : Scalar) (isSpread : Bool) (size : Option Nat) : FunctionVariant :=
  let limit := if isSpread then .single kind else sized kind size
  ([sized kind size, limit, limit], .bound size)

/-- The variants that functions of values with a fraction have for each width of those. -/
def commonVariants (kind : Scalar) (name : String) : List FunctionVariant :=
  let unary : List (String × LanguageFunction) := [
    ("ceil", .math .ceil), ("round", .math .round), ("roundEven", .math .round),
    ("floor", .math .floor), ("fract", .math .fract), ("trunc", .math .trunc),
    ("sqrt", .math .sqrt), ("inversesqrt", .math .inverseSqrt), ("normalize", .math .normalize),
    ("length", .math .length), ("isinf", .relational .isInfinite), ("isnan", .relational .isNan)]
  let binary : List (String × MathFunction) := [
    ("dot", .dot), ("reflect", .reflect), ("distance", .distance), ("ldexp", .ldexp)]
  let ternary : List (String × MathFunction) := [("faceforward", .faceForward), ("fma", .fma)]
  let square : List (String × MathFunction) := [
    ("inverse", .inverse), ("determinant", .determinant)]
  match unary.lookup name, binary.lookup name, ternary.lookup name, square.lookup name with
  | some function, _, _, _ => allSizes.map fun size => ([sized kind size], function)
  | _, some function, _, _ =>
      let second := if function = .ldexp then .int else kind
      allSizes.map fun size => ([sized kind size, sized second size], .math function)
  | _, _, some function, _ =>
      allSizes.map fun size => (List.replicate 3 (sized kind size), .math function)
  | _, _, _, some function => [2, 3, 4].map fun size => ([.matrix size size kind], .math function)
  | none, none, none, none =>
      match name with
      | "transpose" =>
          vectorPairs.map fun (rows, columns) => ([.matrix columns rows kind], .math .transpose)
      | "mod" =>
          sizePairs.map fun (size, second) => ([sized kind size, sized kind second], .modulo size)
      | "step" =>
          sizePairs.map fun (size, first) =>
            ([sized kind first, sized kind size], .spread .step size 0)
      | "cross" => [([.vector 3 kind, .vector 3 kind], .math .cross)]
      | "outerProduct" =>
          vectorPairs.map fun (first, second) =>
            ([.vector first kind, .vector second kind], .math .outer)
      | "refract" =>
          allSizes.map fun size =>
            ([sized kind size, sized kind size, .single .float], .math .refract)
      | "smoothstep" =>
          allSizes.flatMap fun size =>
            let operand := sized kind size
            ([operand, operand, operand], .smoothStep none) ::
              if size.isSome then [([.single kind, .single kind, operand], .smoothStep size)]
              else []
      | _ => []

/-- The variants that a function has from the first call of its name on. -/
def standardVariants (name : String) : List FunctionVariant :=
  match samplerVariants name, floatFunctions.lookup name, signFunctions.lookup name,
      bitFunctions.lookup name, packFunctions.lookup name, unpackFunctions.lookup name,
      truthFunctions.lookup name, comparisons.lookup name, extremes.lookup name with
  | first :: others, _, _, _, _, _, _, _, _ => first :: others
  | _, some function, _, _, _, _, _, _, _ =>
      allSizes.map fun size => ([sized .float size], function)
  | _, _, some function, _, _, _, _, _, _ =>
      [Scalar.float, .int].flatMap fun kind =>
        allSizes.map fun size => ([sized kind size], .math function)
  | _, _, _, some (signed, unsigned), _, _, _, _, _ =>
      allSizes.flatMap fun size => [(Scalar.int, signed), (.uint, unsigned)].map fun (kind, function) =>
        (sized kind size :: bitArguments (sized kind size) function, function)
  | _, _, _, _, some (function, size), _, _, _, _ => [([.vector size .float], .math function)]
  | _, _, _, _, _, some function, _, _, _ => [([.single .uint], .math function)]
  | _, _, _, _, _, _, some function, _, _ =>
      vectorSizes.map fun size => ([sized .bool size], function)
  | _, _, _, _, _, _, _, some operator, _ =>
      comparisonVariants operator (numberKinds ++ if operator.testsEquality then [.bool] else [])
  | _, _, _, _, _, _, _, _, some function =>
      sizePairs.flatMap fun (size, second) => numberKinds.map fun kind =>
        ([sized kind size, sized kind second], .spread function size 1)
  | [], none, none, none, none, none, none, none, none =>
      match name with
      | "intBitsToFloat" => allSizes.map fun size => ([sized .int size], .reinterpret .float)
      | "uintBitsToFloat" => allSizes.map fun size => ([sized .uint size], .reinterpret .float)
      | "pow" => allSizes.map fun size => ([sized .float size, sized .float size], .math .pow)
      | "atan" =>
          allSizes.flatMap fun size =>
            [([sized .float size], .math .atan),
              ([sized .float size, sized .float size], .math .atan2)]
      | "mix" =>
          [Scalar.int, .uint, .float].flatMap (fun kind =>
            vectorsFirst.map (mixVariant kind true false)) ++
          vectorsFirst.map (mixVariant .float false false) ++
          vectorSizes.map (mixVariant .float false true)
      | "clamp" =>
          vectorsFirst.flatMap (fun size => numberKinds.map (boundVariant · false size)) ++
            vectorSizes.flatMap fun size => numberKinds.map (boundVariant · true size)
      | "barrier" => [([], .barrier)]
      | name => commonVariants .float name

/-- The variants that a function has from the first call with doubles on. -/
def doubleVariants (name : String) : List FunctionVariant :=
  match signFunctions.lookup name, extremes.lookup name, comparisons.lookup name with
  | some function, _, _ => allSizes.map fun size => ([sized .double size], .math function)
  | _, some function, _ =>
      sizePairs.map fun (size, second) =>
        ([sized .double size, sized .double second], .spread function size 1)
  | _, _, some operator => comparisonVariants operator [.double]
  | none, none, none =>
      match name with
      | "mix" =>
          let sizes := [some 4, some 2, some 3]
          (sizes ++ [none]).map (mixVariant .double false false) ++
            (sizes ++ [none]).map (mixVariant .double true false) ++
            sizes.map (mixVariant .double false true)
      | "clamp" =>
          vectorsFirst.map (boundVariant .double false) ++
            vectorSizes.map (boundVariant .double true)
      | name => commonVariants .double name

/-! ### Images -/

/-- An image as an argument of a function. -/
structure ImageArgument where
  kind : Scalar
  dimension : ImageDimension
  isArrayed : Bool
  isMulti : Bool
  isShadow : Bool

/-- Which images there are variants for. -/
structure ImageOptions where
  /-- Images of all kinds but those that have options of their own. -/
  standard : Bool := true
  /-- Arrays of cubes. -/
  cubeArray : Bool := false
  /-- Arrays of planes with several samples per element. -/
  multiArray : Bool := false
  /-- Images of depths. -/
  shadow : Bool := false
  /-- Images with several samples per element. -/
  multi : Bool := false

/-- The images of a kind, with given dimensions, alone or in an array, that there are variants for. -/
def imagesOf (options : ImageOptions) (kind : Scalar) (dimension : ImageDimension)
    (isArrayed : Bool) : List ImageArgument :=
  let isCubeArray := dimension = .cube && isArrayed
  let isMultiArray := dimension = .plane && isArrayed && options.multi && options.multiArray
  let isIncluded :=
    if isCubeArray then options.cubeArray else isMultiArray || options.standard
  let isMulti := dimension = .plane && !isArrayed && options.multi
  let isShadow := dimension ≠ .solid && kind = .float && options.shadow
  if isIncluded then
    (if isMultiArray then [⟨kind, dimension, true, true, false⟩] else []) ++
      [⟨kind, dimension, isArrayed, false, false⟩] ++
      (if isMulti then [⟨kind, dimension, false, true, false⟩] else []) ++
      if isShadow then [⟨kind, dimension, isArrayed, false, true⟩] else []
  else []

/-- The images that there are variants for. -/
def imageArguments (options : ImageOptions) : List ImageArgument :=
  [Scalar.float, .uint, .int].flatMap fun kind =>
    [ImageDimension.line, .plane, .solid, .cube].flatMap fun dimension =>
      (if dimension = .solid then [false] else [false, true]).flatMap
        (imagesOf options kind dimension)

/-- How many coordinates an element of an image has. -/
def coordinateCount : ImageDimension → Nat
  | .line => 1
  | .plane => 2
  | .solid | .cube => 3

/-- Coordinates of a kind. -/
def coordinates (kind : Scalar) (count : Nat) : Form :=
  if count = 1 then .single kind else .vector count kind

namespace ImageArgument

/-- The type of an image that is sampled. -/
def sampledForm (image : ImageArgument) : Form :=
  .image image.dimension image.isArrayed
    (if image.isShadow then .depth image.isMulti else .sampled image.kind image.isMulti)

/-- The type of an image that is stored to, with any format. -/
def storedForm (image : ImageArgument) (access : StorageAccess) : Form :=
  let format :=
    match image.kind with
    | .int => "R16Sint"
    | .uint => "R16Uint"
    | _ => "R16Float"
  .image image.dimension image.isArrayed (.storage format image.kind access)

/-- How many coordinates an element of the images of an array has. -/
def elementCoordinates (image : ImageArgument) : Nat :=
  coordinateCount image.dimension + image.isArrayed.toNat

end ImageArgument

/-- The functions that take samples: whether coordinates are divided, offsets and levels. -/
def samplingFunctions : List (String × Bool × Bool × LevelArgument) := [
  ("texture", false, false, .none), ("textureGrad", false, false, .gradient),
  ("textureGradOffset", false, true, .gradient), ("textureLod", false, false, .exact),
  ("textureLodOffset", false, true, .exact), ("textureOffset", false, true, .none),
  ("textureProj", true, false, .none), ("textureProjGrad", true, false, .gradient),
  ("textureProjGradOffset", true, true, .gradient), ("textureProjLod", true, false, .exact),
  ("textureProjLodOffset", true, true, .exact), ("textureProjOffset", true, true, .none)]

/--
A variant of a function that takes samples; `isWide` for coordinates of four numbers
whichever the image, `hasBias` for one more argument. There is none for some images.
-/
def samplingVariant? (projects hasOffset : Bool) (level : LevelArgument) (image : ImageArgument)
    (isWide hasBias : Bool) : Option FunctionVariant :=
  let isCube := image.dimension = .cube
  let own := coordinateCount image.dimension
  if isWide && !(projects && !image.isShadow) then none
  else if hasBias && level ≠ .none then none
  else if projects && (image.isArrayed || isCube) then none
  else if isCube && hasOffset then none
  else if (level = .exact || hasBias) && image.isArrayed && image.isShadow &&
      image.dimension = .plane then none
  else if hasBias && image.isShadow then none
  else
    let count :=
      if image.isShadow && projects then 4
      else if image.dimension = .line && image.isShadow then 3
      else if image.isShadow then own + 1
      else if projects then if isWide then 4 else own + 1
      else own
    let count :=
      if image.dimension = .line && image.isShadow then count else count + image.isArrayed.toNat
    let hasReference := count = 5
    let isPlain := !projects && !hasOffset && !hasBias && level = .none
    let levels :=
      match level with
      | .exact => [.single .float]
      | .gradient => List.replicate 2 (coordinates .float own)
      | .none => []
    if hasReference && !isPlain then none
    else some
      ([image.sampledForm, coordinates .float (if hasReference then 4 else count)] ++
        (if hasReference then [.single .float] else []) ++ levels ++
        (if hasOffset then [coordinates .int own] else []) ++
        (if hasBias then [.single .float] else []),
      .sample projects hasOffset image.isShadow level)

/-- The variants of a function of images. -/
def imageVariants (name : String) (options : ImageOptions) : List FunctionVariant :=
  match samplingFunctions.lookup name with
  | some (projects, hasOffset, level) =>
      (imageArguments { options with shadow := true }).flatMap fun image =>
        [(false, false), (true, false), (false, true), (true, true)].filterMap
          fun (isWide, hasBias) => samplingVariant? projects hasOffset level image isWide hasBias
  | none =>
      let fetched (hasOffset : Bool) :=
        (imageArguments { options with multi := true }).filterMap fun image =>
          if image.dimension = .cube then none
          else
            some
              ([image.sampledForm, coordinates .int image.elementCoordinates, .single .int] ++
                (if hasOffset then [coordinates .int (coordinateCount image.dimension)] else []),
              .imageLoad image.isMulti)
      let stored (variant : ImageArgument → FunctionVariant) :=
        (imageArguments options).filterMap fun image =>
          if image.dimension = .cube then none else some (variant image)
      match name with
      | "textureSize" =>
          (imageArguments { options with shadow := true, multi := true }).map
            fun image =>
              (image.sampledForm :: (if image.isMulti then [] else [.single .int]),
                .imageSize image.isArrayed)
      | "texelFetch" => fetched false
      | "texelFetchOffset" => fetched true
      | "imageSize" =>
          stored fun image => ([image.storedForm ⟨false, false⟩], .imageSize image.isArrayed)
      | "imageLoad" =>
          stored fun image =>
            ([image.storedForm ⟨true, false⟩, coordinates .int image.elementCoordinates],
              .imageLoad false)
      | "imageStore" =>
          stored fun image =>
            ([image.storedForm ⟨false, true⟩, coordinates .int image.elementCoordinates,
              .vector 4 image.kind], .imageStore)
      | _ => []

end LanguageFunction

end ShaderBuild.Glsl
