import ShaderBuild.Glsl.PreprocessingFault
import ShaderBuild.Glsl.Type

namespace ShaderBuild.Glsl

/-!
# Words of the shading language

Which words are keywords, types and qualifiers, and how reports speak of a lexeme.
-/

/-- Keywords that begin a qualifier, with their names in reports. -/
def qualifiers : List (String × String) := [
  ("layout", "Layout"), ("in", "In"), ("out", "Out"), ("inout", "InOut"),
  ("uniform", "Uniform"), ("buffer", "Buffer"), ("const", "Const"), ("shared", "Shared"),
  ("restrict", "Restrict"), ("readonly", "MemoryQualifier(StorageAccess(LOAD))"),
  ("writeonly", "MemoryQualifier(StorageAccess(STORE))"), ("invariant", "Invariant"),
  ("flat", "Interpolation(Flat)"), ("noperspective", "Interpolation(Linear)"),
  ("smooth", "Interpolation(Perspective)"), ("centroid", "Sampling(Centroid)"),
  ("sample", "Sampling(Sample)"), ("highp", "PrecisionQualifier(High)"),
  ("mediump", "PrecisionQualifier(Medium)"), ("lowp", "PrecisionQualifier(Low)")]

/-- Other keywords, with their names in reports. -/
def keywords : List (String × String) := [
  ("precision", "Precision"), ("continue", "Continue"), ("break", "Break"),
  ("return", "Return"), ("discard", "Discard"), ("if", "If"), ("else", "Else"),
  ("switch", "Switch"), ("case", "Case"), ("default", "Default"), ("while", "While"),
  ("do", "Do"), ("for", "For"), ("void", "Void"), ("struct", "Struct"),
  ("true", "BoolConstant(true)"), ("false", "BoolConstant(false)")]

/-- A word that begins a qualifier; one of them only stands before parameters. -/
def isQualifier (word : String) : Bool :=
  word ≠ "inout" && qualifiers.any (·.1 = word)

/-- A word that is a keyword, or begins a qualifier. -/
def isKeyword (word : String) : Bool :=
  (qualifiers ++ keywords).any (·.1 = word)

/-! ### Types -/

/-- The names of single types. -/
def singleTypes : List (String × Form) := [
  ("bool", .single .bool), ("float", .single .float), ("double", .single .double),
  ("int", .single .int), ("uint", .single .uint), ("sampler", .sampler false),
  ("samplerShadow", .sampler true)]

/-- What the names of vector and matrix types start with. -/
def kindLetters : List (String × Scalar) := [
  ("", .float), ("b", .bool), ("i", .int), ("u", .uint), ("d", .double)]

/-- The sizes of vectors and matrices. -/
def sizeDigits : List (String × Nat) := [("2", 2), ("3", 3), ("4", 4)]

/-- The parts of a word before and after a stem; what follows the stem again does not count. -/
def aroundStem? (stem word : String) : Option (String × String) :=
  match word.splitOn stem with
  | before :: after :: _ => some (before, after)
  | _ => none

/-- The vector type that a word names. -/
def vectorForm? (word : String) : Option Form := do
  let (letter, size) ← aroundStem? "vec" word
  return .vector (← sizeDigits.lookup size) (← kindLetters.lookup letter)

/-- The columns and the rows that the end of a matrix type's name says. -/
def matrixSizes? (sizes : String) : Option (Nat × Nat) :=
  match sizeDigits.lookup sizes, sizes.splitOn "x" with
  | some size, _ => some (size, size)
  | none, [columns, rows] => do return (← sizeDigits.lookup columns, ← sizeDigits.lookup rows)
  | none, _ => none

/-- The matrix type that a word names. -/
def matrixForm? (word : String) : Option Form := do
  let (letter, sizes) ← aroundStem? "mat" word
  let kind ← kindLetters.lookup letter
  let (columns, rows) ← matrixSizes? sizes
  return .matrix columns rows kind

/-- What the names of image types start with, for the kinds of their elements. -/
def imageLetters : List (String × Scalar) := [("", .float), ("i", .int), ("u", .uint)]

/-- What the names of types of images that can be stored to end in. -/
def imageEnds : List (String × ImageDimension × Bool) := [
  ("1D", .line, false), ("1DArray", .line, true), ("2D", .plane, false),
  ("2DArray", .plane, true), ("3D", .solid, false)]

/-- What the names of types of images that can be sampled end in besides. -/
def cubeEnds : List (String × ImageDimension × Bool) := [
  ("Cube", .cube, false), ("CubeArray", .cube, true)]

/-- What the names of types of images with several samples per element end in. -/
def multiEnds : List (String × ImageDimension × Bool) := [
  ("2DMS", .plane, false), ("2DMSArray", .plane, true)]

/-- The type of images that can be sampled that a word names. -/
def textureForm? (word : String) : Option Form := do
  let (letter, ending) ← aroundStem? "texture" word
  let kind ← imageLetters.lookup letter
  match (imageEnds ++ cubeEnds).lookup ending with
  | some (dimension, isArrayed) => return .image dimension isArrayed (.sampled kind false)
  | none =>
      let (dimension, isArrayed) ← multiEnds.lookup ending
      return .image dimension isArrayed (.sampled kind true)

/--
The type of images that can be stored to that a word names. The format is left to a
layout; without one it is the same whatever kind the word says.
-/
def imageForm? (word : String) : Option Form := do
  let (letter, ending) ← aroundStem? "image" word
  discard (imageLetters.lookup letter)
  let (dimension, isArrayed) ← imageEnds.lookup ending
  return .image dimension isArrayed (.storage "R8Uint" .uint {})

/-- The type of the language that a word names. -/
def typeForm? (word : String) : Option Form :=
  singleTypes.lookup word <|> vectorForm? word <|> matrixForm? word <|> textureForm? word <|>
    imageForm? word

/-- A word that names a type of the language. -/
def isTypeName (word : String) : Bool :=
  !isKeyword word && (typeForm? word).isSome

/-! ### Reports -/

/-- How reports speak of a lexeme. -/
def Lexeme.report : Lexeme → String
  | .word name =>
      match (qualifiers ++ keywords).lookup name, typeForm? name with
      | some report, _ => report
      | none, some form => "TypeName(" ++ (NamedType.mk none form).report ++ ")"
      | none, none => "Identifier(" ++ Text.quoted name ++ ")"
  | .integer value signed => "IntConstant(" ++ integerReport value signed 32 ++ ")"
  | .float value => "FloatConstant(" ++ floatReport value ++ ")"
  | .mark spelling => ((marks.lookup spelling).map (·.1)).getD spelling
  | .lineEnd => "end of line"

end ShaderBuild.Glsl
