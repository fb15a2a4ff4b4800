namespace ShaderBuild.Glsl

/-!
# Mathematical functions

The functions of numbers that programs may use, and what reports call them.
-/

/-- A function of numbers. -/
inductive MathFunction where
  | abs | min | max | clamp
  | cos | cosh | sin | sinh | tan | tanh
  | acos | asin | atan | atan2 | asinh | acosh | atanh | radians | degrees
  | ceil | floor | round | fract | trunc | ldexp
  | exp | exp2 | log | log2 | pow
  | dot | outer | cross | distance | length | normalize | faceForward | reflect | refract
  | sign | fma | mix | step | smoothStep | sqrt | inverseSqrt | inverse | transpose | determinant
  | countOneBits | reverseBits | extractBits | insertBits | lowestBit | highestBit
  | pack4x8Snorm | pack4x8Unorm | pack2x16Snorm | pack2x16Unorm | pack2x16Float
  | unpack4x8Snorm | unpack4x8Unorm | unpack2x16Snorm | unpack2x16Unorm | unpack2x16Float
  deriving Repr, DecidableEq

/-- What reports call a function. -/
def MathFunction.report : MathFunction → String
  | abs => "Abs"
  | min => "Min"
  | max => "Max"
  | clamp => "Clamp"
  | cos => "Cos"
  | cosh => "Cosh"
  | sin => "Sin"
  | sinh => "Sinh"
  | tan => "Tan"
  | tanh => "Tanh"
  | acos => "Acos"
  | asin => "Asin"
  | atan => "Atan"
  | atan2 => "Atan2"
  | asinh => "Asinh"
  | acosh => "Acosh"
  | atanh => "Atanh"
  | radians => "Radians"
  | degrees => "Degrees"
  | ceil => "Ceil"
  | floor => "Floor"
  | round => "Round"
  | fract => "Fract"
  | trunc => "Trunc"
  | ldexp => "Ldexp"
  | exp => "Exp"
  | exp2 => "Exp2"
  | log => "Log"
  | log2 => "Log2"
  | pow => "Pow"
  | dot => "Dot"
  | outer => "Outer"
  | cross => "Cross"
  | distance => "Distance"
  | length => "Length"
  | normalize => "Normalize"
  | faceForward => "FaceForward"
  | reflect => "Reflect"
  | refract => "Refract"
  | sign => "Sign"
  | fma => "Fma"
  | mix => "Mix"
  | step => "Step"
  | smoothStep => "SmoothStep"
  | sqrt => "Sqrt"
  | inverseSqrt => "InverseSqrt"
  | inverse => "Inverse"
  | transpose => "Transpose"
  | determinant => "Determinant"
  | countOneBits => "CountOneBits"
  | reverseBits => "ReverseBits"
  | extractBits => "ExtractBits"
  | insertBits => "InsertBits"
  | lowestBit => "FindLsb"
  | highestBit => "FindMsb"
  | pack4x8Snorm => "Pack4x8snorm"
  | pack4x8Unorm => "Pack4x8unorm"
  | pack2x16Snorm => "Pack2x16snorm"
  | pack2x16Unorm => "Pack2x16unorm"
  | pack2x16Float => "Pack2x16float"
  | unpack4x8Snorm => "Unpack4x8snorm"
  | unpack4x8Unorm => "Unpack4x8unorm"
  | unpack2x16Snorm => "Unpack2x16snorm"
  | unpack2x16Unorm => "Unpack2x16unorm"
  | unpack2x16Float => "Unpack2x16float"

end ShaderBuild.Glsl
