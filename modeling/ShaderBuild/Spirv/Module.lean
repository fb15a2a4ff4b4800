import ShaderBuild.ShaderModule
import ShaderBuild.ShaderStage
import ShaderBuild.SpirvVersion
import ShaderBuild.Text.Utf8

namespace ShaderBuild.Spirv

/-!
# SPIR-V modules

A module is a header and a list of instructions, each of which takes up whole words.
Writing a module gives its words; reading words gives back the instructions, from
which it can be seen what the module declares.
-/

/-- The kinds of instruction that occur here. -/
inductive Operation where
  | name | extInstImport | memoryModel | entryPoint | executionMode | capability
  | typeVoid | typeFloat | typeVector | typePointer | typeFunction | constantNull
  | function | functionEnd | functionCall | «variable» | store | decorate
  | label | branch | «return»
  deriving Repr, DecidableEq

/-- The number of a kind of instruction. -/
def Operation.code : Operation → UInt32
  | .name => 5
  | .extInstImport => 11
  | .memoryModel => 14
  | .entryPoint => 15
  | .executionMode => 16
  | .capability => 17
  | .typeVoid => 19
  | .typeFloat => 22
  | .typeVector => 23
  | .typePointer => 32
  | .typeFunction => 33
  | .constantNull => 46
  | .function => 54
  | .functionEnd => 56
  | .functionCall => 57
  | .variable => 59
  | .store => 62
  | .decorate => 71
  | .label => 248
  | .branch => 249
  | .return => 253

/-- An instruction: the number of its kind, and its operands. -/
structure Instruction where
  code : UInt32
  operands : List UInt32
  deriving Repr, DecidableEq

/-- An instruction of a kind. -/
def Operation.with (operation : Operation) (operands : List UInt32) : Instruction :=
  ⟨operation.code, operands⟩

/-- The words of an instruction: its length and kind in one, then its operands. -/
def Instruction.words (instruction : Instruction) : List UInt32 :=
  ((UInt32.ofNat instruction.operands.length + 1) <<< 16 ||| instruction.code) ::
    instruction.operands

/-- A module. -/
structure Module where
  version : SpirvVersion
  /-- A number greater than every identifier in the module. -/
  bound : UInt32
  instructions : List Instruction
  deriving Repr, DecidableEq

/-- The first word of every module. -/
def magic : UInt32 := 0x07230203

/-- The number under which the writer of these modules is registered. -/
def generator : UInt32 := 28

/-- A version as a word of the header. -/
def versionWord (version : SpirvVersion) : UInt32 :=
  version.major.toUInt32 <<< 16 ||| version.minor.toUInt32 <<< 8

/-- The words of a module. -/
def Module.words (module : Module) : List UInt32 :=
  magic :: versionWord module.version :: generator :: module.bound :: 0 ::
    module.instructions.flatMap Instruction.words

/-! ### Text in operands -/

/-- The bytes of a text, four to a word, the lowest byte first; a zero byte ends it. -/
def textWords : List UInt8 → List UInt32
  | a :: b :: c :: d :: rest =>
      (a.toUInt32 ||| b.toUInt32 <<< 8 ||| c.toUInt32 <<< 16 ||| d.toUInt32 <<< 24) ::
        textWords rest
  | [a, b, c] => [a.toUInt32 ||| b.toUInt32 <<< 8 ||| c.toUInt32 <<< 16]
  | [a, b] => [a.toUInt32 ||| b.toUInt32 <<< 8]
  | [a] => [a.toUInt32]
  | [] => [0]

/-- The operands that a text takes up. -/
def textOperands (text : String) : List UInt32 :=
  textWords (Text.encode text.toList)

/-- The bytes of a text in operands, up to its zero byte. -/
def operandText (operands : List UInt32) : List UInt8 :=
  (operands.flatMap ShaderModule.wordBytes).takeWhile (· ≠ 0)

/-! ### Reading words -/

/--
The instructions that words are, after the `missing` operands of the instruction
that has begun with `current`.
-/
def instructionsFrom (current : Option Instruction) (missing : Nat) :
    List UInt32 → List Instruction
  | [] => current.toList
  | word :: rest =>
      match missing, current with
      | missing + 1, some instruction =>
          instructionsFrom (some { instruction with operands := instruction.operands ++ [word] })
            missing rest
      | _, _ =>
          current.toList ++
            instructionsFrom (some ⟨word &&& 0xffff, []⟩) ((word >>> 16).toNat - 1) rest

/-- The instructions of a module that is given by its words. -/
def instructions (words : List UInt32) : List Instruction :=
  instructionsFrom none 0 (words.drop 5)

/-- What can be seen of a module from outside. -/
structure Summary where
  /-- The version as it stands in the header. -/
  version : UInt32
  entryPoints : List (ShaderStage × List UInt8)
  /-- The variables that hold a vertex's position. -/
  positionOutputs : Nat
  /-- The entry points whose coordinates start at the upper left. -/
  upperLeftOrigins : Nat
  /-- Whether anything has a name for reading. -/
  hasNames : Bool
  deriving Repr, DecidableEq

/-- The stage that an operand stands for. -/
def stageOfOperand : UInt32 → ShaderStage
  | 0 => .vertex
  | _ => .fragment

/-- What can be seen of a module that is given by its words. -/
def summary (words : List UInt32) : Summary :=
  let instructions := instructions words
  let ofKind (operation : Operation) := instructions.filter (·.code = operation.code)
  { version := words.getD 1 0
    entryPoints := (ofKind .entryPoint).map fun entry =>
      (stageOfOperand (entry.operands.getD 0 0), operandText (entry.operands.drop 2))
    positionOutputs := ((ofKind .decorate).filter (·.operands.drop 1 = [11, 0])).length
    upperLeftOrigins := ((ofKind .executionMode).filter (·.operands.drop 1 = [7])).length
    hasNames := !(ofKind .name).isEmpty }

end ShaderBuild.Spirv
