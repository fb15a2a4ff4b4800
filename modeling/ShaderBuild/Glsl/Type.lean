import ShaderBuild.ShaderStage
import ShaderBuild.Text.Quoted

namespace ShaderBuild.Glsl

/-!
# Types

The types of the shading language. A program keeps its types in a table, each once,
and types refer to others by their numbers in the table. Reports name an entry of a
table by its number, counted from one.
-/

/-- How reports name the entry of a table at an index. -/
def entryReport (index : Nat) : String :=
  s!"[{index + 1}]"

/-- How reports show what may be missing. -/
def optionReport (report : α → String) : Option α → String
  | none => "None"
  | some value => "Some(" ++ report value ++ ")"

/-! ### Single values -/

/-- The kind of a single value. -/
inductive Scalar where
  | bool | int | uint | float | double
  deriving Repr, DecidableEq, Inhabited

namespace Scalar

/-- What reports call a kind, the number of bytes aside. -/
def kindReport : Scalar → String
  | .bool => "Bool"
  | .int => "Sint"
  | .uint => "Uint"
  | .float | .double => "Float"

/-- How many bytes a value takes up. -/
def width : Scalar → Nat
  | .bool => 1
  | .double => 8
  | .int | .uint | .float => 4

/-- How reports describe a kind. -/
def report (kind : Scalar) : String :=
  "Scalar \x7b kind: " ++ kind.kindReport ++ s!", width: {kind.width} \x7d"

/-- A place in the order in which kinds become others by themselves, if a kind does so. -/
def rank? : Scalar → Option Nat
  | .bool => none
  | .int => some 0
  | .uint => some 1
  | .float => some 2
  | .double => some 3

/-- Whether values of a kind are whole numbers. -/
def isWhole (kind : Scalar) : Bool :=
  kind = .int || kind = .uint

/-- Whether values of a kind may have a fraction. -/
def isReal (kind : Scalar) : Bool :=
  kind = .float || kind = .double

end Scalar

/-- What reports call a size of vectors and matrices. -/
def sizeReport : Nat → String
  | 2 => "Bi"
  | 3 => "Tri"
  | _ => "Quad"

/-! ### Memory -/

/-- What may be done with stored data. -/
structure StorageAccess where
  canLoad : Bool := true
  canStore : Bool := true
  deriving Repr, DecidableEq

/-- How reports show an access. -/
def StorageAccess.report (access : StorageAccess) : String :=
  let names :=
    (if access.canLoad then ["LOAD"] else []) ++ if access.canStore then ["STORE"] else []
  "StorageAccess(" ++ (if names = [] then "0x0" else " | ".intercalate names) ++ ")"

/-- Where a variable is kept. -/
inductive AddressSpace where
  /-- With a call of a function. -/
  | call
  /-- With a run of an entry point. -/
  | run
  | workgroup
  | uniform
  | storage (access : StorageAccess)
  /-- Outside of memory: images and samplers. -/
  | handle
  | pushConstant
  deriving Repr, DecidableEq

/-- What reports call a space. -/
def AddressSpace.report : AddressSpace → String
  | .call => "Function"
  | .run => "Private"
  | .workgroup => "WorkGroup"
  | .uniform => "Uniform"
  | .storage access => "Storage \x7b access: " ++ access.report ++ " \x7d"
  | .handle => "Handle"
  | .pushConstant => "PushConstant"

/-- Whether what is kept in a space can be changed. -/
def AddressSpace.canStore : AddressSpace → Bool
  | .call | .run | .workgroup => true
  | .storage access => access.canStore
  | .uniform | .handle | .pushConstant => false

/-! ### Images -/

/-- The dimensions of an image. -/
inductive ImageDimension where
  | line | plane | solid | cube
  deriving Repr, DecidableEq

/-- What reports call dimensions. -/
def ImageDimension.report : ImageDimension → String
  | .line => "D1"
  | .plane => "D2"
  | .solid => "D3"
  | .cube => "Cube"

/-- What an image is used for. -/
inductive ImageClass where
  | sampled (kind : Scalar) (isMulti : Bool)
  | depth (isMulti : Bool)
  | storage (format : String) (kind : Scalar) (access : StorageAccess)
  deriving Repr, DecidableEq

/-- Whether images of a class have several samples per element. -/
def ImageClass.isMulti : ImageClass → Bool
  | .sampled _ isMulti | .depth isMulti => isMulti
  | .storage _ _ _ => false

/-- How reports describe a class of images. -/
def ImageClass.report : ImageClass → String
  | .sampled kind isMulti =>
      "Sampled \x7b kind: " ++ kind.kindReport ++ ", multi: " ++ toString isMulti ++ " \x7d"
  | .depth isMulti => "Depth \x7b multi: " ++ toString isMulti ++ " \x7d"
  | .storage format _ access =>
      "Storage \x7b format: " ++ format ++ ", access: " ++ access.report ++ " \x7d"

/-! ### Forms of types -/

/-- Number of a type in a table. -/
abbrev TypeId := Nat

/-- A member of a structure. -/
structure Member where
  name : Option String
  type : TypeId
  /-- How many bytes of the structure precede the member. -/
  offset : Nat
  deriving Repr, DecidableEq

/-- What a type is made of. -/
inductive Form where
  | single (kind : Scalar)
  | vector (size : Nat) (kind : Scalar)
  | matrix (columns rows : Nat) (kind : Scalar)
  /-- The place of a value. -/
  | pointer (base : TypeId) (space : AddressSpace)
  /-- The place of a single value or a vector inside of another value. -/
  | partPointer (size : Option Nat) (kind : Scalar) (space : AddressSpace)
  /-- An array; its size may be left open. -/
  | array (base : TypeId) (size : Option Nat) (stride : Nat)
  | record (members : List Member) (span : Nat)
  | image (dimension : ImageDimension) (isArrayed : Bool) (use : ImageClass)
  | sampler (compares : Bool)
  deriving Repr, DecidableEq, Inhabited

namespace Form

/-- The kind of the numbers that a value consists of. -/
def kind? : Form → Option Scalar
  | .single kind | .vector _ kind | .matrix _ _ kind => some kind
  | _ => none

/-- The kind of the numbers that a value, or what a pointer into a value leads to, consists of. -/
def components? : Form → Option Scalar
  | .partPointer _ kind _ => some kind
  | form => form.kind?

/-- Where what a pointer leads to is kept. -/
def space? : Form → Option AddressSpace
  | .pointer _ space | .partPointer _ _ space => some space
  | _ => none

/-- Whether a type is that of something outside of memory. -/
def isHandle : Form → Bool
  | .image _ _ _ | .sampler _ => true
  | _ => false

/-- Whether the size of a value is known before a run. -/
def isSized : Form → Bool
  | .array _ none _ | .image _ _ _ | .sampler _ => false
  | _ => true

/-- How reports describe a member of a structure. -/
def memberReport (member : Member) : String :=
  "StructMember \x7b name: " ++ optionReport Text.quoted member.name ++ ", ty: " ++
    entryReport member.type ++ ", binding: None, offset: " ++ s!"{member.offset} \x7d"

/-- How reports describe a form. -/
def report : Form → String
  | .single kind => "Scalar(" ++ kind.report ++ ")"
  | .vector size kind =>
      "Vector \x7b size: " ++ sizeReport size ++ ", scalar: " ++ kind.report ++ " \x7d"
  | .matrix columns rows kind =>
      "Matrix \x7b columns: " ++ sizeReport columns ++ ", rows: " ++ sizeReport rows ++
        ", scalar: " ++ kind.report ++ " \x7d"
  | .pointer base space =>
      "Pointer \x7b base: " ++ entryReport base ++ ", space: " ++ space.report ++ " \x7d"
  | .partPointer size kind space =>
      "ValuePointer \x7b size: " ++ optionReport sizeReport size ++ ", scalar: " ++
        kind.report ++ ", space: " ++ space.report ++ " \x7d"
  | .array base size stride =>
      let size := (size.map fun size => s!"Constant({size})").getD "Dynamic"
      "Array \x7b base: " ++ entryReport base ++ ", size: " ++ size ++
        s!", stride: {stride} \x7d"
  | .record members span =>
      "Struct \x7b members: [" ++ ", ".intercalate (members.map memberReport) ++
        s!"], span: {span} \x7d"
  | .image dimension isArrayed use =>
      "Image \x7b dim: " ++ dimension.report ++ ", arrayed: " ++ toString isArrayed ++
        ", class: " ++ use.report ++ " \x7d"
  | .sampler compares => "Sampler \x7b comparison: " ++ toString compares ++ " \x7d"

end Form

/-! ### Sizes -/

/-- A vector's size as a factor of its alignment. -/
def vectorAlignment (size : Nat) : Nat :=
  if size = 2 then 2 else 4

/-- The least multiple of an alignment that is not less than a number. -/
def roundUp (alignment size : Nat) : Nat :=
  (size + alignment - 1) / alignment * alignment

/-- How many bytes a value takes up, an array of open size counting as one element. -/
def Form.size : Form → Nat
  | .single kind => kind.width
  | .vector size kind => size * kind.width
  | .matrix columns rows kind => vectorAlignment rows * kind.width * columns
  | .pointer _ _ | .partPointer _ _ _ => 4
  | .array _ size stride => size.getD 1 * stride
  | .record _ span => span
  | .image _ _ _ | .sampler _ => 0

/-- A type: what it is made of and, for structures, what it is called. -/
structure NamedType where
  name : Option String := none
  form : Form
  deriving Repr, DecidableEq, Inhabited

/-- How reports describe a type. -/
def NamedType.report (type : NamedType) : String :=
  "Type \x7b name: " ++ optionReport Text.quoted type.name ++ ", inner: " ++
    type.form.report ++ " \x7d"

/-! ### Tables -/

/-- The types of a program, each once. -/
abbrev TypeTable := Array NamedType

namespace TypeTable

/-- What a type of a table is made of. -/
def form (types : TypeTable) (type : TypeId) : Form :=
  ((types[type]?).map (·.form)).getD (.single .bool)

/-- The table with a type, and its number there. -/
def insert (types : TypeTable) (type : NamedType) : TypeTable × TypeId :=
  match types.idxOf? type with
  | some index => (types, index)
  | none => (types.push type, types.size)

/-- The alignment of the types of a table up to a number, given that of earlier ones. -/
def alignmentOf (alignments : Array Nat) : Form → Nat
  | .single kind => kind.width
  | .vector size kind => vectorAlignment size * kind.width
  | .matrix _ rows kind => vectorAlignment rows * kind.width
  | .pointer _ _ | .partPointer _ _ _ => 1
  | .array base _ _ => (alignments[base]?).getD 1
  | .record members _ =>
      (members.map fun member => (alignments[member.type]?).getD 1).foldl max 1
  | .image _ _ _ | .sampler _ => 1

/-- The alignments of the types of a table; types refer to earlier ones only. -/
def alignments (types : TypeTable) : Array Nat :=
  types.foldl (fun found type => found.push (alignmentOf found type.form)) #[]

/-- How many bytes values have at most, so that a word of 32 bits can say it. -/
def greatestSize : Nat := (1 <<< 32) - 1

/-- Whether all values of the types of a table are small enough to have a size. -/
def hasSizes (types : TypeTable) : Bool :=
  types.all fun type => type.form.size ≤ greatestSize

/-- How many bytes lie between the starts of neighbours in an array of a type. -/
def stride (types : TypeTable) (type : TypeId) : Nat :=
  roundUp ((types.alignments[type]?).getD 1) (types.form type).size

/-- The form in which a pointer to a type is compared. -/
def pointerForm (types : TypeTable) (base : TypeId) (space : AddressSpace) : Form :=
  match types.form base with
  | .single kind => .partPointer none kind space
  | .vector size kind => .partPointer (some size) kind space
  | _ => .pointer base space

/-- Whether two forms are the same, however pointers say what they lead to. -/
def agree (types : TypeTable) (first second : Form) : Bool :=
  canonical first = canonical second
where
  /-- The form in which a form is compared. -/
  canonical : Form → Form
    | .pointer base space => types.pointerForm base space
    | form => form

end TypeTable

end ShaderBuild.Glsl
