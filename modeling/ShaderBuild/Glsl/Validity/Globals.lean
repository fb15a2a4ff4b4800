import ShaderBuild.Glsl.Validity.Composition
import ShaderBuild.Glsl.Validity.TypeTraits

namespace ShaderBuild.Glsl

/-!
# Validity of constants and variables

What a program declares outside functions: its constant nodes, its constants, and its
variables, of which each space takes other types.
-/

/-- A program whose types are valid, with what is known of them. -/
structure TypedProgram where
  program : Program
  facts : Array TypeFacts

namespace TypedProgram

/-- What is known of a type. -/
def factsOf (typed : TypedProgram) (type : TypeId) : TypeFacts :=
  (typed.facts[type]?).getD default

/-- What a type is made of. -/
def form (typed : TypedProgram) (type : TypeId) : Form :=
  typed.program.form type

end TypedProgram

/-! ### Constant nodes -/

/-- Why a constant node is invalid. -/
inductive ConstantNodeFault where
  | composition (fault : CompositionFault)
  | typing (fault : TypeFault)
  deriving Repr, DecidableEq

/-- What reports call a fault. -/
def ConstantNodeFault.report : ConstantNodeFault → String
  | composition fault => fault.report
  | typing fault => "Type resolution failed: " ++ fault.report

/-- The types of the constant nodes of a program, if all have one. -/
def Program.valueForms (program : Program) : Except (NodeId × ConstantNodeFault) (Array Form) :=
  match Surroundings.resolveFrom ⟨program, #[], []⟩ program.values.nodes #[] with
  | (found, none) => .ok (found.map (·.within program.types))
  | (_, some (node, fault)) => .error (node, .typing fault)

/-- The forms of some nodes. -/
def formsAt (forms : Array Form) (nodes : List NodeId) : List Form :=
  nodes.map fun node => (forms[node]?).getD default

/-- Check a constant node. -/
def TypedProgram.checkValue (typed : TypedProgram) (forms : Array Form) (node : Node) :
    Except ConstantNodeFault Unit :=
  match node with
  | .compose type parts =>
      (typed.program.types.checkComposition type (formsAt forms parts)).mapError .composition
  | _ => .ok ()

/-! ### Constants -/

/-- Why a constant is invalid. -/
inductive ConstantFault where
  | notConstructible
  | otherType
  deriving Repr, DecidableEq

/-- What reports call a fault. -/
def ConstantFault.report : ConstantFault → String
  | notConstructible => "The type is not constructible"
  | otherType => "The type doesn't match the constant"

/-- Check a constant. -/
def TypedProgram.checkConstant (typed : TypedProgram) (forms : Array Form)
    (constant : GlobalConstant) : Except ConstantFault Unit :=
  let initial := (forms[constant.initial]?).getD default
  if !(typed.factsOf constant.type).has [.constructible] then .error .notConstructible
  else if !typed.program.types.agree (typed.form constant.type) initial then .error .otherType
  else .ok ()

/-! ### Variables -/

/-- Why a variable outside functions is invalid. -/
inductive GlobalFault where
  | usage (space : AddressSpace)
  | type (space : AddressSpace)
  | traits (required seen : List TypeTrait)
  | resource
  | layout (space : AddressSpace) (type : TypeId) (fault : LayoutFault)
  | initialType
  | initialSpace (space : AddressSpace)
  | writeOnly
  deriving Repr, DecidableEq

/-- What reports call a fault. -/
def GlobalFault.report : GlobalFault → String
  | usage space => "Usage isn't compatible with address space " ++ space.report
  | type space => "Type isn't compatible with address space " ++ space.report
  | traits required seen =>
      "Type flags " ++ TypeTrait.listReport seen ++ " do not meet the required " ++
        TypeTrait.listReport required
  | resource => "Binding decoration is missing or not applicable"
  | layout space owner fault =>
      "Alignment requirements for address space " ++ space.report ++ " are not met by " ++
        entryReport owner ++ ": " ++ fault.report
  | initialType => "Initializer doesn't match the variable type"
  | initialSpace space => "Initializer can't be used with address space " ++ space.report
  | writeOnly => "Storage address space doesn't support write-only access"

/-- Check that a layout suits a space. -/
def checkLayout (space : AddressSpace) (layout : Layout) : Except GlobalFault Unit :=
  match layout with
  | .ok _ => .ok ()
  | .error (owner, fault) => .error (.layout space owner fault)

/-- The traits that a space asks of the types of its variables, after its other demands. -/
def AddressSpace.requiredTraits (space : AddressSpace) (form : Form) (facts : TypeFacts) :
    Except GlobalFault (List TypeTrait) := do
  match space with
  | .call => throw (.usage space)
  | .storage access =>
      checkLayout space facts.storage
      if access = ⟨false, true⟩ then throw .writeOnly
      return [.data, .shared]
  | .uniform =>
      checkLayout space facts.uniform
      return [.data, .copied, .sized, .shared]
  | .handle => if form.isHandle then return [] else throw (.type space)
  | .run => return [.constructible]
  | .workgroup => return [.data, .sized]
  | .pushConstant => return [.data, .copied, .shared, .sized]

/-- Whether the variables of a space are bound to resources. -/
def AddressSpace.isBound : AddressSpace → Bool
  | .storage _ | .uniform | .handle => true
  | .call | .run | .workgroup | .pushConstant => false

/-- Check a variable outside functions. -/
def TypedProgram.checkGlobal (typed : TypedProgram) (forms : Array Form)
    (global : GlobalVariable) : Except GlobalFault Unit := do
  let facts := typed.factsOf global.type
  let form := typed.form global.type
  let required ← global.space.requiredTraits form facts
  if !facts.has required then
    throw (.traits required facts.traits)
  if global.space.isBound ≠ global.resource.isSome then
    throw .resource
  match global.initial with
  | none => return
  | some initial =>
      if global.space ≠ .run then
        throw (.initialSpace global.space)
      if !typed.program.types.agree form ((forms[initial]?).getD default) then
        throw .initialType

end ShaderBuild.Glsl
