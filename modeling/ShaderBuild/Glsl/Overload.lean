import ShaderBuild.Glsl.LanguageFunction

namespace ShaderBuild.Glsl

/-!
# Overloads

The functions that share a name, and how a call chooses among them: by its arguments,
each of which has to be of the parameter's type or to become so by itself. Of two
functions the one with the better conversions is chosen, if there is one.
-/

/-! ### Parameters -/

/-- What a function does with a parameter. -/
inductive ParameterUse where
  | input | output | both | constant
  deriving Repr, DecidableEq

/-- Whether a function writes to the argument of a parameter. -/
def ParameterUse.isWritten (use : ParameterUse) : Bool :=
  use = .output || use = .both

/-- What is known of a parameter beside its type. -/
structure ParameterInfo where
  use : ParameterUse := .input
  /-- Whether the parameter is an image of depths, whatever its type says. -/
  isDepth : Bool := false
  deriving Repr, DecidableEq

/-! ### Functions of one name -/

/-- What a call of a function does. -/
inductive FunctionKind where
  /-- Calls the function of a number. -/
  | call (function : Nat)
  | language (function : LanguageFunction)
  deriving Repr, DecidableEq

/-- One of the functions of a name. -/
structure Overload where
  parameters : List TypeId
  infos : List ParameterInfo
  kind : FunctionKind
  isDefined : Bool
  /-- Whether the function is one of the language's own. -/
  isInternal : Bool
  isVoid : Bool
  deriving Repr, DecidableEq

/-- Which variants of the language's own functions there are. -/
structure Variations where
  standard : Bool := false
  double : Bool := false
  cubeArray : Bool := false
  multiArray : Bool := false
  deriving Repr, DecidableEq

namespace Variations

/-- The variations of either of two. -/
def or (first second : Variations) : Variations :=
  ⟨first.standard || second.standard, first.double || second.double,
    first.cubeArray || second.cubeArray, first.multiArray || second.multiArray⟩

/-- The variations of the first that the second does not have. -/
def without (first second : Variations) : Variations :=
  ⟨first.standard && !second.standard, first.double && !second.double,
    first.cubeArray && !second.cubeArray, first.multiArray && !second.multiArray⟩

/-- The variations that an argument of a form asks for. -/
def ofForm : Form → Variations
  | .partPointer _ .double _ | .single .double | .vector _ .double | .matrix _ _ .double =>
      { double := true }
  | .image .cube true _ => { cubeArray := true }
  | .image .plane true use => { multiArray := use.isMulti }
  | _ => {}

/-- The variations that arguments ask for. -/
def ofForms (forms : List Form) : Variations :=
  (forms.map ofForm).foldl or {}

end Variations

/-- The functions of a name, the one declared last being the last. -/
structure FunctionGroup where
  overloads : List Overload := []
  variations : Variations := {}
  deriving Repr, DecidableEq

namespace FunctionGroup

/-- Put types in a table; the result also holds their numbers. -/
def insertForms (types : TypeTable) : List Form → TypeTable × List TypeId
  | [] => (types, [])
  | form :: forms =>
      let (types, first) := types.insert { form := form }
      let (types, others) := insertForms types forms
      (types, first :: others)

/-- Add a variant of a function of the language's own. -/
def addVariant (found : TypeTable × FunctionGroup) (variant : FunctionVariant) :
    TypeTable × FunctionGroup :=
  let (types, parameters) := insertForms found.1 variant.1
  let added : Overload :=
    { parameters := parameters
      infos := parameters.map fun _ => {}
      kind := .language variant.2
      isDefined := false
      isInternal := true
      isVoid := variant.2 = .imageStore }
  (types, { found.2 with overloads := found.2.overloads ++ [added] })

/-- Add the variants of the language's own function of a name that are asked for. -/
def addVariants (types : TypeTable) (group : FunctionGroup) (name : String)
    (asked : Variations) : TypeTable × FunctionGroup :=
  let new := asked.without group.variations
  let group := { group with variations := group.variations.or new }
  let variants :=
    (if new.standard then LanguageFunction.standardVariants name else []) ++
      (if new.double then LanguageFunction.doubleVariants name else []) ++
      LanguageFunction.imageVariants name
        { standard := new.standard, cubeArray := new.cubeArray, multiArray := new.multiArray }
  variants.foldl addVariant (types, group)

end FunctionGroup

/-! ### Conversions -/

/-- How an argument becomes one of a parameter's type. -/
inductive Conversion where
  /-- Nothing is known to compare with. -/
  | none
  | exact
  | floatToDouble
  | wholeToFloat
  | wholeToDouble
  /-- Any other change of kind. -/
  | other
  deriving Repr, DecidableEq

namespace Conversion

/-- How a value of one kind becomes one of another, if it does by itself. -/
def ofKinds? (target source : Scalar) : Option Conversion :=
  let isLower :=
    match target.rank?, source.rank? with
    | .none, some _ => true
    | some target, some source => target < source
    | _, .none => false
  if isLower then .none
  else
    match target, source with
    | .double, .float => some floatToDouble
    | .float, .int | .float, .uint => some wholeToFloat
    | .double, .int | .double, .uint => some wholeToDouble
    | _, _ => some other

/-- How a value of one form becomes one of another, if it does by itself. -/
def ofForms? (target source : Form) : Option Conversion :=
  match target, source with
  | .single target, .single source => ofKinds? target source
  | .vector targetSize target, .vector sourceSize source =>
      if targetSize = sourceSize then ofKinds? target source else .none
  | .matrix targetColumns targetRows target, .matrix sourceColumns sourceRows source =>
      if targetColumns = sourceColumns && targetRows = sourceRows then ofKinds? target source
      else .none
  | _, _ => .none

/--
Whether a new conversion is better than one found earlier; none if neither is. Exact
ones are not compared.
-/
def improves? (new earlier : Conversion) : Option Bool :=
  match new, earlier with
  | _, exact => some false
  | _, none => some true
  | floatToDouble, _ => some true
  | _, floatToDouble => some false
  | wholeToFloat, wholeToDouble => some true
  | wholeToDouble, wholeToFloat => some false
  | _, _ => .none

end Conversion

/-! ### Comparing functions -/

/-- How well a function suits a call, compared with the best one found. -/
structure Comparison where
  isExact : Bool := true
  isBetter : Option Bool := none
  conversions : List Conversion := []
  isAmbiguous : Bool := false

/-- Take one more parameter into account. -/
def Comparison.add (comparison : Comparison) (earlier new : Conversion) : Comparison :=
  if new = .exact then
    { comparison with conversions := comparison.conversions ++ [.exact] }
  else
    let comparison := { comparison with isExact := false }
    let kept := { comparison with conversions := comparison.conversions ++ [.none] }
    match new.improves? earlier, comparison.isBetter with
    | none, _ => kept
    | some true, some false | some false, some true => { kept with isAmbiguous := true }
    | some true, _ =>
        { comparison with
          conversions := comparison.conversions ++ [new]
          isBetter := some true }
    | some false, _ => { kept with isBetter := some false }

/-- The best function found for a call. -/
structure Choice where
  found : Option Overload := none
  /-- The conversions for its parameters. -/
  conversions : List Conversion
  isAmbiguous : Bool := false
  /-- Whether all parameters suit exactly, so that there is nothing better. -/
  isFinal : Bool := false

/-- Take a comparison with one more function into account. -/
def Choice.add (choice : Choice) (candidate : Overload) (comparison : Comparison) : Choice :=
  let isAmbiguous := choice.isAmbiguous || comparison.isAmbiguous
  if comparison.isExact then
    { choice with found := some candidate, isAmbiguous := false, isFinal := true }
  else
    match comparison.isBetter with
    | some true =>
        { choice with
          found := some candidate
          conversions := comparison.conversions
          isAmbiguous := isAmbiguous }
    | some false => { choice with isAmbiguous := isAmbiguous }
    | none => { choice with found := some candidate, isAmbiguous := true }

end ShaderBuild.Glsl
