import ShaderBuild.Glsl.Reader.Variable

namespace ShaderBuild.Glsl.Reader

/-!
# Reading declarations

Variables with their initial values, blocks of variables, and declarations that have
no type.
-/

/-! ### Initial values -/

/-- The type of an element of a value, or that of a structure's member. -/
def elementType (type : TypeId) (index : Nat) : Reader TypeId := do
  match ← formOfType type with
  | .vector _ kind => typeOfForm (.single kind)
  | .matrix _ rows kind => typeOfForm (.vector rows kind)
  | .array base _ _ => return base
  | .record members _ => return ((members[index]?).map (·.type)).getD type
  | _ => return type

mutual

/-- Read an initial value: an expression, or initial values in braces for its elements. -/
def initializer (type : TypeId) : Nat → Reader PlacedValue
  | 0 => outOfSteps
  | steps + 1 => do
      match ← skip? (.mark "\x7b") with
      | some start =>
          let (components, stop) ← elements type 0 steps
          let span := start.join stop
          return (← addNode (.compose type components) span, span)
      | none =>
          restartNumbers
          let found ← assignment steps
          let (value, span) ← evaluate .value found
          return (← convertToForm (← formOfType type) value span, span)

/-- Read initial values for elements, from the one at an index on, and the closing brace. -/
def elements (type : TypeId) (index : Nat) : Nat → Reader (List NodeId × Span)
  | 0 => outOfSteps
  | steps + 1 => do
      let (first, _) ← initializer (← elementType type index) steps
      let placed ← next
      match placed.lexeme with
      | .mark "," =>
          match ← skip? (.mark "\x7d") with
          | some stop => return ([first], stop)
          | none =>
              let (others, stop) ← elements type (index + 1) steps
              return (first :: others, stop)
      | .mark "\x7d" => return ([first], spanOf placed)
      | _ => unexpected ["Comma", "RightBrace"] placed

end

/-- Read something of which all has to be constant, or need not be. -/
def withConstants (isConstant : Bool) (read : Reader α) : Reader α := do
  let earlier := (← draft).isConstant
  modifyDraft fun draft => { draft with isConstant := isConstant }
  let result ← read
  modifyDraft fun draft => { draft with isConstant := earlier }
  return result

/-- Read an initial value for a variable of a type. -/
def initialValue (isConstant : Bool) (type : TypeId) (steps : Nat) : Reader PlacedValue :=
  withConstants isConstant do
    let (value, span) ← initializer type steps
    return (← convertToForm (← formOfType type) value span, span)

/-! ### Variables -/

/-- Where a declaration stands. -/
structure DeclarationSite where
  isGlobal : Bool
  inLoop : Bool := false

/-- The known value of a node among the constants of the program, if it has one. -/
def liftConstant? (value : NodeId) : Reader (Option NodeId) :=
  tryCatch (do return some (← liftConstant value)) fun _ => return none

/-- Declare a variable outside functions with a node that stands for it. -/
def declareGlobalNode (qualifiers : Qualifiers) (declared : Declared) : Reader Qualifiers := do
  let (meaning, left) ← declareGlobal qualifiers declared
  let node :=
    match meaning with
    | .constant number _ => Node.constant number
    | .whole number | .member number _ => .globalVariable number
  discard (addNode node declared.span)
  return left

/--
Declare a variable; one of a function is given its initial value by a statement, unless
the value is known and the variable is in no loop.
-/
def declareVariable (site : DeclarationSite) (qualifiers : Qualifiers) (declared : Declared) :
    Reader Qualifiers := do
  match site.isGlobal, declared.initial with
  | true, some initial =>
      let initial ←
        if qualifiers.storage? = some .constant then pure (some initial)
        else liftConstant? initial
      declareGlobalNode qualifiers { declared with initial := initial }
  | true, none => declareGlobalNode qualifiers declared
  | false, some initial =>
      if site.inLoop || !(← draft).pool.isKnown initial then
        let place ← declareLocal qualifiers { declared with initial := none }
        flushNodes
        perform (.store place initial)
      else
        discard (declareLocal qualifiers declared)
      return qualifiers
  | false, none =>
      discard (declareLocal qualifiers declared)
      return qualifiers

/-- Read the variables of a declaration after their type. -/
def declarators (site : DeclarationSite) (qualifiers : Qualifiers) (type : TypeId) :
    Nat → Reader Unit
  | 0 => outOfSteps
  | steps + 1 => do
      let placed ← next
      if placed.lexeme = .mark ";" then
        return
      if !isIdentifier placed.lexeme then
        unexpected ["identifier", "Semicolon"] placed
      let (type, span) ← dimensions type (spanOf placed) steps
      let (initial, span) ←
        if ← skip (.mark "=") then
          let isConstant := site.isGlobal && qualifiers.storage? = some .constant
          let (value, stop) ← initialValue isConstant type steps
          pure (some value, span.join stop)
        else
          pure (none, span)
      let left ← declareVariable site qualifiers ⟨some placed.lexeme.name, span, type, initial⟩
      let ending ← next
      match ending.lexeme with
      | .mark ";" => return
      | .mark "," => declarators site left type steps
      | _ => unexpected ["Comma", "Semicolon"] ending

/-! ### Blocks -/

/-- What the member of a block stands for. -/
def memberMeaning (block : GlobalMeaning) (index : Nat) (member : Member) : GlobalMeaning :=
  match block with
  | .whole number | .member number _ => .member number index
  | .constant number _ => .constant number member.type

/-- The rule by which the members of a block are placed, and the qualifiers left over. -/
def takePlacement (qualifiers : Qualifiers) : PlacementRule × Qualifiers :=
  match (qualifiers.setting? .placement).map LayoutSetting.value with
  | some (LayoutValue.placement rule) => (rule, qualifiers.without .placement)
  | _ => (if qualifiers.storage? = some .buffer then .packed else .aligned, qualifiers)

/-- Read the name behind a block, if it has one; the result also holds the type and the place. -/
def blockName (type : TypeId) (span : Span) (steps : Nat) :
    Reader (Option String × TypeId × Span) := do
  let placed ← next
  match placed.lexeme with
  | .mark ";" => return (none, type, span)
  | lexeme =>
      if !isIdentifier lexeme then
        unexpected ["identifier", "Semicolon"] placed
      let (type, span) ← dimensions type span steps
      discard (expect (.mark ";"))
      return (some lexeme.name, type, span)

/-- Read the variables of a block, of which the name and the opening brace are read. -/
def block (qualifiers : Qualifiers) (typeName : String) (span : Span) (steps : Nat) :
    Reader Unit := do
  let (rule, qualifiers) := takePlacement qualifiers
  let found ← members rule {} steps
  discard (expect (.mark "\x7d"))
  let type ← insertType { name := some typeName, form := .record found.members (← found.span) }
  let (name, type, span) ← blockName type span steps
  let (meaning, _) ← declareGlobal qualifiers { name := name, span := span, type := type }
  for (member, index) in found.members.zip (List.range found.members.length) do
    let isMutable :=
      match meaning with
      | .constant _ _ => false
      | _ => true
    publish
      { name := member.name.getD ""
        meaning := memberMeaning meaning index member
        isMutable := isMutable }

/-! ### Declarations without a type -/

/-- Take the settings for the whole shader. -/
def shaderSettings (qualifiers : Qualifiers) : Reader Unit := do
  let setSize (qualifiers : Qualifiers) (name : String) (index : Nat) : Reader Qualifiers := do
    let (size, left) ← takeNumber qualifiers name
    match size with
    | some size =>
        modify fun state => { state with workgroupSize := state.workgroupSize.set index size }
    | none => pure ()
    return left
  let left ← setSize qualifiers "local_size_x" 0
  let left ← setSize left "local_size_y" 1
  let left ← setSize left "local_size_z" 2
  let (isEarly, left) ← takeFlag left "early_fragment_tests"
  modify fun state => { state with testsDepthFirst := state.testsDepthFirst || isEarly }
  noteUnused left

/-- Read what follows the qualifiers of a declaration that names no type. -/
def untyped (qualifiers : Qualifiers) (steps : Nat) : Reader Unit := do
  let placed ← next
  match placed.lexeme with
  | .mark ";" => shaderSettings qualifiers
  | lexeme =>
      let span := spanOf placed
      if !isIdentifier lexeme then
        unexpected ["identifier", "Semicolon"] placed
      if ← skip (.mark "\x7b") then
        block qualifiers lexeme.name span steps
      else if qualifiers.isInvariant.isSome then
        makeInvariant lexeme.name span
        noteUnused { qualifiers with isInvariant := none }
        discard (expect (.mark ";"))
      else
        refuse span "Not implemented: variable qualifier"

/-- Read a statement of precision after its keyword. -/
def precision (steps : Nat) : Reader Unit := do
  let placed ← next
  let isKnown := ["highp", "mediump", "lowp"].any (placed.lexeme = .word ·)
  if !isKnown then
    unexpected ["PrecisionQualifier(High)", "PrecisionQualifier(Medium)",
      "PrecisionQualifier(Low)"] placed
  let (type, span) ← type steps
  match ← formOfType type with
  | .single .float | .single .double | .single .int => pure ()
  | _ => note span "Precision statement can only work on floats and ints"
  discard (expect (.mark ";"))

end ShaderBuild.Glsl.Reader
