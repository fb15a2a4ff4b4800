import ShaderBuild.Glsl.Lowering.Conversion

namespace ShaderBuild.Glsl.Reader

/-!
# Operations

What operators make of values. Nodes compute with single values and with vectors; a
matrix is taken apart where that is not enough, and a single value beside a vector is
repeated.
-/

/-- A value together with where it is read from. -/
abbrev PlacedValue := NodeId × Span

/-- Note that an operator does not go with its operands. -/
def noteMismatch (left right : Form) (span : Span) : Reader Unit :=
  note span ("Cannot apply operation to " ++ left.report ++ " and " ++ right.report)

/-- Add a node for each of some columns and put the nodes together to a matrix. -/
def composeColumns (columns rows : Nat) (kind : Scalar) (span : Span)
    (column : Nat → Reader NodeId) : Reader NodeId := do
  let components ← (List.range columns).mapM column
  let type ← typeOfForm (.matrix columns rows kind)
  addNode (.compose type components) span

/-- Compare the columns of two matrices and combine the outcomes. -/
def compareColumns (operator : BinaryOperator) (columns : Nat) (left right : NodeId)
    (span : Span) : Reader NodeId := do
  let (combination, test) : BinaryOperator × RelationalFunction :=
    if operator = .equal then (.logicalAnd, .all) else (.logicalOr, .any)
  let compareColumn (index : Nat) : Reader NodeId := do
    let leftColumn ← addNode (.accessIndex left index) span
    let rightColumn ← addNode (.accessIndex right index) span
    let outcome ← addNode (.binary operator leftColumn rightColumn) span
    addNode (.relational test outcome) span
  let first ← compareColumn 0
  (List.range columns).tail.foldlM
    (fun root index => do
      let outcome ← compareColumn index
      addNode (.binary combination outcome root) span)
    first

/-- What an operator makes of two matrices. -/
def combineMatrices (operator : BinaryOperator) (columns rows : Nat) (kind : Scalar)
    (left right : NodeId) (span : Span) : Reader NodeId :=
  if operator = .divide then
    composeColumns columns rows kind span fun index => do
      let leftColumn ← addNode (.accessIndex left index) span
      let rightColumn ← addNode (.accessIndex right index) span
      addNode (.binary .divide leftColumn rightColumn) span
  else if operator.testsEquality then compareColumns operator columns left right span
  else addNode (.binary operator left right) span

/-- Whether an operator between a matrix and a single value is applied to each column. -/
def splitsColumns (operator : BinaryOperator) : Bool :=
  operator = .divide || operator = .add || operator = .subtract

/-- What an operator makes of a single value and a matrix. -/
def combineSingleMatrix (operator : BinaryOperator) (columns rows : Nat) (kind : Scalar)
    (left right : NodeId) (span : Span) : Reader NodeId := do
  if splitsColumns operator then
    let vector ← addNode (.splat rows left) span
    composeColumns columns rows kind span fun index => do
      let column ← addNode (.accessIndex right index) span
      addNode (.binary operator vector column) span
  else addNode (.binary operator left right) span

/-- What an operator makes of a matrix and a single value. -/
def combineMatrixSingle (operator : BinaryOperator) (columns rows : Nat) (kind : Scalar)
    (left right : NodeId) (span : Span) : Reader NodeId := do
  if splitsColumns operator then
    let vector ← addNode (.splat rows right) span
    composeColumns columns rows kind span fun index => do
      let column ← addNode (.accessIndex left index) span
      addNode (.binary operator column vector) span
  else addNode (.binary operator left right) span

/-- What an operator makes of two values that have been made alike. -/
def combine (operator : BinaryOperator) (left right : NodeId) (leftForm rightForm : Form)
    (span : Span) : Reader NodeId := do
  match leftForm, rightForm with
  | .matrix columns rows kind, .matrix rightColumns rightRows rightKind =>
      let suits :=
        if operator = .multiply then columns = rightRows
        else columns = rightColumns && rows = rightRows
      if !suits || kind ≠ rightKind then
        noteMismatch leftForm rightForm span
      combineMatrices operator columns rows kind left right span
  | .vector _ _, .vector _ _ =>
      let outcome ← addNode (.binary operator left right) span
      match operator with
      | .equal => addNode (.relational .all outcome) span
      | .notEqual => addNode (.relational .any outcome) span
      | _ => return outcome
  | .vector size _, .single _ =>
      let right ← if operator.spreadsRight then addNode (.splat size right) span else pure right
      addNode (.binary operator left right) span
  | .single _, .vector size _ =>
      let left ← if operator.spreadsLeft then addNode (.splat size left) span else pure left
      addNode (.binary operator left right) span
  | .single kind, .matrix columns rows rightKind =>
      if kind ≠ rightKind then
        noteMismatch leftForm rightForm span
      combineSingleMatrix operator columns rows kind left right span
  | .matrix columns rows kind, .single rightKind =>
      if kind ≠ rightKind then
        noteMismatch leftForm rightForm span
      combineMatrixSingle operator columns rows kind left right span
  | _, _ => addNode (.binary operator left right) span

/-- What an operator makes of two values. -/
def applyBinary (operator : BinaryOperator) (left right : PlacedValue) (span : Span) :
    Reader NodeId := do
  let (leftNode, rightNode) ←
    if operator.shifts then
      pure (left.1, ← convertRising .uint right.1 right.2)
    else
      convertPair left.1 left.2 right.1 right.2
  let leftForm ← formOf leftNode left.2
  let rightForm ← formOf rightNode right.2
  combine operator leftNode rightNode leftForm rightForm span

/-! ### Storing -/

/-- Where the vector is that some of a vector's components are to be stored in. -/
def storedVector (vector : NodeId) : Reader NodeId := do
  match ← draftNode vector with
  | .load pointer => return pointer
  | _ => return vector

/-- Store a value; into several components of a vector one by one. -/
def storeTo (target value : NodeId) (span : Span) : Reader Unit := do
  match ← draftNode target with
  | .swizzle vector pattern =>
      let vector ← storedVector vector
      for (component, index) in pattern.zip (List.range pattern.length) do
        let place ← addNode (.accessIndex vector component) span
        let part ← addNode (.accessIndex value index) span
        flushNodes
        perform (.store place part)
  | _ =>
      flushNodes
      perform (.store target value)

/-- The one that a value of a form is counted up or down by. -/
def stepOf? : Form → Option (Scalar × Option (Nat × Option Nat))
  | .single kind => some (kind, none)
  | .vector size kind => some (kind, some (size, none))
  | .matrix columns rows kind => some (kind, some (rows, some columns))
  | _ => none

/-- Count what a place holds up or down; the result is the earlier or the later value. -/
def countAt (operator : BinaryOperator) (givesEarlier : Bool) (pointer : NodeId) (span : Span) :
    Reader NodeId := do
  let earlier ←
    match ← draftNode pointer with
    | .swizzle _ _ => pure pointer
    | _ => addNode (.load pointer) span
  let form ← formOf earlier span
  match stepOf? form with
  | none =>
      note span "Increment/decrement only works on scalar/vector/matrix"
      return earlier
  | some (kind, rows) =>
      let one ← addNode (.literal (.one kind)) span
      let one ←
        match rows with
        | none => pure one
        | some (rows, columns) =>
            let vector ← addNode (.splat rows one) span
            match columns with
            | none => pure vector
            | some columns =>
                let type ← typeOfForm form
                addNode (.compose type (List.replicate columns vector)) span
      let later ← addNode (.binary operator earlier one) span
      storeTo pointer later span
      return if givesEarlier then earlier else later

end ShaderBuild.Glsl.Reader
