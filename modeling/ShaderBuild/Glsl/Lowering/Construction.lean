import ShaderBuild.Glsl.Lowering.Operation

namespace ShaderBuild.Glsl.Reader

/-!
# Constructors

Values made of other values: by a change of kind or size of one value, or by putting
several together.
-/

/-- Make nodes for the numbers from zero on. -/
def nodesFor (count : Nat) (make : Nat → Reader NodeId) : Reader (List NodeId) :=
  (List.range count).mapM make

/-- A part of a value. -/
def partOf (base : NodeId) (span : Span) (index : Nat) : Reader NodeId :=
  addNode (.accessIndex base index) span

/-! ### Of one value -/

/-- The zero or the one of a kind, according to a truth value; for a double, that of a float. -/
def chooseByTruth (kind : Scalar) (condition : NodeId) (size : Option Nat)
    (conditionSpan span : Span) : Reader NodeId := do
  let kind := if kind = .double then .float else kind
  let rejected ← addNode (.literal (.zero kind)) conditionSpan
  let accepted ← addNode (.literal (.one kind)) conditionSpan
  let rejected ← spread size rejected span
  let accepted ← spread size accepted span
  addNode (.select condition accepted rejected) conditionSpan

/-- A matrix with one value in its diagonal and zeros elsewhere. -/
def diagonalColumns (columns rows : Nat) (kind : Scalar) (value : NodeId) (span : Span) :
    Reader (List NodeId) := do
  let vector ← typeOfForm (.vector rows kind)
  let zeroNode ← addNode (.literal (.zero kind)) span
  nodesFor columns fun column =>
    addNode
      (.compose vector ((List.range rows).map fun row => if row = column then value else zeroNode))
      span

/-- The columns of a matrix with the elements of another one, completed by those of unity. -/
def resizedColumns (columns rows : Nat) (kind : Scalar) (value : NodeId)
    (formerColumns formerRows : Nat) (span : Span) : Reader (List NodeId) := do
  let zeroNode ← addNode (.literal (.zero kind)) span
  let one ← addNode (.literal (.one kind)) span
  let vector ← typeOfForm (.vector rows kind)
  let unit (column row : Nat) : NodeId := if row = column then one else zeroNode
  nodesFor columns fun column => do
    if column < formerColumns then
      let former ← partOf value span column
      if formerRows < rows then
        let components ← nodesFor rows fun row =>
          if row < formerRows then partOf former span row else pure (unit column row)
        addNode (.compose vector components) span
      else if formerRows = rows then return former
      else resize rows former span
    else addNode (.compose vector ((List.range rows).map (unit column))) span

/-- A matrix made of one value. -/
def matrixOf (type : TypeId) (columns rows : Nat) (kind : Scalar) (value : PlacedValue)
    (span : Span) : Reader NodeId := do
  let node ← convertAlways kind value.1 value.2
  let components ←
    match ← formOf node value.2 with
    | .single _ => diagonalColumns columns rows kind node span
    | .matrix formerColumns formerRows _ =>
        resizedColumns columns rows kind node formerColumns formerRows span
    | _ => pure (List.replicate columns node)
  addNode (.compose type components) span

/-- The single values in a value, as far as a vector is made of them. -/
def componentsOfValue (value : NodeId) (span : Span) : Reader (List NodeId) := do
  match ← formOf value span with
  | .matrix columns rows _ =>
      let elements ← (List.range columns).mapM fun index => do
        let column ← partOf value span index
        nodesFor rows (partOf column span)
      return elements.flatten
  | .vector size _ => nodesFor size (partOf value span)
  | _ => return [value]

/-- The components of a vector of a size, taken from values as long as some are missing. -/
def vectorComponents (size : Nat) (kind : Scalar) (found : List NodeId) :
    List PlacedValue → Reader (List NodeId)
  | [] => return found
  | (value, span) :: others => do
      let value ← convertAlways kind value span
      if found.length ≥ size then
        return found
      vectorComponents size kind (found ++ (← componentsOfValue value span)) others

/-- A vector made of values; what is too much is left out. -/
def vectorOf (type : TypeId) (size : Nat) (kind : Scalar) (values : List PlacedValue)
    (span : Span) : Reader NodeId := do
  let components ← vectorComponents size kind [] values
  addNode (.compose type (components.take size)) span

/-- A single value made of one value: the first in it, in another kind. -/
def singleOf (kind : Scalar) (value : PlacedValue) (span : Span) : Reader NodeId := do
  let first ←
    match ← formOf value.1 value.2 with
    | .vector _ _ => partOf value.1 span 0
    | .matrix _ _ _ => partOf (← partOf value.1 span 0) span 0
    | _ => pure value.1
  convert kind first span

/-- A value of a type made of one value that is no truth value, or is to stay one. -/
def constructFrom (type : TypeId) (value : PlacedValue) (span : Span) : Reader NodeId := do
  match ← formOfType type, ← formOf value.1 value.2 with
  | .vector size kind, .vector given _ =>
      let vector ← if given ≠ size then resize size value.1 value.2 else pure value.1
      convert kind vector span
  | .vector size kind, _ => do
      let node ← convertAlways kind value.1 value.2
      match ← formOf node value.2 with
      | .single _ => addNode (.splat size node) span
      | _ => vectorOf type size kind [(node, value.2)] span
  | .single kind, _ => singleOf kind value span
  | .matrix columns rows kind, _ => matrixOf type columns rows kind value span
  | .record members _, _ => do
      let first ← (members.head?).mapM fun member => formOfType member.type
      let node ← match first with
        | some form => convertToForm form value.1 value.2
        | none => pure value.1
      addNode (.compose type [node]) span
  | .array base _ _, _ => do
      let node ← convertToForm (← formOfType base) value.1 value.2
      addNode (.compose type [node]) span
  | _, _ =>
      note span "Bad type constructor"
      return value.1

/-- A value of a type made of one value. -/
def constructOne (type : TypeId) (value : PlacedValue) (span : Span) : Reader NodeId := do
  let form ← formOf value.1 value.2
  let size :=
    match form with
    | .vector size _ => some size
    | _ => none
  match (← formOfType type).kind? with
  | some kind =>
      if form.kind? = some .bool && kind ≠ .bool then
        chooseByTruth kind value.1 size value.2 span
      else
        constructFrom type value span
  | none => constructFrom type value span

/-! ### Of several values -/

/-- The pieces of a list that have a length, of which the last may be shorter. -/
def chunks (length : Nat) : Nat → List α → List (List α)
  | 0, _ | _, [] => []
  | limit + 1, items => items.take length :: chunks length limit (items.drop length)

/-- The single values in the values that a matrix is made of. -/
def matrixElements (kind : Scalar) (value : PlacedValue) : Reader (List NodeId) := do
  let node ← convertAlways kind value.1 value.2
  match ← formOf node value.2 with
  | .vector size _ => nodesFor size (partOf node value.2)
  | _ => return [node]

/-- A value of a type made of none or several values. -/
def constructMany (type : TypeId) (values : List PlacedValue) (span : Span) : Reader NodeId := do
  match ← formOfType type with
  | .matrix _ rows kind =>
      let elements := (← values.mapM (matrixElements kind)).flatten
      let vector ← typeOfForm (.vector rows kind)
      let columns ← (chunks rows elements.length elements).mapM fun column =>
        addNode (.compose vector column) span
      addNode (.compose type columns) span
  | .vector size kind => vectorOf type size kind values span
  | .array base _ _ =>
      let form ← formOfType base
      let components ← values.mapM fun value => convertToForm form value.1 value.2
      addNode (.compose type components) span
  | .record members _ =>
      let components ← (values.zip members).mapM fun (value, member) => do
        convertToForm (← formOfType member.type) value.1 value.2
      addNode (.compose type components) span
  | _ => refuse span "Constructor: Too many arguments"

/-- A value of a type made of values. -/
def construct (type : TypeId) (values : List PlacedValue) (span : Span) : Reader NodeId :=
  match values with
  | [value] => constructOne type value span
  | values => constructMany type values span

end ShaderBuild.Glsl.Reader
