import ShaderBuild.Glsl.Reader

namespace ShaderBuild.Glsl.Reader

/-!
# Placement of members

Where the members of structures and blocks lie in memory, by one of two rules that
differ in how arrays and matrices are aligned.
-/

/-- A rule by which members are placed. -/
inductive PlacementRule where
  /-- Elements of arrays are aligned like vectors of four numbers at least. -/
  | aligned
  /-- Elements of arrays are aligned like values of their types. -/
  | packed
  deriving Repr, DecidableEq

/-- The rule that a word of a layout asks for. -/
def PlacementRule.ofWord? : String → Option PlacementRule
  | "std140" => some .aligned
  | "std430" => some .packed
  | _ => none

/-- An alignment of elements under a rule. -/
def PlacementRule.alignment (rule : PlacementRule) (natural : Nat) : Nat :=
  match rule with
  | .aligned => max natural 16
  | .packed => natural

/-- What a member takes up; its type may be a variant of the given one. -/
structure Placed where
  type : TypeId
  alignment : Nat
  size : Nat

/-- Members placed so far, with their alignment and the bytes that they take up. -/
structure PlacedMembers where
  members : List Member := []
  alignment : Nat := 1
  size : Nat := 0

/-! ### Sizes of 32 bits -/

/-- The result of an operation on sizes, over which the engine fails if it is too great. -/
def sizeOf (operation : String) (result : Nat) : Reader Nat :=
  if result ≤ TypeTable.greatestSize then return result
  else breakDown (Halt.overflowMessage operation)

/-- The least multiple of an alignment that is not less than a size. -/
def alignSize (alignment size : Nat) : Reader Nat := do
  discard (sizeOf "add" (size + (alignment - 1)))
  return roundUp alignment size

/-- One more member behind those placed so far. -/
def PlacedMembers.add (found : PlacedMembers) (name : Option String) (member : Placed) :
    Reader PlacedMembers := do
  let offset ← alignSize member.alignment found.size
  let size ← sizeOf "add" (offset + member.size)
  return {
    members := found.members ++ [{ name := name, type := member.type, offset := offset }]
    alignment := max found.alignment member.alignment
    size := size }

/-- The bytes that placed members take up together. -/
def PlacedMembers.span (found : PlacedMembers) : Reader Nat :=
  alignSize found.alignment found.size

/-! ### Placing -/

/-- Place a member of a type; what cannot be a member is noted. -/
def place (rule : PlacementRule) (span : Span) (type : TypeId) : Nat → Reader Placed
  | 0 => return ⟨type, 1, 0⟩
  | depth + 1 => do
      let name := ((← program).types[type]?).bind (·.name)
      match ← formOfType type with
      | .single kind => return ⟨type, kind.width, kind.width⟩
      | .vector size kind => return ⟨type, vectorAlignment size * kind.width, size * kind.width⟩
      | .array base size _ => do
          let element ← place rule span base depth
          let alignment := rule.alignment element.alignment
          let stride ← alignSize alignment element.size
          let bytes ← sizeOf "multiply" (size.getD 1 * stride)
          let type ← insertType { name := name, form := .array element.type size stride }
          return ⟨type, alignment, bytes⟩
      | .matrix columns rows kind => do
          let alignment := rule.alignment (vectorAlignment rows * kind.width)
          if rule = .aligned && rows = 2 then
            note span "unsupported matrix of the form matCx2 in std140 block layout"
          return ⟨type, alignment, alignment * columns⟩
      | .record members _ => do
          let found ← members.foldlM
            (fun (found : PlacedMembers) member => do
              found.add member.name (← place rule span member.type depth))
            {}
          let bytes ← found.span
          let type ← insertType { name := name, form := .record found.members bytes }
          return ⟨type, found.alignment, bytes⟩
      | _ => do
          note span "Invalid struct member type"
          return ⟨type, 1, 0⟩

/-- Place a member of a type behind others. -/
def placeMember (rule : PlacementRule) (found : PlacedMembers) (name : String) (type : TypeId)
    (span : Span) : Reader PlacedMembers := do
  found.add (some name) (← place rule span type ((← program).types.size + 1))

end ShaderBuild.Glsl.Reader
