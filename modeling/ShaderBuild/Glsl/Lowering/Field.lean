import ShaderBuild.Glsl.Lowering.Operation

namespace ShaderBuild.Glsl.Reader

/-!
# Fields

Members of structures and components of vectors, taken by name. A component has a
name in each of three alphabets, and several components, named at once, make a vector.
-/

/-- What the value of an expression is for. -/
inductive Position where
  /-- To be assigned to. -/
  | target
  /-- To be used. -/
  | value
  /-- To have a part taken from, at an index that may be known. -/
  | base (isKnown : Bool)
  deriving Repr, DecidableEq

/-- What the base of an access is for that itself is for something. -/
def Position.ofBase (position : Position) (isKnown : Bool) : Position :=
  match position with
  | .target => .target
  | .base false => .base false
  | _ => .base isKnown

/-- The alphabets that components are named in. -/
def componentAlphabets : List (List Char) :=
  ["xyzw".toList, "rgba".toList, "stpq".toList]

/-- The components that a name stands for in an alphabet, for a vector of a size. -/
def componentsIn? (size : Nat) (name : List Char) (alphabet : List Char) : Option (List Nat) :=
  name.mapM fun letter => (alphabet.idxOf? letter).filter (· < size)

/-- The components of a vector of a size that a name stands for. -/
def components? (size : Nat) (name : String) : Option (List Nat) :=
  componentAlphabets.findSome? (componentsIn? size name.toList)

/-- Whether each element of a list occurs in it once. -/
def allDiffer : List Nat → Bool
  | [] => true
  | first :: others => !others.contains first && allDiffer others

/-- The greatest number of components that are taken at once. -/
def componentLimit : Nat := 4

/-- What is taken from a place, or the place itself where it is not the value that counts. -/
def loadFor (position : Position) (isPlace : Bool) (pointer : NodeId) (span : Span) :
    Reader NodeId :=
  if position = .value && isPlace then addNode (.load pointer) span else return pointer

/-- Components of a vector; those of components are components of the same vector. -/
def takeComponents (position : Position) (isPlace : Bool) (base : NodeId) (name : String)
    (pattern : List Nat) (span : Span) : Reader NodeId := do
  if position = .target && !allDiffer pattern then
    note span ("swizzle cannot have duplicate components in left-hand-side expression for \"" ++
      Text.quoted name ++ "\"")
  let (vector, pattern) :=
    match (← currentPool).node base with
    | .swizzle vector earlier => (vector, pattern.map fun index => (earlier[index]?).getD 0)
    | _ => (base, pattern)
  match pattern with
  | [index] =>
      let part ← addNode (.accessIndex vector index) span
      loadFor position isPlace part span
  | pattern =>
      if pattern.length > componentLimit then
        note span ("Bad swizzle size for \"" ++ Text.quoted name ++ "\"")
      let vector ← if isPlace then addNode (.load vector) span else pure vector
      addNode (.swizzle vector (pattern.take componentLimit)) span

/-- A field of a value. -/
def takeField (position : Position) (base : NodeId) (name : String) (span : Span) :
    Reader NodeId := do
  let form ← formOf base span
  let (form, isPlace) ←
    match form with
    | .pointer type _ => pure (← formOfType type, true)
    | form => pure (form, false)
  match form with
  | .record members _ =>
      match members.findIdx? (·.name = some name) with
      | none => refuse span ("Unknown field: " ++ name)
      | some index =>
          let part ← addNode (.accessIndex base index) span
          loadFor position isPlace part span
  | .vector size _ =>
      match components? size name with
      | some pattern => takeComponents position isPlace base name pattern span
      | none => refuse span ("Invalid swizzle for vector \"" ++ name ++ "\"")
  | _ => refuse span ("Can't lookup field on this type \"" ++ name ++ "\"")

end ShaderBuild.Glsl.Reader
