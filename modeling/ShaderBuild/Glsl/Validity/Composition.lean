import ShaderBuild.Glsl.Typing

namespace ShaderBuild.Glsl

/-!
# Composition

Which parts a composed value may have: a vector takes single values and vectors of its
kind, a matrix its columns, an array its elements and a structure its members.
-/

/-- Why a value cannot be composed of its parts. -/
inductive CompositionFault where
  | notComposed (type : TypeId)
  | count (expected given : Nat)
  | part (index : Nat)
  deriving Repr, DecidableEq

/-- What reports call a fault. -/
def CompositionFault.report : CompositionFault → String
  | notComposed type => "Composing of type " ++ entryReport type ++ " can't be done"
  | count expected given =>
      s!"Composing expects {expected} components but {given} were given"
  | part index => s!"Composing {index}'s component type is not expected"

namespace TypeTable

/-- How many numbers of a vector a part makes up, if it is of the vector's kind. -/
def laneCount? (kind : Scalar) : Form → Option Nat
  | .single found => if found = kind then some 1 else none
  | .vector size found => if found = kind then some size else none
  | _ => none

/-- Check the numbers that the parts of a vector make up. -/
def checkLanes (size : Nat) (kind : Scalar) (parts : List Form) :
    Except CompositionFault Unit := do
  let counts := parts.map (laneCount? kind)
  match counts.findIdx? (·.isNone) with
  | some index => throw (.part index)
  | none =>
      let total := counts.foldl (fun total count => total + count.getD 0) 0
      if total ≠ size then throw (.count size total)

/-- Check parts of which each has a type of its own. -/
def checkParts (types : TypeTable) (expected parts : List Form) :
    Except CompositionFault Unit := do
  if expected.length ≠ parts.length then throw (.count expected.length parts.length)
  match (expected.zip parts).findIdx? fun (form, part) => !types.agree form part with
  | some index => throw (.part index)
  | none => return

/-- Check that a value of a type can be composed of parts. -/
def checkComposition (types : TypeTable) (type : TypeId) (parts : List Form) :
    Except CompositionFault Unit :=
  match types.form type with
  | .vector size kind => checkLanes size kind parts
  | .matrix columns rows kind =>
      types.checkParts (List.replicate columns (.vector rows kind)) parts
  | .array base (some size) _ =>
      if size ≠ parts.length then throw (.count size parts.length)
      else types.checkParts (parts.map fun _ => types.form base) parts
  | .record members _ =>
      types.checkParts (members.map fun member => types.form member.type) parts
  | _ => throw (.notComposed type)

end TypeTable

end ShaderBuild.Glsl
