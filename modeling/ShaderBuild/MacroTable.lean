import ShaderBuild.Condition.Expr
import ShaderBuild.Liveness

namespace ShaderBuild

/-!
# Macros known while includes are expanded

The table is shared by all sources of a unit. It follows `#define` and `#undef`
lines as far as their regions are known, and evaluates conditions over them. What
it cannot know is unknown: function-like macros in arithmetic, names the compiler
predefines, and macros touched in a region of unknown liveness.
-/

/-- What is known about a defined name. -/
inductive Macro where
  /-- An object-like macro and its replacement text. -/
  | object (text : List Char)
  /-- A function-like macro. -/
  | function
  /-- A name defined or undefined where the region's liveness was unknown. -/
  | unknown
  deriving Repr, DecidableEq

/-- What is known about every name; `none` is a name that no line defined. -/
structure MacroTable where
  lookup : String → Option Macro

/-- Names the compiler's own preprocessor may define. -/
def isPredefined (name : String) : Bool :=
  name.startsWith "GL_" || name.startsWith "__" || name = "VULKAN"

/-- The identifier characters a text starts with, after white space, and the rest. -/
def splitIdentifier (text : List Char) : List Char × List Char :=
  (Text.trimStart text).span Condition.isIdentifierChar

/-- The identifier a text starts with, perhaps empty. -/
def firstIdentifier (text : List Char) : String :=
  String.ofList (splitIdentifier text).1

namespace MacroTable

/-- No name is defined. -/
def empty : MacroTable := ⟨fun _ => none⟩

/-- Say what is known about one name. -/
def set (table : MacroTable) (name : String) (state : Option Macro) : MacroTable :=
  ⟨fun other => if other = name then state else table.lookup other⟩

@[simp] theorem lookup_set_self
    (table : MacroTable) (name : String) (state : Option Macro) :
    (table.set name state).lookup name = state := by
  simp [set]

theorem lookup_set_of_ne
    (table : MacroTable) {name other : String} (state : Option Macro)
    (different : other ≠ name) :
    (table.set name state).lookup other = table.lookup other := by
  simp [set, different]

/-- The table of macros given with a compilation; later ones replace earlier ones. -/
def ofDefines (defines : List (String × String)) : MacroTable :=
  defines.foldl
    (fun table define => table.set define.1 (some (.object define.2.toList)))
    empty

/-- The macro that `#define` makes in a live region, given what follows the name. -/
def definition (rest : List Char) : Macro :=
  match rest with
  | '(' :: _ => .function
  | _ => .object (Text.trim rest)

/-- Record `#define` with the text after the keyword. -/
def define (table : MacroTable) (body : List Char) (liveness : Liveness) : MacroTable :=
  match splitIdentifier body with
  | ([], _) => table
  | (name, rest) =>
      match liveness with
      | .dead => table
      | .unknown => table.set (String.ofList name) (some .unknown)
      | .live => table.set (String.ofList name) (some (definition rest))

/-- Record `#undef` with the text after the keyword. -/
def undefine (table : MacroTable) (body : List Char) (liveness : Liveness) : MacroTable :=
  match liveness with
  | .dead => table
  | .unknown => table.set (firstIdentifier body) (some .unknown)
  | .live => table.set (firstIdentifier body) none

/-- Whether a name is defined, if that is known. -/
def isNameDefined (table : MacroTable) (name : String) : Option Bool :=
  match table.lookup name with
  | some .unknown => none
  | some _ => some true
  | none => if isPredefined name then none else some false

/-- Whether the name a text starts with is defined, if that is known. -/
def isDefined (table : MacroTable) (text : List Char) : Option Bool :=
  table.isNameDefined (firstIdentifier text)

/-- Replacement texts are evaluated inside one another at most this deep. -/
def nestingLimit : Nat := 16

/--
The value of an expression's text when at most `levels` texts may be evaluated
inside one another. An object-like macro has the value of its replacement text,
and a name that no line defines is zero.
-/
def valueOf (table : MacroTable) : Nat → List Char → Option Int64
  | 0, _ => none
  | levels + 1, text =>
      (Condition.Expr.ofText? text).bind fun expr =>
        expr.value
          { value := fun name =>
              match table.lookup name with
              | some (.object []) => none
              | some (.object text) => table.valueOf levels text
              | some _ => none
              | none => if isPredefined name then none else some 0
            defined := table.isNameDefined }

/-- Whether a condition holds, if that is known. -/
def evaluate (table : MacroTable) (condition : List Char) : Option Bool :=
  (table.valueOf (nestingLimit + 1) condition).map (· != 0)

end MacroTable

end ShaderBuild
