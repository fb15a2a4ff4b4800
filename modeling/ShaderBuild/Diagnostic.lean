namespace ShaderBuild

/-!
# Diagnostics

A problem found in a shader, with the source and, where it is known, the line.
-/

/-- One problem. -/
structure Diagnostic where
  /-- Name of the root source or of an included one. -/
  source : String
  /-- Line in that source, from 1. -/
  line : Option Nat
  message : String
  deriving Repr, DecidableEq

/-- A diagnostic on one line of text. -/
def Diagnostic.render (diagnostic : Diagnostic) : String :=
  match diagnostic.line with
  | some line => s!"{diagnostic.source}:{line}: error: {diagnostic.message}"
  | none => s!"{diagnostic.source}: error: {diagnostic.message}"

/-- The code under which shader problems are reported. -/
def Diagnostic.code : String := "GLINT-COMPILE-001"

end ShaderBuild
