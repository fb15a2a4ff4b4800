import ShaderBuild.Compiler

namespace ShaderBuild.Glsl

/-!
# Spans

The part of a text that something is read from, by byte offsets. What is read from
nowhere in particular has the span from zero to zero, which reports do not locate.
-/

/-- A part of a text. -/
structure Span where
  start : Nat := 0
  stop : Nat := 0
  deriving Repr, DecidableEq, Inhabited

namespace Span

/-- The span of what is read from nowhere. -/
def nowhere : Span := {}

/-- The least span around two. -/
def join (first second : Span) : Span :=
  if first = nowhere then second
  else if second = nowhere then first
  else ⟨min first.start second.start, max first.stop second.stop⟩

/-- The offset at which reports locate a span. -/
def offset? (span : Span) : Option Nat :=
  if span = nowhere then none else some span.start

/-- The problem of what has a span. -/
def problem (span : Span) (message : String) : EngineDiagnostic :=
  ⟨span.offset?, message⟩

/-- How reports show a span. -/
def report (span : Span) : String :=
  "Span \x7b start: " ++ s!"{span.start}, end: {span.stop} \x7d"

end Span

end ShaderBuild.Glsl
