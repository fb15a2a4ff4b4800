import ShaderBuild.Comment
import ShaderBuild.Conditionals
import ShaderBuild.Include.Request
import ShaderBuild.MacroTable
import ShaderBuild.ExpandedUnit

namespace ShaderBuild

/-!
# Include expansion

A source is visited line by line. A line that includes a file is replaced by the
lines of a visit to that file, and every other line is kept, so that each line of
the result has one origin. Includes in regions that are certainly skipped are left
out, which is why a visit follows comments, conditional groups and macros. Groups
and comments belong to one visit; the macro table goes on from file to file.

A visit leaves a trace of what it did, in order, and ends with the macros it knows
or with the first problem it met. Everything else is read off the trace.
-/

/-- A problem that ends an expansion. -/
inductive ExpansionProblem where
  | includeFailed (fault : IncludeFault)
  /-- An `#error` directive in live code, and its text. -/
  | errorDirective (text : List Char)
  | misplaced (fault : ConditionalFault)
  | unterminatedConditional
  | unterminatedComment
  deriving Repr, DecidableEq

/-- The report of a problem. -/
def ExpansionProblem.message : ExpansionProblem → String
  | .includeFailed fault => fault.message
  | .errorDirective text =>
      String.ofList (Text.trimEnd ("#error ".toList ++ text))
  | .misplaced fault => fault.message
  | .unterminatedConditional => "unterminated conditional directive"
  | .unterminatedComment => "unterminated comment at end of included file"

/-- A problem and the line it was met at. -/
structure ExpansionFailure where
  origin : Origin
  problem : ExpansionProblem
  deriving Repr, DecidableEq

/-- A failed expansion as a diagnostic. -/
def ExpansionFailure.diagnostic (failure : ExpansionFailure) : Diagnostic :=
  ⟨failure.origin.source, some failure.origin.line, failure.problem.message⟩

/-! ### Traces -/

/-- One thing that an expansion does. -/
inductive ExpansionEvent where
  /-- A line is added to the text. -/
  | line (line : ExpandedLine)
  /-- The resolver is asked. -/
  | request (request : IncludeRequest)
  /-- A source of this name is visited. -/
  | visit (source : String)
  deriving Repr, DecidableEq

namespace ExpansionEvent

/-- The line an event adds. -/
def line? : ExpansionEvent → Option ExpandedLine
  | .line added => some added
  | _ => none

/-- The request an event makes. -/
def request? : ExpansionEvent → Option IncludeRequest
  | .request made => some made
  | _ => none

/-- The source an event visits. -/
def source? : ExpansionEvent → Option String
  | .visit name => some name
  | _ => none

end ExpansionEvent

/-- What a visit did, and the macros known after it or the failure that ended it. -/
structure Expansion where
  trace : List ExpansionEvent
  result : Except ExpansionFailure MacroTable

namespace Expansion

/-- Nothing is done, and the macros are these. -/
def done (macros : MacroTable) : Expansion :=
  ⟨[], .ok macros⟩

/-- Nothing is done but to fail. -/
def fail (origin : Origin) (problem : ExpansionProblem) : Expansion :=
  ⟨[], .error ⟨origin, problem⟩⟩

/-- Events before an expansion. -/
def after (events : List ExpansionEvent) (expansion : Expansion) : Expansion :=
  ⟨events ++ expansion.trace, expansion.result⟩

/-- One expansion and then another, unless the first one fails. -/
def andThen (first : Expansion) (next : MacroTable → Expansion) : Expansion :=
  match first.result with
  | .ok macros => (next macros).after first.trace
  | .error _ => first

/-- The lines of the expanded text. -/
def lines (expansion : Expansion) : List ExpandedLine :=
  expansion.trace.filterMap ExpansionEvent.line?

/-- The requests made of the resolver, in order. -/
def requests (expansion : Expansion) : List IncludeRequest :=
  expansion.trace.filterMap ExpansionEvent.request?

/-- The sources visited, each at its first visit. -/
def sources (expansion : Expansion) : List String :=
  (expansion.trace.filterMap ExpansionEvent.source?).eraseDups

end Expansion

/-! ### One line -/

/-- What a line asks of a visit. -/
inductive LineAction where
  /-- Add a line and go on with these groups and macros. -/
  | keep (text : List Char) (conditionals : Conditionals) (macros : MacroTable)
  /-- Replace the line by an included file. -/
  | splice (kind : IncludeKind) (target : String)
  /-- Stop. -/
  | stop (problem : ExpansionProblem)

/-- What is known at the start of a line. -/
structure LineContext where
  /-- Position of the line in its source, from 1. -/
  position : Nat
  /-- Whether the line starts inside a block comment. -/
  inComment : Bool
  conditionals : Conditionals
  macros : MacroTable

namespace LineContext

/-- The number of the line. -/
def line (context : LineContext) : Nat :=
  lineNumber context.position

/-- The directive on a line; a line that continues a comment has none. -/
def directive? (context : LineContext) (line : List Char) : Option Directive :=
  if context.inComment then
    none
  else
    Directive.parse? (Comment.strip false line)

/-- The groups after a directive. -/
def conditionalsAfter (context : LineContext) :
    Directive → Except ConditionalFault Conditionals
  | .ifCondition condition =>
      .ok (context.conditionals.enter (context.macros.evaluate condition) context.line)
  | .ifDefined body =>
      .ok (context.conditionals.enter (context.macros.isDefined body) context.line)
  | .ifNotDefined body =>
      .ok (context.conditionals.enter
        ((context.macros.isDefined body).map (!·)) context.line)
  | .elifCondition condition =>
      context.conditionals.elif (context.macros.evaluate condition)
  | .otherwise => context.conditionals.otherwise
  | .endIf => context.conditionals.close
  | _ => .ok context.conditionals

/-- The macros after a directive. -/
def macrosAfter (context : LineContext) : Directive → MacroTable
  | .define body => context.macros.define body context.conditionals.liveness
  | .undef body => context.macros.undefine body context.conditionals.liveness
  | _ => context.macros

/-- What a line asks for, given whether it leaves a comment open. -/
def action (context : LineContext) (line : List Char) (opensComment : Bool) : LineAction :=
  let liveness := context.conditionals.liveness
  let drop := LineAction.keep
    (Comment.placeholder opensComment) context.conditionals context.macros
  match context.directive? line with
  | none => .keep line context.conditionals context.macros
  | some (.includeFile kind target) =>
      if liveness.isDead then drop else .splice kind target
  | some (.malformedInclude fault) =>
      if liveness.isDead then drop else .stop (.includeFailed (.malformed fault))
  | some .includeExtension => drop
  | some (.error text) =>
      if liveness = .live then .stop (.errorDirective text)
      else .keep line context.conditionals context.macros
  | some directive =>
      match context.conditionalsAfter directive with
      | .ok conditionals => .keep line conditionals (context.macrosAfter directive)
      | .error fault => .stop (.misplaced fault)

/-- The start of the next line. -/
def next
    (context : LineContext)
    (inComment : Bool)
    (conditionals : Conditionals)
    (macros : MacroTable) :
    LineContext :=
  ⟨context.position + 1, inComment, conditionals, macros⟩

end LineContext

/-! ### One source -/

/-- How a visit includes a file: from the include's line, with the macros known there. -/
abbrev Includer := Origin → IncludeKind → String → MacroTable → Expansion

/-- A visit that is fixed but for its lines. -/
structure Visit where
  source : String
  /-- Whether the source was included by another one. -/
  nested : Bool
  splice : Includer

namespace Visit

/-- The end of a source: no group may be open, nor a comment in an included one. -/
def finish (visit : Visit) (context : LineContext) : Expansion :=
  match context.conditionals.unterminated? with
  | some line => .fail ⟨visit.source, line⟩ .unterminatedConditional
  | none =>
      if visit.nested && context.inComment then
        .fail ⟨visit.source, lineNumber (context.position - 1)⟩ .unterminatedComment
      else
        .done context.macros

/-- Visit the lines that are left of a source. -/
def run (visit : Visit) (context : LineContext) : List (List Char) → Expansion
  | [] => visit.finish context
  | line :: others =>
      let origin : Origin := ⟨visit.source, context.line⟩
      let inComment := Comment.isOpenAfter context.inComment line
      match context.action line inComment with
      | .keep text conditionals macros =>
          (visit.run (context.next inComment conditionals macros) others).after
            [.line ⟨text, some origin⟩]
      | .stop problem => .fail origin problem
      | .splice kind target =>
          (visit.splice origin kind target context.macros).andThen fun macros =>
            (visit.run (context.next inComment context.conditionals macros) others).after
              (if inComment then
                [.line ⟨Comment.placeholder true, some origin⟩]
              else
                [])

/-- Visit a source from its top. -/
def start (visit : Visit) (macros : MacroTable) (content : List Char) : Expansion :=
  visit.run ⟨1, false, .empty, macros⟩ (Text.lines content)

end Visit

/-! ### Nested sources -/

/-- What an expansion is given besides its root source. -/
structure ExpansionSettings where
  /-- Who finds included files, if anybody. -/
  resolver : Option Resolver
  /-- Deepest nesting of included files. -/
  depthLimit : Nat
  /-- Macros that conditions see from the start. -/
  defines : List (String × String)

namespace ExpansionSettings

/--
How the source at nesting `depth` includes files, when files may be nested
`levels` deeper than it.
-/
def includer (settings : ExpansionSettings) : (levels depth : Nat) → Includer
  | 0, _ => fun origin _ target _ =>
      match settings.resolver with
      | none => .fail origin (.includeFailed (.noResolver target))
      | some _ => .fail origin (.includeFailed (.tooDeep target settings.depthLimit))
  | levels + 1, depth => fun origin kind target macros =>
      match settings.resolver with
      | none => .fail origin (.includeFailed (.noResolver target))
      | some resolver =>
          let request : IncludeRequest := ⟨target, kind, origin.source, depth + 1⟩
          match resolver.resolve request with
          | .error fault =>
              (Expansion.fail origin (.includeFailed fault)).after [.request request]
          | .ok included =>
              (Visit.start ⟨included.name, true, settings.includer levels (depth + 1)⟩
                macros included.content).after
                [.request request, .visit included.name]

/-- Whether a source has a `#version` directive outside comments. -/
def hasVersion (inComment : Bool) : List (List Char) → Bool
  | [] => false
  | line :: others =>
      (!inComment && Directive.isVersion (Comment.strip false line)) ||
        hasVersion (Comment.isOpenAfter inComment line) others

/-- The line put before a root source without a `#version` directive. -/
def versionLine : ExpandedLine :=
  ⟨"#version 450".toList, none⟩

/-- The lines put before a root source. -/
def preamble (content : List Char) : List ExpansionEvent :=
  if hasVersion false (Text.lines content) then [] else [.line versionLine]

/-- Expand a root source. -/
def expand
    (settings : ExpansionSettings) (root : String) (content : List Char) :
    Expansion :=
  (Visit.start ⟨root, false, settings.includer settings.depthLimit 0⟩
    (.ofDefines settings.defines) content).after
    (preamble content ++ [.visit root])

end ExpansionSettings

/-- The unit that an expansion has put together, or the diagnostic that ended it. -/
def Expansion.unit (expansion : Expansion) (root : String) : Except Diagnostic ExpandedUnit :=
  match expansion.result with
  | .ok _ => .ok ⟨root, expansion.lines, expansion.sources⟩
  | .error failure => .error failure.diagnostic

/-- Expand a root source into one unit. -/
def ExpandedUnit.expand
    (settings : ExpansionSettings) (root : String) (content : List Char) :
    Except Diagnostic ExpandedUnit :=
  (settings.expand root content).unit root

end ShaderBuild
