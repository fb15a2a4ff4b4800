import ShaderBuild.Glsl.Program

namespace ShaderBuild.Glsl

/-!
# Usage of variables

How a function uses the variables outside functions, by itself and through the
functions that it calls, and which images it samples with which samplers. A node that
stands for a part of a variable uses it only where the node itself is used.
-/

/-! ### Uses -/

/-- How a variable is used. -/
structure GlobalUse where
  reads : Bool := false
  writes : Bool := false
  queries : Bool := false
  deriving Repr, DecidableEq, Inhabited

namespace GlobalUse

/-- The use of a variable that is read. -/
def read : GlobalUse := { reads := true }

/-- The use of a variable that is written. -/
def write : GlobalUse := { writes := true }

/-- The use of a variable that is asked about. -/
def query : GlobalUse := { queries := true }

/-- The use of a variable in any of two ways. -/
def union (first second : GlobalUse) : GlobalUse where
  reads := first.reads || second.reads
  writes := first.writes || second.writes
  queries := first.queries || second.queries

/-- Whether every way of a use is one of another's. -/
def isWithin (use allowed : GlobalUse) : Bool :=
  (!use.reads || allowed.reads) && (!use.writes || allowed.writes) &&
    (!use.queries || allowed.queries)

/-- Whether a variable is used at all. -/
def isSome (use : GlobalUse) : Bool :=
  use.reads || use.writes || use.queries

/-- How reports show a use. -/
def report (use : GlobalUse) : String :=
  let names :=
    (if use.reads then ["READ"] else []) ++ (if use.writes then ["WRITE"] else []) ++
      if use.queries then ["QUERY"] else []
  "GlobalUse(" ++ (if names = [] then "0x0" else " | ".intercalate names) ++ ")"

end GlobalUse

/-- The nodes that the level of a sample depends on. -/
def SampleLevel.operands : SampleLevel → List NodeId
  | automatic | zero => []
  | exact level => [level]
  | bias amount => [amount]
  | gradient first second => [first, second]

/-- Some nodes that are read. -/
def readings (nodes : List NodeId) : List (NodeId × GlobalUse) :=
  nodes.map fun node => (node, .read)

/-- The nodes that a node uses, which are not those that it is a part of. -/
def Node.uses : Node → List (NodeId × GlobalUse)
  | literal _ | constant _ | zero _ | argument _ | globalVariable _ | localVariable _
  | callResult _ | accessIndex _ _ => []
  | compose _ components => readings components
  | access _ index => readings [index]
  | splat _ value | swizzle value _ | load value | unary _ value | derivative value
  | relational _ value | cast _ value | reinterpret _ value => readings [value]
  | sample taken =>
      readings ([taken.image, taken.sampler, taken.coordinate] ++
        taken.arrayIndex.toList ++ taken.level.operands ++ taken.reference.toList)
  | texel element =>
      readings ([element.image, element.coordinate] ++ element.arrayIndex.toList ++
        element.sample.toList ++ element.level.toList)
  | query image (.size level) => (image, .query) :: readings level.toList
  | query image .layerCount => [(image, .query)]
  | binary _ left right => readings [left, right]
  | select condition accepted rejected => readings [condition, accepted, rejected]
  | math _ arguments => readings arguments
  | arrayLength array => [(array, .query)]

mutual

/-- A statement with all statements inside of it, in their order. -/
def Statement.flatten : Statement → List Statement
  | .block body => .block body :: flattenAll body
  | .choice condition accepted rejected =>
      .choice condition accepted rejected :: (flattenAll accepted ++ flattenAll rejected)
  | .switch selector cases => .switch selector cases :: flattenCases cases
  | .loop body continuing =>
      .loop body continuing :: (flattenAll body ++ flattenAll continuing)
  | other => [other]

/-- Statements with all statements inside of them, in their order. -/
def flattenAll : List Statement → List Statement
  | [] => []
  | first :: others => first.flatten ++ flattenAll others

/-- The statements inside of cases, in their order. -/
def flattenCases : List Case → List Statement
  | [] => []
  | .mk _ body _ :: cases => flattenAll body ++ flattenCases cases

end

/-- The nodes that a statement uses, those of statements inside of it aside. -/
def Statement.uses : Statement → List (NodeId × GlobalUse)
  | .choice condition _ _ => readings [condition]
  | .switch selector _ => readings [selector]
  | .return value => readings value.toList
  | .store pointer value => (pointer, .write) :: readings [value]
  | .imageStore image coordinate arrayIndex value =>
      (image, .write) :: readings (arrayIndex.toList ++ [coordinate, value])
  | .call _ arguments _ => readings arguments
  | _ => []

/-! ### Samples -/

/-- Where an image or a sampler comes from. -/
inductive Source where
  | global (number : Nat)
  | argument (index : Nat)
  deriving Repr, DecidableEq

/-- Where the image or the sampler that a node stands for comes from. -/
def sourceOf? (nodes : Array Node) (node : NodeId) : Option Source :=
  match nodes[node]? with
  | some (.globalVariable number) => some (.global number)
  | some (.argument index) => some (.argument index)
  | some (.access base _) | some (.accessIndex base _) =>
      match nodes[base]? with
      | some (.globalVariable number) => some (.global number)
      | _ => none
  | _ => none

/-- Whether what a node samples comes from variables or arguments. -/
def Node.hasSources (nodes : Array Node) : Node → Bool
  | sample taken =>
      (sourceOf? nodes taken.image).isSome && (sourceOf? nodes taken.sampler).isSome
  | _ => true

/-- An image with a sampler that it is sampled with. -/
abbrev SampledSource := Source × Source

/-- What a node samples. -/
def Node.sampled? (nodes : Array Node) : Node → Option SampledSource
  | sample taken => do
      return (← sourceOf? nodes taken.image, ← sourceOf? nodes taken.sampler)
  | _ => none

/-! ### Functions -/

/-- How a function uses what is outside of it. -/
structure Usage where
  /-- The uses of the variables outside functions. -/
  globals : Array GlobalUse
  sampled : List SampledSource
  deriving Inhabited

/-- Why the usage of a function cannot be told. -/
inductive UsageFault where
  /-- A node that is sampled but is neither a variable nor an argument. -/
  | noSource (node : NodeId)
  /-- A call of a function that comes after those that are known. -/
  | unknownCallee (count function : Nat)
  deriving Repr, DecidableEq

/-- The variables that the nodes of a function are, or are parts of. -/
def rootGlobals (nodes : Array Node) : Array (Option Nat) :=
  nodes.foldl
    (fun roots node => roots.push <| match node with
      | .globalVariable number => some number
      | .access base _ | .accessIndex base _ => (roots[base]?).join
      | _ => none)
    #[]

namespace Usage

/-- The usage with a node used. -/
def useNode (roots : Array (Option Nat)) (usage : Usage) (used : NodeId × GlobalUse) : Usage :=
  match (roots[used.1]?).join with
  | some number =>
      { usage with globals := usage.globals.modify number (·.union used.2) }
  | none => usage

/-- Where something comes from in a caller, given the arguments of the call. -/
def sourceInCaller (nodes : Array Node) (arguments : List NodeId) :
    Source → Except UsageFault Source
  | .global number => .ok (.global number)
  | .argument index =>
      let node := (arguments[index]?).getD 0
      match sourceOf? nodes node with
      | some source => .ok source
      | none => .error (.noSource node)

/-- The usage with what a called function uses. -/
def useCallee (nodes : Array Node) (arguments : List NodeId) (usage callee : Usage) :
    Except UsageFault Usage := do
  let sampled ← callee.sampled.mapM fun (image, sampler) =>
    return (← sourceInCaller nodes arguments image, ← sourceInCaller nodes arguments sampler)
  return {
    globals := usage.globals.zipWith GlobalUse.union callee.globals
    sampled := usage.sampled ++ sampled }

/-- The usage with what a statement uses, those inside of it aside. -/
def useStatement (known : Array Usage) (function : Function) (roots : Array (Option Nat))
    (usage : Usage) (statement : Statement) : Except UsageFault Usage :=
  let usage := statement.uses.foldl (useNode roots) usage
  match statement with
  | .call number arguments _ =>
      match known[number]? with
      | some callee => usage.useCallee function.nodes arguments callee
      | none => .error (.unknownCallee known.size number)
  | _ => .ok usage

/-- The usage of a function, given that of the functions before it. -/
def ofFunction (known : Array Usage) (globalCount : Nat) (function : Function) :
    Except UsageFault Usage :=
  let roots := rootGlobals function.nodes
  let nodes := function.nodes.toList
  let initials := readings (function.locals.toList.filterMap (·.initial))
  let usage : Usage := {
    globals := Array.replicate globalCount {}
    sampled := nodes.filterMap (Node.sampled? function.nodes) }
  let usage := (nodes.flatMap Node.uses ++ initials).foldl (useNode roots) usage
  (flattenAll function.body).foldlM (useStatement known function roots) usage

end Usage

end ShaderBuild.Glsl
