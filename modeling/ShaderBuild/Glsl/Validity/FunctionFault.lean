import ShaderBuild.Glsl.Validity.NodeFault

namespace ShaderBuild.Glsl

/-!
# Faults of functions

Why a function is invalid, and how reports put it.
-/

/-- Why a variable of a function is invalid. -/
inductive LocalFault where
  | type (type : TypeId)
  | initialType
  deriving Repr, DecidableEq

/-- What reports call a fault. -/
def LocalFault.report : LocalFault → String
  | .type found =>
      "Local variable has a type " ++ entryReport found ++
        " that can't be stored in a local variable."
  | .initialType => "Initializer doesn't match the variable type"

/-- Why a call is invalid. -/
inductive CallFault where
  | argument (index : Nat) (fault : NodeFault)
  | count (required given : Nat)
  | argumentType (index : Nat) (argument : NodeId) (required : TypeId)
  | resultInScope (result : NodeId)
  /-- A result that is not taken, or that is not this call's. -/
  | result
  deriving Repr, DecidableEq

/-- What reports call a fault. -/
def CallFault.report : CallFault → String
  | .argument index fault => s!"Argument {index} expression is invalid: " ++ fault.report
  | .count required given => s!"Requires {required} arguments, but {given} are provided"
  | .argumentType index found required =>
      s!"Argument {index} value " ++ entryReport found ++ " doesn't match the type " ++
        entryReport required
  | .resultInScope found =>
      "Result expression " ++ entryReport found ++ " has already been introduced earlier"
  | .result => "The emitted expression doesn't match the call"

/-- Why a function is invalid. -/
inductive FunctionFault where
  | node (node : NodeId) (fault : NodeFault)
  | nodeInScope (node : NodeId)
  | localVariable (number : Nat) (name : String) (fault : LocalFault)
  | argumentSpace (name : String) (index : Nat) (space : AddressSpace)
  | argumentType (name : String) (index : Nat)
  | resultType
  | unreachable
  | leaveOutside
  | againOutside
  | returnInContinuing
  | returnedValue (value : Option NodeId)
  | condition (condition : NodeId)
  | selector (selector : NodeId)
  | repeatedCase (label : CaseLabel)
  | caseKind
  | repeatedDefault
  | noDefault
  | openLastCase
  | storePlace (pointer : NodeId)
  | storedValue (value : NodeId)
  | storedType (pointer value : NodeId)
  | imageStore (fault : NodeFault)
  | call (function : Nat) (fault : CallFault)
  | barrier
  deriving Repr, DecidableEq

namespace FunctionFault

/-- What reports call a fault. -/
def report : FunctionFault → String
  | .node id fault =>
      "Expression " ++ entryReport id ++ " is invalid: " ++ fault.report
  | .nodeInScope id =>
      "Expression " ++ entryReport id ++ " can't be introduced - it's already in scope"
  | .localVariable number name fault =>
      "Local variable " ++ entryReport number ++ " '" ++ name ++ "' is invalid: " ++
        fault.report
  | .argumentSpace name index space =>
      "Argument '" ++ name ++ s!"' at index {index} is a pointer of space " ++ space.report ++
        ", which can't be passed into functions."
  | .argumentType name index =>
      "Argument '" ++ name ++
        s!"' at index {index} has a type that can't be passed into functions."
  | .resultType => "The function's given return type cannot be returned from functions"
  | .unreachable => "There are instructions after `return`/`break`/`continue`"
  | .leaveOutside => "The `break` is used outside of a `loop` or `switch` context"
  | .againOutside => "The `continue` is used outside of a `loop` context"
  | .returnInContinuing => "The `return` is called within a `continuing` block"
  | .returnedValue value =>
      "The `return` value " ++ optionReport entryReport value ++
        " does not match the function return value"
  | .condition found =>
      "The `if` condition " ++ entryReport found ++ " is not a boolean scalar"
  | .selector found =>
      "The `switch` value " ++ entryReport found ++ " is not an integer scalar"
  | .repeatedCase label => "Multiple `switch` cases for " ++ label.report ++ " are present"
  | .caseKind => "The `switch` contains cases with conflicting types"
  | .repeatedDefault => "Multiple `default` cases are present"
  | .noDefault => "The `switch` is missing a `default` case"
  | .openLastCase => "The last `switch` case contains a `fallthrough`"
  | .storePlace pointer =>
      "The pointer " ++ entryReport pointer ++
        " doesn't relate to a valid destination for a store"
  | .storedValue value => "The value " ++ entryReport value ++ " can not be stored"
  | .storedType pointer value =>
      "The type of " ++ entryReport value ++ " doesn't match the type stored in " ++
        entryReport pointer
  | .imageStore fault => "Image store parameters are invalid: " ++ fault.report
  | .call function fault => "Call to " ++ entryReport function ++ " is invalid: " ++ fault.report
  | .barrier =>
      "Subgroup operation is invalid: Support for subgroup operation " ++
        "SubgroupOperationSet(BASIC) is required"

end FunctionFault

end ShaderBuild.Glsl
