import ShaderBuild.Glsl.Type

namespace ShaderBuild.Glsl

/-!
# Traits of types

What values of a type may be used for, and whether they can be kept where the memory
of a program is shared with its host. Both follow from the form of the type and from
what is known of the types that it refers to, which come before it in the table.
-/

/-! ### Traits -/

/-- Something that values of a type may be used for. -/
inductive TypeTrait where
  /-- Being kept in memory. -/
  | data
  /-- Being kept where the size has to be known before a run. -/
  | sized
  /-- Being copied. -/
  | copied
  /-- Being exchanged between the stages of a pipeline. -/
  | exchanged
  /-- Being shared with the host. -/
  | shared
  /-- Being handed to functions. -/
  | passed
  /-- Being made from parts. -/
  | constructible
  deriving Repr, DecidableEq

namespace TypeTrait

/-- All traits, in the order in which reports list them. -/
def all : List TypeTrait :=
  [data, sized, copied, exchanged, shared, passed, constructible]

/-- What reports call a trait. -/
def report : TypeTrait → String
  | data => "DATA"
  | sized => "SIZED"
  | copied => "COPY"
  | exchanged => "IO_SHAREABLE"
  | shared => "HOST_SHAREABLE"
  | passed => "ARGUMENT"
  | constructible => "CONSTRUCTIBLE"

/-- How reports show the traits that a type has. -/
def listReport (traits : List TypeTrait) : String :=
  let names := (all.filter traits.contains).map report
  "TypeFlags(" ++ (if names = [] then "0x0" else " | ".intercalate names) ++ ")"

end TypeTrait

/-! ### Layouts -/

/-- Why values of a type cannot be kept in shared memory. -/
inductive LayoutFault where
  | stride (stride alignment : Nat)
  | span (span alignment : Nat)
  | offset (index offset alignment : Nat)
  /-- A member that is too close behind a structure. -/
  | offsetBehindRecord (index offset least : Nat)
  | unsizedMember (index : Nat)
  | unshared
  deriving Repr, DecidableEq

/-- What reports call a fault. -/
def LayoutFault.report : LayoutFault → String
  | .stride bytes alignment =>
      s!"The array stride {bytes} is not a multiple of the required alignment {alignment}"
  | .span bytes alignment =>
      s!"The struct span {bytes}, is not a multiple of the required alignment {alignment}"
  | .offset index start alignment =>
      s!"The struct member[{index}] offset {start} is not a multiple of the required " ++
        s!"alignment {alignment}"
  | .offsetBehindRecord index start least =>
      s!"The struct member[{index}] offset {start} must be at least {least}"
  | .unsizedMember index => s!"The struct member[{index}] is not statically sized"
  | .unshared => "The type is not host-shareable"

/-- The alignment that a kind of memory asks for, or the type at fault. -/
abbrev Layout := Except (TypeId × LayoutFault) Nat

/-- What is known of a type. -/
structure TypeFacts where
  traits : List TypeTrait
  /-- The layout in memory that is only read. -/
  uniform : Layout
  /-- The layout in memory that may be written. -/
  storage : Layout

instance : Inhabited TypeFacts := ⟨⟨[], .ok 1, .ok 1⟩⟩

namespace TypeFacts

/-- Whether a type has some traits. -/
def has (facts : TypeFacts) (traits : List TypeTrait) : Bool :=
  traits.all facts.traits.contains

/-- The facts of a type with some traits that is aligned alike everywhere. -/
def aligned (traits : List TypeTrait) (alignment : Nat) : TypeFacts :=
  ⟨traits, .ok alignment, .ok alignment⟩

end TypeFacts

/-! ### Invalid types -/

/-- Why a type is invalid. -/
inductive TypeProblem where
  | realMatrixOnly
  | pointerBase (base : TypeId)
  | unsizedPointer (base : TypeId) (space : AddressSpace)
  | arrayBase (base : TypeId)
  | noData (type : TypeId)
  | overlap (index offset : Nat)
  | outOfRecord (index offset size span : Nat)
  | openMember (name : String) (type : TypeId)
  | noMembers
  deriving Repr, DecidableEq

/-- What reports call a problem. -/
def TypeProblem.report : TypeProblem → String
  | realMatrixOnly => "Matrix elements must always be floating-point types"
  | pointerBase base => "Invalid type for pointer target " ++ entryReport base
  | unsizedPointer base space =>
      "Unsized types like " ++ entryReport base ++
        " must be in the `Storage` address space, not `" ++ space.report ++ "`"
  | arrayBase base => "Base type " ++ entryReport base ++ " for the array is invalid"
  | noData type => "Expected data type, found " ++ entryReport type
  | overlap index offset =>
      s!"Structure member[{index}] at {offset} overlaps the previous member"
  | outOfRecord index offset size span =>
      s!"Structure member[{index}] at {offset} and size {size} crosses the structure " ++
        s!"boundary of size {span}"
  | openMember name type =>
      "Field '" ++ name ++ "' can't be dynamically-sized, has type " ++ entryReport type
  | noMembers => "A struct must have at least one member"

/-- What is known of earlier types when a type is looked at. -/
structure TypeSurroundings where
  types : TypeTable
  /-- The natural alignments of all types. -/
  alignments : Array Nat
  /-- What is known of the types so far. -/
  facts : Array TypeFacts := #[]

namespace TypeSurroundings

variable (around : TypeSurroundings)

/-- What is known of an earlier type. -/
def factsOf (type : TypeId) : TypeFacts :=
  (around.facts[type]?).getD default

/-- The natural alignment of a type. -/
def alignment (type : TypeId) : Nat :=
  (around.alignments[type]?).getD 1

/-! ### Pointers and arrays -/

/-- The alignment in memory that is only read is at least that of four numbers. -/
def leastUniform : Nat := 16

/-- What is known of the places in a space. -/
def placeFacts (space : AddressSpace) : TypeFacts :=
  let isPassed := space = .call || space = .run
  .aligned ([.sized, .copied] ++ if isPassed then [.passed] else []) 1

/-- What is known of the places of values of a type in a space. -/
def pointerFacts (base : TypeId) (space : AddressSpace) : Except TypeProblem TypeFacts :=
  let facts := around.factsOf base
  let isStored := match space with
    | .storage _ => true
    | _ => false
  if !facts.has [.data] then throw (.pointerBase base)
  else if !facts.has [.sized] && !isStored then throw (.unsizedPointer base space)
  else return placeFacts space

/-- The layout of an array with a stride, given that of its elements. -/
def arrayLayout (type : TypeId) (stride least : Nat) (element : Layout) : Layout := do
  let alignment := max (← element) least
  if stride % alignment = 0 then return alignment
  else throw (type, .stride stride alignment)

/-- What is known of an array. -/
def arrayFacts (type base : TypeId) (size : Option Nat) (stride : Nat) :
    Except TypeProblem TypeFacts :=
  let facts := around.factsOf base
  let kept : List TypeTrait :=
    if size.isSome then [.data, .sized, .copied, .shared, .passed, .constructible]
    else [.data, .copied, .shared]
  let natural := around.alignment base
  if !facts.has [.data, .sized] then throw (.arrayBase base)
  else return {
    traits := facts.traits.filter kept.contains
    uniform := arrayLayout type stride (max natural leastUniform) facts.uniform
    storage := arrayLayout type stride natural facts.storage }

/-! ### Structures -/

/-- A structure up to one of its members. -/
structure RecordScan where
  facts : TypeFacts
  /-- Where the next member may start. -/
  least : Nat := 0
  /-- Where the last member starts and what it spans, if it is a structure. -/
  former : Option (Nat × Nat) := none

/-- A layout, unless a fault is found. -/
def withFault (layout : Layout) (type : TypeId) (fault : Option LayoutFault) : Layout :=
  match fault with
  | some fault => do
      discard layout
      throw (type, fault)
  | none => layout

/-- The layout of a structure with one more member. -/
def memberLayout (type : TypeId) (index offset : Nat) (layout member : Layout) : Layout := do
  let found ← layout
  let alignment ← member
  if offset % alignment = 0 then return max found alignment
  else throw (type, .offset index offset alignment)

/-- The fault of a member that is too close behind a structure. -/
def closeness (index offset : Nat) (former : Option (Nat × Nat)) : Option LayoutFault :=
  former.bind fun (start, span) =>
    let distance := roundUp leastUniform span
    if offset - start < distance then
      some (.offsetBehindRecord index offset (start + distance))
    else none

/-- A structure with one more member. -/
def scanMember (type : TypeId) (count span : Nat) (scan : RecordScan)
    (indexed : Nat × Member) : Except TypeProblem RecordScan := do
  let (index, member) := indexed
  let facts := around.factsOf member.type
  let form := around.types.form member.type
  if !facts.has [.data] then
    throw (.noData member.type)
  let overlaps := member.offset < scan.least
  if overlaps && member.offset ≠ 0 then
    throw (.overlap index member.offset)
  let stop := member.offset + form.size
  if stop > span then
    throw (.outOfRecord index member.offset form.size span)
  let isArray := match form with
    | .array _ _ _ => true
    | _ => false
  let isOpen := !facts.has [.sized]
  if isOpen && (!isArray || index + 1 ≠ count) then
    throw (.openMember (member.name.getD "") member.type)
  let traits := scan.facts.traits.filter fun found =>
    facts.traits.contains found && !(overlaps && found = .shared)
  let unshared := if facts.has [.shared] then none else some LayoutFault.unshared
  let uniform := withFault scan.facts.uniform member.type unshared
  let storage := withFault scan.facts.storage member.type unshared
  let uniform := memberLayout type index member.offset uniform facts.uniform
  let storage := memberLayout type index member.offset storage facts.storage
  let uniform := match closeness index member.offset scan.former with
    | some fault => .error (type, fault)
    | none => uniform
  let uniform := withFault uniform type (if isOpen then some (.unsizedMember index) else none)
  let former := match form with
    | .record _ span => some (member.offset, span)
    | _ => none
  return ⟨⟨traits, uniform, storage⟩, stop, former⟩

/-- What is known of a structure. -/
def recordFacts (type : TypeId) (members : List Member) (span : Nat) :
    Except TypeProblem TypeFacts := do
  if members = [] then
    throw .noMembers
  let indexed := (List.range members.length).zip members
  let start : RecordScan := { facts := ⟨TypeTrait.all, .ok leastUniform, .ok 1⟩ }
  let found ← indexed.foldlM (around.scanMember type members.length span) start
  let alignment := around.alignment type
  if span % alignment = 0 then return found.facts
  else
    let wrong : Layout := .error (type, .span span alignment)
    return { found.facts with uniform := wrong, storage := wrong }

/-! ### Types -/

/-- What numbers may be used for. -/
def numberTraits (kind : Scalar) : List TypeTrait :=
  [.data, .sized, .copied, .passed, .constructible] ++
    if kind = .bool then [] else [.exchanged, .shared]

/-- What is known of a type of some form. -/
def formFacts (type : TypeId) : Form → Except TypeProblem TypeFacts
  | .single kind | .vector _ kind =>
      .ok (.aligned (numberTraits kind) (around.alignment type))
  | .matrix _ _ kind =>
      if !kind.isReal then .error .realMatrixOnly
      else
        .ok (.aligned ((numberTraits kind).filter (· ≠ .exchanged)) (around.alignment type))
  | .pointer base space => around.pointerFacts base space
  | .partPointer _ _ space => .ok (placeFacts space)
  | .array base size stride => around.arrayFacts type base size stride
  | .record members span => around.recordFacts type members span
  | .image _ _ _ | .sampler _ => .ok (.aligned [.passed] 1)

end TypeSurroundings

namespace TypeTable

/-- What is known of the types of a table, or the first that is invalid and why. -/
def facts (types : TypeTable) : Except (TypeId × TypeProblem) (Array TypeFacts) :=
  types.toList.foldlM (add types.alignments) #[]
where
  /-- One more type behind those that are known. -/
  add (alignments : Array Nat) (known : Array TypeFacts) (type : NamedType) :
      Except (TypeId × TypeProblem) (Array TypeFacts) :=
    match TypeSurroundings.formFacts ⟨types, alignments, known⟩ known.size type.form with
    | .ok facts => .ok (known.push facts)
    | .error problem => .error (known.size, problem)

end TypeTable

end ShaderBuild.Glsl
