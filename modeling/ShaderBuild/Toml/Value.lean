import ShaderBuild.Toml.Scalar

namespace ShaderBuild.Toml

/-!
# TOML values

The values of a document and where they stand. A table remembers how it came about,
because that decides whether a later line may still add to it.
-/

/-- A key and where it stands. -/
structure Key where
  name : String
  span : Span
  deriving Repr

/-- How a table came about. -/
inductive TableOrigin where
  /-- By a header of its own. -/
  | header
  /-- By a header of a table inside it. -/
  | implied
  /-- By a dotted key. -/
  | dotted
  /-- By braces; it is complete. -/
  | inline
  deriving Repr, DecidableEq

/-- A table with values of some type. -/
structure TableOf (α : Type) where
  origin : TableOrigin
  /-- Where it stands; a table without header and braces stands nowhere. -/
  span : Option Span
  /-- The keys and their values, in the order in which they came. -/
  entries : List (Key × α)
  deriving Repr

/-- A value. -/
inductive Value where
  /-- A value without values inside. -/
  | scalar (scalar : Scalar) (span : Span)
  /-- An array in brackets. -/
  | array (items : List Value) (span : Span)
  /-- The tables that headers in double brackets add one by one. -/
  | tables (items : List (TableOf Value))
  | table (table : TableOf Value)

/-- A table of values. -/
abbrev Table := TableOf Value

namespace Value

/-- Where a value stands, if it stands in one place. -/
def span? : Value → Option Span
  | scalar _ span | array _ span => some span
  | table inner => inner.span
  | tables items => do
      let first ← (← items.head?).span
      let last ← (← items.getLast?).span
      return first.through last

/-- What kind of value it is. -/
def kind : Value → String
  | scalar inner _ => inner.kind
  | array _ _ => "array"
  | tables _ => "array of tables"
  | table inner => if inner.origin = .inline then "inline table" else "table"

end Value

/-- What a path of keys stands in. -/
inductive PathPlace where
  /-- In the header of a table. -/
  | header
  /-- At the start of a line. -/
  | line
  /-- Between braces. -/
  | inline
  deriving Repr, DecidableEq

namespace Table

/-- A table without entries. -/
def empty (origin : TableOrigin) (span : Option Span := none) : Table :=
  ⟨origin, span, []⟩

/-- The value of a key. -/
def find? (table : Table) (name : String) : Option Value :=
  (table.entries.find? (·.1.name = name)).map (·.2)

/-- The table with another value for a key that it has. -/
def replace (table : Table) (name : String) (value : Value) : Table :=
  { table with entries := table.entries.map fun entry =>
      if entry.1.name = name then (entry.1, value) else entry }

/-- The table without a key. -/
def erase (table : Table) (name : String) : Table :=
  { table with entries := table.entries.filter (·.1.name ≠ name) }

/-- The table with a new key at its end. -/
def push (table : Table) (key : Key) (value : Value) : Table :=
  { table with entries := table.entries ++ [(key, value)] }

/--
Change the table that a path of keys leads to, and make the tables that are
missing on the way; `before` are the keys that led to the table so far. A path leads
into the last of several tables, never into an inline table, and outside headers into
no table that has a header.
-/
def update
    (place : PathPlace)
    (change : Table → Except Cause Table)
    (before : List String)
    (table : Table) :
    List Key → Except Cause Table
  | [] => change table
  | key :: path =>
      let before := before ++ [key.name]
      match table.find? key.name with
      | none => do
          let origin := if place = .header then TableOrigin.implied else .dotted
          let inner ← update place change before (Table.empty origin) path
          return table.push key (.table inner)
      | some (.table inner) =>
          if place = .inline && inner.origin = .inline then
            .error (.duplicateKey key.name none)
          else if inner.origin = .inline then
            .error (.extendedValue before (Value.table inner).kind)
          else if place ≠ .header && inner.origin = .header then
            .error (.duplicateKey key.name none)
          else do
            let inner ← update place change before inner path
            return table.replace key.name (.table inner)
      | some (.tables items) =>
          match items.getLast? with
          | some inner => do
              let inner ← update place change before inner path
              return table.replace key.name (.tables (items.dropLast ++ [inner]))
          | none => .error (.duplicateKey key.name none)
      | some value => .error (.extendedValue before value.kind)

/--
Add a key and its value in the table that the keys before it lead to. Those keys may
only name tables that dotted keys have made. The path of the whole table, if it has
one, is for the report of a key that is there already.
-/
def insert
    (place : PathPlace) (name : Option (List String)) (path : List Key) (key : Key)
    (value : Value) (table : Table) :
    Except Cause Table :=
  update place
    (fun table =>
      if (table.origin = .dotted) = (path = []) then
        .error (.duplicateKey key.name none)
      else
        match table.find? key.name with
        | none => .ok (table.push key value)
        | some _ => .error (.duplicateKey key.name name))
    [] table path

end Table

end ShaderBuild.Toml
