import ShaderBuild.ExpandedUnit

namespace ShaderBuild.ExpandedUnit

/-!
# The line that holds an offset

Each line of a unit takes up the bytes from the end of the lines before it to its own
line feed, and the last line takes up the end of the text besides. A problem that is
known by its offset is reported where the line that holds the offset came from, and
under the name of the root source alone where there is no such line or it stands in no
source.
-/

/-- Bytes that lines take up in the text, each with its line feed. -/
def span (lines : List ExpandedLine) : Nat :=
  Text.byteLength (Text.unlines (lines.map (·.text)))

@[simp] theorem span_nil : span [] = 0 := rfl

@[simp] theorem span_cons (line : ExpandedLine) (others : List ExpandedLine) :
    span (line :: others) = lineLength line + span others := by
  simp only [span, lineLength, List.map_cons, Text.unlines_cons, Text.byteLength_append,
    Text.byteLength_cons, show '\n'.utf8Size = 1 from rfl]
  omega

/-- The line that takes up the byte at an offset, or the last one at the end of the text. -/
def HoldsOffset (lines : List ExpandedLine) (offset : Nat) (line : ExpandedLine) : Prop :=
  ∃ before after,
    lines = before ++ line :: after ∧ span before ≤ offset ∧
      (offset < span before + lineLength line ∨
        after = [] ∧ offset = span before + lineLength line)

variable {line first : ExpandedLine} {others : List ExpandedLine} {offset : Nat}

theorem not_holdsOffset_nil : ¬ HoldsOffset [] offset line := by
  rintro ⟨before, after, same, -⟩
  cases before <;> cases same

/-- The first line holds the offsets before its end, and its end if it is the last one. -/
theorem holdsOffset_cons_iff :
    HoldsOffset (first :: others) offset line ↔
      line = first ∧
          (offset < lineLength first ∨ others = [] ∧ offset = lineLength first) ∨
        lineLength first ≤ offset ∧ HoldsOffset others (offset - lineLength first) line := by
  constructor
  · rintro ⟨before, after, same, starts, ends⟩
    cases before with
    | nil =>
        cases same
        simp only [span_nil, Nat.zero_add] at ends
        exact .inl ⟨rfl, ends⟩
    | cons head before =>
        cases same
        rw [span_cons] at starts ends
        refine .inr ⟨by omega, before, after, rfl, by omega, ?_⟩
        rcases ends with inside | ⟨isLast, atEnd⟩
        · exact .inl (by omega)
        · exact .inr ⟨isLast, by omega⟩
  · rintro (⟨rfl, ends⟩ | ⟨beyond, before, after, rfl, starts, ends⟩)
    · refine ⟨[], others, rfl, Nat.zero_le _, ?_⟩
      simpa only [span_nil, Nat.zero_add] using ends
    · refine ⟨first :: before, after, rfl, ?_, ?_⟩
      · rw [span_cons]
        omega
      · rw [span_cons]
        rcases ends with inside | ⟨isLast, atEnd⟩
        · exact .inl (by omega)
        · exact .inr ⟨isLast, by omega⟩

theorem lineAt?_of_lt (inside : offset < lineLength first) :
    lineAt? offset (first :: others) = some first := by
  cases others <;> exact if_pos inside

theorem lineAt?_singleton_of_le (beyond : lineLength first ≤ offset) :
    lineAt? offset [first] = if offset = lineLength first then some first else none :=
  if_neg (Nat.not_lt_of_le beyond)

theorem lineAt?_cons_cons_of_le {second : ExpandedLine} (beyond : lineLength first ≤ offset) :
    lineAt? offset (first :: second :: others) =
      lineAt? (offset - lineLength first) (second :: others) :=
  if_neg (Nat.not_lt_of_le beyond)

theorem lineAt?_eq_some_iff {lines : List ExpandedLine} :
    lineAt? offset lines = some line ↔ HoldsOffset lines offset line := by
  induction lines generalizing offset with
  | nil =>
      exact iff_of_false nofun not_holdsOffset_nil
  | cons first others inductionHypothesis =>
      rw [holdsOffset_cons_iff]
      rcases Nat.lt_or_ge offset (lineLength first) with inside | beyond
      · rw [lineAt?_of_lt inside, Option.some_inj, eq_comm]
        have notBeyond : ¬ lineLength first ≤ offset := Nat.not_le_of_lt inside
        simp only [inside, notBeyond, true_or, and_true, false_and, or_false]
      · have outside : ¬ offset < lineLength first := Nat.not_lt_of_le beyond
        cases others with
        | nil =>
            rw [lineAt?_singleton_of_le beyond, Option.ite_none_right_eq_some, Option.some_inj,
              eq_comm (a := first), and_comm]
            simp only [outside, not_holdsOffset_nil, true_and, false_or, and_false, or_false]
        | cons second others =>
            rw [lineAt?_cons_cons_of_le beyond, inductionHypothesis]
            simp only [outside, beyond, reduceCtorEq, false_and, or_self, and_false, true_and,
              false_or]

/-- No line holds an offset that lies beyond the text. -/
theorem lineAt?_eq_none_iff {lines : List ExpandedLine} :
    lineAt? offset lines = none ↔ lines = [] ∨ span lines < offset := by
  induction lines generalizing offset with
  | nil =>
      exact iff_of_true rfl (.inl rfl)
  | cons first others inductionHypothesis =>
      rw [span_cons]
      rcases Nat.lt_or_ge offset (lineLength first) with inside | beyond
      · rw [lineAt?_of_lt inside]
        simp only [reduceCtorEq, false_or, false_iff]
        omega
      · cases others with
        | nil =>
            rw [lineAt?_singleton_of_le beyond, span_nil]
            simp only [ite_eq_right_iff, reduceCtorEq, imp_false, false_or]
            omega
        | cons second others =>
            rw [lineAt?_cons_cons_of_le beyond, inductionHypothesis]
            simp only [reduceCtorEq, false_or]
            omega

/-! ### Reports -/

/-- How a problem at an offset of a unit's text is reported. -/
inductive ReportedAs (unit : ExpandedUnit) (message : String) :
    Option Nat → Diagnostic → Prop where
  /-- The line that holds the offset came from a source. -/
  | located
      {offset : Nat} {line : ExpandedLine} {origin : Origin}
      (holds : HoldsOffset unit.lines offset line)
      (written : line.origin = some origin) :
      ReportedAs unit message (some offset) ⟨origin.source, some origin.line, message⟩
  /-- The line that holds the offset stands in no source. -/
  | unwritten
      {offset : Nat} {line : ExpandedLine}
      (holds : HoldsOffset unit.lines offset line)
      (unwritten : line.origin = none) :
      ReportedAs unit message (some offset) ⟨unit.root, none, message⟩
  /-- No line holds the offset. -/
  | beyond
      {offset : Nat}
      (isBeyond : unit.lines = [] ∨ Text.byteLength unit.text < offset) :
      ReportedAs unit message (some offset) ⟨unit.root, none, message⟩
  /-- The offset is not known. -/
  | unknown :
      ReportedAs unit message none ⟨unit.root, none, message⟩

theorem reportedAs_diagnosticAt
    (unit : ExpandedUnit)
    (offset : Option Nat)
    (message : String) :
    unit.ReportedAs message offset (unit.diagnosticAt offset message) := by
  cases offset with
  | none =>
      exact .unknown
  | some offset =>
      cases found : lineAt? offset unit.lines with
      | none =>
          have nowhere : unit.locate offset = none := by
            rw [locate, found, Option.bind_none]
          rw [diagnosticAt, Option.bind_some, nowhere]
          exact .beyond (lineAt?_eq_none_iff.mp found)
      | some line =>
          have holds := lineAt?_eq_some_iff.mp found
          have place : unit.locate offset = line.origin := by
            rw [locate, found, Option.bind_some]
          rw [diagnosticAt, Option.bind_some, place]
          cases written : line.origin with
          | none =>
              exact .unwritten holds written
          | some origin =>
              exact .located holds written

end ShaderBuild.ExpandedUnit
