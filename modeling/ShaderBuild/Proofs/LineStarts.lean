import ShaderBuild.Proofs.LineMap

namespace ShaderBuild

/-!
# Line starts

Lines start at the start of the text and behind each line feed that does not end it. The
starts increase, and so the line that holds an offset is found by halving: it is the last
one that starts up to the offset.
-/

/-! ### Line feeds -/

/-- A line feed of a text that is put together from lines ends one of the lines. -/
theorem Text.unlines_eq_append_iff
    {texts : List (List Char)}
    (noFeeds : ∀ text ∈ texts, '\n' ∉ text)
    {before after : List Char} :
    unlines texts = before ++ '\n' :: after ↔
      ∃ first second,
        texts = first ++ second ∧ first ≠ [] ∧
          unlines first = before ++ ['\n'] ∧ unlines second = after := by
  constructor
  · intro cut
    induction texts generalizing before with
    | nil =>
        exact absurd cut.symm (List.append_ne_nil_of_right_ne_nil _ (List.cons_ne_nil _ _))
    | cons text others inductionHypothesis =>
        have noFeed : '\n' ∉ text := noFeeds text List.mem_cons_self
        have othersNoFeeds : ∀ other ∈ others, '\n' ∉ other :=
          fun other member => noFeeds other (List.mem_cons_of_mem _ member)
        -- The line feed ends the first line or stands behind it.
        rw [unlines_cons, List.append_eq_append_iff] at cut
        rcases cut with ⟨part, isBefore, isRest⟩ | ⟨part, isText, isRest⟩
        · cases part with
          | nil =>
              rw [List.append_nil] at isBefore
              rw [List.nil_append, List.cons_inj_right] at isRest
              refine ⟨[text], others, rfl, List.cons_ne_nil _ _, ?_, isRest⟩
              rw [isBefore, unlines_cons, unlines_nil]
          | cons c part =>
              rw [List.cons_append, List.cons.injEq] at isRest
              obtain ⟨rfl, isRest⟩ := isRest
              obtain ⟨first, second, rfl, -, isFirst, isSecond⟩ :=
                inductionHypothesis othersNoFeeds isRest
              refine ⟨text :: first, second, rfl, List.cons_ne_nil _ _, ?_, isSecond⟩
              rw [unlines_cons, isFirst, isBefore, List.append_assoc, List.cons_append]
        · cases part with
          | nil =>
              rw [List.append_nil] at isText
              rw [List.nil_append, List.cons_inj_right] at isRest
              refine ⟨[text], others, rfl, List.cons_ne_nil _ _, ?_, isRest.symm⟩
              rw [isText, unlines_cons, unlines_nil]
          | cons c part =>
              rw [List.cons_append, List.cons.injEq] at isRest
              rw [isText, ← isRest.1] at noFeed
              exact absurd (List.mem_append_right _ List.mem_cons_self) noFeed
  · rintro ⟨first, second, rfl, -, isFirst, rfl⟩
    rw [unlines_append, isFirst, List.append_assoc, List.singleton_append]

theorem Text.exists_unlines_eq
    {texts : List (List Char)}
    (nonempty : texts ≠ []) :
    ∃ before, unlines texts = before ++ ['\n'] := by
  obtain ⟨others, last, same⟩ := (List.eq_nil_or_concat texts).resolve_left nonempty
  refine ⟨unlines others ++ last, ?_⟩
  rw [same, List.concat_eq_append, unlines_append, unlines_cons, unlines_nil, List.append_assoc]

namespace ExpandedUnit

/-! ### Starts -/

variable {lines : List ExpandedLine} {offset position : Nat}

theorem lineLength_pos (line : ExpandedLine) : 0 < lineLength line :=
  Nat.succ_pos _

@[simp] theorem span_append (first second : List ExpandedLine) :
    span (first ++ second) = span first + span second := by
  simp only [span, List.map_append, Text.unlines_append, Text.byteLength_append]

theorem startsFrom_append (offset : Nat) (first second : List ExpandedLine) :
    startsFrom offset (first ++ second) =
      startsFrom offset first ++ startsFrom (offset + span first) second := by
  induction first generalizing offset with
  | nil =>
      rfl
  | cons line others inductionHypothesis =>
      rw [List.cons_append, startsFrom, startsFrom, inductionHypothesis, span_cons,
        Nat.add_assoc, List.cons_append]

@[simp] theorem length_startsFrom (offset : Nat) (lines : List ExpandedLine) :
    (startsFrom offset lines).length = lines.length := by
  induction lines generalizing offset with
  | nil =>
      rfl
  | cons line others inductionHypothesis =>
      rw [startsFrom, List.length_cons, List.length_cons, inductionHypothesis]

/-- A line starts behind the lines before it. -/
theorem mem_startsFrom_iff :
    position ∈ startsFrom offset lines ↔
      ∃ before line after,
        lines = before ++ line :: after ∧ position = offset + span before := by
  induction lines generalizing offset with
  | nil =>
      refine iff_of_false List.not_mem_nil ?_
      rintro ⟨before, line, after, same, -⟩
      exact absurd same.symm (List.append_ne_nil_of_right_ne_nil _ (List.cons_ne_nil _ _))
  | cons head others inductionHypothesis =>
      rw [startsFrom, List.mem_cons, inductionHypothesis]
      constructor
      · rintro (rfl | ⟨before, line, after, rfl, rfl⟩)
        · exact ⟨[], head, others, rfl, rfl⟩
        · exact ⟨head :: before, line, after, rfl, by rw [span_cons, Nat.add_assoc]⟩
      · rintro ⟨before, line, after, same, rfl⟩
        cases before with
        | nil =>
            exact .inl rfl
        | cons first before =>
            cases same
            exact .inr ⟨before, line, after, rfl, by rw [span_cons, Nat.add_assoc]⟩

theorem startsFrom_increases (offset : Nat) (lines : List ExpandedLine) :
    (startsFrom offset lines).Pairwise (· < ·) := by
  induction lines generalizing offset with
  | nil =>
      exact .nil
  | cons line others inductionHypothesis =>
      refine .cons (fun position later => ?_) (inductionHypothesis _)
      obtain ⟨before, -, -, -, rfl⟩ := mem_startsFrom_iff.mp later
      have nonempty := lineLength_pos line
      omega

/-- The start of a line among the starts of all lines. -/
theorem startsFrom_around
    (before : List ExpandedLine) (line : ExpandedLine) (after : List ExpandedLine) :
    startsFrom 0 (before ++ line :: after) =
      startsFrom 0 before ++ span before :: startsFrom (span before + lineLength line) after := by
  rw [startsFrom_append, Nat.zero_add, startsFrom]

/-- Lines start at the start of the text and behind each line feed that does not end it. -/
theorem exists_start_iff
    (nonempty : lines ≠ [])
    (noFeeds : ∀ text ∈ lines.map (·.text), '\n' ∉ text) :
    (∃ before line after, lines = before ++ line :: after ∧ position = span before) ↔
      position = 0 ∨
        ∃ before after,
          Text.unlines (lines.map (·.text)) = before ++ '\n' :: after ∧
            after ≠ [] ∧ position = Text.byteLength (before ++ ['\n']) := by
  constructor
  · rintro ⟨before, line, after, rfl, rfl⟩
    cases before with
    | nil =>
        exact .inl rfl
    | cons first others =>
        obtain ⟨upToFeed, isUpTo⟩ :
            ∃ upToFeed, Text.unlines ((first :: others).map (·.text)) = upToFeed ++ ['\n'] :=
          Text.exists_unlines_eq (List.cons_ne_nil _ _)
        refine .inr ⟨upToFeed, Text.unlines ((line :: after).map (·.text)), ?_, ?_, ?_⟩
        · rw [List.map_append, Text.unlines_append, isUpTo, List.append_assoc,
            List.singleton_append]
        · rw [List.map_cons, Text.unlines_cons]
          exact List.append_ne_nil_of_right_ne_nil _ (List.cons_ne_nil _ _)
        · rw [span, isUpTo]
  · rintro (rfl | ⟨before, after, cut, isNotLast, rfl⟩)
    · obtain ⟨line, others, rfl⟩ := List.exists_cons_of_ne_nil nonempty
      exact ⟨[], line, others, rfl, rfl⟩
    · obtain ⟨_, _, isSplit, -, isFirst, rfl⟩ := (Text.unlines_eq_append_iff noFeeds).mp cut
      obtain ⟨first, second, rfl, rfl, rfl⟩ := List.map_eq_append_iff.mp isSplit
      cases second with
      | nil =>
          exact absurd rfl isNotLast
      | cons line others =>
          exact ⟨first, line, others, rfl, by rw [span, isFirst]⟩

/-! ### Halving -/

/--
How many lines start up to an offset, when the first `low` lines do and none from `high`
on does.
-/
def countStarts (starts : List Nat) (offset low high : Nat) : Nat :=
  if low < high then
    let middle := low + (high - low) / 2
    if starts[middle]?.any (· ≤ offset) then
      countStarts starts offset (middle + 1) high
    else
      countStarts starts offset low middle
  else
    low
termination_by high - low

theorem start_le_of_le
    {starts : List Nat}
    (increases : starts.Pairwise (· < ·))
    {first second firstStart secondStart : Nat}
    (isFirst : starts[first]? = some firstStart)
    (isSecond : starts[second]? = some secondStart)
    (ordered : first ≤ second) :
    firstStart ≤ secondStart := by
  obtain ⟨firstInside, rfl⟩ := List.getElem?_eq_some_iff.mp isFirst
  obtain ⟨secondInside, rfl⟩ := List.getElem?_eq_some_iff.mp isSecond
  rcases Nat.lt_or_eq_of_le ordered with isBefore | rfl
  · exact Nat.le_of_lt
      (List.pairwise_iff_getElem.mp increases first second firstInside secondInside isBefore)
  · exact Nat.le_refl _

/-- The first `low` lines start up to an offset, and none from `high` on does. -/
structure Separates (starts : List Nat) (offset low high : Nat) : Prop where
  ordered : low ≤ high
  inside : high ≤ starts.length
  upTo : ∀ index start, starts[index]? = some start → index < low → start ≤ offset
  beyond : ∀ index start, starts[index]? = some start → high ≤ index → offset < start

namespace Separates

variable {starts : List Nat} {offset low high : Nat}

/-- Halving ends at the number of lines that start up to the offset. -/
theorem countStarts
    (increases : starts.Pairwise (· < ·))
    (separates : Separates starts offset low high) :
    Separates starts offset
      (ExpandedUnit.countStarts starts offset low high)
      (ExpandedUnit.countStarts starts offset low high) := by
  fun_induction ExpandedUnit.countStarts starts offset low high with
  | case1 low high isOpen middle startsUpTo inductionHypothesis =>
      obtain ⟨middleStart, isMiddle, upTo⟩ := (Option.any_eq_true _ _).mp startsUpTo
      refine inductionHypothesis ⟨by omega, separates.inside, ?_, separates.beyond⟩
      intro index start isStart below
      have sorted := start_le_of_le increases isStart isMiddle (Nat.le_of_lt_succ below)
      exact Nat.le_trans sorted (of_decide_eq_true upTo)
  | case2 low high isOpen middle startsBeyond inductionHypothesis =>
      have middleInside : middle < starts.length := by
        have inside := separates.inside
        omega
      have isMiddle := List.getElem?_eq_getElem middleInside
      rw [isMiddle, Option.any_some, decide_eq_true_eq, Nat.not_le] at startsBeyond
      refine inductionHypothesis
        ⟨by omega, Nat.le_of_lt middleInside, separates.upTo, ?_⟩
      intro index start isStart above
      exact Nat.lt_of_lt_of_le startsBeyond (start_le_of_le increases isMiddle isStart above)
  | case3 low high isClosed =>
      have same : low = high := Nat.le_antisymm separates.ordered (Nat.le_of_not_lt isClosed)
      exact same ▸ separates

theorem unique
    {count other : Nat}
    (separates : Separates starts offset count count)
    (others : Separates starts offset other other) :
    count = other := by
  have notLess
      {count other : Nat}
      (separates : Separates starts offset count count)
      (others : Separates starts offset other other) :
      ¬ count < other := by
    intro isLess
    have isStart := List.getElem?_eq_getElem (Nat.lt_of_lt_of_le isLess others.inside)
    exact absurd (others.upTo count _ isStart isLess)
      (Nat.not_le_of_lt (separates.beyond count _ isStart (Nat.le_refl _)))
  exact Nat.le_antisymm
    (Nat.le_of_not_lt (notLess others separates))
    (Nat.le_of_not_lt (notLess separates others))

/-- The line that holds an offset is the last one that starts up to it. -/
theorem of_holdsOffset
    {before after : List ExpandedLine}
    {line : ExpandedLine}
    (startsUpTo : span before ≤ offset)
    (ends : offset < span before + lineLength line ∨ after = []) :
    Separates (startsFrom 0 (before ++ line :: after)) offset
      (before.length + 1) (before.length + 1) := by
  have increases := startsFrom_increases 0 (before ++ line :: after)
  have around := startsFrom_around before line after
  have isLine :
      (startsFrom 0 (before ++ line :: after))[before.length]? = some (span before) := by
    rw [around, List.getElem?_append_right (by simp), length_startsFrom,
      Nat.sub_self, List.getElem?_cons_zero]
  refine ⟨Nat.le_refl _, ?_, ?_, ?_⟩
  · rw [length_startsFrom, List.length_append, List.length_cons]
    omega
  · intro index start isStart below
    exact Nat.le_trans
      (start_le_of_le increases isStart isLine (Nat.le_of_lt_succ below)) startsUpTo
  · intro index start isStart above
    obtain ⟨further, rfl⟩ := Nat.exists_eq_add_of_le above
    have isAfter :
        (startsFrom (span before + lineLength line) after)[further]? = some start := by
      rw [← isStart, around, List.getElem?_append_right (by simp; omega),
        length_startsFrom,
        show before.length + 1 + further - before.length = further + 1 by omega,
        List.getElem?_cons_succ]
    obtain ⟨between, other, others, isSplit, rfl⟩ :=
      mem_startsFrom_iff.mp (List.mem_of_getElem? isAfter)
    rcases ends with inside | rfl
    · omega
    · exact absurd isSplit.symm
        (List.append_ne_nil_of_right_ne_nil _ (List.cons_ne_nil _ _))

end Separates

/-- Halving finds the line that holds an offset. -/
theorem countStarts_of_holdsOffset
    {before after : List ExpandedLine}
    {line : ExpandedLine}
    {offset : Nat}
    (startsUpTo : span before ≤ offset)
    (ends : offset < span before + lineLength line ∨ after = []) :
    let starts := startsFrom 0 (before ++ line :: after)
    countStarts starts offset 0 starts.length = before.length + 1 := by
  intro starts
  have all : Separates starts offset 0 starts.length :=
    ⟨Nat.zero_le _, Nat.le_refl _, fun _ _ _ => nofun,
      fun index start isStart above =>
        absurd (List.getElem?_eq_some_iff.mp isStart).1 (Nat.not_lt_of_le above)⟩
  exact (all.countStarts (startsFrom_increases 0 _)).unique
    (.of_holdsOffset startsUpTo ends)

end ExpandedUnit

end ShaderBuild
