import ShaderBuild.Text.Lines
import ShaderBuild.Text.Space

namespace ShaderBuild.Text

/-!
# Lines put together and taken apart

Lines hold no line feed. A text that is put together from such lines falls into the
same lines again, but that a carriage return at the end of a line is taken for a
part of the line's end.
-/

/-- A line without the carriage return at its end, if there is one. -/
def dropReturn (line : List Char) : List Char :=
  if line.getLast? = some '\r' then line.dropLast else line

/-- The long text is the short one, perhaps with a carriage return after it. -/
def DropsReturn (short long : List Char) : Prop :=
  long = short ∨ long = short ++ ['\r']

theorem dropsReturn_dropReturn (line : List Char) :
    DropsReturn (dropReturn line) line := by
  unfold dropReturn
  split
  · rename_i endsInReturn
    right
    obtain ⟨before, rfl⟩ := List.getLast?_eq_some_iff.mp endsInReturn
    rw [List.dropLast_concat]
  · exact .inl rfl

theorem dropReturn_of_getLast?_ne
    {line : List Char}
    (noReturn : line.getLast? ≠ some '\r') :
    dropReturn line = line :=
  if_neg noReturn

theorem dropReturn_cons
    (c : Char)
    {line : List Char}
    (nonempty : line ≠ []) :
    dropReturn (c :: line) = c :: dropReturn line := by
  obtain ⟨first, others, rfl⟩ := List.exists_cons_of_ne_nil nonempty
  unfold dropReturn
  rw [List.getLast?_cons_cons, List.dropLast_cons_cons]
  split <;> rfl

/-- No line of a text holds a line feed. -/
theorem lineFeed_notMem_of_mem_lines
    {text line : List Char}
    (member : line ∈ lines text) :
    '\n' ∉ line := by
  fun_induction lines text generalizing line with
  | case1 =>
      cases member
  | case2 rest inductionHypothesis | case3 rest inductionHypothesis =>
      rcases List.mem_cons.mp member with rfl | member
      · exact List.not_mem_nil
      · exact inductionHypothesis member
  | case4 c rest notFeed notEnd isEmpty inductionHypothesis =>
      rw [List.mem_singleton] at member
      subst line
      simpa using fun same : '\n' = c => notFeed same.symm
  | case5 c rest notFeed notEnd first others shape inductionHypothesis =>
      rw [shape] at inductionHypothesis
      rcases List.mem_cons.mp member with rfl | member
      · rw [List.mem_cons, not_or]
        exact ⟨fun same => notFeed same.symm,
          inductionHypothesis List.mem_cons_self⟩
      · exact inductionHypothesis (List.mem_cons_of_mem _ member)

/-- The first line of a text, up to its line feed. -/
theorem lines_append_lineFeed
    {line : List Char}
    (noFeed : '\n' ∉ line)
    (rest : List Char) :
    lines (line ++ '\n' :: rest) = dropReturn line :: lines rest := by
  induction line with
  | nil =>
      rfl
  | cons c others inductionHypothesis =>
      rw [List.mem_cons, not_or] at noFeed
      obtain ⟨notFeed, othersNoFeed⟩ := noFeed
      cases others with
      | nil =>
          by_cases isReturn : c = '\r'
          · subst c
            rfl
          · have goesOn : lines (c :: '\n' :: rest) = [c] :: lines rest := by
              rw [lines]
              · rfl
              · exact fun same => notFeed same.symm
              · rintro others rfl -
                exact isReturn rfl
            rw [List.singleton_append, goesOn,
              dropReturn_of_getLast?_ne (by simpa using isReturn)]
      | cons second others =>
          have next : '\n' ≠ second := by
            rintro rfl
            exact othersNoFeed List.mem_cons_self
          have goesOn :
              lines (c :: (second :: others ++ '\n' :: rest)) =
                (c :: dropReturn (second :: others)) :: lines rest := by
            rw [lines]
            · rw [inductionHypothesis othersNoFeed]
            · exact fun same => notFeed same.symm
            · rintro tail - same
              exact next (List.cons.inj same).1.symm
          rw [dropReturn_cons c (List.cons_ne_nil _ _)]
          exact goesOn

/-- A text put together from lines falls into them, without their carriage returns. -/
theorem lines_unlines
    {texts : List (List Char)}
    (noFeeds : ∀ line ∈ texts, '\n' ∉ line) :
    lines (unlines texts) = texts.map dropReturn := by
  induction texts with
  | nil =>
      rfl
  | cons line others inductionHypothesis =>
      rw [unlines_cons, lines_append_lineFeed (noFeeds line List.mem_cons_self),
        inductionHypothesis
          (fun other member => noFeeds other (List.mem_cons_of_mem _ member))]
      rfl

end ShaderBuild.Text
