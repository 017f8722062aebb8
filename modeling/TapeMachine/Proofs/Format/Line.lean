import TapeMachine.Format.Report

/-!
# The lines of a text

Cutting a text goes through it character by character and counts them.  How a
text is composed of lines says nothing about characters before it: a text is one
line, or it is a line, a line end and a text composed of the other lines.

The two agree on every text, wherever it stands.  A carriage return before a
line feed is no line end of its own, so no text is composed of lines in two ways.
-/

namespace TapeMachine.Format

/-- A line holds no line feed and no carriage return. -/
def IsLineText (line : List Char) : Prop :=
  ∀ c ∈ line, isLineEnd c = false

/-- The text is composed of the lines and of the line ends between them. -/
inductive Splits : List Char → List (List Char) → Prop where
  | last {line : List Char}
      (isLine : IsLineText line) :
      Splits line [line]
  | feed {line rest : List Char} {lines : List (List Char)}
      (isLine : IsLineText line) (others : Splits rest lines) :
      Splits (line ++ '\n' :: rest) (line :: lines)
  | pair {line rest : List Char} {lines : List (List Char)}
      (isLine : IsLineText line) (others : Splits rest lines) :
      Splits (line ++ '\r' :: '\n' :: rest) (line :: lines)
  | carriage {line rest : List Char} {lines : List (List Char)}
      (isLine : IsLineText line) (alone : rest.head? ≠ some '\n')
      (others : Splits rest lines) :
      Splits (line ++ '\r' :: rest) (line :: lines)

theorem isLineText_nil : IsLineText [] := by
  simp [IsLineText]

theorem isLineText_cons
    {c : Char} {line : List Char} :
    IsLineText (c :: line) ↔ isLineEnd c = false ∧ IsLineText line := by
  simp [IsLineText]

theorem Keyword.letters_isLineText (keyword : Keyword) :
    IsLineText keyword.letters := by
  cases keyword <;> simp [IsLineText, Keyword.letters, isLineEnd]

theorem Splits.ne_nil
    {text : List Char} {lines : List (List Char)}
    (splits : Splits text lines) :
    lines ≠ [] := by
  cases splits <;> simp

/-- The lines a text is composed of hold only characters of the text. -/
theorem Splits.subset
    {text line : List Char} {lines : List (List Char)}
    (splits : Splits text lines)
    (member : line ∈ lines) :
    line ⊆ text := by
  induction splits with
  | last isLine =>
      rw [List.mem_singleton] at member
      exact member ▸ List.Subset.refl _
  | feed isLine others induction
  | pair isLine others induction
  | carriage isLine alone others induction =>
      rcases List.mem_cons.mp member with rfl | member
      · exact List.subset_append_left _ _
      · intro c memberLine
        simp [induction member memberLine]

theorem Splits.isLineText
    {text line : List Char} {lines : List (List Char)}
    (splits : Splits text lines)
    (member : line ∈ lines) :
    IsLineText line := by
  induction splits with
  | last isLine =>
      rw [List.mem_singleton] at member
      exact member ▸ isLine
  | feed isLine others induction
  | pair isLine others induction
  | carriage isLine alone others induction =>
      rcases List.mem_cons.mp member with rfl | member
      · exact isLine
      · exact induction member

/-- A character that ends no line belongs to the first one. -/
theorem Splits.cons
    {c : Char} {rest line : List Char} {lines : List (List Char)}
    (within : isLineEnd c = false)
    (splits : Splits rest (line :: lines)) :
    Splits (c :: rest) ((c :: line) :: lines) := by
  cases splits with
  | last isLine =>
      exact .last (isLineText_cons.mpr ⟨within, isLine⟩)
  | feed isLine others =>
      exact .feed (isLineText_cons.mpr ⟨within, isLine⟩) others
  | pair isLine others =>
      exact .pair (isLineText_cons.mpr ⟨within, isLine⟩) others
  | carriage isLine alone others =>
      exact .carriage (isLineText_cons.mpr ⟨within, isLine⟩) alone others

/-! ## Cutting -/

namespace Line

@[simp]
theorem cut_nil (offset : Nat) :
    cut offset [] = [{ offset, text := [] }] := by
  simp [cut]

@[simp]
theorem cut_feed (offset : Nat) (rest : List Char) :
    cut offset ('\n' :: rest) =
      { offset, text := [] } :: cut (offset + 1) rest := by
  simp [cut]

@[simp]
theorem cut_pair (offset : Nat) (rest : List Char) :
    cut offset ('\r' :: '\n' :: rest) =
      { offset, text := [] } :: cut (offset + 2) rest := by
  simp [cut]

theorem cut_carriage
    {rest : List Char}
    (alone : rest.head? ≠ some '\n')
    (offset : Nat) :
    cut offset ('\r' :: rest) =
      { offset, text := [] } :: cut (offset + 1) rest := by
  cases rest with
  | nil => simp [cut]
  | cons c rest =>
      have other : c ≠ '\n' := by simpa using alone
      simp [cut, other]

theorem cut_cons
    {c : Char}
    (within : isLineEnd c = false)
    (offset : Nat) (rest : List Char) :
    cut offset (c :: rest) =
      consFirst offset c (cut (offset + 1) rest) := by
  simp only [isLineEnd, Bool.or_eq_false_iff, beq_eq_false_iff_ne] at within
  rw [cut]
  · rw [if_neg (by simpa using within)]
  · rintro _ rfl
    exact (within.2 rfl).elim

theorem map_text_consFirst
    {lines : List Line} {first : List Char} {more : List (List Char)}
    (texts : lines.map Line.text = first :: more)
    (offset : Nat) (c : Char) :
    (consFirst offset c lines).map Line.text = (c :: first) :: more := by
  cases lines with
  | nil => cases texts
  | cons line lines =>
      cases texts
      rfl

/-- Where a line end begins the text, the line in front of it becomes the first line. -/
theorem map_text_cut_append
    {line rest : List Char} {more : List (List Char)}
    (isLine : IsLineText line)
    (ended : ∀ offset, (cut offset rest).map Line.text = [] :: more)
    (offset : Nat) :
    (cut offset (line ++ rest)).map Line.text = line :: more := by
  induction line generalizing offset with
  | nil => exact ended offset
  | cons c line induction =>
      rcases isLineText_cons.mp isLine with ⟨within, isLine⟩
      rw [List.cons_append, cut_cons within]
      exact map_text_consFirst (induction isLine (offset + 1)) offset c

end Line

theorem Splits.map_text_cut
    {text : List Char} {lines : List (List Char)}
    (splits : Splits text lines)
    (offset : Nat) :
    (Line.cut offset text).map Line.text = lines := by
  induction splits generalizing offset with
  | last isLine =>
      have cutWhole :=
        Line.map_text_cut_append isLine
          (fun offset => by rw [Line.cut_nil]; rfl) offset
      rwa [List.append_nil] at cutWhole
  | feed isLine others induction =>
      apply Line.map_text_cut_append isLine
      intro offset
      simp [induction]
  | pair isLine others induction =>
      apply Line.map_text_cut_append isLine
      intro offset
      simp [induction]
  | carriage isLine alone others induction =>
      apply Line.map_text_cut_append isLine
      intro offset
      simp [Line.cut_carriage alone, induction]

theorem splits_cut
    (offset : Nat) (text : List Char) :
    Splits text ((Line.cut offset text).map Line.text) := by
  fun_induction Line.cut offset text with
  | case1 offset =>
      exact .last isLineText_nil
  | case2 offset rest induction =>
      exact .pair isLineText_nil induction
  | case3 offset c rest notPair ended induction =>
      rcases ended with rfl | rfl
      · exact .feed isLineText_nil induction
      · refine .carriage isLineText_nil ?_ induction
        intro paired
        rcases List.head?_eq_some_iff.mp paired with ⟨rest', rfl⟩
        exact notPair rest' rfl rfl
  | case4 offset c rest notPair within induction =>
      have isWithin : isLineEnd c = false := by
        simpa [isLineEnd] using within
      cases texts : (Line.cut (offset + 1) rest).map Line.text with
      | nil => exact (induction.ne_nil texts).elim
      | cons first more =>
          rw [Line.map_text_consFirst texts]
          rw [texts] at induction
          exact induction.cons isWithin

/-! ## The first line -/

/-- A line end in front of a text. -/
inductive Ending : List Char → List Char → Prop where
  | feed {rest : List Char} :
      Ending ['\n'] rest
  | pair {rest : List Char} :
      Ending ['\r', '\n'] rest
  | carriage {rest : List Char} (alone : rest.head? ≠ some '\n') :
      Ending ['\r'] rest

/-- A text is one line, or a line and a line end in front of a text with the other lines. -/
theorem Line.cut_cases (offset : Nat) (text : List Char) :
    (IsLineText text ∧ cut offset text = [{ offset, text }]) ∨
      ∃ line ending rest,
        text = line ++ (ending ++ rest) ∧ IsLineText line ∧ Ending ending rest ∧
          cut offset text =
            { offset, text := line } ::
              cut (offset + (line ++ ending).length) rest := by
  fun_induction Line.cut offset text with
  | case1 offset =>
      exact Or.inl ⟨isLineText_nil, rfl⟩
  | case2 offset rest induction =>
      exact Or.inr ⟨[], ['\r', '\n'], rest, rfl, isLineText_nil, .pair, rfl⟩
  | case3 offset c rest notPair ended induction =>
      rcases ended with rfl | rfl
      · exact Or.inr ⟨[], ['\n'], rest, rfl, isLineText_nil, .feed, rfl⟩
      · refine Or.inr ⟨[], ['\r'], rest, rfl, isLineText_nil, .carriage ?_, rfl⟩
        intro paired
        rcases List.head?_eq_some_iff.mp paired with ⟨rest', rfl⟩
        exact notPair rest' rfl rfl
  | case4 offset c rest notPair within induction =>
      have isWithin : isLineEnd c = false := by
        simpa [isLineEnd] using within
      rcases induction with
        ⟨isLine, cutRest⟩ | ⟨line, ending, rest', rfl, isLine, ended, cutRest⟩
      · exact Or.inl ⟨isLineText_cons.mpr ⟨isWithin, isLine⟩, by rw [cutRest]; rfl⟩
      · refine
          Or.inr
            ⟨c :: line, ending, rest', rfl,
              isLineText_cons.mpr ⟨isWithin, isLine⟩, ended, ?_⟩
        rw [cutRest, consFirst]
        simp [Nat.add_assoc, Nat.add_comm 1]

theorem Ending.length_lt
    {ending rest : List Char}
    (ended : Ending ending rest) :
    rest.length < (ending ++ rest).length := by
  cases ended with
  | feed | carriage alone => exact Nat.lt_succ_self _
  | pair => exact Nat.lt_succ_of_lt (Nat.lt_succ_self _)

/-- What holds of the last line, and of a line in front of lines it holds of, holds of all. -/
theorem Line.cut_induction
    {motive : Nat → List Char → List Line → Prop}
    (last :
      ∀ offset text, IsLineText text → motive offset text [{ offset, text }])
    (ended :
      ∀ offset line ending rest, IsLineText line → Ending ending rest →
        motive (offset + (line ++ ending).length) rest
            (cut (offset + (line ++ ending).length) rest) →
          motive offset (line ++ (ending ++ rest))
            ({ offset, text := line } ::
              cut (offset + (line ++ ending).length) rest))
    (offset : Nat) (text : List Char) :
    motive offset text (cut offset text) := by
  rcases cut_cases offset text with
    ⟨isLine, isCut⟩ | ⟨line, ending, rest, composed, isLine, isEnding, isCut⟩
  · rw [isCut]
    exact last offset text isLine
  · have shorter : rest.length < text.length := by
      rw [composed, List.length_append]
      exact Nat.lt_add_left line.length isEnding.length_lt
    rw [isCut, composed]
    exact
      ended offset line ending rest isLine isEnding
        (cut_induction last ended _ rest)
termination_by text.length

theorem Splits.unique
    {text : List Char} {lines lines' : List (List Char)}
    (splits : Splits text lines) (splits' : Splits text lines') :
    lines = lines' :=
  (splits.map_text_cut 0).symm.trans (splits'.map_text_cut 0)

end TapeMachine.Format
