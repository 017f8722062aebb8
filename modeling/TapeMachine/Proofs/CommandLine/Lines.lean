import TapeMachine.CommandLine.Session
import TapeMachine.Proofs.Text.Encoding

/-!
# Lines of input

The lines of an input are what stands between its line feeds; there are as many
of them as one likes, all that come after the end being empty.  Reading a line
takes the first of them and leaves the others, and succeeds if the bytes of this
line are those of a text.
-/

namespace TapeMachine.CommandLine

/-! ## Reading lines -/

/-- The bytes of a line of some input, without its end; lines after the end are empty. -/
def lineAt (input : List UInt8) (place : Nat) : List UInt8 :=
  (input.splitOn 10)[place]?.getD []

section Lines

variable
    {input line rest : List UInt8}

theorem takeLine_of_not_mem (noFeed : 10 ∉ input) :
    takeLine input = (input, []) := by
  induction input with
  | nil => rfl
  | cons byte input induction =>
      rw [List.mem_cons, not_or] at noFeed
      rw [takeLine, if_neg (Ne.symm noFeed.1), induction noFeed.2]

theorem takeLine_append (noFeed : 10 ∉ line) (rest : List UInt8) :
    takeLine (line ++ 10 :: rest) = (line ++ [10], rest) := by
  induction line with
  | nil => rfl
  | cons byte line induction =>
      rw [List.mem_cons, not_or] at noFeed
      rw [List.cons_append, takeLine, if_neg (Ne.symm noFeed.1),
        induction noFeed.2]
      rfl

theorem lineAt_of_not_mem (noFeed : 10 ∉ input) (place : Nat) :
    lineAt input place = if place = 0 then input else [] := by
  rw [lineAt, List.splitOn_eq_singleton noFeed]
  cases place <;> rfl

@[simp]
theorem lineAt_nil (place : Nat) : lineAt [] place = [] :=
  (lineAt_of_not_mem List.not_mem_nil place).trans (ite_self _)

theorem lineAt_append_zero (noFeed : 10 ∉ line) (rest : List UInt8) :
    lineAt (line ++ 10 :: rest) 0 = line := by
  rw [lineAt, List.splitOn_append_cons_self_of_not_mem noFeed]
  rfl

theorem lineAt_append_succ (noFeed : 10 ∉ line) (rest : List UInt8) (place : Nat) :
    lineAt (line ++ 10 :: rest) (place + 1) = lineAt rest place := by
  rw [lineAt, List.splitOn_append_cons_self_of_not_mem noFeed]
  rfl

/-- There is nothing in a line behind the last line feed and what follows it. -/
theorem lineAt_of_count_lt {place : Nat} (beyond : input.count 10 < place) :
    lineAt input place = [] := by
  induction place generalizing input with
  | zero => cases beyond
  | succ place induction =>
      by_cases feed : 10 ∈ input
      · rcases List.eq_append_cons_of_mem feed with ⟨line, rest, rfl, noFeed⟩
        rw [List.count_append, List.count_eq_zero_of_not_mem noFeed,
          List.count_cons_self] at beyond
        rw [lineAt_append_succ noFeed]
        exact induction (by omega)
      · rw [lineAt_of_not_mem feed, if_neg place.succ_ne_zero]

/-- What is left after the first line has the lines after it. -/
theorem lineAt_takeLine (input : List UInt8) (place : Nat) :
    lineAt (takeLine input).2 place = lineAt input (place + 1) := by
  by_cases feed : 10 ∈ input
  · rcases List.eq_append_cons_of_mem feed with ⟨line, rest, rfl, noFeed⟩
    rw [takeLine_append noFeed, lineAt_append_succ noFeed]
  · rw [takeLine_of_not_mem feed, lineAt_of_not_mem feed, if_neg place.succ_ne_zero]
    exact lineAt_nil place

theorem isText_takeLine_iff :
    IsText (takeLine input).1 ↔ IsText (lineAt input 0) := by
  by_cases feed : 10 ∈ input
  · rcases List.eq_append_cons_of_mem feed with ⟨line, rest, rfl, noFeed⟩
    rw [takeLine_append noFeed, lineAt_append_zero noFeed, isText_append_lineFeed_iff]
  · rw [takeLine_of_not_mem feed, lineAt_of_not_mem feed, if_pos rfl]

theorem readLine_of_isText (isText : IsText (lineAt input 0)) :
    ∃ text, readLine input = .ok (text, (takeLine input).2) := by
  rcases isText_iff.mp (isText_takeLine_iff.mpr isText) with ⟨text, encoded⟩
  refine ⟨String.ofList text, ?_⟩
  simp only [readLine, encoded, fromUTF8?_textBytes]

theorem readLine_of_not_isText (noText : ¬ IsText (lineAt input 0)) :
    readLine input = .error .notText := by
  rw [← isText_takeLine_iff] at noText
  simp only [readLine, fromUTF8?_eq_none_iff.mpr noText]

/-- The first line of a text is read as it stands, up to the line feed that ends it. -/
theorem readLine_textBytes
    {text : List Char}
    (noFeed : '\n' ∉ text) :
    readLine (textBytes text) = .ok (String.ofList text, []) := by
  have noByte : 10 ∉ textBytes text := fun feed => noFeed (mem_textBytes_iff.mp feed)
  simp only [readLine, takeLine_of_not_mem noByte, fromUTF8?_textBytes]

theorem readLine_textBytes_append
    {text : List Char}
    (noFeed : '\n' ∉ text)
    (rest : List UInt8) :
    readLine (textBytes text ++ 10 :: rest) =
      .ok (String.ofList (text ++ ['\n']), rest) := by
  have noByte : 10 ∉ textBytes text := fun feed => noFeed (mem_textBytes_iff.mp feed)
  have ended : textBytes text ++ [10] = textBytes (text ++ ['\n']) := by
    rw [textBytes_append]
    rfl
  simp only [readLine, takeLine_append noByte, ended, fromUTF8?_textBytes]

end Lines

end TapeMachine.CommandLine
