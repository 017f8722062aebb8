import Mathlib.Data.String.Basic
import Mathlib.Data.List.Nodup
import TapeMachine.Catalogue
import TapeMachine.Proofs.Format.RoundTrip

/-!
# The programs of the catalogue

The catalogue keeps texts, and a program is found by its name only if its text
can be read.  The names are distinct, so what is found is the program of that
name with the description that its text describes.

The description of a program is given here as data.  Its text is the standard
form of this description below a comment, which settles how the text is read.
-/

namespace TapeMachine.Catalogue

open Format

theorem mem_programs_iff
    {name sample : String} {description : Description} :
    { name, sample, description } ∈ programs ↔
      ∃ text : String, (name, sample, text) ∈ texts ∧
        Description.parse text = .ok description := by
  rw [programs, List.mem_filterMap]
  constructor
  · rintro ⟨⟨name', sample', text⟩, member, made⟩
    simp only at made
    split at made
    · next description' parsed =>
        cases made
        exact ⟨text, member, parsed⟩
    · cases made
  · rintro ⟨text, member, parsed⟩
    exact ⟨(name, sample, text), member, by simp [parsed]⟩

/-- No two programs share a name. -/
theorem eq_of_name_eq
    {program program' : Program}
    (member : program ∈ programs) (member' : program' ∈ programs)
    (sameName : program.name = program'.name) :
    program = program' := by
  rcases program with ⟨name, sample, description⟩
  rcases program' with ⟨name', sample', description'⟩
  obtain rfl : name = name' := sameName
  rcases mem_programs_iff.mp member with ⟨text, listed, parsed⟩
  rcases mem_programs_iff.mp member' with ⟨text', listed', parsed'⟩
  have distinct : (texts.map Prod.fst).Nodup := by simp [texts]
  have sameEntry :=
    List.inj_on_of_nodup_map distinct listed listed' rfl
  cases sameEntry
  rw [parsed] at parsed'
  cases parsed'
  rfl

theorem byName_of_mem
    {name sample : String} {description : Description}
    (member : { name, sample, description } ∈ programs) :
    byName name = .ok { name, sample, description } := by
  unfold byName
  cases found : programs.find? (·.name == name) with
  | none =>
      have noName := List.find?_eq_none.mp found _ member
      exact absurd (beq_self_eq_true name) noName
  | some program =>
      have member' := List.mem_of_find?_eq_some found
      have sameName := List.find?_some found
      rw [eq_of_name_eq member' member (by simpa using sameName)]
      rfl

/-- What can be read of a listed text is found by its name. -/
theorem byName_of_parse
    {name sample text : String} {description : Description}
    (listed : (name, sample, text) ∈ texts)
    (parsed : Description.parse text = .ok description) :
    byName name = .ok { name, sample, description } :=
  byName_of_mem (mem_programs_iff.mpr ⟨text, listed, parsed⟩)

/-- The characters of a comment, and of the standard form of a description below it. -/
def commentedForm
    (comment : List Char) (description : Description) : List Char :=
  ([comment].map ('#' :: ·) ++ linesOf description).flatMap (· ++ ['\n'])

/-- A text that spells a comment and the standard form of a description below it is read as it. -/
theorem parse_of_spelled
    {text : String} {comment : List Char} {description : Description}
    (spelled : text = String.ofList (commentedForm comment description))
    (within :
      String.utf8Len (commentedForm comment description) ≤ sizeLimit)
    (noLineEnd : comment.all (!isLineEnd ·) = true)
    (writable : description.Writable)
    (hasRules : description.transitions ≠ []) :
    Description.parse text = .ok description := by
  have composed : text.toList = commentedForm comment description := by
    rw [spelled, String.toList_ofList]
  have within' : text.utf8ByteSize ≤ sizeLimit := by
    rwa [spelled, String.utf8ByteSize_ofList]
  have isLine : ∀ comment' ∈ [comment], IsLineText comment' := by
    simpa [IsLineText] using noLineEnd
  exact
    parse_of_comments_append_linesOf within' composed isLine writable
      (Or.inl hasRules)

/-! ## The palindrome program -/

/-- What the text of the palindrome program describes. -/
def palindrome : Description where
  start := "q0"
  accept := "qA"
  reject := "qR"
  blank := '_'
  transitions := [
    ⟨"q0", 'a', "qa", '_', .right⟩,
    ⟨"q0", 'b', "qb", '_', .right⟩,
    ⟨"q0", '_', "qA", '_', .stay⟩,
    ⟨"qa", 'a', "qa", 'a', .right⟩,
    ⟨"qa", 'b', "qa", 'b', .right⟩,
    ⟨"qa", '_', "qa1", '_', .left⟩,
    ⟨"qa1", 'a', "back", '_', .left⟩,
    ⟨"qa1", '_', "qA", '_', .stay⟩,
    ⟨"qb", 'a', "qb", 'a', .right⟩,
    ⟨"qb", 'b', "qb", 'b', .right⟩,
    ⟨"qb", '_', "qb1", '_', .left⟩,
    ⟨"qb1", 'b', "back", '_', .left⟩,
    ⟨"qb1", '_', "qA", '_', .stay⟩,
    ⟨"back", 'a', "back", 'a', .left⟩,
    ⟨"back", 'b', "back", 'b', .left⟩,
    ⟨"back", '_', "q0", '_', .right⟩]

/-- The letters of the comment above the palindrome program. -/
def palindromeComment : List Char :=
  " Accepts palindromes over \x7ba, b\x7d.".toList

set_option maxRecDepth 4000 in
theorem palindromeText_eq_ofList :
    palindromeText =
      String.ofList (commentedForm palindromeComment palindrome) := by
  simp only [commentedForm, palindrome, linesOf, headerLine,
    Keyword.letters, Transition.line, Direction.mark, String.toList_ofList,
    List.map_cons, List.map_nil, List.cons_append, List.nil_append,
    List.flatMap_cons, List.flatMap_nil, List.append_assoc]
  simp only [String.reduceToList, List.cons_append, List.nil_append]
  -- The text is not decoded: both sides are built from the same characters.
  rfl

theorem parse_palindromeText :
    Description.parse palindromeText = .ok palindrome :=
  parse_of_spelled palindromeText_eq_ofList (by decide +kernel)
    (by decide +kernel) (by decide +kernel) (by decide)

theorem byName_palindrome :
    byName "palindrome" = .ok ⟨"palindrome", "abba", palindrome⟩ :=
  byName_of_parse (by simp [texts]) parse_palindromeText

/-! ## The increment program -/

/-- What the text of the increment program describes. -/
def binaryIncrement : Description where
  start := "right"
  accept := "done"
  reject := "qR"
  blank := 'B'
  transitions := [
    ⟨"right", '0', "right", '0', .right⟩,
    ⟨"right", '1', "right", '1', .right⟩,
    ⟨"right", 'B', "carry", 'B', .left⟩,
    ⟨"carry", '1', "carry", '0', .left⟩,
    ⟨"carry", '0', "done", '1', .stay⟩,
    ⟨"carry", 'B', "done", '1', .stay⟩]

/-- The letters of the comment above the increment program. -/
def binaryIncrementComment : List Char :=
  " Adds one to a binary number, most significant bit first.".toList

set_option maxRecDepth 4000 in
theorem binaryIncrementText_eq_ofList :
    binaryIncrementText =
      String.ofList
        (commentedForm binaryIncrementComment binaryIncrement) := by
  simp only [commentedForm, binaryIncrement, linesOf, headerLine,
    Keyword.letters, Transition.line, Direction.mark, String.toList_ofList,
    List.map_cons, List.map_nil, List.cons_append, List.nil_append,
    List.flatMap_cons, List.flatMap_nil, List.append_assoc]
  simp only [String.reduceToList, List.cons_append, List.nil_append]
  rfl

theorem parse_binaryIncrementText :
    Description.parse binaryIncrementText = .ok binaryIncrement :=
  parse_of_spelled binaryIncrementText_eq_ofList (by decide +kernel)
    (by decide +kernel) (by decide +kernel) (by decide)

theorem byName_binaryIncrement :
    byName "binary-increment" =
      .ok ⟨"binary-increment", "1011", binaryIncrement⟩ :=
  byName_of_parse (by simp [texts]) parse_binaryIncrementText

/-! ## The addition program -/

/-- What the text of the addition program describes. -/
def unaryAddition : Description where
  start := "scan"
  accept := "done"
  reject := "qR"
  blank := 'B'
  transitions := [
    ⟨"scan", '1', "scan", '1', .right⟩,
    ⟨"scan", '+', "scan", '1', .right⟩,
    ⟨"scan", 'B', "trim", 'B', .left⟩,
    ⟨"trim", '1', "done", 'B', .stay⟩]

/-- The letters of the comment above the addition program. -/
def unaryAdditionComment : List Char :=
  " Adds two unary numbers separated by '+'.".toList

set_option maxRecDepth 4000 in
theorem unaryAdditionText_eq_ofList :
    unaryAdditionText =
      String.ofList (commentedForm unaryAdditionComment unaryAddition) := by
  simp only [commentedForm, unaryAddition, linesOf, headerLine,
    Keyword.letters, Transition.line, Direction.mark, String.toList_ofList,
    List.map_cons, List.map_nil, List.cons_append, List.nil_append,
    List.flatMap_cons, List.flatMap_nil, List.append_assoc]
  simp only [String.reduceToList, List.cons_append, List.nil_append]
  rfl

theorem parse_unaryAdditionText :
    Description.parse unaryAdditionText = .ok unaryAddition :=
  parse_of_spelled unaryAdditionText_eq_ofList (by decide +kernel)
    (by decide +kernel) (by decide +kernel) (by decide)

theorem byName_unaryAddition :
    byName "unary-addition" =
      .ok ⟨"unary-addition", "11+111", unaryAddition⟩ :=
  byName_of_parse (by simp [texts]) parse_unaryAdditionText

end TapeMachine.Catalogue
