import TapeMachine.Proofs.Format.Line
import TapeMachine.Proofs.Format.Statement

/-!
# Obstacles

A line that makes no statement is reported with an obstacle: what it lacks, and
what is left of it there.  The two go together.  A line that begins no statement
lacks one where its text begins; everything else that can be lacking belongs to a
statement that was begun, and is lacking behind the beginning.

So an obstacle lies between the first character that is no gap and the end of the
line.
-/

namespace TapeMachine.Format

variable
    {line rest : List Char}
    {obstacle : Obstacle}

theorem skipGap_suffix (text : List Char) : skipGap text <:+ text :=
  List.dropWhile_suffix _

theorem length_skipGap_le (text : List Char) :
    (skipGap text).length ≤ text.length :=
  (skipGap_suffix text).length_le

/-! ## Tokens -/

theorem require_eq_error_iff
    {Value : Type} {lack : Lack}
    {token? : List Char → Option (Value × List Char)} :
    require lack token? line = .error obstacle ↔
      token? line = none ∧ obstacle = { lack, rest := line } := by
  rw [require]
  cases token? line <;> simp [eq_comm]

/-- What follows a token is shorter than the text that begins with it. -/
def Shortens
    {Value : Type} (token? : List Char → Option (Value × List Char)) : Prop :=
  ∀ {text rest : List Char} {value : Value},
    token? text = some (value, rest) → rest.length < text.length

theorem stateName?_shortens : Shortens stateName? := by
  intro text rest name read
  rcases stateName?_eq_some_iff.mp read with ⟨letters, ⟨-, nonempty, -⟩, rfl, -⟩
  rw [List.length_append]
  exact Nat.lt_add_of_pos_left (List.length_pos_iff.mpr nonempty)

theorem symbol?_shortens : Shortens symbol? := by
  intro text rest symbol read
  rcases symbol?_eq_some_iff.mp read with ⟨rfl, -⟩
  exact Nat.lt_succ_self rest.length

theorem direction?_shortens : Shortens direction? := by
  intro text rest direction read
  rw [direction?_eq_some_iff.mp read]
  exact Nat.lt_succ_self rest.length

/-- A reader of a token and more fails at the token, or behind it. -/
theorem require_bind_eq_error
    {Value Value' : Type} {lack : Lack}
    {token? : List Char → Option (Value × List Char)}
    {read : Value × List Char → Except Obstacle Value'}
    (shortens : Shortens token?)
    (failed : require lack token? line >>= read = .error obstacle) :
    obstacle = { lack, rest := line } ∨
      ∃ value rest, token? line = some (value, rest) ∧
        (skipGap rest).length < line.length ∧
          read (value, rest) = .error obstacle := by
  rcases bind_eq_error_iff.mp failed with missing | ⟨⟨value, rest⟩, found, failed⟩
  · exact Or.inl (require_eq_error_iff.mp missing).2
  · have found := (require_eq_ok_iff lack).mp found
    exact
      Or.inr
        ⟨value, rest, found,
          (length_skipGap_le rest).trans_lt (shortens found), failed⟩

/-! ## Headers and transitions -/

/-- What the text of a line can lack of a statement, and where. -/
inductive MetIn (text : List Char) : Obstacle → Prop where
  | opening : MetIn text { lack := .opening, rest := text }
  | statement : MetIn text { lack := .statement, rest := text }
  | state {rest : List Char} (behind : rest.length < text.length) :
      MetIn text { lack := .state, rest }
  | symbol {rest : List Char} (behind : rest.length < text.length) :
      MetIn text { lack := .symbol, rest }
  | direction {rest : List Char} (behind : rest.length < text.length) :
      MetIn text { lack := .direction, rest }

theorem MetIn.length_le
    {text : List Char} (met : MetIn text obstacle) :
    obstacle.rest.length ≤ text.length := by
  cases met with
  | opening | statement => exact Nat.le_refl _
  | state behind | symbol behind | direction behind => exact behind.le

theorem MetIn.length_eq_iff
    {text : List Char} (met : MetIn text obstacle) :
    obstacle.rest.length = text.length ↔
      obstacle.lack = .opening ∨ obstacle.lack = .statement := by
  cases met with
  | opening | statement => simp
  | state behind | symbol behind | direction behind => simp [behind.ne]

theorem readHeader_eq_error
    {keyword : Keyword} {value : List Char}
    (failed : readHeader keyword value = .error obstacle) :
    obstacle = { lack := .state, rest := value } ∨
      obstacle = { lack := .symbol, rest := value } := by
  cases keyword <;> simp only [readHeader, require] at failed <;>
    split at failed <;> cases failed <;> simp

/-- Reads what stands behind the arrow of a transition. -/
def readTarget
    (make : String → Symbol → Direction → Transition) (text : List Char) :
    Except Obstacle (Transition × List Char) := do
  let (next, rest) ← require .state stateName? text
  let (write, rest) ← require .symbol symbol? (skipGap rest)
  let (direction, rest) ← require .direction direction? (skipGap rest)
  return (make next write direction, rest)

theorem readTransition_eq :
    readTransition line = (do
      let (state, rest) ← require .opening stateName? line
      let (symbol, rest) ← require .symbol symbol? (skipGap rest)
      match afterMark? ['-', '>'] (skipGap rest) with
      | none => .error { lack := .statement, rest := line }
      | some rest =>
        readTarget ({ state, symbol, next := ·, write := ·, direction := · })
          (skipGap rest)) :=
  rfl

theorem metIn_of_readTarget
    {make : String → Symbol → Direction → Transition} {text : List Char}
    (failed : readTarget make line = .error obstacle)
    (behind : line.length < text.length) :
    MetIn text obstacle := by
  rcases require_bind_eq_error stateName?_shortens failed with
    rfl | ⟨next, afterNext, -, shorter, failed⟩
  · exact .state behind
  rcases require_bind_eq_error symbol?_shortens failed with
    rfl | ⟨write, afterWrite, -, shorter', failed⟩
  · exact .symbol (shorter.trans behind)
  rcases require_bind_eq_error direction?_shortens failed with
    rfl | ⟨direction, afterDirection, -, -, failed⟩
  · exact .direction (shorter'.trans (shorter.trans behind))
  · cases failed

theorem metIn_of_readTransition
    (failed : readTransition line = .error obstacle) :
    MetIn line obstacle := by
  rw [readTransition_eq] at failed
  rcases require_bind_eq_error stateName?_shortens failed with
    rfl | ⟨state, afterState, -, shorter, failed⟩
  · exact .opening
  rcases require_bind_eq_error symbol?_shortens failed with
    rfl | ⟨symbol, afterSymbol, -, shorter', failed⟩
  · exact .symbol shorter
  simp only at failed
  split at failed
  · cases failed
    exact .statement
  · next afterArrow arrow =>
      apply metIn_of_readTarget failed
      have behindArrow := congrArg List.length (afterMark?_eq_some_iff.mp arrow)
      rw [List.length_append] at behindArrow
      have skipped := length_skipGap_le afterArrow
      omega

/-! ## Statements -/

/-- Reads the statement that a text begins with, whatever stands behind it. -/
def readFront (text : List Char) : Except Obstacle (Statement × List Char) :=
  match Keyword.opening? text with
  | some (keyword, value) =>
    (readHeader keyword value).map (Prod.map Statement.header id)
  | none => (readTransition text).map (Prod.map Statement.transition id)

theorem read_eq_readFront
    (nonempty : skipGap line ≠ [])
    (noComment : (skipGap line).head? ≠ some '#') :
    Statement.read line =
      readFront (skipGap line) >>= fun found => requireEnd found.1 found.2 := by
  unfold Statement.read readFront
  split
  · next nothing => exact (nonempty nothing).elim
  · next commented =>
      rw [commented] at noComment
      exact (noComment rfl).elim
  · cases Keyword.opening? (skipGap line) with
    | none => cases readTransition (skipGap line) <;> rfl
    | some found =>
        rcases found with ⟨keyword, value⟩
        simp only
        cases readHeader keyword value <;> rfl

theorem Keyword.length_value?_lt
    {keyword : Keyword} {text value : List Char}
    (opens : Keyword.opening? text = some (keyword, value)) :
    value.length < text.length := by
  rcases Keyword.value?_eq_some_iff.mp (Keyword.opening?_eq_some_iff.mp opens) with
    ⟨before, after, rfl, -⟩
  simp only [List.length_append, List.length_cons]
  omega

theorem metIn_of_readFront
    {text : List Char}
    (failed : readFront text = .error obstacle) :
    MetIn text obstacle := by
  unfold readFront at failed
  split at failed
  · next keyword value opens =>
      have behind := Keyword.length_value?_lt opens
      rcases readHeader_eq_error (map_eq_error_iff.mp failed) with rfl | rfl
      · exact .state behind
      · exact .symbol behind
  · exact metIn_of_readTransition (map_eq_error_iff.mp failed)

/-- What is read of a text is a part in front, which does not end in a gap. -/
theorem exists_front_of_readFront
    {text : List Char} {statement : Statement}
    (read : readFront text = .ok (statement, rest)) :
    ∃ front, front ≠ [] ∧ text = front ++ rest ∧
      BeginsOutside isGap front.reverse := by
  unfold readFront at read
  split at read
  · next keyword value opens =>
      rcases map_eq_ok_iff.mp read with ⟨⟨made, rest⟩, readValue, same⟩
      cases same
      rcases readHeader_eq_ok_iff.mp readValue with ⟨-, written, isValue, rfl, -⟩
      rcases Keyword.value?_eq_some_iff.mp
          (Keyword.opening?_eq_some_iff.mp opens) with
        ⟨before, after, rfl, -⟩
      exact
        ⟨keyword.letters ++ before ++ ':' :: after ++ written, by simp, by simp,
          isValue.beginsOutside_reverse _⟩
  · rcases map_eq_ok_iff.mp read with ⟨⟨made, rest⟩, readAll, same⟩
    cases same
    rcases readTransition_eq_ok_iff.mp readAll with
      ⟨left, first, second, right, third, rfl, -⟩
    refine
      ⟨left ++ first ++ '-' :: '>' ::
          (second ++ right ++ third ++ [made.direction.mark]), by simp, by simp, ?_⟩
    cases made.direction <;> simp [Direction.mark, isGap]

theorem length_lt_of_readFront
    {text : List Char} {statement : Statement}
    (read : readFront text = .ok (statement, rest)) :
    rest.length < text.length := by
  rcases exists_front_of_readFront read with ⟨front, nonempty, rfl, -⟩
  rw [List.length_append]
  exact Nat.lt_add_of_pos_left (List.length_pos_iff.mpr nonempty)

theorem requireEnd_eq_error_iff
    {Value : Type} {made : Value} {text : List Char} :
    requireEnd made text = .error obstacle ↔
      skipGap text ≠ [] ∧
        obstacle = { lack := .lineEnd, rest := skipGap text } := by
  unfold requireEnd
  split
  · next nothing => simp [nothing]
  · next more =>
      simp only [Except.error.injEq]
      constructor
      · rintro rfl
        exact ⟨more, rfl⟩
      · rintro ⟨-, rfl⟩
        rfl

/-- A line makes no statement if it begins none, or if something stands behind the statement. -/
theorem read_eq_error_iff :
    Statement.read line = .error obstacle ↔
      skipGap line ≠ [] ∧ (skipGap line).head? ≠ some '#' ∧
        (readFront (skipGap line) = .error obstacle ∨
          ∃ statement rest, readFront (skipGap line) = .ok (statement, rest) ∧
            skipGap rest ≠ [] ∧
              obstacle = { lack := .lineEnd, rest := skipGap rest }) := by
  by_cases nonempty : skipGap line = []
  · simp [read_of_skipGap_eq_nil nonempty, nonempty]
  by_cases commented : (skipGap line).head? = some '#'
  · rcases List.head?_eq_some_iff.mp commented with ⟨text, body⟩
    simp [read_of_comment body, body]
  rw [read_eq_readFront nonempty commented, bind_eq_error_iff]
  simp [nonempty, commented, requireEnd_eq_error_iff]

/-- An obstacle lies in the text of its line. -/
theorem length_rest_le_of_read
    (failed : Statement.read line = .error obstacle) :
    obstacle.rest.length ≤ (skipGap line).length := by
  rcases read_eq_error_iff.mp failed with
    ⟨-, -, failed | ⟨statement, rest, read, -, rfl⟩⟩
  · exact (metIn_of_readFront failed).length_le
  · exact (length_skipGap_le rest).trans (length_lt_of_readFront read).le

/-- Only a line that begins no statement is left as a whole. -/
theorem lack_of_length_rest_eq
    (failed : Statement.read line = .error obstacle)
    (same : obstacle.rest.length = line.length) :
    obstacle.lack = .opening ∨ obstacle.lack = .statement := by
  have skipped := length_skipGap_le line
  rcases read_eq_error_iff.mp failed with
    ⟨-, -, failed | ⟨statement, rest, read, -, rfl⟩⟩
  · have met := metIn_of_readFront failed
    have within := met.length_le
    exact met.length_eq_iff.mp (by omega)
  · have behind := length_lt_of_readFront read
    have skippedRest := length_skipGap_le rest
    simp only at same
    omega

end TapeMachine.Format
