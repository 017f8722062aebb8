import TapeMachine.Proofs.Format.Token
import TapeMachine.Proofs.Success

/-!
# Statements are read as they are written

The reader of a line decides early what a line is to be, and then insists: a
line that opens with a keyword and a colon is a header or nothing, and a state
name goes on as long as it can.  The grammar of a line knows no reader and says
only how a line is composed.

This module shows that both mean the same: a statement is read from a line
exactly when the line makes that statement.
-/

namespace TapeMachine.Format

theorem require_eq_ok_iff
    {Value : Type} (lack : Lack)
    {token? : List Char → Option (Value × List Char)}
    {text : List Char} {found : Value × List Char} :
    require lack token? text = .ok found ↔ token? text = some found := by
  unfold require
  split
  · next read => simp [read]
  · next unread => simp [unread]

theorem requireEnd_eq_ok_iff
    {Value : Type} {made result : Value} {text : List Char} :
    requireEnd made text = .ok result ↔
      made = result ∧ IsGapText text := by
  unfold requireEnd
  split
  · next atEnd => simp [← skipGap_eq_nil_iff, atEnd]
  · next more =>
      have notEnd : skipGap text ≠ [] := more
      simp [← skipGap_eq_nil_iff, notEnd]

/-! ## Keywords -/

theorem Keyword.value?_eq_some_iff
    {keyword : Keyword} {line value : List Char} :
    keyword.value? line = some value ↔
      ∃ before after,
        line = keyword.letters ++ before ++ ':' :: (after ++ value) ∧
          IsGapText before ∧ IsGapText after ∧ BeginsOutside isGap value := by
  simp only [Keyword.value?, Option.bind_eq_bind, Option.bind_eq_some_iff,
    afterMark?_eq_some_iff, Option.pure_def, Option.some.injEq]
  constructor
  · rintro ⟨afterName, rfl, afterColon, colon, valued⟩
    rcases skipGap_eq_iff.mp colon with ⟨before, rfl, gapBefore, -⟩
    rcases skipGap_eq_iff.mp valued with ⟨after, rfl, gapAfter, outside⟩
    refine ⟨before, after, ?_, gapBefore, gapAfter, outside⟩
    simp
  · rintro ⟨before, after, rfl, gapBefore, gapAfter, outside⟩
    refine ⟨before ++ ':' :: (after ++ value), by simp, after ++ value, ?_, ?_⟩
    · exact skipGap_append gapBefore (by simp [isGap])
    · exact skipGap_append gapAfter outside

theorem Keyword.letters_ne_nil (keyword : Keyword) :
    keyword.letters ≠ [] := by
  cases keyword <;> simp [Keyword.letters]

/-- The four keywords begin with different letters. -/
theorem Keyword.head?_letters_injective
    {keyword keyword' : Keyword}
    (same : keyword.letters.head? = keyword'.letters.head?) :
    keyword = keyword' := by
  cases keyword <;> cases keyword' <;> simp [Keyword.letters] at same ⊢

theorem Keyword.head?_of_value?
    {keyword : Keyword} {line value : List Char}
    (opens : keyword.value? line = some value) :
    line.head? = keyword.letters.head? := by
  rcases Keyword.value?_eq_some_iff.mp opens with ⟨before, after, rfl, -⟩
  cases letters : keyword.letters with
  | nil => exact (keyword.letters_ne_nil letters).elim
  | cons c letters => rfl

theorem Keyword.opening?_eq_some_iff
    {keyword : Keyword} {line value : List Char} :
    Keyword.opening? line = some (keyword, value) ↔
      keyword.value? line = some value := by
  constructor
  · intro opens
    rcases List.exists_of_findSome?_eq_some opens with ⟨keyword', -, found⟩
    rcases Option.map_eq_some_iff.mp found with ⟨value', valued, same⟩
    cases same
    exact valued
  · intro valued
    have isOpening : (Keyword.opening? line).isSome = true := by
      rw [Keyword.opening?, List.findSome?_isSome_iff]
      refine ⟨keyword, ?_, by simp [valued]⟩
      cases keyword <;> simp [Keyword.all]
    rcases Option.isSome_iff_exists.mp isOpening with
      ⟨⟨keyword', value'⟩, opens⟩
    rcases List.exists_of_findSome?_eq_some opens with ⟨_, -, found⟩
    rcases Option.map_eq_some_iff.mp found with ⟨_, valued', same⟩
    cases same
    have sameHead :=
      (Keyword.head?_of_value? valued).symm.trans
        (Keyword.head?_of_value? valued')
    cases Keyword.head?_letters_injective sameHead
    rw [valued] at valued'
    cases valued'
    exact opens

theorem Keyword.opening?_eq_none_iff
    {line : List Char} :
    Keyword.opening? line = none ↔
      ∀ keyword : Keyword, keyword.value? line = none := by
  constructor
  · intro noOpening keyword
    cases valued : keyword.value? line with
    | none => rfl
    | some value =>
        rw [Keyword.opening?_eq_some_iff.mpr valued] at noOpening
        cases noOpening
  · intro noValue
    simp [Keyword.opening?, noValue]

/-! ## Headers -/

theorem map_require_eq_ok_iff
    {Value : Type} {lack : Lack}
    {token? : List Char → Option (Value × List Char)}
    {make : Value → Header} {header : Header} {text rest : List Char} :
    (require lack token? text).map (Prod.map make id) = .ok (header, rest) ↔
      ∃ value, token? text = some (value, rest) ∧ make value = header := by
  unfold require
  split
  · next found read =>
      rcases found with ⟨value, rest'⟩
      simp only [read, Except.map, Prod.map, id, Except.ok.injEq,
        Prod.mk.injEq, Option.some.injEq]
      constructor
      · rintro ⟨rfl, rfl⟩
        exact ⟨value, ⟨rfl, rfl⟩, rfl⟩
      · rintro ⟨_, ⟨rfl, rfl⟩, rfl⟩
        exact ⟨rfl, rfl⟩
  · next unread => simp [unread, Except.map]

theorem headerValue_iff
    {header : Header} {value : List Char} :
    HeaderValue header value ↔
      match header with
      | .start name => name = String.ofList value ∧ IsStateName value
      | .accept name => name = String.ofList value ∧ IsStateName value
      | .reject name => name = String.ofList value ∧ IsStateName value
      | .blank symbol => value = [symbol] ∧ IsSymbol symbol := by
  constructor
  · intro written
    cases written with
    | start isName => exact ⟨rfl, isName⟩
    | accept isName => exact ⟨rfl, isName⟩
    | reject isName => exact ⟨rfl, isName⟩
    | blank isSymbol => exact ⟨rfl, isSymbol⟩
  · intro written
    cases header with
    | start name =>
        rcases written with ⟨rfl, isName⟩
        exact .start isName
    | accept name =>
        rcases written with ⟨rfl, isName⟩
        exact .accept isName
    | reject name =>
        rcases written with ⟨rfl, isName⟩
        exact .reject isName
    | blank symbol =>
        rcases written with ⟨rfl, isSymbol⟩
        exact .blank isSymbol

/-- The value of a header is read as far as it goes; a symbol goes no further than itself. -/
theorem readHeader_eq_ok_iff
    {keyword : Keyword} {header : Header} {text rest : List Char} :
    readHeader keyword text = .ok (header, rest) ↔
      header.keyword = keyword ∧
        ∃ value, HeaderValue header value ∧ text = value ++ rest ∧
          (keyword ≠ .blank → BeginsOutside isNameChar rest) := by
  cases keyword with
  | blank =>
      cases header with
      | blank symbol =>
          constructor
          · intro read
            rcases map_require_eq_ok_iff.mp read with ⟨value, readValue, made⟩
            cases made
            rcases symbol?_eq_some_iff.mp readValue with ⟨rfl, isSymbol⟩
            exact
              ⟨rfl, [symbol], .blank isSymbol, rfl,
                fun other => (other rfl).elim⟩
          · rintro ⟨-, value, isValue, rfl, -⟩
            rcases headerValue_iff.mp isValue with ⟨rfl, isSymbol⟩
            exact
              map_require_eq_ok_iff.mpr
                ⟨symbol, symbol?_eq_some_iff.mpr ⟨rfl, isSymbol⟩, rfl⟩
      | start _ | accept _ | reject _ =>
          simp [readHeader, map_require_eq_ok_iff, Header.keyword]
  | start | accept | reject =>
      cases header <;>
        simp [readHeader, map_require_eq_ok_iff, headerValue_iff,
          Header.keyword, stateName?_eq_some_iff]

/-! ## Transitions -/

/-- Behind a state name either a gap stands or a colon. -/
theorem stateThenSymbol_iff
    {state : String} {symbol : Symbol} {text rest : List Char} :
    (∃ between, stateName? text = some (state, between) ∧
        symbol? (skipGap between) = some (symbol, rest)) ↔
      ∃ written, StateThenSymbol state symbol written ∧
        text = written ++ rest := by
  constructor
  · rintro ⟨between, readState, readSymbol⟩
    rcases stateName?_eq_some_iff.mp readState with
      ⟨letters, ⟨rfl, isName⟩, rfl, outside⟩
    rcases symbol?_eq_some_iff.mp readSymbol with ⟨skipped, isSymbol⟩
    rcases skipGap_eq_iff.mp skipped with ⟨gap, rfl, isGapText, -⟩
    refine
      ⟨letters ++ gap ++ [symbol],
        .intro isName isGapText isSymbol ?_, by simp⟩
    cases gap with
    | cons c gap => exact Or.inl (by simp)
    | nil =>
        right
        rw [List.nil_append, beginsOutside_cons] at outside
        simp only [IsSymbol] at isSymbol
        simpa [isNameChar, isSymbol] using outside
  · rintro ⟨written, ⟨isName, isGapText, isSymbol, apart⟩, rfl⟩
    rename_i letters gap
    refine ⟨gap ++ symbol :: rest, ?_, ?_⟩
    · refine
        stateName?_eq_some_iff.mpr
          ⟨letters, ⟨rfl, isName⟩, by simp, ?_⟩
      cases gap with
      | cons c gap =>
          rw [List.cons_append, beginsOutside_cons]
          exact isNameChar_of_isGap (isGapText c (by simp))
      | nil =>
          rcases apart with nonempty | rfl
          · exact (nonempty rfl).elim
          · simp [isNameChar]
    · rw [skipGap_append isGapText (beginsOutside_cons.mpr isSymbol)]
      exact symbol?_eq_some_iff.mpr ⟨rfl, isSymbol⟩

theorem StateThenSymbol.beginsOutside
    {state : String} {symbol : Symbol} {written : List Char}
    (isWritten : StateThenSymbol state symbol written)
    (rest : List Char) :
    BeginsOutside isGap (written ++ rest) := by
  rcases isWritten with ⟨isName, -, -, -⟩
  rcases isName.no_gap with ⟨nonempty, noGap⟩
  rw [List.append_assoc, List.append_assoc]
  exact beginsOutside_append nonempty noGap _

theorem readTransition_eq_ok_iff_tokens
    {line rest : List Char} {made : Transition} :
    readTransition line = .ok (made, rest) ↔
      ∃ afterState afterSymbol afterArrow afterNext afterWrite,
        (stateName? line = some (made.state, afterState) ∧
          symbol? (skipGap afterState) = some (made.symbol, afterSymbol)) ∧
        afterMark? ['-', '>'] (skipGap afterSymbol) = some afterArrow ∧
        (stateName? (skipGap afterArrow) = some (made.next, afterNext) ∧
          symbol? (skipGap afterNext) = some (made.write, afterWrite)) ∧
        direction? (skipGap afterWrite) = some (made.direction, rest) := by
  constructor
  · intro read
    unfold readTransition at read
    rcases bind_eq_ok_iff.mp read with ⟨⟨state, afterState⟩, readState, read⟩
    rcases bind_eq_ok_iff.mp read with ⟨⟨symbol, afterSymbol⟩, readSymbol, read⟩
    simp only at readSymbol read
    split at read
    · cases read
    · next afterArrow arrow =>
        rcases bind_eq_ok_iff.mp read with ⟨⟨next, afterNext⟩, readNext, read⟩
        rcases bind_eq_ok_iff.mp read with ⟨⟨write, afterWrite⟩, readWrite, read⟩
        rcases bind_eq_ok_iff.mp read with
          ⟨⟨direction, afterDirection⟩, readDirection, read⟩
        cases read
        rw [require_eq_ok_iff]
          at readState readSymbol readNext readWrite readDirection
        exact
          ⟨afterState, afterSymbol, afterArrow, afterNext, afterWrite,
            ⟨readState, readSymbol⟩, arrow, ⟨readNext, readWrite⟩,
            readDirection⟩
  · rintro ⟨afterState, afterSymbol, afterArrow, afterNext, afterWrite,
      ⟨readState, readSymbol⟩, arrow, ⟨readNext, readWrite⟩, readDirection⟩
    rw [← require_eq_ok_iff .opening] at readState
    rw [← require_eq_ok_iff .symbol] at readSymbol readWrite
    rw [← require_eq_ok_iff .state] at readNext
    rw [← require_eq_ok_iff .direction] at readDirection
    unfold readTransition
    refine bind_eq_ok_iff.mpr ⟨_, readState, ?_⟩
    refine bind_eq_ok_iff.mpr ⟨_, readSymbol, ?_⟩
    simp only [arrow]
    refine bind_eq_ok_iff.mpr ⟨_, readNext, ?_⟩
    refine bind_eq_ok_iff.mpr ⟨_, readWrite, ?_⟩
    exact bind_eq_ok_iff.mpr ⟨_, readDirection, rfl⟩

/-- A transition is read when a line begins with one; what is left is what stands behind it. -/
theorem readTransition_eq_ok_iff
    {line rest : List Char} {made : Transition} :
    readTransition line = .ok (made, rest) ↔
      ∃ left first second right third,
        line =
          left ++ first ++ '-' :: '>' ::
            (second ++ right ++ third ++ made.direction.mark :: rest) ∧
        StateThenSymbol made.state made.symbol left ∧
        StateThenSymbol made.next made.write right ∧
        IsGapText first ∧ IsGapText second ∧ IsGapText third := by
  rw [readTransition_eq_ok_iff_tokens]
  constructor
  · rintro ⟨afterState, afterSymbol, afterArrow, afterNext, afterWrite,
      reads, arrow, writes, readDirection⟩
    rcases stateThenSymbol_iff.mp ⟨afterState, reads⟩ with ⟨left, isLeft, rfl⟩
    rcases skipGap_eq_iff.mp (afterMark?_eq_some_iff.mp arrow) with
      ⟨first, rfl, isFirst, -⟩
    rcases stateThenSymbol_iff.mp ⟨afterNext, writes⟩ with
      ⟨right, isRight, composed⟩
    rcases skipGap_eq_iff.mp composed with ⟨second, rfl, isSecond, -⟩
    rcases skipGap_eq_iff.mp (direction?_eq_some_iff.mp readDirection) with
      ⟨third, rfl, isThird, -⟩
    exact
      ⟨left, first, second, right, third, by simp, isLeft, isRight, isFirst,
        isSecond, isThird⟩
  · rintro ⟨left, first, second, right, third, rfl, isLeft, isRight, isFirst,
      isSecond, isThird⟩
    let afterWrite := third ++ made.direction.mark :: rest
    let afterArrow := second ++ (right ++ afterWrite)
    have arrow :
        skipGap (first ++ '-' :: '>' :: afterArrow) = '-' :: '>' :: afterArrow :=
      skipGap_append isFirst (beginsOutside_cons.mpr (by simp [isGap]))
    have next : skipGap afterArrow = right ++ afterWrite :=
      skipGap_append isSecond (isRight.beginsOutside afterWrite)
    have movement : skipGap afterWrite = made.direction.mark :: rest :=
      skipGap_append isThird
        (beginsOutside_cons.mpr (by cases made.direction <;> rfl))
    rcases stateThenSymbol_iff.mpr
        ⟨left, isLeft, List.append_assoc left first ('-' :: '>' :: afterArrow)⟩ with
      ⟨afterState, reads⟩
    rcases stateThenSymbol_iff.mpr ⟨right, isRight, next⟩ with
      ⟨afterNext, writes⟩
    refine
      ⟨afterState, first ++ '-' :: '>' :: afterArrow, afterArrow, afterNext,
        afterWrite, ?_, ?_, writes, ?_⟩
    · simpa [afterArrow, afterWrite] using reads
    · exact afterMark?_eq_some_iff.mpr arrow
    · exact direction?_eq_some_iff.mpr movement

/-! ## Lines -/

theorem StateThenSymbol.unique
    {state state' : String} {symbol symbol' : Symbol}
    {written written' rest rest' : List Char}
    (isWritten : StateThenSymbol state symbol written)
    (isWritten' : StateThenSymbol state' symbol' written')
    (same : written ++ rest = written' ++ rest') :
    state = state' ∧ symbol = symbol' := by
  rcases stateThenSymbol_iff.mpr ⟨written, isWritten, rfl⟩ with
    ⟨between, readState, readSymbol⟩
  rcases stateThenSymbol_iff.mpr ⟨written', isWritten', rfl⟩ with
    ⟨between', readState', readSymbol'⟩
  rw [same, readState'] at readState
  cases readState
  rw [readSymbol'] at readSymbol
  cases readSymbol
  exact ⟨rfl, rfl⟩

theorem Keyword.letters_isStateName (keyword : Keyword) :
    IsStateName keyword.letters := by
  cases keyword <;>
    simp [IsStateName, Keyword.letters, isNameChar, isGap]

/-- A line opens with a keyword exactly when it begins with that state name and a colon. -/
theorem Keyword.exists_value?_iff
    {keyword : Keyword} {line : List Char} :
    (∃ value, keyword.value? line = some value) ↔
      ∃ written rest, StateThenSymbol keyword.name ':' written ∧
        line = written ++ rest := by
  constructor
  · rintro ⟨value, valued⟩
    rcases Keyword.value?_eq_some_iff.mp valued with
      ⟨before, after, rfl, gapBefore, -⟩
    exact
      ⟨keyword.letters ++ before ++ [':'], after ++ value,
        .intro keyword.letters_isStateName gapBefore rfl (Or.inr rfl), by simp⟩
  · rintro ⟨written, rest, isWritten, rfl⟩
    generalize named : keyword.name = name at isWritten
    rcases isWritten with ⟨-, gapBefore, -, -⟩
    rename_i letters gap
    rw [Keyword.name, String.ofList_inj] at named
    subst named
    rcases skipGap_eq_iff.mp (rfl : skipGap rest = skipGap rest) with
      ⟨after, composed, gapAfter, outside⟩
    refine
      ⟨skipGap rest,
        Keyword.value?_eq_some_iff.mpr
          ⟨gap, after, ?_, gapBefore, gapAfter, outside⟩⟩
    rw [← composed]
    simp

theorem opening?_eq_none_iff_of_stateThenSymbol
    {state : String} {symbol : Symbol} {written rest : List Char}
    (isWritten : StateThenSymbol state symbol written) :
    Keyword.opening? (written ++ rest) = none ↔
      ¬ (symbol = ':' ∧ ∃ keyword : Keyword, state = keyword.name) := by
  rw [Keyword.opening?_eq_none_iff]
  constructor
  · rintro noValue ⟨rfl, keyword, rfl⟩
    rcases Keyword.exists_value?_iff.mpr ⟨written, rest, isWritten, rfl⟩ with
      ⟨value, valued⟩
    rw [noValue keyword] at valued
    cases valued
  · intro noHeader keyword
    cases valued : keyword.value? (written ++ rest) with
    | none => rfl
    | some value =>
        rcases Keyword.exists_value?_iff.mp ⟨value, valued⟩ with
          ⟨written', rest', isWritten', same⟩
        rcases isWritten.unique isWritten' same with ⟨rfl, rfl⟩
        exact (noHeader ⟨rfl, keyword, rfl⟩).elim

/-- What is read of a line is its core; the gap behind the core is left. -/
theorem trimGaps_eq_iff_skipGap
    {line core : List Char} :
    trimGaps line = core ↔
      ∃ tail, skipGap line = core ++ tail ∧ IsGapText tail ∧
        BeginsOutside isGap core.reverse := by
  rw [trimGaps, List.reverse_eq_iff, skipGap_eq_iff]
  constructor
  · rintro ⟨gap, composed, isGapText, outside⟩
    refine ⟨gap.reverse, ?_, ?_, outside⟩
    · rw [List.reverse_eq_iff.mp composed, List.reverse_append,
        List.reverse_reverse]
    · intro c member
      exact isGapText c (List.mem_reverse.mp member)
  · rintro ⟨tail, composed, isGapText, outside⟩
    refine ⟨tail.reverse, ?_, ?_, outside⟩
    · rw [composed, List.reverse_append]
    · intro c member
      exact isGapText c (List.mem_reverse.mp member)

section Body

variable
    {line : List Char}
    {statement : Statement}

theorem read_of_skipGap_eq_nil
    (nothing : skipGap line = []) :
    Statement.read line = .ok .empty := by
  simp [Statement.read, nothing]

theorem read_of_comment
    {text : List Char}
    (commented : skipGap line = '#' :: text) :
    Statement.read line = .ok .comment := by
  simp [Statement.read, commented]

theorem read_eq_ok_iff_of_opening
    {keyword : Keyword} {value : List Char}
    (opens : Keyword.opening? (skipGap line) = some (keyword, value)) :
    Statement.read line = .ok statement ↔
      ∃ made written rest, statement = .header made ∧
        made.keyword = keyword ∧ HeaderValue made written ∧
          value = written ++ rest ∧ IsGapText rest := by
  have isRead :
      Statement.read line =
        readHeader keyword value >>= fun found =>
          requireEnd (.header found.1) found.2 := by
    have sameHead :=
      Keyword.head?_of_value? (Keyword.opening?_eq_some_iff.mp opens)
    unfold Statement.read
    split
    · next nothing =>
        rw [nothing] at sameHead
        cases keyword <;> simp [Keyword.letters] at sameHead
    · next commented =>
        rw [commented] at sameHead
        cases keyword <;> simp [Keyword.letters] at sameHead
    · rw [opens]
  rw [isRead, bind_eq_ok_iff]
  constructor
  · rintro ⟨⟨made, rest⟩, readValue, atEnd⟩
    rcases readHeader_eq_ok_iff.mp readValue with
      ⟨sameKeyword, written, isValue, composed, -⟩
    rcases requireEnd_eq_ok_iff.mp atEnd with ⟨rfl, isGapText⟩
    exact
      ⟨made, written, rest, rfl, sameKeyword, isValue, composed, isGapText⟩
  · rintro ⟨made, written, rest, rfl, sameKeyword, isValue, composed, isGapText⟩
    refine ⟨(made, rest), ?_, requireEnd_eq_ok_iff.mpr ⟨rfl, isGapText⟩⟩
    exact
      readHeader_eq_ok_iff.mpr
        ⟨sameKeyword, written, isValue, composed,
          fun _ => isGapText.beginsOutside_isNameChar⟩

theorem read_eq_ok_iff_of_no_opening
    (nonempty : skipGap line ≠ [])
    (noComment : (skipGap line).head? ≠ some '#')
    (noOpening : Keyword.opening? (skipGap line) = none) :
    Statement.read line = .ok statement ↔
      ∃ made rest, statement = .transition made ∧
        readTransition (skipGap line) = .ok (made, rest) ∧
          IsGapText rest := by
  have isRead :
      Statement.read line =
        readTransition (skipGap line) >>= fun found =>
          requireEnd (.transition found.1) found.2 := by
    unfold Statement.read
    split
    · next nothing => exact (nonempty nothing).elim
    · next commented =>
        rw [commented] at noComment
        exact (noComment rfl).elim
    · rw [noOpening]
  rw [isRead, bind_eq_ok_iff]
  constructor
  · rintro ⟨⟨made, rest⟩, read, atEnd⟩
    rcases requireEnd_eq_ok_iff.mp atEnd with ⟨rfl, isGapText⟩
    exact ⟨made, rest, rfl, read, isGapText⟩
  · rintro ⟨made, rest, rfl, read, isGapText⟩
    exact ⟨(made, rest), read, requireEnd_eq_ok_iff.mpr ⟨rfl, isGapText⟩⟩

end Body

/-! ## Reading and making -/

theorem HeaderValue.no_gap
    {made : Header} {value : List Char}
    (isValue : HeaderValue made value) :
    value ≠ [] ∧ ∀ c ∈ value, isGap c = false := by
  cases isValue with
  | start isName => exact isName.no_gap
  | accept isName => exact isName.no_gap
  | reject isName => exact isName.no_gap
  | blank isSymbol =>
      exact ⟨by simp, by simpa [IsSymbol] using isSymbol⟩

/-- A value has no gap at its end. -/
theorem HeaderValue.beginsOutside_reverse
    {made : Header} {value : List Char}
    (isValue : HeaderValue made value) (front : List Char) :
    BeginsOutside isGap (front ++ value).reverse := by
  rcases isValue.no_gap with ⟨nonempty, noGap⟩
  rw [List.reverse_append]
  exact
    beginsOutside_append
      (mt List.reverse_eq_nil_iff.mp nonempty)
      (by simpa using noGap) front.reverse

theorem StateThenSymbol.ne_nil
    {state : String} {symbol : Symbol} {written : List Char}
    (isWritten : StateThenSymbol state symbol written) :
    written ≠ [] := by
  rcases isWritten with ⟨-, -, -, -⟩
  simp

theorem StateThenSymbol.head?_eq
    {state : String} {symbol : Symbol} {written : List Char}
    (isWritten : StateThenSymbol state symbol written)
    (rest : List Char) :
    (written ++ rest).head? = state.toList.head? := by
  rcases isWritten with ⟨⟨nonempty, -⟩, -, -, -⟩
  rename_i letters gap
  cases letters with
  | nil => exact (nonempty rfl).elim
  | cons c letters => simp

theorem lineMakes_iff_trims
    {line : List Char} {statement : Statement} :
    LineMakes line statement ↔
      ∃ core, Trims isGap line core ∧ Makes core statement := by
  constructor
  · intro makes
    exact ⟨trimGaps line, trimGaps_eq_iff.mp rfl, makes⟩
  · rintro ⟨core, trims, makes⟩
    rw [LineMakes, trimGaps_eq_iff.mpr trims]
    exact makes

theorem lineMakes_iff_skipGap
    {line : List Char} {statement : Statement} :
    LineMakes line statement ↔
      ∃ core tail, skipGap line = core ++ tail ∧ IsGapText tail ∧
        BeginsOutside isGap core.reverse ∧ Makes core statement := by
  constructor
  · intro makes
    rcases trimGaps_eq_iff_skipGap.mp (rfl : trimGaps line = _) with
      ⟨tail, composed, isGapText, outside⟩
    exact ⟨trimGaps line, tail, composed, isGapText, outside, makes⟩
  · rintro ⟨core, tail, composed, isGapText, outside, makes⟩
    rw [LineMakes,
      trimGaps_eq_iff_skipGap.mpr ⟨tail, composed, isGapText, outside⟩]
    exact makes

theorem lineMakes_comment
    {line text : List Char}
    (body : skipGap line = '#' :: text) :
    LineMakes line .comment := by
  rcases trimGaps_eq_iff_skipGap.mp (rfl : trimGaps line = _) with
    ⟨tail, composed, isGapText, -⟩
  rw [body] at composed
  rw [LineMakes]
  cases core : trimGaps line with
  | nil =>
      rw [core, List.nil_append] at composed
      have gap := isGapText '#' (by simp [← composed])
      simp [isGap] at gap
  | cons c core' =>
      rw [core] at composed
      cases composed
      exact .comment

theorem lineMakes_header
    {line before after value tail : List Char} {made : Header}
    (body :
      skipGap line =
        made.keyword.letters ++ before ++ ':' :: (after ++ (value ++ tail)))
    (gapBefore : IsGapText before) (gapAfter : IsGapText after)
    (isValue : HeaderValue made value) (isGapText : IsGapText tail) :
    LineMakes line (.header made) := by
  have outside :=
    isValue.beginsOutside_reverse
      (made.keyword.letters ++ before ++ ':' :: after)
  exact
    lineMakes_iff_skipGap.mpr
      ⟨_, tail, by simpa using body, isGapText, by simpa using outside,
        .header gapBefore gapAfter isValue⟩

theorem lineMakes_transition
    {line left first second right third tail : List Char} {made : Transition}
    (body :
      skipGap line =
        left ++ first ++ '-' :: '>' ::
          (second ++ right ++ third ++ made.direction.mark :: tail))
    (isLeft : StateThenSymbol made.state made.symbol left)
    (isRight : StateThenSymbol made.next made.write right)
    (isFirst : IsGapText first) (isSecond : IsGapText second)
    (isThird : IsGapText third) (isGapText : IsGapText tail)
    (noComment : (skipGap line).head? ≠ some '#')
    (noOpening : Keyword.opening? (skipGap line) = none) :
    LineMakes line (.transition made) := by
  rw [body, List.append_assoc] at noComment noOpening
  rw [isLeft.head?_eq] at noComment
  have noHeader := (opening?_eq_none_iff_of_stateThenSymbol isLeft).mp noOpening
  refine
    lineMakes_iff_skipGap.mpr
      ⟨_, tail, by simpa using body, isGapText, ?_,
        .transition isLeft isRight isFirst isSecond isThird noComment noHeader⟩
  cases made.direction <;> simp [Direction.mark, isGap]

/-- The ways through the reader are the ways to make a statement. -/
theorem lineMakes_of_read
    {line : List Char} {statement : Statement}
    (read : Statement.read line = .ok statement) :
    LineMakes line statement := by
  by_cases nothing : skipGap line = []
  · rw [read_of_skipGap_eq_nil nothing] at read
    cases read
    exact
      lineMakes_iff_skipGap.mpr
        ⟨[], [], nothing, by simp [IsGapText], by simp, .empty⟩
  by_cases commented : (skipGap line).head? = some '#'
  · rcases List.head?_eq_some_iff.mp commented with ⟨text, body⟩
    rw [read_of_comment body] at read
    cases read
    exact lineMakes_comment body
  cases opens : Keyword.opening? (skipGap line) with
  | some found =>
      rcases found with ⟨keyword, value⟩
      rcases (read_eq_ok_iff_of_opening opens).mp read with
        ⟨made, written, rest, rfl, rfl, isValue, rfl, isGapText⟩
      rcases Keyword.value?_eq_some_iff.mp
          (Keyword.opening?_eq_some_iff.mp opens) with
        ⟨before, after, body, gapBefore, gapAfter, -⟩
      exact lineMakes_header body gapBefore gapAfter isValue isGapText
  | none =>
      rcases (read_eq_ok_iff_of_no_opening nothing commented opens).mp
          read with
        ⟨made, rest, rfl, read, isGapText⟩
      rcases readTransition_eq_ok_iff.mp read with
        ⟨left, first, second, right, third, body, isLeft, isRight,
          isFirst, isSecond, isThird⟩
      exact
        lineMakes_transition body isLeft isRight isFirst isSecond isThird
          isGapText commented opens

theorem read_of_lineMakes
    {line : List Char} {statement : Statement}
    (makes : LineMakes line statement) :
    Statement.read line = .ok statement := by
  rcases lineMakes_iff_skipGap.mp makes with
    ⟨core, tail, body, isGapText, -, made⟩
  cases made with
  | empty =>
      apply read_of_skipGap_eq_nil
      have outside := beginsOutside_dropWhile isGap line
      change BeginsOutside isGap (skipGap line) at outside
      rw [body, List.nil_append] at outside ⊢
      rw [← dropWhile_of_beginsOutside outside]
      exact skipGap_eq_nil_iff.mpr isGapText
  | comment =>
      exact read_of_comment body
  | @header made value before after gapBefore gapAfter isValue =>
      rcases isValue.no_gap with ⟨nonempty, noGap⟩
      have valued : made.keyword.value? (skipGap line) = some (value ++ tail) :=
        Keyword.value?_eq_some_iff.mpr
          ⟨before, after, by simpa using body, gapBefore, gapAfter,
            beginsOutside_append nonempty noGap tail⟩
      exact
        (read_eq_ok_iff_of_opening
          (Keyword.opening?_eq_some_iff.mpr valued)).mpr
          ⟨made, value, tail, rfl, rfl, isValue, rfl, isGapText⟩
  | @transition made left right first second third isLeft isRight isFirst
      isSecond isThird noComment noHeader =>
      have composed :
          skipGap line =
            left ++ (first ++ '-' :: '>' ::
              (second ++ right ++ third ++ made.direction.mark :: tail)) := by
        simpa using body
      refine
        (read_eq_ok_iff_of_no_opening ?_ ?_ ?_).mpr
          ⟨made, tail, rfl, ?_, isGapText⟩
      · intro nothing
        rw [composed] at nothing
        exact isLeft.ne_nil (List.append_eq_nil_iff.mp nothing).1
      · rw [composed, isLeft.head?_eq]
        exact noComment
      · rw [composed]
        exact (opening?_eq_none_iff_of_stateThenSymbol isLeft).mpr noHeader
      · exact
          readTransition_eq_ok_iff.mpr
            ⟨left, first, second, right, third, by simpa using composed,
              isLeft, isRight, isFirst, isSecond, isThird⟩

theorem read_eq_ok_iff
    {line : List Char} {statement : Statement} :
    Statement.read line = .ok statement ↔ LineMakes line statement :=
  ⟨lineMakes_of_read, read_of_lineMakes⟩

end TapeMachine.Format
