import TapeMachine.Proofs.Format.Expression

/-!
# Lines that are tried

A line is tried as a comment, as each of the headers and as a transition, and
every one of these that fails leaves a failure.  What is left on record in the end
are the failures furthest on.  Where the line lacks a whole statement, these are
the failures of all that could begin it; where a statement was begun, there is one,
since what else was tried failed where the line begins.

A line that makes a statement is found as one tree: its part is the header or the
transition, its text the line without the gaps at the ends, and in it are the
tokens.  An empty line and a comment leave no tree.
-/

namespace TapeMachine.Format

/-- The parts of a statement that could have stood where a line lacks something. -/
def Lack.alternatives (lack : Lack) : List Part :=
  match lack with
  | opening | statement => Keyword.all.map .header ++ [lack.part]
  | _ => [lack.part]

/-- Where a whole statement is lacking the text could also have ended. -/
theorem Lack.mem_parts_iff
    {lack : Lack} {part : Part} :
    part ∈ lack.parts false ↔
      part ∈ lack.alternatives ∨
        part = .finish ∧ (lack = .opening ∨ lack = .statement) := by
  cases lack <;>
    simp [Lack.parts, Lack.alternatives, Lack.part, or_comm]

namespace Expression

variable
    {size : Nat}
    {line rest tail : List Char}
    {attempts : Attempts}
    {obstacle : Obstacle}

/-! ## Alternatives -/

/-- Tries one alternative after the other until one succeeds. -/
def firstOf :
    List (Except Failure (List Tree × List Char)) → Attempts → Outcome
  | [], attempts => (none, attempts)
  | .ok found :: _, attempts => (some found, attempts)
  | .error failure :: others, attempts => firstOf others (attempts.push failure)

theorem firstOf_map_error
    (failures : List Failure)
    (others : List (Except Failure (List Tree × List Char)))
    (attempts : Attempts) :
    firstOf (failures.map .error ++ others) attempts =
      firstOf others (attempts.pushAll failures) := by
  induction failures generalizing attempts with
  | nil => rfl
  | cons failure failures induction => exact induction _

theorem firstOf_singleton (result : Except Failure (List Tree × List Char)) :
    firstOf [result] attempts = outcome attempts result := by
  cases result <;> rfl

theorem run_choice_of_outcome
    {first second : Expression} {text : List Char}
    {result : Except Failure (List Tree × List Char)}
    {others : List (Except Failure (List Tree × List Char))}
    (tried : ∀ attempts, run size first false text attempts = outcome attempts result)
    (triedOthers :
      ∀ attempts, run size second false text attempts = firstOf others attempts)
    (attempts : Attempts) :
    run size (choice first second) false text attempts =
      firstOf (result :: others) attempts := by
  rw [run, tried]
  cases result with
  | ok rest => rfl
  | error failure => exact triedOthers _

/-- The trees that trying a statement on a text can find, by the alternatives. -/
structure FindsStatement
    (size : Nat) (line tail : List Char)
    (ofHeader : Keyword → List Tree) (ofTransition : List Tree) : Prop where
  header :
    ∀ {keyword value made rest}, keyword.value? line = some value →
      readHeader keyword value = .ok (made, rest) →
        TellsPart size (.header keyword) Header.tokens (line ++ tail) tail made rest
          (ofHeader keyword)
  transition :
    ∀ {made rest}, readTransition line = .ok (made, rest) →
      TellsPart size .transition transitionTokens (line ++ tail) tail made rest
        ofTransition
  run_eq :
    ∀ attempts,
      run size statement false (line ++ tail) attempts =
        firstOf
          (Keyword.all.map
              (fun keyword => headerResult (ofHeader keyword) line tail keyword) ++
            [onText ofTransition tail (readTransition line)])
          attempts

theorem exists_findsStatement
    (size : Nat) (isLine : IsLineText line) (ends : EndsLine tail) :
    ∃ ofHeader ofTransition,
      FindsStatement size line tail ofHeader ofTransition := by
  choose ofHeader toldHeader tried using exists_run_header size isLine ends
  rcases follows_transition size isLine ends with
    ⟨ofTransition, toldTransition, triedTransition⟩
  refine
    ⟨ofHeader, ofTransition, toldHeader _ _ _ _, toldTransition _ _, ?_⟩
  apply run_choice_of_outcome (tried .start)
  apply run_choice_of_outcome (tried .accept)
  apply run_choice_of_outcome (tried .reject)
  apply run_choice_of_outcome (tried .blank)
  intro attempts
  exact (triedTransition attempts).trans (firstOf_singleton _).symm

/-! ## Statements -/

theorem mem_all (keyword : Keyword) : keyword ∈ Keyword.all := by
  cases keyword <;> decide

/-- A header that fails where the line begins. -/
def unopened (line tail : List Char) (keyword : Keyword) : Failure where
  part := .header keyword
  left := (line ++ tail).length

theorem mem_map_unopened_iff
    {part : Part} {left : Nat} :
    { part, left } ∈ Keyword.all.map (unopened line tail) ↔
      left = (line ++ tail).length ∧ ∃ keyword, part = .header keyword := by
  simp only [List.mem_map, unopened, Failure.mk.injEq]
  constructor
  · rintro ⟨keyword, -, rfl, rfl⟩
    exact ⟨rfl, keyword, rfl⟩
  · rintro ⟨rfl, keyword, rfl⟩
    exact ⟨keyword, mem_all keyword, rfl, rfl⟩

theorem headerResult_eq_unopened
    {keyword : Keyword}
    (valueless : keyword.value? line = none) (trees : List Tree) :
    headerResult trees line tail keyword =
      .error (unopened line tail keyword) := by
  rw [headerResult, valueless]
  rfl

theorem map_headerResult_eq_unopened
    {keywords : List Keyword}
    (valueless : ∀ keyword ∈ keywords, keyword.value? line = none)
    (ofHeader : Keyword → List Tree) :
    keywords.map
        (fun keyword => headerResult (ofHeader keyword) line tail keyword) =
      (keywords.map (unopened line tail)).map .error := by
  rw [List.map_map]
  exact
    List.map_congr_left fun keyword member =>
      headerResult_eq_unopened (valueless keyword member) (ofHeader keyword)

theorem value?_eq_none_of_ne
    {keyword keyword' : Keyword} {value : List Char}
    (opens : Keyword.opening? line = some (keyword, value))
    (other : keyword' ≠ keyword) :
    keyword'.value? line = none := by
  cases valued : keyword'.value? line with
  | none => rfl
  | some value' =>
      rw [Keyword.opening?_eq_some_iff.mpr valued] at opens
      cases opens
      exact (other rfl).elim

theorem headerResult_eq_onText
    {keyword : Keyword} {value : List Char}
    (opens : Keyword.opening? line = some (keyword, value))
    (trees : List Tree) :
    headerResult trees line tail keyword =
      onText trees tail (readHeader keyword value) := by
  rw [headerResult, Keyword.opening?_eq_some_iff.mp opens]

/-- The trees of the statement that a text begins with. -/
def TellsStatement
    (size : Nat) (text tail : List Char) :
    Statement → List Char → List Tree → Prop
  | .empty, _, trees | .comment, _, trees => trees = []
  | .header made, rest, trees =>
    TellsPart size (.header made.keyword) Header.tokens text tail made rest trees
  | .transition made, rest, trees =>
    TellsPart size .transition transitionTokens text tail made rest trees

theorem exists_run_statement_of_ok
    {statement' : Statement} (size : Nat)
    (isLine : IsLineText line) (ends : EndsLine tail)
    (read : readFront line = .ok (statement', rest)) :
    ∃ (trees : List Tree) (failures : List Failure),
      TellsStatement size (line ++ tail) tail statement' rest trees ∧
      (∀ failure ∈ failures, failure.left = (line ++ tail).length) ∧
        ∀ attempts,
          run size statement false (line ++ tail) attempts =
            (some (trees, rest ++ tail), attempts.pushAll failures) := by
  rcases exists_findsStatement size isLine ends with
    ⟨ofHeader, ofTransition, finds⟩
  unfold readFront at read
  split at read
  · next keyword value opens =>
      rcases map_eq_ok_iff.mp read with ⟨⟨made, rest⟩, readValue, same⟩
      cases same
      rcases List.eq_append_cons_of_mem (mem_all keyword) with
        ⟨before, after, composed, notBefore⟩
      have told :=
        finds.header (Keyword.opening?_eq_some_iff.mp opens) readValue
      rw [← (readHeader_eq_ok_iff.mp readValue).1] at told
      refine
        ⟨_, before.map (unopened line tail), told, by simp [unopened],
          fun attempts => ?_⟩
      rw [finds.run_eq, composed, List.map_append, List.map_cons,
        map_headerResult_eq_unopened, headerResult_eq_onText opens, readValue,
        List.append_assoc, firstOf_map_error, (readHeader_eq_ok_iff.mp readValue).1]
      · rfl
      · intro keyword' member
        exact value?_eq_none_of_ne opens (ne_of_mem_of_not_mem member notBefore)
  · next unopens =>
      rcases map_eq_ok_iff.mp read with ⟨⟨made, rest⟩, readAll, same⟩
      cases same
      refine
        ⟨_, Keyword.all.map (unopened line tail), finds.transition readAll,
          by simp [unopened], fun attempts => ?_⟩
      rw [finds.run_eq, map_headerResult_eq_unopened, firstOf_map_error, readAll]
      · rfl
      · exact fun keyword _ => Keyword.opening?_eq_none_iff.mp unopens keyword

/-- A header without a value is no transition either: an arrow could only be its value. -/
theorem readTransition_of_readHeader_eq_error
    {keyword : Keyword} {value : List Char}
    (opens : Keyword.opening? line = some (keyword, value))
    (failed : readHeader keyword value = .error obstacle) :
    readTransition line = .error { lack := .statement, rest := line } := by
  rcases Keyword.value?_eq_some_iff.mp (Keyword.opening?_eq_some_iff.mp opens) with
    ⟨before, after, composed, gapBefore, gapAfter, outside⟩
  rcases stateThenSymbol_iff.mpr
      ⟨keyword.letters ++ before ++ [':'],
        .intro keyword.letters_isStateName gapBefore rfl (Or.inr rfl),
        show line = _ ++ (after ++ value) by simp [composed]⟩ with
    ⟨between, readState, readSymbol⟩
  have noArrow : afterMark? ['-', '>'] value = none := by
    cases arrow : afterMark? ['-', '>'] value with
    | none => rfl
    | some rest =>
        rw [afterMark?_eq_some_iff.mp arrow] at failed
        cases keyword <;>
          simp [readHeader, require, stateName?, symbol?, isNameChar, isGap,
            Except.map] at failed
  rw [readTransition_eq, require, readState]
  simp only [bind, Except.bind, require, readSymbol,
    skipGap_append gapAfter outside, noArrow]

/-- Behind the beginning of a line one part fails. -/
theorem leadTo_of_behind
    {failures : List Failure}
    (behind : obstacle.rest.length < line.length)
    (member : obstacle.failure tail ∈ failures)
    (others :
      ∀ failure ∈ failures,
        failure = obstacle.failure tail ∨ failure.left = (line ++ tail).length) :
    LeadTo failures (obstacle.rest ++ tail).length [obstacle.lack.part] where
  notFurther := by
    intro failure member
    rcases others failure member with rfl | atBeginning
    · exact Nat.le_refl _
    · simp [atBeginning, behind.le]
  names := by
    intro part
    rw [List.mem_singleton]
    constructor
    · intro failing
      rcases others _ failing with same | atBeginning
      · exact congrArg Failure.part same
      · simp [behind.ne] at atBeginning
    · rintro rfl
      exact member

/-- Where a line begins everything fails that it could begin with. -/
theorem leadTo_of_whole (part : Part) :
    LeadTo
      (Keyword.all.map (unopened line tail) ++
        [{ part, left := (line ++ tail).length }])
      (line ++ tail).length (Keyword.all.map .header ++ [part]) where
  notFurther := by
    intro failure member
    rcases List.mem_append.mp member with heading | last
    · rcases List.mem_map.mp heading with ⟨keyword, -, rfl⟩
      exact Nat.le_refl _
    · rw [List.mem_singleton.mp last]
  names := by
    intro part'
    rw [List.mem_append, mem_map_unopened_iff]
    simp [mem_all, eq_comm]

/-- What the headers fail with on a line that begins one of them, but lacks its value. -/
def headerFailures
    (line tail : List Char) (keyword : Keyword) (obstacle : Obstacle) :
    List Failure :=
  Keyword.all.map fun keyword' =>
    if keyword' = keyword then obstacle.failure tail
    else unopened line tail keyword'

theorem map_headerResult_eq_headerFailures
    {keyword : Keyword} {value : List Char}
    (opens : Keyword.opening? line = some (keyword, value))
    (failed : readHeader keyword value = .error obstacle)
    (ofHeader : Keyword → List Tree) :
    Keyword.all.map
        (fun keyword' => headerResult (ofHeader keyword') line tail keyword') =
      (headerFailures line tail keyword obstacle).map .error := by
  rw [headerFailures, List.map_map]
  apply List.map_congr_left
  intro keyword' _
  by_cases same : keyword' = keyword
  · subst same
    rw [headerResult_eq_onText opens, failed]
    simp [onText]
  · rw [headerResult_eq_unopened (value?_eq_none_of_ne opens same)]
    simp [same]

theorem failure_mem_headerFailures (keyword : Keyword) (obstacle : Obstacle) :
    obstacle.failure tail ∈ headerFailures line tail keyword obstacle :=
  List.mem_map.mpr ⟨keyword, mem_all keyword, if_pos rfl⟩

theorem eq_or_left_eq_of_mem_headerFailures
    {keyword : Keyword} {failure : Failure}
    (member : failure ∈ headerFailures line tail keyword obstacle) :
    failure = obstacle.failure tail ∨ failure.left = (line ++ tail).length := by
  rcases List.mem_map.mp member with ⟨keyword', -, rfl⟩
  split
  · exact Or.inl rfl
  · exact Or.inr rfl

/-- The value of a header is lacking behind the keyword, so nothing else that fails counts. -/
theorem leadTo_headerFailures
    {keyword : Keyword} {value : List Char}
    (opens : Keyword.opening? line = some (keyword, value))
    (failed : readHeader keyword value = .error obstacle) :
    LeadTo
      (headerFailures line tail keyword obstacle ++
        [{ part := .transition, left := (line ++ tail).length }])
      (obstacle.rest ++ tail).length obstacle.lack.alternatives := by
  have shorter := Keyword.length_value?_lt opens
  have lacks :
      obstacle.rest.length < line.length ∧
        obstacle.lack.alternatives = [obstacle.lack.part] := by
    rcases readHeader_eq_error failed with rfl | rfl <;> exact ⟨shorter, rfl⟩
  rw [lacks.2]
  apply leadTo_of_behind lacks.1
  · exact List.mem_append_left _ (failure_mem_headerFailures keyword obstacle)
  · intro failure member
    rcases List.mem_append.mp member with heading | last
    · exact eq_or_left_eq_of_mem_headerFailures heading
    · rw [List.mem_singleton.mp last]
      exact Or.inr rfl

theorem leadTo_of_metIn
    (met : MetIn line obstacle) :
    LeadTo (Keyword.all.map (unopened line tail) ++ [obstacle.failure tail])
      (obstacle.rest ++ tail).length obstacle.lack.alternatives := by
  have others :
      ∀ failure ∈ Keyword.all.map (unopened line tail) ++ [obstacle.failure tail],
        failure = obstacle.failure tail ∨
          failure.left = (line ++ tail).length := by
    intro failure member
    rcases List.mem_append.mp member with heading | last
    · rcases List.mem_map.mp heading with ⟨keyword, -, rfl⟩
      exact Or.inr rfl
    · exact Or.inl (List.mem_singleton.mp last)
  cases met with
  | opening | statement => exact leadTo_of_whole _
  | state behind | symbol behind | direction behind =>
      exact leadTo_of_behind behind (by simp) others

theorem exists_run_statement_of_error
    (size : Nat) (isLine : IsLineText line) (ends : EndsLine tail)
    (failed : readFront line = .error obstacle) :
    ∃ failures,
      LeadTo failures (obstacle.rest ++ tail).length obstacle.lack.alternatives ∧
      ∀ attempts,
        run size statement false (line ++ tail) attempts =
          (none, attempts.pushAll failures) := by
  rcases exists_findsStatement size isLine ends with
    ⟨ofHeader, ofTransition, finds⟩
  unfold readFront at failed
  split at failed
  · next keyword value opens =>
      have read := map_eq_error_iff.mp failed
      refine ⟨_, leadTo_headerFailures opens read, fun attempts => ?_⟩
      rw [finds.run_eq, map_headerResult_eq_headerFailures opens read,
        firstOf_map_error, readTransition_of_readHeader_eq_error opens read,
        Attempts.pushAll_append]
      rfl
  · next unopens =>
      have read := map_eq_error_iff.mp failed
      refine
        ⟨_, leadTo_of_metIn (metIn_of_readTransition read), fun attempts => ?_⟩
      rw [finds.run_eq, map_headerResult_eq_unopened, firstOf_map_error, read,
        Attempts.pushAll_append]
      · rfl
      · exact fun keyword _ => Keyword.opening?_eq_none_iff.mp unopens keyword

/-! ## Comments -/

theorem run_comment_of_ne_hash
    {text : List Char}
    (noHash : text.head? ≠ some '#') :
    run size comment false text attempts = (none, attempts) := by
  apply run_seq_of_fails
  cases text with
  | nil => rfl
  | cons c text =>
      have other : c ≠ '#' := by simpa using noHash
      simp [other]

theorem run_noLineEnd_cons
    {c : Char} (noGap : isGap c = false) :
    run size (seq (except lineEnd) any) false (c :: rest) attempts =
      (if isLineEnd c then none else some ([], rest), attempts) := by
  apply run_except_any_cons _ (fun _ => noGap)
  rw [run_lineEnd_eq_none_iff, beginsOutside_cons]

theorem run_noLineEnd_tail
    (ends : EndsLine tail) :
    run size (seq (except lineEnd) any) false tail attempts = (none, attempts) := by
  cases tail with
  | nil => rfl
  | cons d tail =>
      rw [endsLine_cons] at ends
      rw [run_noLineEnd_cons (isGap_of_isLineEnd ends), if_pos ends]

theorem repeated_of_fails
    {attempt : List Char → Attempts → Outcome} {text : List Char}
    {attempts' : Attempts}
    (fails : attempt text attempts = (none, attempts')) :
    repeated attempt text attempts = (some ([], text), attempts') := by
  rw [repeated, fails]

theorem repeated_of_matches
    {attempt : List Char → Attempts → Outcome} {text : List Char}
    {trees : List Tree} {attempts' : Attempts}
    (taken : attempt text attempts = (some (trees, rest), attempts'))
    (shorter : rest.length < text.length) :
    repeated attempt text attempts =
      behind trees (repeated attempt rest attempts') := by
  rw [repeated, taken]
  exact if_pos shorter

theorem skipGap_eq_cons
    {c : Char}
    (isLine : IsLineText line) (body : skipGap line = c :: rest) :
    isGap c = false ∧ isLineEnd c = false ∧ IsLineText rest ∧
      rest.length < line.length := by
  have isSuffix := skipGap_suffix line
  have outside := beginsOutside_dropWhile isGap line
  rw [← skipGap, body, beginsOutside_cons] at outside
  rw [body] at isSuffix
  rcases isLineText_cons.mp (isLine.of_suffix isSuffix) with ⟨within, isRest⟩
  exact ⟨outside, within, isRest, isSuffix.length_le⟩

/-- What is repeated in a comment goes on to the end of the line, or to the gap before it. -/
theorem exists_repeated_noLineEnd
    {line : List Char} (size : Nat)
    (isLine : IsLineText line) (ends : EndsLine tail) :
    ∃ gap, IsGapText gap ∧
      ∀ attempts,
        repeated
            (fun rest =>
              run size (seq (except lineEnd) any) false (between false rest))
            (line ++ tail) attempts =
          (some ([], gap ++ tail), attempts) := by
  cases body : skipGap line with
  | nil =>
      refine ⟨line, skipGap_eq_nil_iff.mp body, fun attempts => ?_⟩
      apply repeated_of_fails
      rw [between_false, ends.skipGap_append, body]
      exact run_noLineEnd_tail ends
  | cons c rest =>
      rcases skipGap_eq_cons isLine body with ⟨noGap, within, isRest, shorter⟩
      rcases exists_repeated_noLineEnd size isRest ends with
        ⟨gap, isGapText, repeats⟩
      refine ⟨gap, isGapText, fun attempts => ?_⟩
      rw [← repeats attempts]
      refine (repeated_of_matches ?_ ?_).trans (behind_nil _)
      · rw [between_false, ends.skipGap_append, body, List.cons_append,
          run_noLineEnd_cons noGap, within]
        rfl
      · simp [shorter]
termination_by line.length

theorem exists_run_comment
    (isLine : IsLineText line) (ends : EndsLine tail) :
    ∃ gap, IsGapText gap ∧
      ∀ attempts,
        run size comment false ('#' :: (line ++ tail)) attempts =
          (some ([], gap ++ tail), attempts) := by
  have hash (attempts : Attempts) :
      run size (mark ['#']) false ('#' :: (line ++ tail)) attempts =
        (some ([], line ++ tail), attempts) := by
    simp
  simp only [comment, run_seq_of_matches (hash _), ends.skipGap_append, behind_nil]
  cases body : skipGap line with
  | nil =>
      refine ⟨[], by simp [IsGapText], fun attempts => ?_⟩
      rw [List.nil_append, run, run_noLineEnd_tail ends]
  | cons c rest =>
      rcases skipGap_eq_cons isLine body with ⟨noGap, within, isRest, -⟩
      rcases exists_repeated_noLineEnd size isRest ends with
        ⟨gap, isGapText, repeats⟩
      refine ⟨gap, isGapText, fun attempts => ?_⟩
      rw [List.cons_append, run, run_noLineEnd_cons noGap, within]
      simp only [Bool.false_eq_true, if_false, repeats, behind_nil]

/-! ## Lines -/

theorem run_line_of_ne_hash
    {text : List Char}
    (noHash : text.head? ≠ some '#') (attempts : Attempts) :
    run size Expression.line false text attempts =
      run size statement false text attempts := by
  rw [Expression.line, run, run_comment_of_ne_hash noHash]

theorem run_optional_of_matches
    {body : Expression} {text : List Char}
    {found : List Tree × List Char} {attempts' : Attempts}
    (taken : run size body false text attempts = (some found, attempts')) :
    run size (optional body) false text attempts = (some found, attempts') := by
  rw [run, taken]

theorem run_optional_of_fails
    {body : Expression} {text : List Char} {attempts' : Attempts}
    (fails : run size body false text attempts = (none, attempts')) :
    run size (optional body) false text attempts =
      (some ([], text), attempts') := by
  rw [run, fails]

theorem head?_append_ne_hash
    (ends : EndsLine tail) {text : List Char}
    (noHash : text.head? ≠ some '#') :
    (text ++ tail).head? ≠ some '#' := by
  cases text with
  | nil =>
      intro isHash
      have ended := ends '#' isHash
      cases ended
  | cons c text => exact noHash

/-- The tree of a part that is all of a line, behind `offset` characters of the text. -/
def lineTree
    (offset : Nat) (line : List Char) (part : Part) (inner : List Tree) : Tree where
  part
  offset := offset + (line.takeWhile isGap).length
  text := trimGaps line
  inner

/-- The trees of a line behind `offset` characters of the text, by what it says. -/
def TellsLine
    (offset : Nat) (line : List Char) : Statement → List Tree → Prop
  | .empty, trees | .comment, trees => trees = []
  | .header made, trees =>
    ∃ inner, inner.map Tree.token = made.tokens ∧
      trees = [lineTree offset line (.header made.keyword) inner]
  | .transition made, trees =>
    ∃ inner, inner.map Tree.token = transitionTokens made ∧
      trees = [lineTree offset line .transition inner]

theorem tellsLine_of_readFront
    {offset : Nat} {statement' : Statement} {trees : List Tree}
    (isSize : offset + (line ++ tail).length = size)
    (read : readFront (skipGap line) = .ok (statement', rest))
    (isGapText : IsGapText rest)
    (told :
      TellsStatement size (skipGap line ++ tail) tail statement' rest trees) :
    TellsLine offset line statement' trees := by
  rcases exists_front_of_readFront read with ⟨front, -, composed, outside⟩
  have same (part : Part) (inner : List Tree) :
      Tree.found size part (skipGap line ++ tail) (rest ++ tail) inner =
        lineTree offset line part inner := by
    have isCore : trimGaps line = front :=
      trimGaps_eq_iff_skipGap.mpr ⟨rest, composed, isGapText, outside⟩
    have gap := congrArg List.length
      (List.takeWhile_append_dropWhile (p := isGap) (l := line))
    change (line.takeWhile isGap ++ skipGap line).length = _ at gap
    have isOffset :
        size - (front ++ (rest ++ tail)).length =
          offset + (line.takeWhile isGap).length := by
      simp only [List.length_append, composed] at isSize gap ⊢
      omega
    rw [composed, List.append_assoc, Tree.found_append, lineTree, isCore, isOffset]
  cases statement' with
  | empty | comment => exact told
  | header made | transition made =>
      rcases told with ⟨inner, tokens, rfl⟩
      exact ⟨inner, tokens, by rw [same]⟩

/-- Behind a line that makes a statement only a gap is left of it, and nothing failed behind it. -/
theorem exists_run_optional_line_of_ok
    {statement' : Statement} {offset : Nat}
    (isSize : offset + (line ++ tail).length = size)
    (isLine : IsLineText line) (ends : EndsLine tail)
    (read : Statement.read line = .ok statement') :
    ∃ (trees : List Tree) (gap : List Char) (failures : List Failure),
      TellsLine offset line statement' trees ∧ IsGapText gap ∧
      (∀ failure ∈ failures, tail.length ≤ failure.left) ∧
        ∀ attempts,
          run size (optional Expression.line) false (skipGap line ++ tail) attempts =
            (some (trees, gap ++ tail), attempts.pushAll failures) := by
  have isBody := isLine.of_suffix (skipGap_suffix line)
  by_cases nothing : skipGap line = []
  · have failed : readFront [] = .error { lack := .opening, rest := [] } := rfl
    rcases exists_run_statement_of_error size isLineText_nil ends failed with
      ⟨failures, recorded, fails⟩
    rw [read_of_skipGap_eq_nil nothing] at read
    cases read
    refine
      ⟨[], [], failures, rfl, by simp [IsGapText], recorded.notFurther,
        fun attempts => ?_⟩
    rw [nothing]
    apply run_optional_of_fails
    rw [run_line_of_ne_hash (head?_append_ne_hash ends (by simp)), fails]
  by_cases commented : (skipGap line).head? = some '#'
  · rcases List.head?_eq_some_iff.mp commented with ⟨text, body⟩
    rw [read_of_comment body] at read
    cases read
    rw [body] at isBody ⊢
    rcases exists_run_comment (isLineText_cons.mp isBody).2 ends with
      ⟨gap, isGapText, taken⟩
    refine ⟨[], gap, [], rfl, isGapText, by simp, fun attempts => ?_⟩
    apply run_optional_of_matches
    rw [Expression.line, run, List.cons_append, taken]
    rfl
  · rw [read_eq_readFront nothing commented] at read
    rcases bind_eq_ok_iff.mp read with ⟨⟨made, rest⟩, readBody, atEnd⟩
    rcases requireEnd_eq_ok_iff.mp atEnd with ⟨rfl, isGapText⟩
    rcases exists_run_statement_of_ok size isBody ends readBody with
      ⟨trees, failures, told, atBeginning, taken⟩
    refine
      ⟨trees, rest, failures, tellsLine_of_readFront isSize readBody isGapText told,
        isGapText, ?_, fun attempts => ?_⟩
    · intro failure member
      simp [atBeginning failure member]
    · apply run_optional_of_matches
      rw [run_line_of_ne_hash (head?_append_ne_hash ends commented), taken]

/-- The end of the text fails too where the line begins that begins no statement. -/
theorem leadTo_append_finish
    {text : List Char} {failures : List Failure}
    (leads :
      LeadTo failures (obstacle.rest ++ tail).length obstacle.lack.alternatives)
    (met : MetIn text obstacle) :
    LeadTo (failures ++ [{ part := .finish, left := (text ++ tail).length }])
      (obstacle.rest ++ tail).length (obstacle.lack.parts false) where
  notFurther := by
    intro failure member
    rcases List.mem_append.mp member with early | last
    · exact leads.notFurther failure early
    · simp [List.mem_singleton.mp last, met.length_le]
  names := by
    intro part
    have sameLength :
        (obstacle.rest ++ tail).length = (text ++ tail).length ↔
          obstacle.lack = .opening ∨ obstacle.lack = .statement := by
      rw [← met.length_eq_iff]
      simp
    rw [List.mem_append, leads.names, Lack.mem_parts_iff, List.mem_singleton,
      Failure.mk.injEq, sameLength]

/-- A line that makes no statement is left where the obstacle lies, if not as a whole. -/
theorem exists_run_optional_line_of_error
    (isLine : IsLineText line) (ends : EndsLine tail)
    (failed : Statement.read line = .error obstacle) :
    ∃ trees rest failures, IsLineText (skipGap rest) ∧ skipGap rest ≠ [] ∧
      LeadTo
        (failures ++ [{ part := .finish, left := (skipGap rest ++ tail).length }])
        (obstacle.rest ++ tail).length (obstacle.lack.parts false) ∧
        ∀ attempts,
          run size (optional Expression.line) false (skipGap line ++ tail) attempts =
            (some (trees, rest ++ tail), attempts.pushAll failures) := by
  have isBody := isLine.of_suffix (skipGap_suffix line)
  rcases read_eq_error_iff.mp failed with
    ⟨nonempty, noHash, failed | ⟨statement', rest, read, more, rfl⟩⟩
  · rcases exists_run_statement_of_error size isBody ends failed with
      ⟨failures, leads, fails⟩
    refine ⟨[], skipGap line, failures, ?_, ?_, ?_, fun attempts => ?_⟩
    · rwa [skipGap_skipGap]
    · rwa [skipGap_skipGap]
    · rw [skipGap_skipGap]
      exact leadTo_append_finish leads (metIn_of_readFront failed)
    · apply run_optional_of_fails
      rw [run_line_of_ne_hash (head?_append_ne_hash ends noHash), fails]
  · rcases exists_run_statement_of_ok size isBody ends read with
      ⟨trees, failures, -, atBeginning, taken⟩
    refine ⟨trees, rest, failures, ?_, more, ?_, fun attempts => ?_⟩
    · rcases exists_front_of_readFront read with ⟨front, -, composed, -⟩
      exact isBody.skipGap_of_suffix (composed ▸ List.suffix_append front rest)
    · have behind :=
        (length_skipGap_le rest).trans_lt (length_lt_of_readFront read)
      apply leadTo_of_behind behind
      · exact List.mem_append_right _ (List.mem_singleton_self _)
      · intro failure member
        rcases List.mem_append.mp member with early | last
        · exact Or.inr (atBeginning failure early)
        · exact Or.inl (List.mem_singleton.mp last)
    · apply run_optional_of_matches
      rw [run_line_of_ne_hash (head?_append_ne_hash ends noHash), taken]

end Expression

end TapeMachine.Format
