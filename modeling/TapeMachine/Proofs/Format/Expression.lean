import TapeMachine.Proofs.Format.Attempts
import TapeMachine.Proofs.Format.Obstacle

/-!
# The grammar on one line

The grammar is tried against all that is left of a text, the reader of lines sees
one line.  Tried where a line begins, the grammar stays in this line all the same:
no token goes over a line end, and a gap holds none.

Every attempt on a token, a header or a transition does one of two things, with
the reader of lines as the measure: it goes as far as the reader, or it leaves one
failure, for the lack that the reader finds and where the reader finds it.
-/

namespace TapeMachine.Format

/-! ## Marks -/

@[simp]
theorem afterMark?_nil (text : List Char) :
    afterMark? [] text = some text :=
  rfl

@[simp]
theorem afterMark?_cons_nil (c : Char) (mark : List Char) :
    afterMark? (c :: mark) [] = none :=
  rfl

@[simp]
theorem afterMark?_cons_cons (c d : Char) (mark text : List Char) :
    afterMark? (c :: mark) (d :: text) =
      if d = c then afterMark? mark text else none := by
  rw [afterMark?, List.isPrefixOf?]
  simp only [beq_iff_eq, eq_comm (a := c)]
  rfl

/-! ## The end of a line -/

/-- The text is empty, or it goes on with a line end. -/
def EndsLine (text : List Char) : Prop :=
  ∀ c ∈ text.head?, isLineEnd c = true

theorem endsLine_nil : EndsLine [] := by
  simp [EndsLine]

@[simp]
theorem endsLine_cons
    {c : Char} {rest : List Char} :
    EndsLine (c :: rest) ↔ isLineEnd c = true := by
  simp [EndsLine]

theorem isGap_of_isLineEnd
    {c : Char} (ended : isLineEnd c = true) :
    isGap c = false := by
  simp only [isLineEnd, Bool.or_eq_true, beq_iff_eq] at ended
  rcases ended with rfl | rfl <;> rfl

theorem IsLineText.of_suffix
    {line rest : List Char}
    (isLine : IsLineText line) (isSuffix : rest <:+ line) :
    IsLineText rest :=
  fun c member => isLine c (isSuffix.subset member)

theorem IsLineText.skipGap_of_suffix
    {line rest : List Char}
    (isLine : IsLineText line) (isSuffix : rest <:+ line) :
    IsLineText (skipGap rest) :=
  isLine.of_suffix ((skipGap_suffix rest).trans isSuffix)

theorem IsLineText.skipGap_afterMark
    {mark line rest : List Char}
    (isLine : IsLineText line) (marked : afterMark? mark line = some rest) :
    IsLineText (skipGap rest) :=
  isLine.skipGap_of_suffix
    ((afterMark?_eq_some_iff.mp marked).symm ▸ List.suffix_append mark rest)

section Ends

variable
    {tail : List Char}
    (ends : EndsLine tail)

include ends

theorem EndsLine.skipGap_eq : skipGap tail = tail := by
  apply dropWhile_of_beginsOutside
  intro c isHead
  exact isGap_of_isLineEnd (ends c isHead)

theorem EndsLine.skipGap_append (text : List Char) :
    skipGap (text ++ tail) = skipGap text ++ tail := by
  rw [skipGap, List.dropWhile_append]
  split
  · next onlyGap =>
      rw [List.isEmpty_iff] at onlyGap
      rw [skipGap, onlyGap]
      exact ends.skipGap_eq
  · rfl

theorem EndsLine.afterMark?_append
    {mark : List Char} (isLine : IsLineText mark) (text : List Char) :
    afterMark? mark (text ++ tail) =
      (afterMark? mark text).map (· ++ tail) := by
  induction mark generalizing text with
  | nil => rfl
  | cons c mark induction =>
      rcases isLineText_cons.mp isLine with ⟨within, isLine⟩
      cases text with
      | nil =>
          cases tail with
          | nil => rfl
          | cons d tail =>
              rw [endsLine_cons] at ends
              have other : d ≠ c := by
                rintro rfl
                rw [within] at ends
                cases ends
              simp [other]
      | cons d text =>
          simp only [List.cons_append, afterMark?_cons_cons]
          split
          · exact induction isLine text
          · rfl

end Ends

/-! ## Attempts that leave at most one failure -/

/-- An attempt that succeeds with nothing on record, or leaves one failure. -/
def outcome (attempts : Attempts) :
    Except Failure (List Tree × List Char) → Outcome
  | .ok found => (some found, attempts)
  | .error failure => (none, attempts.push failure)

/-- The part whose failure goes on record where a line lacks something. -/
def Lack.part : Lack → Part
  | opening | state => .state
  | statement => .transition
  | symbol => .symbol
  | direction => .direction
  | lineEnd => .finish

/-- The failure that an obstacle is if there is more text behind the line. -/
def Obstacle.failure (obstacle : Obstacle) (tail : List Char) : Failure where
  part := obstacle.lack.part
  left := (obstacle.rest ++ tail).length

/-- What was read of a line and found there, as it is seen with the text behind the line. -/
def onText
    {Value : Type} (trees : List Tree) (tail : List Char)
    (read : Except Obstacle (Value × List Char)) :
    Except Failure (List Tree × List Char) :=
  match read with
  | .ok found => .ok (trees, found.2 ++ tail)
  | .error obstacle => .error (obstacle.failure tail)

/--
An attempt goes as far as a reader of the line, and the trees that it finds tell
what was read; or it leaves the failure that the reader reports.
-/
def Follows
    {Value : Type} (tells : Value → List Char → List Tree → Prop)
    (tail : List Char) (read : Except Obstacle (Value × List Char))
    (attempt : Attempts → Outcome) : Prop :=
  ∃ trees,
    (∀ value rest, read = .ok (value, rest) → tells value rest trees) ∧
      ∀ attempts, attempt attempts = outcome attempts (onText trees tail read)

namespace Follows

variable
    {Value Value' : Type}
    {tells : Value → List Char → List Tree → Prop}
    {tells' : Value' → List Char → List Tree → Prop}
    {tail rest : List Char}
    {read : Except Obstacle (Value × List Char)}
    {attempt attempt' : Attempts → Outcome}

theorem congr
    (followed : Follows tells tail read attempt)
    (same : ∀ attempts, attempt' attempts = attempt attempts) :
    Follows tells tail read attempt' := by
  rcases followed with ⟨trees, told, tried⟩
  exact ⟨trees, told, fun attempts => (same attempts).trans (tried attempts)⟩

theorem of_ok
    {value : Value} {trees : List Tree}
    (told : tells value rest trees)
    (taken : ∀ attempts, attempt attempts = (some (trees, rest ++ tail), attempts)) :
    Follows tells tail (.ok (value, rest)) attempt := by
  refine ⟨trees, ?_, taken⟩
  intro value' rest' same
  cases same
  exact told

theorem of_error
    {obstacle : Obstacle}
    (fails :
      ∀ attempts,
        attempt attempts = (none, attempts.push (obstacle.failure tail))) :
    Follows tells tail (.error obstacle) attempt := by
  refine ⟨[], ?_, fails⟩
  intro value rest same
  cases same

theorem map
    {make : Value → Value'}
    (followed : Follows tells tail read attempt)
    (retold : ∀ value rest trees, tells value rest trees → tells' (make value) rest trees) :
    Follows tells' tail (read.map (Prod.map make id)) attempt := by
  rcases followed with ⟨trees, told, tried⟩
  cases read with
  | ok found => exact of_ok (retold _ _ _ (told found.1 found.2 rfl)) tried
  | error obstacle => exact of_error tried

end Follows

/-! ## What trees tell -/

/-- The part that a tree stands for, with its text. -/
def Tree.token (tree : Tree) : Part × List Char :=
  (tree.part, tree.text)

theorem Tree.found_append
    (size : Nat) (part : Part) (front rest : List Char) (inner : List Tree) :
    Tree.found size part (front ++ rest) rest inner =
      { part, offset := size - (front ++ rest).length, text := front, inner } := by
  simp [found]

@[simp]
theorem Tree.token_found
    (size : Nat) (part : Part) (front rest : List Char) (inner : List Tree) :
    (Tree.found size part (front ++ rest) rest inner).token = (part, front) := by
  rw [found_append, token]

/-- The trees are those of the tokens of a value, as far as they were not told before. -/
def Tells
    {Value : Type} (tokens : Value → List (Part × List Char))
    (before : List (Part × List Char))
    (value : Value) (_ : List Char) (trees : List Tree) : Prop :=
  before ++ trees.map Tree.token = tokens value

/-- One tree for a part of the description, with the trees of its tokens in it. -/
def TellsPart
    {Value : Type} (size : Nat) (part : Part)
    (tokens : Value → List (Part × List Char)) (text tail : List Char)
    (value : Value) (rest : List Char) (trees : List Tree) : Prop :=
  ∃ inner, inner.map Tree.token = tokens value ∧
    trees = [.found size part text (rest ++ tail) inner]

/-- The token that a header has for its value. -/
def Header.tokens : Header → List (Part × List Char)
  | start state | accept state | reject state => [(.state, state.toList)]
  | blank symbol => [(.symbol, [symbol])]

/-- The tokens of a transition, its arrow left out. -/
def transitionTokens (made : Transition) : List (Part × List Char) :=
  [(.state, made.state.toList), (.symbol, [made.symbol]),
    (.state, made.next.toList), (.symbol, [made.write]),
    (.direction, [made.direction.mark])]

theorem Follows.behind
    {Value : Type} {tokens : Value → List (Part × List Char)}
    {before : List (Part × List Char)} {trees : List Tree} {tail : List Char}
    {read : Except Obstacle (Value × List Char)} {attempt : Attempts → Outcome}
    (followed :
      Follows (Tells tokens (before ++ trees.map Tree.token)) tail read attempt) :
    Follows (Tells tokens before) tail read
      fun attempts => Format.behind trees (attempt attempts) := by
  rcases followed with ⟨later, told, tried⟩
  cases read with
  | ok found =>
      have toldAll : Tells tokens before found.1 found.2 (trees ++ later) := by
        rw [Tells, List.map_append, ← List.append_assoc]
        exact told found.1 found.2 rfl
      exact of_ok toldAll fun attempts => by rw [tried]; rfl
  | error obstacle => exact of_error fun attempts => by rw [tried]; rfl

@[simp]
theorem behind_nil (outcome : Outcome) : behind [] outcome = outcome := by
  rcases outcome with ⟨_ | found, attempts⟩ <;> rfl

namespace Expression

variable
    {size : Nat}
    {first second : Expression}
    {text rest line tail : List Char}
    {trees : List Tree}
    {attempts attempts' : Attempts}

@[simp]
theorem between_true : between true text = text :=
  rfl

@[simp]
theorem between_false : between false text = skipGap text :=
  rfl

/-- The one failure of its own parts stands for a part, unless it lies before the part. -/
theorem follows_rule
    {Value : Type} {tokens : Value → List (Part × List Char)}
    (part : Part) {body : Expression}
    {read : Except Obstacle (Value × List Char)}
    (followed :
      Follows (Tells tokens []) tail read (run size body false (line ++ tail)))
    (within :
      ∀ obstacle, read = .error obstacle → obstacle.rest.length ≤ line.length) :
    Follows (TellsPart size part tokens (line ++ tail) tail) tail read
      (run size (rule part body) false (line ++ tail)) := by
  rcases followed with ⟨inner, told, tried⟩
  cases read with
  | ok found =>
      refine
        Follows.of_ok ⟨inner, told found.1 found.2 rfl, rfl⟩ fun attempts => ?_
      rw [run, if_neg (by simp), tried]
      rfl
  | error obstacle =>
      refine Follows.of_error fun attempts => ?_
      have notBefore : (obstacle.failure tail).left ≤ (line ++ tail).length := by
        have inLine := within obstacle rfl
        simp only [Obstacle.failure, List.length_append]
        omega
      rw [run, if_neg (by simp), tried]
      simp only [onText, outcome, tracked, Attempts.track_push notBefore]

theorem run_rule_of_fails
    {part : Part} {body : Expression}
    (fails : run size body false text attempts = (none, attempts)) :
    run size (rule part body) false text attempts =
      (none, attempts.push { part, left := text.length }) := by
  simp [fails, tracked, Attempts.track_self]

theorem run_seq_of_matches
    (taken : run size first false text attempts = (some (trees, rest), attempts')) :
    run size (seq first second) false text attempts =
      behind trees (run size second false (skipGap rest) attempts') := by
  simp [taken, between]

theorem run_seq_of_fails
    (fails : run size first false text attempts = (none, attempts')) :
    run size (seq first second) false text attempts = (none, attempts') := by
  simp [fails]

/-! ## Characters -/

section Characters

variable
    {inToken : Bool}
    {c : Char}

theorem run_gap_cons :
    run size gap inToken (c :: rest) attempts =
      (if isGap c then some ([], rest) else none, attempts) := by
  by_cases space : c = ' ' <;> by_cases tab : c = '\t' <;>
    simp_all [gap, isGap]

theorem run_lineEnd_eq_none_iff :
    (run size lineEnd inToken text attempts).1 = none ↔
      BeginsOutside isLineEnd text := by
  cases text with
  | nil => simp [lineEnd]
  | cons c rest =>
      by_cases feed : c = '\n'
      · simp [lineEnd, isLineEnd, feed]
      · by_cases carriage : c = '\r'
        · cases paired : afterMark? ['\n'] rest <;>
            simp [lineEnd, isLineEnd, carriage, paired]
        · simp [lineEnd, isLineEnd, feed, carriage]

theorem run_lineEnd_attempts :
    (run size lineEnd inToken text attempts).2 = attempts := by
  simp only [lineEnd, run]
  cases afterMark? ['\n'] text <;> cases afterMark? ['\r', '\n'] text <;> rfl

theorem run_choice_eq_none_iff
    (kept : (run size first inToken text attempts).2 = attempts) :
    (run size (choice first second) inToken text attempts).1 = none ↔
      (run size first inToken text attempts).1 = none ∧
        (run size second inToken text attempts).1 = none := by
  rw [run]
  rcases tried : run size first inToken text attempts with ⟨_ | rest, attempts'⟩
  · rw [tried] at kept
    cases kept
    simp
  · simp

/-- A character is taken unless it is excluded. -/
theorem run_except_any_cons
    {excluded : Expression} {isExcluded : Bool}
    (excludes :
      (run size excluded inToken (c :: rest) attempts).1 = none ↔
        isExcluded = false)
    (noGap : inToken = false → isGap c = false) :
    run size (seq (except excluded) any) inToken (c :: rest) attempts =
      (if isExcluded then none else some ([], rest), attempts) := by
  have stays : between inToken (c :: rest) = c :: rest := by
    cases inToken with
    | true => rfl
    | false =>
        exact dropWhile_of_beginsOutside (beginsOutside_cons.mpr (noGap rfl))
  cases isExcluded with
  | true => simp [mt excludes.mp]
  | false => simp [excludes.mpr rfl, stays]

end Characters

/-! ## Tokens -/

theorem repeated_eq_dropWhile
    {attempt : List Char → Attempts → Outcome} {inClass : Char → Bool}
    (onNil : attempt [] attempts = (none, attempts))
    (onCons :
      ∀ c rest,
        attempt (c :: rest) attempts =
          (if inClass c then some ([], rest) else none, attempts))
    (text : List Char) :
    repeated attempt text attempts =
      (some ([], text.dropWhile inClass), attempts) := by
  induction text with
  | nil => rw [repeated, onNil, List.dropWhile_nil]
  | cons c rest induction =>
      rw [repeated, onCons]
      cases isIn : inClass c with
      | true =>
          rw [List.dropWhile_cons_of_pos isIn]
          simpa using induction
      | false =>
          rw [List.dropWhile_cons_of_neg (by simp [isIn])]
          rfl

section Classes

variable
    {body : Expression} {inClass : Char → Bool}
    (onNil : run size body true [] attempts = (none, attempts))
    (onCons :
      ∀ c rest,
        run size body true (c :: rest) attempts =
          (if inClass c then some ([], rest) else none, attempts))

include onNil onCons

theorem run_many_eq_dropWhile (text : List Char) :
    run size (many body) true text attempts =
      (some ([], text.dropWhile inClass), attempts) := by
  cases text with
  | nil => simp [onNil]
  | cons c rest =>
      rw [run, onCons]
      cases isIn : inClass c with
      | true =>
          have repeats :
              repeated (fun rest => run size body true rest) rest attempts =
                (some ([], rest.dropWhile inClass), attempts) :=
            repeated_eq_dropWhile onNil onCons rest
          simp [repeats, isIn]
      | false => simp [isIn]

theorem run_atLeastOnce_eq_dropWhile (text : List Char) :
    run size (atLeastOnce body) true text attempts =
      (if text.takeWhile inClass = [] then none
        else some ([], text.dropWhile inClass), attempts) := by
  cases text with
  | nil => simp [atLeastOnce, onNil]
  | cons c rest =>
      rw [atLeastOnce, run, onCons]
      cases isIn : inClass c with
      | true =>
          simpa [isIn, between] using run_many_eq_dropWhile onNil onCons rest
      | false => simp [isIn]

end Classes

/-- On a line a class of characters that holds no line end is scanned in the line alone. -/
theorem scan_line_append
    {inClass : Char → Bool}
    (isLine : IsLineText line) (ends : EndsLine tail) :
    (line ++ tail).takeWhile (fun c => inClass c && !isLineEnd c) =
        line.takeWhile inClass ∧
      (line ++ tail).dropWhile (fun c => inClass c && !isLineEnd c) =
        line.dropWhile inClass ++ tail := by
  have front : ∀ c ∈ line.takeWhile inClass, isLineEnd c = false :=
    fun c member => isLine c ((List.takeWhile_prefix inClass).subset member)
  apply scan_iff.mpr
  refine ⟨?_, ?_, ?_⟩
  · rw [← List.append_assoc, List.takeWhile_append_dropWhile]
  · intro c member
    simp [front c member, List.mem_takeWhile_imp member]
  · cases left : line.dropWhile inClass with
    | nil =>
        intro c isHead
        simp [ends c isHead]
    | cons d rest =>
        have stopped := beginsOutside_dropWhile inClass line
        rw [left, beginsOutside_cons] at stopped
        simp [stopped]

/--
The expression finds a token where the reader of lines finds it, and goes as far;
without a token it leaves the failure that the reader reports.
-/
structure FindsToken
    {Value : Type} (expression : Expression) (lack : Lack)
    (letters : Value → List Char)
    (token? : List Char → Option (Value × List Char)) : Prop where
  follows :
    ∀ (size : Nat) {line tail : List Char}, IsLineText line → EndsLine tail →
      Follows (Tells (fun value => [(lack.part, letters value)]) []) tail
        (require lack token? line)
        (run size expression false (line ++ tail))
  composed :
    ∀ {line rest : List Char} {value : Value},
      token? line = some (value, rest) → line = letters value ++ rest

theorem follows_require
    {Value : Type} {expression : Expression} {lack : Lack}
    {letters : Value → List Char}
    {token? : List Char → Option (Value × List Char)}
    (composed :
      ∀ {line rest : List Char} {value : Value},
        token? line = some (value, rest) → line = letters value ++ rest)
    (tried :
      ∀ attempts,
        run size expression false (line ++ tail) attempts =
          tracked size lack.part (line ++ tail) attempts
            ((token? line).map (([], ·.2 ++ tail)), attempts)) :
    Follows (Tells (fun value => [(lack.part, letters value)]) []) tail
      (require lack token? line) (run size expression false (line ++ tail)) := by
  rw [require]
  cases found : token? line with
  | none =>
      refine Follows.of_error fun attempts => ?_
      rw [tried, found]
      simp [tracked, Attempts.track_self, Obstacle.failure]
  | some pair =>
      rcases pair with ⟨value, rest⟩
      have told :
          Tells (fun value => [(lack.part, letters value)]) [] value rest
            [.found size lack.part (line ++ tail) (rest ++ tail) []] := by
        rw [composed found, List.append_assoc, Tells]
        simp
      refine Follows.of_ok told fun attempts => ?_
      rw [tried, found]
      rfl

theorem findsToken_state
    {lack : Lack} (named : lack.part = .state) :
    FindsToken state lack String.toList stateName? := by
  have composed {line rest : List Char} {name : String}
      (read : stateName? line = some (name, rest)) :
      line = name.toList ++ rest := by
    rcases stateName?_eq_some_iff.mp read with ⟨letters, ⟨rfl, -⟩, rfl, -⟩
    rw [String.toList_ofList]
  refine ⟨?_, composed⟩
  intro size line tail isLine ends
  apply follows_require composed
  intro attempts
  have onCons :
      ∀ c rest,
        run size
            (seq (except (choice gap (choice lineEnd (mark [':'])))) any)
            true (c :: rest) attempts =
          (if isNameChar c && !isLineEnd c then some ([], rest) else none,
            attempts) := by
    intro c rest
    have excludes :
        (run size (choice gap (choice lineEnd (mark [':']))) true (c :: rest)
            attempts).1 = none ↔
          (!(isNameChar c && !isLineEnd c)) = false := by
      rw [run_choice_eq_none_iff (by rw [run_gap_cons]),
        run_choice_eq_none_iff run_lineEnd_attempts, run_gap_cons,
        run_lineEnd_eq_none_iff]
      simp [isNameChar, and_assoc, and_comm, and_left_comm]
    rw [run_except_any_cons excludes (by simp)]
    cases isNameChar c && !isLineEnd c <;> rfl
  have found :=
    run_atLeastOnce_eq_dropWhile (by simp [gap, lineEnd]) onCons
      (line ++ tail)
  rw [(scan_line_append isLine ends).1, (scan_line_append isLine ends).2]
    at found
  rw [named, state, run, if_neg (by simp), found, stateName?]
  cases line.takeWhile isNameChar <;> simp

theorem findsToken_symbol :
    FindsToken symbol .symbol (fun symbol => [symbol]) symbol? := by
  have composed {line rest : List Char} {symbol : Symbol}
      (read : symbol? line = some (symbol, rest)) :
      line = [symbol] ++ rest :=
    (symbol?_eq_some_iff.mp read).1
  refine ⟨?_, composed⟩
  intro size line tail isLine ends
  apply follows_require composed
  intro attempts
  have onCons :
      ∀ c rest,
        run size (seq (except (choice gap lineEnd)) any) true (c :: rest)
            attempts =
          (if isGap c || isLineEnd c then none else some ([], rest),
            attempts) := by
    intro c rest
    apply run_except_any_cons _ (by simp)
    rw [run_choice_eq_none_iff (by rw [run_gap_cons]), run_gap_cons,
      run_lineEnd_eq_none_iff]
    simp
  rw [symbol, run, if_neg (by simp)]
  cases line with
  | nil =>
      cases tail with
      | nil => simp [gap, lineEnd, symbol?, Lack.part]
      | cons d tail =>
          rw [endsLine_cons] at ends
          rw [List.nil_append, onCons, ends, symbol?, Bool.or_true]
          rfl
  | cons c rest =>
      have within := (isLineText_cons.mp isLine).1
      rw [List.cons_append, onCons, within, symbol?]
      cases isGap c <;> simp [Lack.part]

theorem findsToken_direction :
    FindsToken direction .direction (fun direction => [direction.mark])
      direction? := by
  have composed {line rest : List Char} {direction : Direction}
      (read : direction? line = some (direction, rest)) :
      line = [direction.mark] ++ rest :=
    direction?_eq_some_iff.mp read
  refine ⟨?_, composed⟩
  intro size line tail isLine ends
  apply follows_require composed
  intro attempts
  have isMark :
      ∀ text,
        run size (choice (mark ['<']) (choice (mark ['>']) (mark ['^']))) false
            text attempts =
          ((direction? text).map (([], ·.2)), attempts) := by
    intro text
    cases text with
    | nil => rfl
    | cons c rest =>
        by_cases left : c = '<' <;> by_cases right : c = '>' <;>
          by_cases stay : c = '^' <;>
            simp_all [direction?, Direction.ofMark?]
  rw [direction, run, if_neg (by simp), isMark]
  cases line with
  | nil =>
      cases tail with
      | nil => rfl
      | cons d tail =>
          rw [endsLine_cons, isLineEnd, Bool.or_eq_true, beq_iff_eq,
            beq_iff_eq] at ends
          rcases ends with rfl | rfl <;> rfl
  | cons c rest =>
      simp [direction?, Lack.part, Function.comp_def]

section Sequences

variable
    {Value Value' : Type}
    {expression : Expression} {lack : Lack}
    {letters : Value → List Char}
    {token? : List Char → Option (Value × List Char)}
    (finds : FindsToken expression lack letters token?)
    (isLine : IsLineText line) (ends : EndsLine tail)

include finds isLine ends

/-- With a token in front, an expression fails for want of it or is tried behind it. -/
theorem FindsToken.run_seq_cases (size : Nat) :
    (token? line = none ∧ ∀ second attempts,
      run size (seq expression second) false (line ++ tail) attempts =
        (none,
          attempts.push { part := lack.part, left := (line ++ tail).length })) ∨
    ∃ value rest trees, token? line = some (value, rest) ∧
      IsLineText (skipGap rest) ∧
      trees.map Tree.token = [(lack.part, letters value)] ∧
      ∀ second attempts,
        run size (seq expression second) false (line ++ tail) attempts =
          behind trees
            (run size second false (skipGap rest ++ tail) attempts) := by
  rcases finds.follows size isLine ends with ⟨trees, told, tried⟩
  rw [require] at told tried
  cases found : token? line with
  | none =>
      rw [found] at tried
      exact Or.inl ⟨rfl, fun _ attempts => run_seq_of_fails (tried attempts)⟩
  | some pair =>
      rcases pair with ⟨value, rest⟩
      rw [found] at told tried
      have isSuffix : rest <:+ line :=
        finds.composed found ▸ List.suffix_append (letters value) rest
      refine
        Or.inr
          ⟨value, rest, trees, rfl, isLine.skipGap_of_suffix isSuffix,
            told value rest rfl, fun second attempts => ?_⟩
      rw [run_seq_of_matches (tried attempts), ends.skipGap_append]

theorem FindsToken.follows_seq
    {tokens : Value' → List (Part × List Char)}
    (before : List (Part × List Char))
    {read : Value → List Char → Except Obstacle (Value' × List Char)}
    (continues :
      ∀ value rest, IsLineText rest →
        Follows (Tells tokens (before ++ [(lack.part, letters value)])) tail
          (read value rest) (run size second false (rest ++ tail))) :
    Follows (Tells tokens before) tail
      (require lack token? line >>= fun found =>
        read found.1 (skipGap found.2))
      (run size (seq expression second) false (line ++ tail)) := by
  rw [require]
  rcases finds.run_seq_cases isLine ends size with
    ⟨missing, fails⟩ | ⟨value, rest, trees, found, isRest, told, tried⟩
  · rw [missing]
    exact Follows.of_error (fails second)
  · rw [found]
    have followed := continues value (skipGap rest) isRest
    rw [← told] at followed
    exact followed.behind.congr (tried second)

end Sequences

/-! ## Headers -/

theorem follows_value
    (size : Nat) (isLine : IsLineText line) (ends : EndsLine tail) (keyword : Keyword) :
    Follows (Tells Header.tokens []) tail (readHeader keyword line)
      (run size (value keyword) false (line ++ tail)) := by
  cases keyword <;> rw [value, readHeader]
  case blank =>
    exact (findsToken_symbol.follows size isLine ends).map fun _ _ _ told => told
  all_goals
    exact
      ((findsToken_state rfl).follows size isLine ends).map fun _ _ _ told => told

/-- What trying a header on a line leads to, if it finds these trees. -/
def headerResult
    (trees : List Tree) (line tail : List Char) (keyword : Keyword) :
    Except Failure (List Tree × List Char) :=
  match keyword.value? line with
  | none => .error { part := .header keyword, left := (line ++ tail).length }
  | some value => onText trees tail (readHeader keyword value)

theorem run_mark_seq
    {mark' : List Char} (isMark : IsLineText mark')
    (ends : EndsLine tail) :
    run size (seq (mark mark') second) false (line ++ tail) attempts =
      match afterMark? mark' line with
      | none => (none, attempts)
      | some rest => run size second false (skipGap rest ++ tail) attempts := by
  rw [run, run, ends.afterMark?_append isMark]
  cases afterMark? mark' line with
  | none => rfl
  | some rest => simp [ends.skipGap_append]

theorem run_header_parts
    (ends : EndsLine tail) (keyword : Keyword) :
    run size (seq (mark keyword.letters) (seq (mark [':']) (value keyword)))
        false (line ++ tail) attempts =
      match keyword.value? line with
      | none => (none, attempts)
      | some value =>
        run size (Expression.value keyword) false (value ++ tail) attempts := by
  have colon : IsLineText [':'] := by simp [IsLineText, isLineEnd]
  rw [run_mark_seq keyword.letters_isLineText ends, Keyword.value?]
  cases afterMark? keyword.letters line with
  | none => rfl
  | some afterName =>
      simp only [run_mark_seq colon ends, Option.bind_eq_bind, Option.bind_some]
      cases afterMark? [':'] (skipGap afterName) <;> rfl

theorem isLineText_of_value?
    {keyword : Keyword} {value : List Char}
    (isLine : IsLineText line) (valued : keyword.value? line = some value) :
    IsLineText value := by
  rcases Keyword.value?_eq_some_iff.mp valued with ⟨before, after, rfl, -⟩
  apply isLine.of_suffix
  refine ⟨keyword.letters ++ before ++ ':' :: after, ?_⟩
  simp

/-- A header is tried as the reader of lines reads it once its colon is there. -/
theorem exists_run_header
    (size : Nat) (isLine : IsLineText line) (ends : EndsLine tail)
    (keyword : Keyword) :
    ∃ trees,
      (∀ value made rest, keyword.value? line = some value →
        readHeader keyword value = .ok (made, rest) →
          TellsPart size (.header keyword) Header.tokens (line ++ tail) tail made
            rest trees) ∧
      ∀ attempts,
        run size (header keyword) false (line ++ tail) attempts =
          outcome attempts (headerResult trees line tail keyword) := by
  rw [header]
  cases valued : keyword.value? line with
  | none =>
      refine ⟨[], by simp, fun attempts => ?_⟩
      rw [headerResult, valued]
      apply run_rule_of_fails
      rw [run_header_parts ends, valued]
  | some value =>
      have followed :
          Follows (Tells Header.tokens []) tail (readHeader keyword value)
            (run size
              (seq (mark keyword.letters) (seq (mark [':']) (Expression.value keyword)))
              false (line ++ tail)) := by
        refine (follows_value size (isLineText_of_value? isLine valued) ends keyword).congr ?_
        intro attempts
        rw [run_header_parts ends, valued]
      have behind :=
        Keyword.length_value?_lt (Keyword.opening?_eq_some_iff.mpr valued)
      have within :
          ∀ obstacle, readHeader keyword value = .error obstacle →
            obstacle.rest.length ≤ line.length := by
        intro obstacle failed
        rcases readHeader_eq_error failed with rfl | rfl <;> exact behind.le
      rcases follows_rule (.header keyword) followed within with
        ⟨trees, told, tried⟩
      refine ⟨trees, ?_, fun attempts => ?_⟩
      · intro value' made rest same
        cases same
        exact told made rest
      · rw [headerResult, valued]
        exact tried attempts

/-! ## Transitions -/

/-- Behind its arrow a transition is tried as the reader of lines reads it there. -/
theorem follows_target
    (size : Nat) (isLine : IsLineText line) (ends : EndsLine tail)
    (state : String) (symbol : Symbol) :
    Follows
      (Tells transitionTokens [(.state, state.toList), (.symbol, [symbol])]) tail
      (readTarget ({ state, symbol, next := ·, write := ·, direction := · }) line)
      (run size (seq Expression.state (seq Expression.symbol direction)) false
        (line ++ tail)) := by
  have moves (next : String) (write : Symbol) (line : List Char)
      (isLine : IsLineText line) :
      Follows
        (Tells transitionTokens
          [(.state, state.toList), (.symbol, [symbol]), (.state, next.toList),
            (.symbol, [write])]) tail
        ((require .direction direction? line).map
          (Prod.map ({ state, symbol, next, write, direction := · }) id))
        (run size direction false (line ++ tail)) :=
    (findsToken_direction.follows size isLine ends).map
      fun _ _ _ told => congrArg _ told
  have writes (next : String) (line : List Char) (isLine : IsLineText line) :=
    findsToken_symbol.follows_seq isLine ends
      [(.state, state.toList), (.symbol, [symbol]), (.state, next.toList)]
      (moves next)
  have targets :=
    (findsToken_state (rfl : Lack.part .state = .state)).follows_seq isLine ends
      [(.state, state.toList), (.symbol, [symbol])] writes
  have same :
      readTarget ({ state, symbol, next := ·, write := ·, direction := · }) line =
        (require .state stateName? line >>= fun next =>
          require .symbol symbol? (skipGap next.2) >>= fun write =>
            (require .direction direction? (skipGap write.2)).map
              (Prod.map
                ({ state, symbol, next := next.1, write := write.1, direction := · })
                id)) :=
    rfl
  rw [same]
  exact targets

/-- What a transition consists of. -/
def transitionParts : Expression :=
  seq state (seq symbol (seq (mark ['-', '>']) (seq state (seq symbol direction))))

/-- Only where the arrow is missing nothing goes on record, and the transition fails as a whole. -/
theorem follows_transitionParts_or
    (size : Nat) (isLine : IsLineText line) (ends : EndsLine tail) :
    Follows (Tells transitionTokens []) tail (readTransition line)
        (run size transitionParts false (line ++ tail)) ∨
      readTransition line = .error { lack := .statement, rest := line } ∧
        ∀ attempts,
          run size transitionParts false (line ++ tail) attempts =
            (none, attempts) := by
  have finds := findsToken_state (rfl : Lack.part .opening = .state)
  have isArrow : IsLineText ['-', '>'] := by simp [IsLineText, isLineEnd]
  rw [readTransition_eq, require]
  rcases finds.run_seq_cases isLine ends size with
    ⟨missing, fails⟩ | ⟨state, rest, trees, found, isRest, isState, tried⟩
  · rw [missing]
    exact Or.inl (Follows.of_error (fails _))
  rw [found]
  simp only [Except.bind, bind, require]
  rcases findsToken_symbol.run_seq_cases isRest ends size with
    ⟨missing, fails⟩ |
      ⟨symbol, rest', trees', found', isRest', isSymbol, tried'⟩
  · rw [missing]
    refine Or.inl (Follows.of_error fun attempts => ?_)
    rw [transitionParts, tried, fails]
    rfl
  simp only [found']
  have behindSymbol (attempts : Attempts) :
      run size transitionParts false (line ++ tail) attempts =
        behind trees
          (behind trees'
            (match afterMark? ['-', '>'] (skipGap rest') with
            | none => (none, attempts)
            | some target =>
              run size (seq Expression.state (seq Expression.symbol direction))
                false (skipGap target ++ tail) attempts)) := by
    rw [transitionParts, tried, tried', run_mark_seq isArrow ends]
  cases arrow : afterMark? ['-', '>'] (skipGap rest') with
  | none =>
      refine Or.inr ⟨rfl, fun attempts => ?_⟩
      rw [behindSymbol, arrow]
      rfl
  | some target =>
      have followed :=
        follows_target size (isRest'.skipGap_afterMark arrow) ends state symbol
      rw [arrow] at behindSymbol
      refine Or.inl (Follows.congr (Follows.behind (Follows.behind ?_)) behindSymbol)
      rw [isState, isSymbol]
      exact followed

theorem follows_transition
    (size : Nat) (isLine : IsLineText line) (ends : EndsLine tail) :
    Follows (TellsPart size .transition transitionTokens (line ++ tail) tail) tail
      (readTransition line) (run size transition false (line ++ tail)) := by
  have composed : transition = rule .transition transitionParts := rfl
  rw [composed]
  rcases follows_transitionParts_or size isLine ends with
    followed | ⟨read, fails⟩
  · apply follows_rule .transition followed
    intro obstacle read
    exact (metIn_of_readTransition read).length_le
  · rw [read]
    exact Follows.of_error fun attempts => run_rule_of_fails (fails attempts)

end Expression

end TapeMachine.Format
