import TapeMachine.Proofs.Format.Furthest

/-!
# Descriptions collected from trees

A text is read by the grammar and collected from the tree that is found, or it is
read line by line.  Both come to the same description, and to the same error with the
same place and the same words.

The trees of the lines tell what the lines say, so that collecting them is adding up
statements.  A header given again stops both at the same line.  Without one, the last
header with a keyword, which the collection keeps, is also the first, which is looked
up among the statements.
-/

namespace TapeMachine.Format

open Expression

variable
    {source : List Char}
    {tree : Tree}
    {inner trees : List Tree}

/-! ## Tokens in a tree -/

/-- The first token is read, and the others are left. -/
theorem Tree.exists_nextText_of_tokens
    (source : List Char) (tree : Tree)
    {part : Part} {text : List Char} {tokens : List (Part × List Char)}
    (told : inner.map Tree.token = (part, text) :: tokens) :
    ∃ others, tree.nextText source inner = .ok (text, others) ∧
      others.map Tree.token = tokens := by
  rcases List.map_eq_cons_iff.mp told with
    ⟨first, others, rfl, isToken, toldOthers⟩
  refine ⟨others, ?_, toldOthers⟩
  cases isToken
  rfl

theorem Tree.direction_of_mark
    {direction : Direction} (isMark : tree.text = [direction.mark]) :
    tree.direction source = .ok direction := by
  cases direction <;> simp [Tree.direction, isMark, Direction.mark]

/-- The tokens of a transition make the transition again. -/
theorem Tree.transition_of_tokens
    {made : Transition} (told : tree.inner.map Tree.token = transitionTokens made) :
    tree.transition source = .ok made := by
  rcases tree.exists_nextText_of_tokens source told with ⟨rest, isState, told⟩
  rcases tree.exists_nextText_of_tokens source told with ⟨rest', isSymbol, told⟩
  rcases tree.exists_nextText_of_tokens source told with ⟨rest'', isNext, told⟩
  rcases tree.exists_nextText_of_tokens source told with ⟨movements, isWrite, told⟩
  rcases List.map_eq_cons_iff.mp told with ⟨movement, others, rfl, isMovement, -⟩
  have isDirection : movement.direction source = .ok made.direction :=
    Tree.direction_of_mark (congrArg Prod.snd isMovement)
  simp only [Tree.transition, isState, isSymbol, isNext, isWrite, isDirection, bind,
    Except.bind, String.ofList_toList]
  rfl

/-! ## Adding up statements -/

namespace Collected

variable
    {collected : Collected}

/-- The collection with what one line says. -/
def add (collected : Collected) (statement : Statement) : Collected where
  start? := (statement.header?.bind Header.start?).or collected.start?
  accept? := (statement.header?.bind Header.accept?).or collected.accept?
  reject? := (statement.header?.bind Header.reject?).or collected.reject?
  blank? := (statement.header?.bind Header.blank?).or collected.blank?
  transitions := collected.transitions ++ statement.transition?.toList
  seen := (statement.header?.map Header.keyword).toList ++ collected.seen

theorem add_of_none
    {statement : Statement}
    (noHeader : statement.header? = none) (noTransition : statement.transition? = none) :
    collected.add statement = collected := by
  simp [add, noHeader, noTransition]

/-- A header whose keyword was seen stops the collection; a new one is added to it. -/
theorem put_header
    {line : Line} {made : Header} (told : inner.map Tree.token = made.tokens) :
    put source collected (lineTree line.offset line.text (.header made.keyword) inner) =
      if made.keyword ∈ collected.seen then
        .error (.report (.ofRepeated source line made.keyword))
      else .ok (collected.add (.header made)) := by
  have valued :
      (Tree.nextText source
            (lineTree line.offset line.text (.header made.keyword) inner) inner).map
          (fun found => collected.putHeader made.keyword found.1) =
        .ok (collected.add (.header made)) := by
    cases made <;>
      rcases Tree.exists_nextText_of_tokens source _ told with ⟨others, isText, -⟩ <;>
        rw [isText] <;>
          simp [Except.map, putHeader, add, Statement.header?, Statement.transition?,
            Header.keyword, Header.start?, Header.accept?, Header.reject?,
            Header.blank?, Tree.symbol]
  rw [← valued]
  rfl

theorem put_transition
    {line : Line} {made : Transition}
    (told : inner.map Tree.token = transitionTokens made) :
    put source collected (lineTree line.offset line.text .transition inner) =
      .ok (collected.add (.transition made)) := by
  have isMade :
      (lineTree line.offset line.text .transition inner).transition source =
        .ok made :=
    Tree.transition_of_tokens told
  rw [put, lineTree]
  simp only
  rw [← lineTree, isMade]
  rfl

/-- The trees of a line are put to a collection as what the line says is added to it. -/
theorem foldlM_put_of_tellsLine
    {line : Line} {statement : Statement}
    (told : TellsLine line.offset line.text statement trees) :
    trees.foldlM (put source) collected =
      match repeatedHeader? collected.seen [(line, statement)] with
      | some (line, keyword) => .error (.report (.ofRepeated source line keyword))
      | none => .ok (collected.add statement) := by
  cases statement with
  | empty | comment =>
      cases told
      rw [add_of_none rfl rfl]
      rfl
  | header made =>
      rcases told with ⟨inner, tokens, rfl⟩
      rw [List.foldlM_cons, put_header tokens, repeatedHeader?_cons_header]
      split <;> rfl
  | transition made =>
      rcases told with ⟨inner, tokens, rfl⟩
      rw [List.foldlM_cons, put_transition tokens]
      rfl

theorem repeatedHeader?_cons
    (line : Line) (statement : Statement) (readings : List (Line × Statement)) :
    repeatedHeader? collected.seen ((line, statement) :: readings) =
      (repeatedHeader? collected.seen [(line, statement)]).or
        (repeatedHeader? (collected.add statement).seen readings) := by
  rcases statement.header?_cases with noHeader | ⟨made, rfl⟩
  · simp [repeatedHeader?, add, noHeader]
  · simp only [repeatedHeader?_cons_header]
    split <;> rfl

/-- Putting trees to a collection stops where a header is given again, and else adds up. -/
theorem foldlM_put_of_tellsLines
    {readings : List (Line × Statement)} (told : TellsLines readings trees)
    (collected : Collected) :
    trees.foldlM (put source) collected =
      match repeatedHeader? collected.seen readings with
      | some (line, keyword) => .error (.report (.ofRepeated source line keyword))
      | none => .ok ((readings.map Prod.snd).foldl add collected) := by
  induction told generalizing collected with
  | nil => rfl
  | cons toldLine _ induction =>
      rw [List.foldlM_append, foldlM_put_of_tellsLine toldLine]
      split
      · next found =>
          rw [repeatedHeader?_cons, found]
          rfl
      · next found =>
          rw [repeatedHeader?_cons, found]
          exact induction _

/-! ## The collected values -/

/-- Where no header is given again, the value that is kept is the first that is given. -/
theorem field?_foldl_add
    {Value : Type} {field? : Collected → Option Value} {value? : Header → Option Value}
    {keyword : Keyword}
    (added :
      ∀ collected statement,
        field? (add collected statement) =
          (statement.header?.bind value?).or (field? collected))
    (ofHeader : ∀ header, (value? header).isSome ↔ header.keyword = keyword)
    {readings : List (Line × Statement)}
    (unrepeated : repeatedHeader? collected.seen readings = none)
    (kept : (field? collected).isSome → keyword ∈ collected.seen) :
    field? ((readings.map Prod.snd).foldl add collected) =
      (field? collected).or
        ((readings.map Prod.snd).findSome? fun statement =>
          statement.header?.bind value?) := by
  induction readings generalizing collected with
  | nil => simp
  | cons reading readings induction =>
      rcases reading with ⟨line, statement⟩
      rw [repeatedHeader?_cons, Option.or_eq_none_iff] at unrepeated
      rcases unrepeated with ⟨fresh, unrepeated⟩
      rw [List.map_cons, List.foldl_cons, List.findSome?_cons]
      cases given : statement.header?.bind value? with
      | none =>
          have same : field? (collected.add statement) = field? collected := by
            rw [added, given, Option.none_or]
          have keptBehind :
              (field? (collected.add statement)).isSome →
                keyword ∈ (collected.add statement).seen := by
            rw [same]
            intro isKept
            exact List.mem_append_right _ (kept isKept)
          rw [induction unrepeated keptBehind, same]
      | some value =>
          rcases Option.bind_eq_some_iff.mp given with ⟨made, isHeader, isValue⟩
          have isKeyword : made.keyword = keyword :=
            (ofHeader made).mp (by simp [isValue])
          -- The keyword is new, so that no value of it is kept yet.
          have isNew : field? collected = none := by
            rw [← Option.not_isSome_iff_eq_none]
            intro isKept
            simp [repeatedHeader?, isHeader, isKeyword, kept isKept] at fresh
          have keptBehind :
              (field? (collected.add statement)).isSome →
                keyword ∈ (collected.add statement).seen := by
            intro _
            simp [add, isHeader, isKeyword]
          rw [induction unrepeated keptBehind, added, given, isNew]
          rfl

theorem transitions_foldl_add (statements : List Statement) :
    (statements.foldl add collected).transitions =
      collected.transitions ++ statements.filterMap Statement.transition? := by
  induction statements generalizing collected with
  | nil => simp
  | cons statement statements induction =>
      rw [List.foldl_cons, induction, add, List.append_assoc]
      cases made : statement.transition? <;> simp [made]

/-- A header that is missing among the statements is missed in their collection. -/
theorem require_foldl_add
    {Value : Type} (keyword : Keyword) (field? : Collected → Option Value)
    (value? : Header → Option Value)
    (added :
      ∀ collected statement,
        field? (add collected statement) =
          (statement.header?.bind value?).or (field? collected))
    (ofHeader : ∀ header, (value? header).isSome ↔ header.keyword = keyword)
    {readings : List (Line × Statement)}
    (unrepeated : repeatedHeader? [] readings = none)
    (nothing : field? {} = none) :
    require keyword (field? ((readings.map Prod.snd).foldl add {})) =
      (headerValue keyword value? (readings.map Prod.snd)).mapError
        fun missing => .invalid (.missing missing) := by
  have kept :
      (field? ({} : Collected)).isSome → keyword ∈ ({} : Collected).seen := by
    simp [nothing]
  rw [field?_foldl_add added ofHeader unrepeated kept, nothing, Option.none_or,
    headerValue]
  cases (readings.map Prod.snd).findSome? _ <;> rfl

/-- Statements that repeat no header are collected to what they are assembled to. -/
theorem description_foldl_add
    {readings : List (Line × Statement)}
    (unrepeated : repeatedHeader? [] readings = none) :
    ((readings.map Prod.snd).foldl add {}).description =
      (assemble (readings.map Prod.snd)).mapError
        fun missing => .invalid (.missing missing) := by
  have isStart :=
    require_foldl_add .start start? Header.start? (fun _ _ => rfl) isSome_start?_iff
      unrepeated rfl
  have isAccept :=
    require_foldl_add .accept accept? Header.accept? (fun _ _ => rfl)
      isSome_accept?_iff unrepeated rfl
  have isReject :=
    require_foldl_add .reject reject? Header.reject? (fun _ _ => rfl)
      isSome_reject?_iff unrepeated rfl
  have isBlank :=
    require_foldl_add .blank blank? Header.blank? (fun _ _ => rfl) isSome_blank?_iff
      unrepeated rfl
  rw [description, isStart, isAccept, isReject, isBlank, transitions_foldl_add]
  simp only [assemble, mapError_bind, List.nil_append]
  rfl

end Collected

/-! ## Descriptions -/

/-- The tree of a text makes the description that its lines make, or the same complaint. -/
theorem description_descriptionTree
    {readings : List (Line × Statement)} (told : TellsLines readings trees) :
    (descriptionTree source trees).description source =
      match repeatedHeader? [] readings with
      | some (line, keyword) => .error (.report (.ofRepeated source line keyword))
      | none =>
        (assemble (readings.map Prod.snd)).mapError
          fun missing => .invalid (.missing missing) := by
  rw [Tree.description, descriptionTree, List.foldlM_append,
    Collected.foldlM_put_of_tellsLines told]
  split
  · next found =>
      rw [found]
      rfl
  · next found =>
      rw [found, ← Collected.description_foldl_add found]
      rfl

end TapeMachine.Format

namespace TapeMachine.Description

open Format

/-- Reading line by line comes to what reading by the grammar comes to. -/
theorem parseTrimmed_eq_parseTree (source : List Char) :
    parseTrimmed source = parseTree source := by
  cases read : readLines (Line.cut 0 source) with
  | error stuck =>
      rcases stuck with ⟨line, obstacle⟩
      rcases Expression.exists_run_description_of_error read with
        ⟨attempts, fails, -, isReport⟩
      rw [parseTrimmed_of_readLines_eq_error read, parseTree, fails, isReport]
  | ok readings =>
      rcases Expression.exists_run_description_of_ok read with
        ⟨trees, attempts, told, taken⟩
      rw [parseTrimmed, read, parseTree, taken]
      simp only
      rw [description_descriptionTree told]
      cases repeatedHeader? [] readings with
      | some repeated => rfl
      | none => cases assemble (readings.map Prod.snd) <;> rfl

/--
A text fails where the grammar does not match it, by a header given again, or by one
that is missing; no token of a tree is ever missing or wrong.
-/
theorem parseTree_eq_error_cases
    {source : List Char} {error : MachineError}
    (failed : parseTree source = .error error) :
    (∃ report, error = .report report ∧
      ((∃ parts, report.complaint = .expected parts) ∨
        ∃ keyword, report.complaint = .repeated keyword)) ∨
    ∃ keyword, error = .invalid (.missing keyword) := by
  rw [← parseTrimmed_eq_parseTree] at failed
  rcases parseTrimmed_eq_error_cases failed with
    ⟨report, isReport, -, isExpected⟩ | ⟨report, line, made, isReport, again, -⟩ |
      isMissing
  · exact Or.inl ⟨report, isReport, Or.inl isExpected⟩
  · exact Or.inl ⟨report, isReport, Or.inr ⟨made.keyword, again⟩⟩
  · exact Or.inr isMissing

/-- A text makes the description, or gives the error, that it does by the grammar. -/
theorem parse_eq_parseByGrammar (text : String) :
    parse text = parseByGrammar text := by
  rw [parse, parseByGrammar, parseTrimmed_eq_parseTree]

/-- The grammar finds one tree in all of a text that makes a description. -/
theorem parseTrimmed_eq_ok_iff_found
    {source : List Char} {description : Description} :
    parseTrimmed source = .ok description ↔
      ∃ root attempts,
        Expression.description.run source.length false source (.initial source) =
          (some ([root], []), attempts) ∧
        root.description source = .ok description := by
  constructor
  · intro parsed
    cases read : readLines (Line.cut 0 source) with
    | error stuck =>
        rw [parseTrimmed_of_readLines_eq_error read] at parsed
        cases parsed
    | ok readings =>
        rcases Expression.exists_run_description_of_ok read with
          ⟨trees, attempts, -, taken⟩
        rw [parseTrimmed_eq_parseTree, parseTree, taken] at parsed
        exact ⟨Expression.descriptionTree source trees, attempts, taken, parsed⟩
  · rintro ⟨root, attempts, taken, collected⟩
    rw [parseTrimmed_eq_parseTree, parseTree, taken]
    exact collected

/-- A text makes a description if the grammar finds a tree in all of it that holds one. -/
theorem parse_eq_ok_iff_found
    {text : String} {description : Description} :
    parse text = .ok description ↔
      text.utf8ByteSize ≤ 65536 ∧ ∃ root attempts,
        Expression.description.run (Text.trim text.toList).length false
            (Text.trim text.toList) (.initial (Text.trim text.toList)) =
          (some ([root], []), attempts) ∧
        root.description (Text.trim text.toList) = .ok description := by
  rw [← parseTrimmed_eq_ok_iff_found]
  by_cases within : text.utf8ByteSize ≤ sizeLimit
  · rw [parse_of_within within]
    exact (and_iff_right within).symm
  · rw [parse_of_tooLarge (Nat.lt_of_not_le within)]
    simp [show ¬ text.utf8ByteSize ≤ 65536 from within]

end TapeMachine.Description
