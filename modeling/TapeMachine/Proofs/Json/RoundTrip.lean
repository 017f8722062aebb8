import TapeMachine.Json.Document
import TapeMachine.Proofs.Json.Literals
import TapeMachine.Proofs.Success

/-!
# Descriptions survive being written as documents

A document is written for people and read by a grammar that does not ask how it
was written.  What is read back is nearly the document that was written: only a
control character without a letter of its own is written by its code, and read
as a unit and no longer as a character.  Both mean the same text, so a
description is decoded again from every document it is encoded in.

No condition on names and symbols is needed here.  Every character can stand in
a string literal, as itself or behind a backslash.
-/

namespace TapeMachine.Json

/-! ## Literals -/

/-- The part that is read where a character was written. -/
def readBack (c : Char) : StringPart :=
  if c.toNat < 0x20 ∧ c ∉ ['\x08', '\x0c', '\n', '\r', '\t'] then .unit c.toNat
  else .char c

/-- The literal that is read where a text was written. -/
def literalReadBack (text : String) : List StringPart :=
  text.toList.map readBack

theorem hexDigit?_digitChar :
    ∀ digit < 16, hexDigit? (Nat.digitChar digit) = some digit := by
  decide

/-- Four digits are read as the unit they were written for. -/
theorem partText_fourDigits
    {code : Nat} (isUnit : code < 0x10000) :
    PartText (.unit code) ('\\' :: 'u' :: fourDigits code) := by
  refine .unit ?_
  simp only [unit?, hexDigit?_digitChar _ (Nat.mod_lt _ (by decide : 0 < 16)),
    Option.bind_eq_bind, Option.bind_some, Option.pure_def, Option.some_inj]
  omega

theorem partText_escaped (c : Char) :
    PartText (readBack c) (escaped c) := by
  unfold escaped
  split_ifs with quote backslash backspace formFeed lineFeed carriage tab control
  · subst quote
    exact .escape rfl
  · subst backslash
    exact .escape rfl
  · subst backspace
    exact .escape rfl
  · subst formFeed
    exact .escape rfl
  · subst lineFeed
    exact .escape rfl
  · subst carriage
    exact .escape rfl
  · subst tab
    exact .escape rfl
  · have isUnit : readBack c = .unit c.toNat :=
      if_pos ⟨control, by simp [backspace, formFeed, lineFeed, carriage, tab]⟩
    rw [isUnit]
    exact partText_fourDigits (by omega)
  · have isChar : readBack c = .char c :=
      if_neg fun unit => control unit.1
    rw [isChar]
    exact .plain control quote backslash

theorem text?_readBack_cons (c : Char) (parts : List StringPart) :
    text? (readBack c :: parts) = (text? parts).map (c :: ·) := by
  unfold readBack
  split_ifs with control
  · have noHigh : isHighHalf c.toNat = false := by
      simp only [isHighHalf, Bool.and_eq_false_iff, decide_eq_false_iff_not]
      omega
    have noLow : isLowHalf c.toNat = false := by
      simp only [isLowHalf, Bool.and_eq_false_iff, decide_eq_false_iff_not]
      omega
    -- A unit is looked at together with the part behind it.
    cases parts with
    | nil => simp [text?, noHigh, noLow]
    | cons next parts =>
        cases next <;> simp [text?, noHigh, noLow]
  · rfl

theorem text?_map_readBack (letters : List Char) :
    text? (letters.map readBack) = some letters := by
  induction letters with
  | nil => rfl
  | cons c letters induction =>
      rw [List.map_cons, text?_readBack_cons, induction, Option.map_some]

@[simp]
theorem decodeText_literalReadBack (text : String) :
    decodeText (literalReadBack text) = .ok text := by
  simp [decodeText, literalReadBack, text?_map_readBack]

theorem readString?_of_written (text : String) (rest : List Char) :
    readString?
        ((text.toList.map StringPart.char).flatMap StringPart.print ++
          '"' :: rest) =
      some (literalReadBack text, rest) := by
  have written :
      List.Forall₂ PartText (literalReadBack text)
        (text.toList.map escaped) := by
    rw [literalReadBack, List.forall₂_map_left_iff, List.forall₂_map_right_iff,
      List.forall₂_same]
    intro c _
    exact partText_escaped c
  have printed :
      (text.toList.map StringPart.char).flatMap StringPart.print =
        (text.toList.map escaped).flatten := by
    rw [List.flatMap_map, List.flatMap_def]
    rfl
  rw [printed]
  exact readString?_flatten written rest

/-! ## Space -/

theorem skipSpace_cons
    {c : Char} (ink : isSpace c = false) (text : List Char) :
    skipSpace (c :: text) = c :: text := by
  simp [skipSpace, ink]

theorem skipSpace_space_cons (text : List Char) :
    skipSpace (' ' :: text) = skipSpace text :=
  rfl

theorem skipSpace_printString_append
    (parts : List StringPart) (text : List Char) :
    skipSpace (printString parts ++ text) = printString parts ++ text :=
  skipSpace_cons (by decide) _

theorem skipSpace_newLine_append (level : Nat) (text : List Char) :
    skipSpace (newLine level ++ text) = skipSpace text := by
  apply List.dropWhile_append_of_pos
  simp [newLine, isSpace]

/-! ## Values -/

/-- Where a value was written another one is read, whatever follows it. -/
structure ReadsAs (value found : Value) : Prop where
  begins (level : Nat) :
    ∃ c text, value.print level = c :: text ∧ isSpace c = false ∧ c ≠ ']'
  reads (level fuel : Nat) (text rest : List Char)
    (ahead : skipSpace text = value.print level ++ rest)
    (enough : (value.print level).length < fuel) :
    readValue? fuel text = some (found, rest)

theorem ReadsAs.skipSpace_print
    {value found : Value} (readsAs : ReadsAs value found)
    (level : Nat) (rest : List Char) :
    skipSpace (value.print level ++ rest) = value.print level ++ rest := by
  rcases readsAs.begins level with ⟨c, text, begins, ink, -⟩
  rw [begins, List.cons_append, skipSpace_cons ink]

theorem readsAs_ofText (text : String) :
    ReadsAs (.ofText text) (.string (literalReadBack text)) where
  begins level := ⟨_, _, rfl, rfl, by decide⟩
  reads level fuel text' rest ahead enough := by
    cases fuel with
    | zero => cases enough
    | succ fuel =>
        have quoted :
            skipSpace text' =
              '"' :: ((text.toList.map StringPart.char).flatMap
                StringPart.print ++ '"' :: rest) := by
          rw [ahead]
          simp [Value.ofText, Value.print, printString]
        rw [readValue?, quoted]
        simp [readString?_of_written]

/-- The elements of an array, up to its closing bracket. -/
theorem readElements?_of_written
    {first found : Value} {others founds : List Value}
    (readsFirst : ReadsAs first found)
    (readsOthers : List.Forall₂ ReadsAs others founds)
    (level outer fuel : Nat) (text rest : List Char)
    (ahead :
      skipSpace text =
        first.print level ++
          (printElements level others ++ (newLine outer ++ ']' :: rest)))
    (enough :
      (first.print level).length + (printElements level others).length + 1 <
        fuel) :
    readElements? fuel text = some (found :: founds, rest) := by
  induction readsOthers generalizing first found fuel text with
  | nil =>
      cases fuel with
      | zero => cases enough
      | succ fuel =>
          rw [readElements?,
            readsFirst.reads level fuel text _ ahead (by omega)]
          simp [printElements, skipSpace_newLine_append, skipSpace_cons, isSpace]
  | @cons next foundNext others founds readsNext readsOthers induction =>
      cases fuel with
      | zero => cases enough
      | succ fuel =>
          rw [readElements?,
            readsFirst.reads level fuel text _ ahead (by omega)]
          simp only [printElements, List.length_cons, List.length_append]
            at enough
          have readOthers :=
            induction readsNext fuel
              (newLine level ++
                (next.print level ++ (printElements level others ++
                  (newLine outer ++ ']' :: rest))))
              (by rw [skipSpace_newLine_append, readsNext.skipSpace_print])
              (by omega)
          simp [printElements, skipSpace_cons, isSpace, readOthers]

theorem readValue?_array
    {level fuel : Nat} {text body rest : List Char} {founds : List Value}
    (opened : skipSpace text = '[' :: (newLine level ++ body))
    (reached : skipSpace body = body)
    (nonempty : body.head? ≠ some ']')
    (read : readElements? fuel body = some (founds, rest)) :
    readValue? (fuel + 1) text = some (.array founds, rest) := by
  rw [readValue?, opened]
  simp only [skipSpace_newLine_append, reached]
  split
  · exact (nonempty rfl).elim
  · rw [read, Option.map_some]

theorem readsAs_array
    {elements founds : List Value}
    (readsAs : List.Forall₂ ReadsAs elements founds) :
    ReadsAs (.array elements) (.array founds) where
  begins level := by
    cases elements <;> exact ⟨_, _, rfl, rfl, by decide⟩
  reads level fuel text rest ahead enough := by
    cases fuel with
    | zero => cases enough
    | succ fuel =>
        cases readsAs with
        | nil =>
            rw [readValue?, ahead]
            simp [Value.print, skipSpace_cons, isSpace]
        | @cons first found others founds readsFirst readsOthers =>
            have opened :
                skipSpace text =
                  '[' :: (newLine (level + 1) ++
                    (first.print (level + 1) ++
                      (printElements (level + 1) others ++
                        (newLine level ++ ']' :: rest)))) := by
              simp [ahead, Value.print]
            have reached := readsFirst.skipSpace_print (level + 1)
            apply readValue?_array opened (reached _)
            · rcases readsFirst.begins (level + 1) with ⟨c, _, begins, -, noEnd⟩
              simpa [begins] using noEnd
            · apply
                readElements?_of_written readsFirst readsOthers (level + 1)
                  level fuel _ rest (reached _)
              simp only [Value.print, newLine, List.length_cons,
                List.length_append] at enough
              omega

/-! ## Members -/

/-- Where a member was written another one is read, with the name of the first. -/
inductive MemberReadsAs :
    List StringPart × Value → List StringPart × Value → Prop where
  | intro (name : String) {value found : Value}
      (reads : ReadsAs value found) :
      MemberReadsAs (memberOf name value) (literalReadBack name, found)

/-- A member is read up to what follows it, a comma or the closing brace. -/
theorem readMembers?_succ_of_written
    {name : String} {value found : Value}
    (readsAs : ReadsAs value found)
    (level fuel : Nat) (text after : List Char)
    (ahead :
      skipSpace text =
        printString (name.toList.map .char) ++
          ':' :: ' ' :: (value.print level ++ after))
    (enough : (value.print level).length < fuel) :
    readMembers? (fuel + 1) text =
      match skipSpace after with
      | '}' :: rest => some ([(literalReadBack name, found)], rest)
      | ',' :: rest =>
        (readMembers? fuel rest).map fun (members, rest) =>
          ((literalReadBack name, found) :: members, rest)
      | _ => none := by
  have quoted :
      skipSpace text =
        '"' :: ((name.toList.map StringPart.char).flatMap StringPart.print ++
          '"' :: ':' :: ' ' :: (value.print level ++ after)) := by
    simp [ahead, printString]
  have valueAhead :
      skipSpace (' ' :: (value.print level ++ after)) =
        value.print level ++ after :=
    (skipSpace_space_cons _).trans (readsAs.skipSpace_print level after)
  have colon (text : List Char) : readColon? (':' :: text) = some text := by
    simp [readColon?, skipSpace_cons, isSpace]
  rw [readMembers?, quoted]
  simp only [readString?_of_written, colon,
    readsAs.reads level fuel _ after valueAhead enough, Option.bind_eq_bind,
    Option.bind_some, Option.pure_def, Option.map_eq_bind]
  rfl

/-- The members of an object, up to its closing brace. -/
theorem readMembers?_of_written
    {name : String} {value found : Value}
    {others founds : List (List StringPart × Value)}
    (readsFirst : ReadsAs value found)
    (readsOthers : List.Forall₂ MemberReadsAs others founds)
    (level outer fuel : Nat) (text rest : List Char)
    (ahead :
      skipSpace text =
        printString (name.toList.map .char) ++
          ':' :: ' ' :: (value.print level ++
            (printMembers level others ++ (newLine outer ++ '}' :: rest))))
    (enough :
      (value.print level).length + (printMembers level others).length + 1 <
        fuel) :
    readMembers? fuel text =
      some ((literalReadBack name, found) :: founds, rest) := by
  induction readsOthers generalizing name value found fuel text with
  | nil =>
      cases fuel with
      | zero => cases enough
      | succ fuel =>
          rw [readMembers?_succ_of_written readsFirst level fuel text _ ahead
            (by omega)]
          simp [printMembers, skipSpace_newLine_append, skipSpace_cons, isSpace]
  | cons first others induction =>
      cases first with
      | intro next readsNext =>
          cases fuel with
          | zero => cases enough
          | succ fuel =>
              rw [readMembers?_succ_of_written readsFirst level fuel text _ ahead
                (by omega)]
              simp only [printMembers, memberOf, List.length_cons,
                List.length_append] at enough ⊢
              have readOthers :=
                @induction next _ _ readsNext fuel _
                  ((skipSpace_newLine_append level _).trans
                    (skipSpace_printString_append _ _))
                  (by omega)
              simp [skipSpace_cons, isSpace, readOthers]

theorem readValue?_object
    {level fuel : Nat} {text body rest : List Char}
    {founds : List (List StringPart × Value)}
    (opened : skipSpace text = '{' :: (newLine level ++ body))
    (reached : skipSpace body = body)
    (nonempty : body.head? ≠ some '}')
    (read : readMembers? fuel body = some (founds, rest)) :
    readValue? (fuel + 1) text = some (.object founds, rest) := by
  rw [readValue?, opened]
  simp only [skipSpace_newLine_append, reached]
  split
  · exact (nonempty rfl).elim
  · rw [read, Option.map_some]

theorem readsAs_object
    {members founds : List (List StringPart × Value)}
    (readsAs : List.Forall₂ MemberReadsAs members founds) :
    ReadsAs (.object members) (.object founds) where
  begins level := by
    cases members <;> exact ⟨_, _, rfl, rfl, by decide⟩
  reads level fuel text rest ahead enough := by
    cases fuel with
    | zero => cases enough
    | succ fuel =>
        cases readsAs with
        | nil =>
            rw [readValue?, ahead]
            simp [Value.print, skipSpace_cons, isSpace]
        | @cons member _ others _ first readsOthers =>
            cases first with
            | @intro name value found readsFirst =>
                have opened :
                    skipSpace text =
                      '{' :: (newLine (level + 1) ++
                        (printString (name.toList.map .char) ++
                          ':' :: ' ' :: (value.print (level + 1) ++
                            (printMembers (level + 1) others ++
                              (newLine level ++ '}' :: rest))))) := by
                  simp [ahead, Value.print, memberOf]
                have reached :=
                  skipSpace_printString_append (name.toList.map .char)
                apply readValue?_object opened (reached _)
                · simp [printString]
                · apply
                    readMembers?_of_written readsFirst readsOthers (level + 1)
                      level fuel _ rest (reached _)
                  simp only [Value.print, memberOf, newLine, List.length_cons,
                    List.length_append] at enough
                  omega

/-- A document is read as a whole. -/
theorem ReadsAs.read?_print
    {value found : Value} (readsAs : ReadsAs value found) :
    Value.read? (value.print 0) = some found := by
  have read :=
    readsAs.reads 0 (2 * (value.print 0).length + 2) (value.print 0) []
      (by simpa using readsAs.skipSpace_print 0 []) (by omega)
  simp [Value.read?, read, skipSpace]

/-! ## Records -/

/-- A value is written and read as one that is decoded to what was encoded. -/
def DecodesAs {Made : Type} (decode : Value → Except Mismatch Made)
    (value : Value) (made : Made) : Prop :=
  ∃ found, ReadsAs value found ∧ decode found = .ok made

theorem decodesAs_ofText (text : String) :
    DecodesAs decodeString (.ofText text) text :=
  ⟨_, readsAs_ofText text, decodeText_literalReadBack text⟩

theorem decodesAs_encodeSymbol (symbol : Symbol) :
    DecodesAs decodeChar (encodeSymbol symbol) symbol := by
  have isText : encodeSymbol symbol = .ofText (String.ofList [symbol]) := by
    simp [encodeSymbol, Value.ofText]
  rw [isText]
  refine ⟨_, readsAs_ofText _, ?_⟩
  simp [decodeChar, bind, Except.bind, pure, Except.pure]

theorem decodesAs_encodeDirection (direction : Direction) :
    DecodesAs decodeDirection (encodeDirection direction) direction := by
  refine ⟨_, readsAs_ofText direction.name, ?_⟩
  simp [decodeDirection, decodeDirectionName, bind, Except.bind, pure,
    Except.pure]

theorem decodesAs_encodeTransition (transition : Transition) :
    DecodesAs decodeTransition (encodeTransition transition) transition := by
  rcases decodesAs_ofText transition.state with ⟨state, readsState, isState⟩
  rcases decodesAs_encodeSymbol transition.symbol with
    ⟨symbol, readsSymbol, isSymbol⟩
  rcases decodesAs_ofText transition.next with ⟨next, readsNext, isNext⟩
  rcases decodesAs_encodeSymbol transition.write with
    ⟨write, readsWrite, isWrite⟩
  rcases decodesAs_encodeDirection transition.direction with
    ⟨direction, readsDirection, isDirection⟩
  have readsMembers :=
    readsAs_object <|
      .cons (.intro "state" readsState) <|
        .cons (.intro "symbol" readsSymbol) <|
          .cons (.intro "next_state" readsNext) <|
            .cons (.intro "write" readsWrite) <|
              .cons (.intro "direction" readsDirection) .nil
  refine ⟨_, readsMembers, ?_⟩
  simp [decodeTransition, putMembers, TransitionDraft.put, fillField,
    TransitionDraft.finish, givenField, isState, isSymbol, isNext, isWrite,
    isDirection, bind, Except.bind, pure, Except.pure, Except.map]

/-- A list of transitions is written and read one by one. -/
theorem decodesAs_encodeTransitions (transitions : List Transition) :
    DecodesAs decodeTransitions
      (.array (transitions.map encodeTransition)) transitions := by
  have exists_founds :
      ∃ founds,
        List.Forall₂ ReadsAs (transitions.map encodeTransition) founds ∧
          List.Forall₂ (fun found made => decodeTransition found = .ok made)
            founds transitions := by
    induction transitions with
    | nil => exact ⟨[], .nil, .nil⟩
    | cons transition transitions induction =>
        rcases induction with ⟨founds, read, decoded⟩
        rcases decodesAs_encodeTransition transition with
          ⟨found, readFirst, decodedFirst⟩
        exact ⟨found :: founds, .cons readFirst read, .cons decodedFirst decoded⟩
  rcases exists_founds with ⟨founds, read, decoded⟩
  exact ⟨.array founds, readsAs_array read, mapM_eq_ok_iff.mpr decoded⟩

theorem decodesAs_encodeDescription (description : Description) :
    DecodesAs decodeDescription (encodeDescription description)
      description := by
  rcases decodesAs_ofText description.start with ⟨start, readsStart, isStart⟩
  rcases decodesAs_ofText description.accept with
    ⟨accept, readsAccept, isAccept⟩
  rcases decodesAs_ofText description.reject with
    ⟨reject, readsReject, isReject⟩
  rcases decodesAs_encodeSymbol description.blank with
    ⟨blank, readsBlank, isBlank⟩
  rcases decodesAs_encodeTransitions description.transitions with
    ⟨transitions, readsTransitions, isTransitions⟩
  have readsMembers :=
    readsAs_object <|
      .cons (.intro "start" readsStart) <|
        .cons (.intro "accept" readsAccept) <|
          .cons (.intro "reject" readsReject) <|
            .cons (.intro "blank" readsBlank) <|
              .cons (.intro "transitions" readsTransitions) .nil
  refine ⟨_, readsMembers, ?_⟩
  simp [decodeDescription, putMembers, DescriptionDraft.put, fillField,
    DescriptionDraft.finish, givenField, isStart, isAccept, isReject, isBlank,
    isTransitions, bind, Except.bind, pure, Except.pure, Except.map]

end TapeMachine.Json

namespace TapeMachine.Description

open Json

/-- Every description is read again from the document it is written as. -/
theorem ofJson_toJson (description : Description) :
    ofJson description.toJson = .ok description := by
  rcases decodesAs_encodeDescription description with ⟨found, reads, decoded⟩
  rw [ofJson, toJson, String.toList_ofList, reads.read?_print]
  simp only [decoded]

end TapeMachine.Description
