import Mathlib.Data.List.Infix
import TapeMachine.Json.Reader

/-!
# String literals stand in the text they are read from

A string literal is read exactly if it is written part by part, up to the next
quote.  A value holds many of them, at any depth.  Every reader leaves an end of
the text it was given and takes what stands before it, so a literal found in a
value stands in the text of the whole document, between its quotes.
-/

namespace TapeMachine

namespace Json

/-! ## Writing a literal -/

/-- A part of a string literal is written as a text. -/
inductive PartText : StringPart → List Char → Prop where
  | plain {c : Char}
      (shown : ¬ c.toNat < 0x20) (noQuote : c ≠ '"') (noBackslash : c ≠ '\\') :
      PartText (.char c) [c]
  | escape {letter c : Char}
      (named : escapedChar? letter = some c) :
      PartText (.char c) ['\\', letter]
  | unit {first second third fourth : Char} {code : Nat}
      (isUnit : unit? first second third fourth = some code) :
      PartText (.unit code) ['\\', 'u', first, second, third, fourth]

theorem exists_texts_of_readString?
    {text rest : List Char} {parts : List StringPart}
    (read : readString? text = some (parts, rest)) :
    ∃ texts, List.Forall₂ PartText parts texts ∧
      text = texts.flatten ++ '"' :: rest := by
  fun_induction readString? text generalizing parts with
  | case1 => cases read
  | case2 =>
      cases read
      exact ⟨[], .nil, rfl⟩
  | case3 first second third fourth after induction =>
      simp only [Option.bind_eq_bind, Option.bind_eq_some_iff, Prod.exists,
        Option.pure_def, Option.some.injEq, Prod.mk.injEq] at read
      rcases read with ⟨code, isUnit, others, _, read, rfl, rfl⟩
      rcases induction read with ⟨texts, written, rfl⟩
      exact ⟨_ :: texts, .cons (.unit isUnit) written, rfl⟩
  | case4 letter after noUnit induction =>
      simp only [Option.bind_eq_bind, Option.bind_eq_some_iff, Prod.exists,
        Option.pure_def, Option.some.injEq, Prod.mk.injEq] at read
      rcases read with ⟨c, named, others, _, read, rfl, rfl⟩
      rcases induction read with ⟨texts, written, rfl⟩
      exact ⟨_ :: texts, .cons (.escape named) written, rfl⟩
  | case5 => cases read
  | case6 c after noQuote noUnit noEscape shown induction =>
      simp only [Option.bind_eq_bind, Option.bind_eq_some_iff, Prod.exists,
        Option.pure_def, Option.some.injEq, Prod.mk.injEq] at read
      rcases read with ⟨others, _, read, rfl, rfl⟩
      rcases induction read with ⟨texts, written, rfl⟩
      refine ⟨_ :: texts, .cons (.plain shown noQuote ?_) written, rfl⟩
      -- A backslash would have a character behind it, the closing quote at least.
      intro isBackslash
      cases ahead : texts.flatten ++ '"' :: _ with
      | nil => simp at ahead
      | cons letter more => exact noEscape letter more isBackslash ahead

theorem readString?_flatten
    {parts : List StringPart} {texts : List (List Char)}
    (written : List.Forall₂ PartText parts texts) (rest : List Char) :
    readString? (texts.flatten ++ '"' :: rest) = some (parts, rest) := by
  induction written with
  | nil => rfl
  | cons first others induction =>
      cases first with
      | plain shown noQuote noBackslash =>
          simp [readString?, shown, noBackslash, induction]
      | escape named =>
          simp only [List.flatten_cons, List.cons_append, List.nil_append]
          rw [readString?]
          · simp [named, induction]
          · rintro _ _ _ _ _ rfl -
            simp [escapedChar?] at named
      | unit isUnit =>
          simp [readString?, isUnit, induction]

theorem readString?_eq_some_iff
    {text rest : List Char} {parts : List StringPart} :
    readString? text = some (parts, rest) ↔
      ∃ texts, List.Forall₂ PartText parts texts ∧
        text = texts.flatten ++ '"' :: rest := by
  constructor
  · exact exists_texts_of_readString?
  · rintro ⟨texts, written, rfl⟩
    exact readString?_flatten written rest

/-- A string literal stands in a text, with its quotes. -/
def StandsIn (text : List Char) (parts : List StringPart) : Prop :=
  ∃ texts, List.Forall₂ PartText parts texts ∧
    '"' :: (texts.flatten ++ ['"']) <:+: text

theorem StandsIn.mono
    {text longer : List Char} {parts : List StringPart}
    (within : text <:+: longer)
    (stands : StandsIn text parts) :
    StandsIn longer parts := by
  rcases stands with ⟨texts, written, standsIn⟩
  exact ⟨texts, written, standsIn.trans within⟩

/-! ## The literals of a value -/

mutual

/-- The string literals of a value, the names of members among them. -/
def Value.literals : Value → List (List StringPart)
  | .null => []
  | .bool _ => []
  | .number _ => []
  | .string parts => [parts]
  | .array elements => literalsOfElements elements
  | .object members => literalsOfMembers members

/-- The string literals of the elements of an array. -/
def literalsOfElements : List Value → List (List StringPart)
  | [] => []
  | element :: rest => element.literals ++ literalsOfElements rest

/-- The string literals of the members of an object. -/
def literalsOfMembers : List (List StringPart × Value) → List (List StringPart)
  | [] => []
  | (name, value) :: rest => name :: (value.literals ++ literalsOfMembers rest)

end

theorem literals_subset_of_mem_elements
    {element : Value} {elements : List Value}
    (member : element ∈ elements) :
    element.literals ⊆ (Value.array elements).literals := by
  simp only [Value.literals]
  induction elements with
  | nil => cases member
  | cons first rest induction =>
      rw [literalsOfElements]
      rcases List.mem_cons.mp member with rfl | member
      · exact List.subset_append_left _ _
      · exact List.subset_append_of_subset_right _ (induction member)

/-! ## Readers take what stands in front -/

/-- Reading a text as far as `rest` takes the literals out of it. -/
structure Takes (text : List Char) (literals : List (List StringPart))
    (rest : List Char) : Prop where
  suffix : rest <:+ text
  stand : ∀ parts ∈ literals, StandsIn text parts

namespace Takes

variable {text middle rest : List Char} {literals others : List (List StringPart)}

theorem nothing (suffix : rest <:+ text) : Takes text [] rest where
  suffix := suffix
  stand := by simp

theorem append
    (first : Takes text literals middle) (second : Takes middle others rest) :
    Takes text (literals ++ others) rest where
  suffix := second.suffix.trans first.suffix
  stand := by
    rw [List.forall_mem_append]
    refine ⟨first.stand, ?_⟩
    intro parts member
    exact (second.stand parts member).mono first.suffix.isInfix

theorem behind
    (suffix : middle <:+ text) (takes : Takes middle literals rest) :
    Takes text literals rest :=
  (nothing suffix).append takes

theorem upTo
    (takes : Takes text literals middle) (suffix : rest <:+ middle) :
    Takes text literals rest := by
  simpa using takes.append (nothing suffix)

theorem literal
    {parts : List StringPart}
    (read : readString? text = some (parts, rest)) :
    Takes ('"' :: text) [parts] rest := by
  rcases readString?_eq_some_iff.mp read with ⟨texts, written, rfl⟩
  refine ⟨⟨'"' :: (texts.flatten ++ ['"']), by simp⟩, ?_⟩
  rw [List.forall_mem_singleton]
  exact ⟨texts, written, [], rest, by simp⟩

end Takes

theorem skipSpace_suffix (text : List Char) : skipSpace text <:+ text :=
  List.dropWhile_suffix _

/-- What follows a character that space was skipped to. -/
theorem suffix_of_skipSpace_eq_cons
    {text rest : List Char} {c : Char}
    (ahead : skipSpace text = c :: rest) :
    rest <:+ text :=
  (List.suffix_cons c rest).trans (ahead ▸ skipSpace_suffix text)

end Json

/-! ## Numerals -/

namespace Decimal

theorem takeDigits_suffix (text : List Char) :
    (takeDigits text).2 <:+ text := by
  fun_induction takeDigits text with
  | case1 => exact List.suffix_refl _
  | case2 c rest noDigit => exact List.suffix_refl _
  | case3 c rest digit isDigit digits after taken induction =>
      rw [taken] at induction
      exact induction.trans (List.suffix_cons _ _)

theorem takeSign_suffix (text : List Char) :
    (takeSign text).2 <:+ text := by
  fun_cases takeSign text with
  | case1 rest => exact List.suffix_cons _ _
  | case2 rest => exact List.suffix_cons _ _
  | case3 => exact List.suffix_refl _

theorem takeInteger?_suffix
    {text rest : List Char} {value : Int}
    (taken : takeInteger? text = some (value, rest)) :
    rest <:+ text := by
  have digits := takeDigits_suffix (takeSign text).2
  simp only [takeInteger?] at taken
  split at taken
  · cases taken
  · next found after read =>
      cases taken
      rw [read] at digits
      exact digits.trans (takeSign_suffix text)

end Decimal

namespace Json

variable {text rest : List Char}

theorem readDigits?_suffix
    {digits : List Nat}
    (read : readDigits? text = some (digits, rest)) :
    rest <:+ text := by
  have suffix := Decimal.takeDigits_suffix text
  unfold readDigits? at read
  split at read
  · cases read
  · injection read with taken
    rw [taken] at suffix
    exact suffix

theorem readWhole?_suffix
    {digits : List Nat}
    (read : readWhole? text = some (digits, rest)) :
    rest <:+ text := by
  unfold readWhole? at read
  split at read
  · cases read
  · exact readDigits?_suffix read

theorem readFraction?_suffix
    {digits : List Nat}
    (read : readFraction? text = some (digits, rest)) :
    rest <:+ text := by
  unfold readFraction? at read
  split at read
  · exact (readDigits?_suffix read).trans (List.suffix_cons _ _)
  · cases read
    exact List.suffix_refl _

theorem readExponent?_suffix
    {power? : Option Int}
    (read : readExponent? text = some (power?, rest)) :
    rest <:+ text := by
  unfold readExponent? at read
  split at read
  · cases read
    exact List.suffix_refl _
  · next c after =>
      split at read
      · simp only [Option.map_eq_some_iff, Prod.exists, Prod.mk.injEq] at read
        rcases read with ⟨power, _, taken, -, rfl⟩
        exact (Decimal.takeInteger?_suffix taken).trans (List.suffix_cons _ _)
      · cases read
        exact List.suffix_refl _

theorem readMagnitude?_takes
    {negative : Bool} {value : Value}
    (read : readMagnitude? negative text = some (value, rest)) :
    Takes text value.literals rest := by
  simp only [readMagnitude?, Option.bind_eq_bind, Option.bind_eq_some_iff,
    Prod.exists, Option.pure_def, Option.some.injEq, Prod.mk.injEq] at read
  rcases read with
    ⟨whole, afterWhole, readWhole, fraction, afterFraction, readFraction,
      power?, _, readExponent, rfl, rfl⟩
  exact
    .nothing
      ((readExponent?_suffix readExponent).trans
        ((readFraction?_suffix readFraction).trans
          (readWhole?_suffix readWhole)))

theorem readNumeral?_takes
    {value : Value}
    (read : readNumeral? text = some (value, rest)) :
    Takes text value.literals rest := by
  unfold readNumeral? at read
  split at read
  · exact (readMagnitude?_takes read).behind (List.suffix_cons _ _)
  · exact readMagnitude?_takes read

/-! ## Values -/

theorem readColon?_suffix
    (read : readColon? text = some rest) :
    rest <:+ text := by
  unfold readColon? at read
  split at read
  · next after ahead =>
      cases read
      exact suffix_of_skipSpace_eq_cons ahead
  · cases read

/-- The readers of values take their literals, with at most `fuel` calls nested. -/
structure ReadersTake (fuel : Nat) : Prop where
  value {text rest : List Char} {value : Value}
    (read : readValue? fuel text = some (value, rest)) :
    Takes text value.literals rest
  elements {text rest : List Char} {elements : List Value}
    (read : readElements? fuel text = some (elements, rest)) :
    Takes text (literalsOfElements elements) rest
  members {text rest : List Char} {members : List (List StringPart × Value)}
    (read : readMembers? fuel text = some (members, rest)) :
    Takes text (literalsOfMembers members) rest

theorem ReadersTake.readValue?_takes
    {fuel : Nat} {value : Value}
    (readers : ReadersTake fuel)
    (read : readValue? (fuel + 1) text = some (value, rest)) :
    Takes text value.literals rest := by
  apply Takes.behind (skipSpace_suffix text)
  rw [readValue?] at read
  split at read
  · next after ahead =>
      cases read
      exact .nothing ⟨['n', 'u', 'l', 'l'], ahead.symm⟩
  · next after ahead =>
      cases read
      exact .nothing ⟨['t', 'r', 'u', 'e'], ahead.symm⟩
  · next after ahead =>
      cases read
      exact .nothing ⟨['f', 'a', 'l', 's', 'e'], ahead.symm⟩
  · next after ahead =>
      simp only [Option.map_eq_some_iff, Prod.exists, Prod.mk.injEq] at read
      rcases read with ⟨parts, _, read, rfl, rfl⟩
      rw [ahead]
      exact .literal read
  · next after ahead =>
      rw [ahead]
      apply Takes.behind (List.suffix_cons _ _)
      split at read
      · next closed =>
          cases read
          exact .nothing (suffix_of_skipSpace_eq_cons closed)
      · simp only [Option.map_eq_some_iff, Prod.exists, Prod.mk.injEq] at read
        rcases read with ⟨elements, _, read, rfl, rfl⟩
        exact (readers.elements read).behind (skipSpace_suffix after)
  · next after ahead =>
      rw [ahead]
      apply Takes.behind (List.suffix_cons _ _)
      split at read
      · next closed =>
          cases read
          exact .nothing (suffix_of_skipSpace_eq_cons closed)
      · simp only [Option.map_eq_some_iff, Prod.exists, Prod.mk.injEq] at read
        rcases read with ⟨members, _, read, rfl, rfl⟩
        exact (readers.members read).behind (skipSpace_suffix after)
  · exact readNumeral?_takes read

theorem ReadersTake.readElements?_takes
    {fuel : Nat} {elements : List Value}
    (readers : ReadersTake fuel)
    (read : readElements? (fuel + 1) text = some (elements, rest)) :
    Takes text (literalsOfElements elements) rest := by
  simp only [readElements?, Option.bind_eq_bind, Option.bind_eq_some_iff,
    Prod.exists] at read
  rcases read with ⟨element, afterElement, readElement, read⟩
  have first := readers.value readElement
  split at read
  · next after closed =>
      cases read
      exact first.append (.nothing (suffix_of_skipSpace_eq_cons closed))
  · next after comma =>
      simp only [Option.bind_eq_some_iff, Prod.exists, Option.pure_def,
        Option.some.injEq, Prod.mk.injEq] at read
      rcases read with ⟨others, _, read, rfl, rfl⟩
      exact
        first.append
          ((readers.elements read).behind (suffix_of_skipSpace_eq_cons comma))
  · cases read

theorem ReadersTake.readMembers?_takes
    {fuel : Nat} {members : List (List StringPart × Value)}
    (readers : ReadersTake fuel)
    (read : readMembers? (fuel + 1) text = some (members, rest)) :
    Takes text (literalsOfMembers members) rest := by
  apply Takes.behind (skipSpace_suffix text)
  rw [readMembers?] at read
  split at read
  · next after quote =>
      simp only [Option.bind_eq_bind, Option.bind_eq_some_iff,
        Prod.exists] at read
      rcases read with
        ⟨name, afterName, readName, afterColon, colon, value, afterValue,
          readValue, read⟩
      rw [quote]
      have first :=
        ((Takes.literal readName).upTo (readColon?_suffix colon)).append
          (readers.value readValue)
      split at read
      · next closed =>
          cases read
          exact first.append (.nothing (suffix_of_skipSpace_eq_cons closed))
      · next comma =>
          simp only [Option.bind_eq_some_iff, Prod.exists, Option.pure_def,
            Option.some.injEq, Prod.mk.injEq] at read
          rcases read with ⟨others, _, read, rfl, rfl⟩
          exact
            first.append
              ((readers.members read).behind
                (suffix_of_skipSpace_eq_cons comma))
      · cases read
  · cases read

theorem readersTake (fuel : Nat) : ReadersTake fuel := by
  induction fuel with
  | zero =>
      constructor <;> intro _ _ _ read <;> cases read
  | succ fuel readers =>
      exact
        ⟨readers.readValue?_takes, readers.readElements?_takes,
          readers.readMembers?_takes⟩

/-- The literals of a document stand in its text. -/
theorem standsIn_of_read
    {document : List Char} {value : Value} {parts : List StringPart}
    (read : Value.read? document = some value)
    (member : parts ∈ value.literals) :
    StandsIn document parts := by
  unfold Value.read? at read
  split at read
  · next found after readFound =>
      split at read
      · cases read
        exact ((readersTake _).value readFound).stand parts member
      · cases read
  · cases read

end Json

end TapeMachine
