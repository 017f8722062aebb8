import TapeMachine.Proofs.Json.Literals
import TapeMachine.Proofs.Success
import TapeMachine.Symbol

/-!
# The zero character in string literals

A string literal cannot hold the zero character itself, since it is a control
character, and no letter behind a backslash stands for it.  Half of a character
is never zero, and a character made of two halves is beyond all characters that
one unit means.  So there is one way to mean the zero character, which is to
write its escape.
-/

namespace TapeMachine.Json

/-- The escape that means the zero character. -/
def zeroEscape : List Char :=
  ['\\', 'u', '0', '0', '0', '0']

theorem hexDigit?_lt
    {c : Char} {digit : Nat}
    (isDigit : hexDigit? c = some digit) :
    digit < 16 := by
  unfold hexDigit? at isDigit
  split_ifs at isDigit with decimal lower upper <;> cases isDigit
  · have bound : c.toNat ≤ '9'.toNat := decimal.2
    simp only [Char.reduceToNat] at bound ⊢
    omega
  · have bound : c.toNat ≤ 'f'.toNat := lower.2
    simp only [Char.reduceToNat] at bound ⊢
    omega
  · have bound : c.toNat ≤ 'F'.toNat := upper.2
    simp only [Char.reduceToNat] at bound ⊢
    omega

theorem eq_of_hexDigit?_eq_zero
    {c : Char}
    (isZero : hexDigit? c = some 0) :
    c = '0' := by
  unfold hexDigit? at isZero
  split_ifs at isZero with decimal lower upper
  · injection isZero with isZero
    exact Char.le_antisymm (Nat.sub_eq_zero_iff_le.mp isZero) decimal.1
  · cases isZero
  · cases isZero

/-- A part that means a character other than the zero character, or half of one. -/
def StringPart.IsInk : StringPart → Prop
  | .char c => c ≠ Symbol.blank
  | .unit code => 0 < code ∧ code < 0x10000

/-- Only one part of a literal has to do with the zero character. -/
theorem PartText.isInk
    {part : StringPart} {text : List Char}
    (written : PartText part text)
    (other : text ≠ zeroEscape) :
    part.IsInk := by
  cases written with
  | plain shown noQuote noBackslash =>
      rintro rfl
      exact shown (by decide)
  | escape named =>
      unfold escapedChar? at named
      split_ifs at named <;> cases named <;> simp [StringPart.IsInk] <;> decide
  | unit isUnit =>
      simp only [unit?, Option.bind_eq_bind, Option.bind_eq_some_iff,
        Option.pure_def, Option.some.injEq] at isUnit
      rcases isUnit with ⟨a, isFirst, b, isSecond, c, isThird, d, isFourth, rfl⟩
      have boundA := hexDigit?_lt isFirst
      have boundB := hexDigit?_lt isSecond
      have boundC := hexDigit?_lt isThird
      have boundD := hexDigit?_lt isFourth
      refine ⟨Nat.pos_of_ne_zero ?_, by omega⟩
      intro isZero
      obtain ⟨rfl, rfl, rfl, rfl⟩ : a = 0 ∧ b = 0 ∧ c = 0 ∧ d = 0 := by
        omega
      apply other
      rw [eq_of_hexDigit?_eq_zero isFirst, eq_of_hexDigit?_eq_zero isSecond,
        eq_of_hexDigit?_eq_zero isThird, eq_of_hexDigit?_eq_zero isFourth]
      rfl

theorem ofNat_ne_blank
    {code : Nat}
    (valid : code.isValidChar) (positive : 0 < code) :
    Char.ofNat code ≠ Symbol.blank := by
  have number : (Char.ofNat code).toNat = code := by
    rw [Char.ofNat, dif_pos valid]
    rfl
  intro isBlank
  rw [isBlank] at number
  exact positive.ne number

theorem joinHalves_ne_blank
    {high low : Nat}
    (isHigh : isHighHalf high = true) (isLow : isLowHalf low = true) :
    joinHalves high low ≠ Symbol.blank := by
  simp only [isHighHalf, isLowHalf, Bool.and_eq_true, decide_eq_true_eq]
    at isHigh isLow
  exact ofNat_ne_blank (Or.inr (by omega)) (by omega)

theorem ofNat_ne_blank_of_no_half
    {code : Nat}
    (ink : (StringPart.unit code).IsInk)
    (noHigh : isHighHalf code = false) (noLow : isLowHalf code = false) :
    Char.ofNat code ≠ Symbol.blank := by
  rcases ink with ⟨positive, bound⟩
  simp only [isHighHalf, isLowHalf, Bool.and_eq_false_iff,
    decide_eq_false_iff_not] at noHigh noLow
  refine ofNat_ne_blank ?_ positive
  unfold Nat.isValidChar
  omega

theorem blank_not_mem_of_map_cons
    {c : Char} {rest? : Option (List Char)} {letters : List Char}
    (meant : rest?.map (c :: ·) = some letters)
    (ink : c ≠ Symbol.blank)
    (rest : ∀ {others}, rest? = some others → Symbol.blank ∉ others) :
    Symbol.blank ∉ letters := by
  rcases Option.map_eq_some_iff.mp meant with ⟨others, found, rfl⟩
  rw [List.mem_cons, not_or]
  exact ⟨ink.symm, rest found⟩

theorem blank_not_mem_of_text?
    {parts : List StringPart} {letters : List Char}
    (inks : ∀ part ∈ parts, part.IsInk)
    (meant : text? parts = some letters) :
    Symbol.blank ∉ letters := by
  fun_induction text? parts generalizing letters with
  | case1 =>
      cases meant
      exact List.not_mem_nil
  | case2 c rest induction =>
      rw [List.forall_mem_cons] at inks
      exact blank_not_mem_of_map_cons meant inks.1 (induction inks.2)
  | case3 high low rest isHigh isLow induction =>
      rw [List.forall_mem_cons, List.forall_mem_cons] at inks
      exact
        blank_not_mem_of_map_cons meant (joinHalves_ne_blank isHigh isLow)
          (induction inks.2.2)
  | case4 => cases meant
  | case5 => cases meant
  | case6 code low rest noHigh noLow induction =>
      rw [List.forall_mem_cons] at inks
      rw [Bool.not_eq_true] at noHigh noLow
      exact
        blank_not_mem_of_map_cons meant
          (ofNat_ne_blank_of_no_half inks.1 noHigh noLow) (induction inks.2)
  | case7 => cases meant
  | case8 code rest alone noHalf induction =>
      rw [List.forall_mem_cons] at inks
      rw [Bool.not_eq_true, Bool.or_eq_false_iff] at noHalf
      exact
        blank_not_mem_of_map_cons meant
          (ofNat_ne_blank_of_no_half inks.1 noHalf.1 noHalf.2)
          (induction inks.2)

/-- A literal means no zero character in a text without its escape. -/
theorem StandsIn.blank_not_mem
    {text letters : List Char} {parts : List StringPart}
    (stands : StandsIn text parts)
    (noEscape : ¬ zeroEscape <:+: text)
    (meant : text? parts = some letters) :
    Symbol.blank ∉ letters := by
  rcases stands with ⟨texts, written, within⟩
  apply blank_not_mem_of_text? ?_ meant
  intro part member
  rcases exists_mem_of_forall₂ written.flip member with
    ⟨partText, memberText, written⟩
  apply PartText.isInk written
  rintro rfl
  apply noEscape
  have inTexts : zeroEscape <:+: texts.flatten :=
    List.infix_of_mem_flatten memberText
  have inQuotes : texts.flatten <:+: '"' :: (texts.flatten ++ ['"']) :=
    ⟨['"'], ['"'], rfl⟩
  exact (inTexts.trans inQuotes).trans within

end TapeMachine.Json
