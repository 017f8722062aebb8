import Mathlib.Data.List.Basic
import Mathlib.Data.List.TakeWhile
import TapeMachine.Format.Grammar
import TapeMachine.Text.WhiteSpace

/-!
# Tokens are read as they are written

A token is read from the front of a text, as far as it goes.  So what is read is
not settled by the token alone but also by what stands behind it: behind a state
name, for instance, there must be no further character of a name.

This module gives one equivalence for each token, between what is read and how
the text is composed.  Trimming has such an equivalence too, for any class of
characters: white space around a text, and gaps around a line, are instances.
-/

namespace TapeMachine.Format

/-! ## Scanning a class of characters -/

/-- The text is empty, or its first character is not of the class. -/
def BeginsOutside (inClass : Char → Bool) (text : List Char) : Prop :=
  ∀ c ∈ text.head?, inClass c = false

section Scanning

variable
    {inClass : Char → Bool}
    {text front rest : List Char}

@[simp]
theorem beginsOutside_nil : BeginsOutside inClass [] := by
  simp [BeginsOutside]

@[simp]
theorem beginsOutside_cons
    {c : Char} :
    BeginsOutside inClass (c :: rest) ↔ inClass c = false := by
  simp [BeginsOutside]

theorem beginsOutside_append
    (nonempty : text ≠ []) (allOut : ∀ c ∈ text, inClass c = false)
    (rest : List Char) :
    BeginsOutside inClass (text ++ rest) := by
  cases text with
  | nil => exact (nonempty rfl).elim
  | cons c text =>
      exact beginsOutside_cons.mpr (allOut c (by simp))

theorem beginsOutside_dropWhile
    (inClass : Char → Bool) (text : List Char) :
    BeginsOutside inClass (text.dropWhile inClass) := by
  have stopped := List.head?_dropWhile_not inClass text
  intro c isHead
  rw [isHead] at stopped
  exact stopped

theorem takeWhile_of_beginsOutside
    (outside : BeginsOutside inClass rest) :
    rest.takeWhile inClass = [] := by
  cases rest with
  | nil => rfl
  | cons c rest =>
      rw [beginsOutside_cons] at outside
      simp [outside]

theorem dropWhile_of_beginsOutside
    (outside : BeginsOutside inClass rest) :
    rest.dropWhile inClass = rest := by
  cases rest with
  | nil => rfl
  | cons c rest =>
      rw [beginsOutside_cons] at outside
      simp [outside]

/-- Scanning stops where the class ends, and there only. -/
theorem scan_iff :
    text.takeWhile inClass = front ∧ text.dropWhile inClass = rest ↔
      text = front ++ rest ∧ (∀ c ∈ front, inClass c = true) ∧
        BeginsOutside inClass rest := by
  constructor
  · rintro ⟨rfl, rfl⟩
    exact
      ⟨List.takeWhile_append_dropWhile.symm,
        fun c member => List.mem_takeWhile_imp member,
        beginsOutside_dropWhile inClass text⟩
  · rintro ⟨rfl, allIn, outside⟩
    rw [List.takeWhile_append_of_pos allIn,
      List.dropWhile_append_of_pos allIn,
      takeWhile_of_beginsOutside outside,
      dropWhile_of_beginsOutside outside, List.append_nil]
    exact ⟨rfl, rfl⟩

theorem dropWhile_eq_iff :
    text.dropWhile inClass = rest ↔
      ∃ front, text = front ++ rest ∧ (∀ c ∈ front, inClass c = true) ∧
        BeginsOutside inClass rest := by
  constructor
  · intro scanned
    exact ⟨_, scan_iff.mp ⟨rfl, scanned⟩⟩
  · rintro ⟨front, composed⟩
    exact (scan_iff.mpr composed).2

end Scanning

/-! ## Trimming -/

/-- Leaving out the characters of the class at both ends of the text leaves the core. -/
def Trims (inClass : Char → Bool) (text core : List Char) : Prop :=
  ∃ before after : List Char,
    text = before ++ core ++ after ∧
      (∀ c ∈ before, inClass c = true) ∧ (∀ c ∈ after, inClass c = true) ∧
        BeginsOutside inClass core ∧ BeginsOutside inClass core.reverse

theorem Trims.subset
    {inClass : Char → Bool} {text core : List Char}
    (trims : Trims inClass text core) :
    core ⊆ text := by
  rcases trims with ⟨before, after, rfl, -⟩
  intro c member
  simp [member]

/-- Cutting the end after the beginning trims, and trimming has one outcome. -/
theorem reverse_dropWhile_reverse_dropWhile_iff
    {inClass : Char → Bool} {text core : List Char} :
    ((text.dropWhile inClass).reverse.dropWhile inClass).reverse = core ↔
      Trims inClass text core := by
  rw [List.reverse_eq_iff]
  constructor
  · intro scanned
    rcases dropWhile_eq_iff.mp scanned with ⟨after, cutEnd, allAfter, outsideEnd⟩
    rw [List.reverse_eq_iff, List.reverse_append, List.reverse_reverse]
      at cutEnd
    rcases dropWhile_eq_iff.mp cutEnd with
      ⟨before, cutBeginning, allBefore, outside⟩
    refine ⟨before, after.reverse, ?_, allBefore, ?_, ?_, outsideEnd⟩
    · rw [cutBeginning, List.append_assoc]
    · intro c member
      exact allAfter c (List.mem_reverse.mp member)
    · intro c isHead
      apply outside c
      cases core with
      | nil => simp at isHead
      | cons d core => simpa using isHead
  · rintro ⟨before, after, rfl, allBefore, allAfter, outside, outsideEnd⟩
    rw [List.append_assoc, List.dropWhile_append_of_pos allBefore]
    apply dropWhile_eq_iff.mpr
    cases core with
    | nil =>
        refine ⟨[], ?_, by simp, by simp⟩
        rw [List.nil_append, List.dropWhile_eq_nil_iff.mpr allAfter]
        rfl
    | cons c core =>
        refine ⟨after.reverse, ?_, ?_, outsideEnd⟩
        · rw [dropWhile_of_beginsOutside (by simpa using outside),
            List.reverse_append]
        · intro d member
          exact allAfter d (List.mem_reverse.mp member)

theorem trim_eq_iff
    {text core : List Char} :
    Text.trim text = core ↔ Trims Text.isWhiteSpace text core :=
  reverse_dropWhile_reverse_dropWhile_iff

theorem trimGaps_eq_iff
    {line core : List Char} :
    trimGaps line = core ↔ Trims isGap line core :=
  reverse_dropWhile_reverse_dropWhile_iff

/-! ## Tokens -/

theorem skipGap_eq_iff
    {text rest : List Char} :
    skipGap text = rest ↔
      ∃ gap, text = gap ++ rest ∧ IsGapText gap ∧ BeginsOutside isGap rest :=
  dropWhile_eq_iff

theorem skipGap_append
    {gap rest : List Char}
    (isGapText : IsGapText gap)
    (outside : BeginsOutside isGap rest) :
    skipGap (gap ++ rest) = rest :=
  skipGap_eq_iff.mpr ⟨gap, rfl, isGapText, outside⟩

theorem skipGap_eq_nil_iff
    {text : List Char} :
    skipGap text = [] ↔ IsGapText text :=
  List.dropWhile_eq_nil_iff

@[simp]
theorem skipGap_skipGap (text : List Char) :
    skipGap (skipGap text) = skipGap text :=
  dropWhile_of_beginsOutside (beginsOutside_dropWhile isGap text)

theorem isNameChar_of_isGap
    {c : Char} (gap : isGap c = true) :
    isNameChar c = false := by
  simp [isNameChar, gap]

theorem isGap_of_isNameChar
    {c : Char} (named : isNameChar c = true) :
    isGap c = false := by
  simp only [isNameChar, Bool.and_eq_true, Bool.not_eq_true'] at named
  exact named.1

theorem IsStateName.no_gap
    {letters : List Char} (isName : IsStateName letters) :
    letters ≠ [] ∧ ∀ c ∈ letters, isGap c = false := by
  refine ⟨isName.1, ?_⟩
  intro c member
  exact isGap_of_isNameChar (isName.2 c member)

/-- A gap ends a state name. -/
theorem IsGapText.beginsOutside_isNameChar
    {gap : List Char} (isGapText : IsGapText gap) :
    BeginsOutside isNameChar gap := by
  cases gap with
  | nil => simp
  | cons c gap =>
      rw [beginsOutside_cons]
      exact isNameChar_of_isGap (isGapText c (by simp))

theorem afterMark?_eq_some_iff
    {mark text rest : List Char} :
    afterMark? mark text = some rest ↔ text = mark ++ rest := by
  rw [afterMark?, List.isPrefixOf?_eq_some_iff_append_eq]
  exact eq_comm

theorem stateName?_eq_some_iff
    {text rest : List Char} {name : String} :
    stateName? text = some (name, rest) ↔
      ∃ letters, (name = String.ofList letters ∧ IsStateName letters) ∧
        text = letters ++ rest ∧ BeginsOutside isNameChar rest := by
  unfold stateName?
  constructor
  · intro read
    split at read
    · cases read
    · next nonempty =>
        cases read
        rcases scan_iff.mp ⟨rfl, rfl⟩ with ⟨composed, allIn, outside⟩
        exact ⟨_, ⟨rfl, nonempty, allIn⟩, composed, outside⟩
  · rintro ⟨letters, ⟨rfl, nonempty, allIn⟩, composed, outside⟩
    rcases scan_iff.mpr ⟨composed, allIn, outside⟩ with ⟨taken, left⟩
    rw [taken, left]
    cases letters with
    | nil => exact (nonempty rfl).elim
    | cons c letters => rfl

theorem symbol?_eq_some_iff
    {text rest : List Char} {symbol : Symbol} :
    symbol? text = some (symbol, rest) ↔
      text = symbol :: rest ∧ IsSymbol symbol := by
  cases text with
  | nil =>
      simp [symbol?]
  | cons c text =>
      by_cases gap : isGap c = true
      · simp only [symbol?, gap, if_true, IsSymbol, List.cons.injEq]
        constructor
        · intro read
          cases read
        · rintro ⟨⟨rfl, -⟩, notGap⟩
          rw [gap] at notGap
          cases notGap
      · simp only [symbol?, gap, IsSymbol, List.cons.injEq]
        constructor
        · intro read
          cases read
          exact ⟨⟨rfl, rfl⟩, by simpa using gap⟩
        · rintro ⟨⟨rfl, rfl⟩, -⟩
          rfl

theorem ofMark?_eq_some_iff
    {mark : Char} {direction : Direction} :
    Direction.ofMark? mark = some direction ↔ mark = direction.mark := by
  constructor
  · intro read
    unfold Direction.ofMark? at read
    split at read
    · cases read
      assumption
    · split at read
      · cases read
        assumption
      · split at read
        · cases read
          assumption
        · cases read
  · rintro rfl
    exact Direction.ofMark?_mark direction

theorem direction?_eq_some_iff
    {text rest : List Char} {direction : Direction} :
    direction? text = some (direction, rest) ↔
      text = direction.mark :: rest := by
  cases text with
  | nil =>
      simp [direction?]
  | cons c text =>
      simp only [direction?, Option.map_eq_some_iff, ofMark?_eq_some_iff,
        Prod.mk.injEq, List.cons.injEq]
      constructor
      · rintro ⟨_, marked, rfl, rfl⟩
        exact ⟨marked, rfl⟩
      · rintro ⟨marked, rfl⟩
        exact ⟨direction, marked, rfl, rfl⟩

end TapeMachine.Format
