import Mathlib.Data.Nat.Digits.Defs
import TapeMachine.Proofs.Building
import TapeMachine.Proofs.Catalogue.Programs
import TapeMachine.Proofs.Run.Walk
import TapeMachine.Proofs.Tape.Rendering

/-!
# The increment program adds one

The program goes over the word to the blank behind it and comes back with a
carry.  The carry turns ones into zeros until it meets a zero or the blank in
front of the word, and ends there as a one.

So a word falls into the ones it ends with and what stands in front of them, and
the only choice on the way is between a zero and a blank, which the program
treats alike.  What the digits are worth is compared by an induction over the
ones at the end.
-/

namespace TapeMachine.Catalogue

open Format

/-- The machine that the increment program describes. -/
def binaryIncrementMachine : Machine where
  start := binaryIncrement.start
  accept := binaryIncrement.accept
  reject := binaryIncrement.reject
  blank? := some binaryIncrement.blank
  rules := binaryIncrement.rules
  deterministic := by decide +kernel

theorem build_binaryIncrement :
    binaryIncrement.build = .ok binaryIncrementMachine :=
  Description.build_eq_ok_iff.mpr ⟨rfl, rfl, rfl, rfl, rfl⟩

/-- A symbol that words over the alphabet of the program are made of. -/
def IsDigit (symbol : Symbol) : Prop :=
  symbol = '0' ∨ symbol = '1'

instance : DecidablePred IsDigit :=
  fun symbol => inferInstanceAs (Decidable (symbol = '0' ∨ symbol = '1'))

theorem IsDigit.ne_blank
    {symbol : Symbol} (isDigit : IsDigit symbol) :
    symbol ≠ Symbol.blank := by
  rcases isDigit with rfl | rfl <;> decide

/-! ## The ones at the end -/

/-- The number of ones that a word ends with. -/
def trailingOnes (word : List Symbol) : Nat :=
  (word.reverse.takeWhile (· == '1')).length

/-- What stands in front of the ones at the end of a word, the last symbol first. -/
def beforeOnes (word : List Symbol) : List Symbol :=
  word.reverse.dropWhile (· == '1')

theorem takeWhile_one_eq_replicate (symbols : List Symbol) :
    symbols.takeWhile (· == '1') =
      List.replicate (symbols.takeWhile (· == '1')).length '1' := by
  rw [List.eq_replicate_iff]
  refine ⟨rfl, fun symbol member => ?_⟩
  simpa using List.mem_takeWhile_imp member

theorem reverse_eq_append_beforeOnes (word : List Symbol) :
    word.reverse =
      List.replicate (trailingOnes word) '1' ++ beforeOnes word := by
  rw [trailingOnes, ← takeWhile_one_eq_replicate]
  exact List.takeWhile_append_dropWhile.symm

theorem beginsOutside_beforeOnes (word : List Symbol) :
    BeginsOutside (· == '1') (beforeOnes word) :=
  beginsOutside_dropWhile _ _

theorem ones_of_reverse_eq
    {word left : List Symbol} {count : Nat}
    (composed : word.reverse = List.replicate count '1' ++ left)
    (noOne : BeginsOutside (· == '1') left) :
    trailingOnes word = count ∧ beforeOnes word = left := by
  have allOnes : ∀ c ∈ List.replicate count '1', (c == '1') = true := by
    simp
  rcases scan_iff.mpr ⟨composed, allOnes, noOne⟩ with ⟨taken, isLeft⟩
  refine ⟨?_, isLeft⟩
  rw [trailingOnes, taken, List.length_replicate]

/-! ## The word with one added -/

/-- The digits of the number that follows the one of a word. -/
def incremented (word : List Symbol) : List Symbol :=
  (beforeOnes word).tail.reverse ++
    '1' :: List.replicate (trailingOnes word) '0'

theorem incremented_of_last_zero (front : List Symbol) (count : Nat) :
    let word := front ++ '0' :: List.replicate count '1'
    trailingOnes word = count ∧
      (beforeOnes word).tail.length = front.length ∧
        incremented word = front ++ '1' :: List.replicate count '0' := by
  intro word
  have composed :
      word.reverse = List.replicate count '1' ++ '0' :: front.reverse := by
    simp [word]
  rcases ones_of_reverse_eq composed (by simp) with ⟨isCount, isBefore⟩
  refine ⟨isCount, ?_, ?_⟩
  · rw [isBefore, List.tail_cons, List.length_reverse]
  · rw [incremented, isCount, isBefore, List.tail_cons, List.reverse_reverse]

theorem incremented_of_ones (count : Nat) :
    let word := List.replicate count '1'
    trailingOnes word = count ∧
      (beforeOnes word).tail.length = 0 ∧
        incremented word = '1' :: List.replicate count '0' := by
  intro word
  have composed : word.reverse = List.replicate count '1' ++ [] := by
    simp [word]
  rcases ones_of_reverse_eq composed (by simp) with ⟨isCount, isBefore⟩
  refine ⟨isCount, ?_, ?_⟩
  · rw [isBefore]
    rfl
  · rw [incremented, isCount, isBefore]
    rfl

section Digits

variable
    {word : List Symbol}

theorem isDigit_of_mem_beforeOnes
    (areDigits : ∀ c ∈ word, IsDigit c) :
    ∀ c ∈ beforeOnes word, IsDigit c := by
  intro c member
  have member' := (List.dropWhile_sublist _).mem member
  exact areDigits c (List.mem_reverse.mp member')

theorem isDigit_of_mem_incremented
    (areDigits : ∀ c ∈ word, IsDigit c) :
    ∀ c ∈ incremented word, IsDigit c := by
  intro c member
  rcases List.mem_append.mp member with before | behind
  · have member' := List.mem_of_mem_tail (List.mem_reverse.mp before)
    exact isDigit_of_mem_beforeOnes areDigits c member'
  · rcases List.mem_cons.mp behind with rfl | isZero
    · exact Or.inr rfl
    · exact Or.inl (List.eq_of_mem_replicate isZero)

end Digits

/-- What a digit is worth. -/
def digitValue (symbol : Symbol) : Nat :=
  if symbol = '1' then 1 else 0

/-- What a binary number is worth, its most significant digit first. -/
def binaryValue (digits : List Symbol) : Nat :=
  Nat.ofDigits 2 (digits.reverse.map digitValue)

theorem ofDigits_carried
    {left : List Symbol}
    (noOne : BeginsOutside (· == '1') left) (count : Nat) :
    Nat.ofDigits 2
        ((List.replicate count '0' ++ '1' :: left.tail).map digitValue) =
      Nat.ofDigits 2 ((List.replicate count '1' ++ left).map digitValue) +
        1 := by
  induction count with
  | zero =>
      cases left with
      | nil => rfl
      | cons digit left =>
          have notOne : digit ≠ '1' := by
            simpa using beginsOutside_cons.mp noOne
          simp [digitValue, notOne, Nat.ofDigits_cons, Nat.add_comm]
  | succ count induction =>
      have worthZero : digitValue '0' = 0 := by decide
      have worthOne : digitValue '1' = 1 := by decide
      simp only [List.replicate_succ, List.cons_append, List.map_cons,
        Nat.ofDigits_cons, induction, worthZero, worthOne]
      omega

theorem binaryValue_incremented (word : List Symbol) :
    binaryValue (incremented word) = binaryValue word + 1 := by
  have carried :=
    ofDigits_carried (beginsOutside_beforeOnes word) (trailingOnes word)
  rw [← reverse_eq_append_beforeOnes] at carried
  rw [binaryValue, binaryValue, ← carried, incremented]
  simp

/-! ## The walks -/

section Walks

variable
    {word left : List Symbol}
    {count : Nat}

theorem walks_to_end (areDigits : ∀ c ∈ word, IsDigit c) :
    binaryIncrementMachine.Walks (word.length + 1)
      ⟨"right", ⟨[], word⟩⟩ ⟨"carry", .leftOf word.reverse []⟩ := by
  have passes :
      ∀ c ∈ word,
        binaryIncrementMachine.rule? "right" c =
          some ⟨"right", c, "right", c, .right⟩ := by
    intro c member
    rcases areDigits c member with rfl | rfl <;> rfl
  have scanned := Machine.walks_scan_right rfl passes [] []
  rw [List.append_nil, List.append_nil] at scanned
  have turned :
      binaryIncrementMachine.Walks 1
        ⟨"right", ⟨word.reverse, []⟩⟩
        ⟨"carry", .leftOf word.reverse [Symbol.blank]⟩ :=
    Machine.walks_rule ⟨word.reverse, []⟩ rfl
      (rfl : binaryIncrementMachine.rule? "right" Symbol.blank =
        some ⟨"right", Symbol.blank, "carry", Symbol.blank, .left⟩)
  exact
    (scanned.trans turned).trans
      (Machine.walks_blank_right word.reverse.tail [_])

theorem walks_carry :
    binaryIncrementMachine.Walks count
      ⟨"carry", .leftOf (List.replicate count '1' ++ left) []⟩
      ⟨"carry", .leftOf left (List.replicate count '0')⟩ := by
  have passes :
      ∀ c ∈ List.replicate count '1',
        binaryIncrementMachine.rule? "carry" c =
          some ⟨"carry", c, "carry", (fun _ => '0') c, .left⟩ := by
    intro c member
    obtain rfl := List.eq_of_mem_replicate member
    rfl
  have carried := Machine.walks_rewriting_left rfl passes left []
  rw [List.length_replicate, List.map_replicate, List.reverse_replicate,
    List.append_nil] at carried
  exact carried

/-- The carry ends on a zero or on the blank in front of the word. -/
theorem walks_carry_end
    (areDigits : ∀ c ∈ left, IsDigit c)
    (noOne : BeginsOutside (· == '1') left) (right : List Symbol) :
    binaryIncrementMachine.Walks 1
      ⟨"carry", .leftOf left right⟩ ⟨"done", ⟨left.tail, '1' :: right⟩⟩ := by
  cases left with
  | nil =>
      exact
        Machine.walks_rule (.leftOf [] right) rfl
          (rfl : binaryIncrementMachine.rule? "carry" Symbol.blank =
            some ⟨"carry", Symbol.blank, "done", '1', .stay⟩)
  | cons digit left =>
      rcases areDigits digit List.mem_cons_self with rfl | rfl
      · exact
          Machine.walks_rule (.leftOf ('0' :: left) right) rfl
            (rfl : binaryIncrementMachine.rule? "carry" '0' =
              some ⟨"carry", '0', "done", '1', .stay⟩)
      · exact absurd (beginsOutside_cons.mp noOne) (by decide)

theorem walks_increment (areDigits : ∀ c ∈ word, IsDigit c) :
    binaryIncrementMachine.Walks (word.length + trailingOnes word + 2)
      ⟨"right", ⟨[], word⟩⟩
      ⟨"done",
        ⟨(beforeOnes word).tail,
          '1' :: List.replicate (trailingOnes word) '0'⟩⟩ := by
  have toEnd := walks_to_end areDigits
  rw [reverse_eq_append_beforeOnes word] at toEnd
  have increment :=
    (toEnd.trans walks_carry).trans
      (walks_carry_end (isDigit_of_mem_beforeOnes areDigits)
        (beginsOutside_beforeOnes word) _)
  have steps :
      word.length + 1 + trailingOnes word + 1 =
        word.length + trailingOnes word + 2 := by
    omega
  exact steps ▸ increment

end Walks

/-! ## Runs -/

theorem getLast?_ne_blank
    {symbols : List Symbol} (areDigits : ∀ c ∈ symbols, IsDigit c) :
    symbols.getLast? ≠ some Symbol.blank := by
  intro isLast
  exact (areDigits _ (List.mem_of_getLast? isLast)).ne_blank rfl

/-- A tape with the sides that the program leaves behind lists the incremented word. -/
theorem content_of_incremented
    {tape : Tape} {word : List Symbol}
    (areDigits : ∀ c ∈ word, IsDigit c)
    (has :
      tape.HasSides
        ⟨(beforeOnes word).tail,
          '1' :: List.replicate (trailingOnes word) '0'⟩) :
    tape.content = incremented word ∧
      tape.headOffset = (beforeOnes word).tail.length := by
  apply Tape.content_of_hasSides has
  · apply getLast?_ne_blank
    intro c member
    exact
      isDigit_of_mem_beforeOnes areDigits c (List.mem_of_mem_tail member)
  · apply getLast?_ne_blank
    intro c member
    exact Or.inl (List.eq_of_mem_replicate member)

/--
The increment program of the catalogue adds one to every word over its two
digits, leading zeros and the empty word included.  It halts in its accepting
state after a step for each digit, a step for each one at the end, and two more.
The ones at the end have become zeros then, and the zero in front of them a one,
on which the head stands; where there is no zero, a one was put in front.
-/
theorem binaryIncrement_adds_one :
    ∃ (program : Program) (machine : Machine),
      byName "binary-increment" = .ok program ∧
      program.description.build = .ok machine ∧
      machine.accept = "done" ∧
      ∀ word : String,
        (∀ symbol ∈ word.toList, symbol = '0' ∨ symbol = '1') →
        ∃ (steps : Nat) (final : Configuration),
          steps = word.length + trailingOnes word.toList + 2 ∧
          ((Run.begin machine word).nth steps).1 = some final ∧
          ((Run.begin machine word).nth (steps + 1)).1 = none ∧
          final.state = "done" ∧
          (∀ (front : List Symbol) (count : Nat),
            word.toList = front ++ '0' :: List.replicate count '1' →
              trailingOnes word.toList = count ∧
                final.tape.content =
                    front ++ '1' :: List.replicate count '0' ∧
                  final.tape.headOffset = front.length) ∧
          ((∀ symbol ∈ word.toList, symbol = '1') →
            trailingOnes word.toList = word.length ∧
              final.tape.content = '1' :: List.replicate word.length '0' ∧
                final.tape.headOffset = 0) ∧
          binaryValue final.tape.content = binaryValue word.toList + 1 ∧
          Symbol.blank ∉ final.tape.content ∧
          machine.shownBlank ∉
            (final.tape.render machine.shownBlank).toList := by
  refine
    ⟨_, binaryIncrementMachine, byName_binaryIncrement, build_binaryIncrement,
      rfl, ?_⟩
  intro word areDigits
  have noBlank : 'B' ∉ word.toList := by
    intro member
    exact absurd (areDigits 'B' member) (by decide)
  have written :=
    Machine.wordSymbols_eq_toList
      (rfl : binaryIncrementMachine.blank? = some 'B') noBlank
  rcases Run.nth_of_walks written (walks_increment areDigits) rfl with
    ⟨final, yielded, ended, isDone, has⟩
  rcases content_of_incremented areDigits has with ⟨listed, offset⟩
  have remain := isDigit_of_mem_incremented areDigits
  have ink : Symbol.blank ∉ incremented word.toList :=
    fun member => (remain _ member).ne_blank rfl
  rw [← listed] at ink remain
  rw [← String.length_toList]
  refine
    ⟨_, final, rfl, yielded, ended, isDone, ?_, ?_,
      listed ▸ binaryValue_incremented word.toList, ink, ?_⟩
  · intro front count composed
    rw [listed, offset, composed]
    rcases incremented_of_last_zero front count with
      ⟨isCount, isOffset, isContent⟩
    exact ⟨isCount, isContent, isOffset⟩
  · intro allOnes
    have composed := List.eq_replicate_iff.mpr ⟨rfl, allOnes⟩
    rcases incremented_of_ones word.toList.length with
      ⟨isCount, isOffset, isContent⟩
    rw [← composed] at isCount isOffset isContent
    rw [listed, offset]
    exact ⟨isCount, isContent, isOffset⟩
  · intro member
    rcases Tape.mem_content_of_mem_render ink member with bracket | digit
    · exact absurd bracket (by decide)
    · exact absurd (remain _ digit) (by decide)

/-- Eleven becomes twelve: the two ones at the end are carried. -/
theorem binaryIncrement_adds_one_1011 :
    ∃ (program : Program) (machine : Machine),
      byName "binary-increment" = .ok program ∧
      program.description.build = .ok machine ∧
      ∃ final : Configuration,
        ((Run.begin machine "1011").nth 8).1 = some final ∧
        final.state = "done" ∧
        final.tape.content = ['1', '1', '0', '0'] ∧
        final.tape.headOffset = 1 := by
  rcases binaryIncrement_adds_one with
    ⟨program, machine, found, built, -, adds⟩
  rcases adds "1011" (by simp) with
    ⟨steps, final, isCount, yielded, -, isDone, lastZero, -⟩
  rcases lastZero ['1'] 2 rfl with ⟨isTwo, content, offset⟩
  rw [isTwo] at isCount
  obtain rfl : steps = 8 := isCount
  exact
    ⟨program, machine, found, built, final, yielded, isDone, content, offset⟩

end TapeMachine.Catalogue
