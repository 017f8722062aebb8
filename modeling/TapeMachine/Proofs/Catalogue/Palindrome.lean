import Mathlib.Data.List.Palindrome
import Mathlib.Tactic.Ring
import TapeMachine.Proofs.Building
import TapeMachine.Proofs.Catalogue.Programs
import TapeMachine.Proofs.Run.Walk

/-!
# The palindrome program decides palindromes

The program takes a letter from the left end of the word, carries it to the right
end in its state, compares it with the letter there, and comes back.  Such a round
leaves a word that is two letters shorter and as much a palindrome as before.

Words of any length are then settled by induction from both ends.  A foreign
symbol has no rule in any state, so the program gets stuck wherever it meets one,
and it meets the first of them in the round it is in.
-/

namespace TapeMachine.Catalogue

/-- The machine that the palindrome program describes. -/
def palindromeMachine : Machine where
  start := palindrome.start
  accept := palindrome.accept
  reject := palindrome.reject
  blank? := some palindrome.blank
  rules := palindrome.rules
  deterministic := by decide +kernel

theorem build_palindrome : palindrome.build = .ok palindromeMachine :=
  Description.build_eq_ok_iff.mpr ⟨rfl, rfl, rfl, rfl, rfl⟩

/-- A symbol that words over the alphabet of the program are made of. -/
def IsLetter (symbol : Symbol) : Prop :=
  symbol = 'a' ∨ symbol = 'b'

instance : DecidablePred IsLetter :=
  fun symbol => inferInstanceAs (Decidable (symbol = 'a' ∨ symbol = 'b'))

/-- The state in which a letter is carried to the right end. -/
def carrying (letter : Symbol) : String :=
  if letter = 'a' then "qa" else "qb"

/-- The state in which a letter is compared with the one at the right end. -/
def comparing (letter : Symbol) : String :=
  if letter = 'a' then "qa1" else "qb1"

/-! ## The rules -/

section Rules

variable
    {letter symbol : Symbol}

theorem isHalting_carrying (isLetter : IsLetter letter) :
    palindromeMachine.isHalting (carrying letter) = false := by
  rcases isLetter with rfl | rfl <;> rfl

theorem isHalting_comparing (isLetter : IsLetter letter) :
    palindromeMachine.isHalting (comparing letter) = false := by
  rcases isLetter with rfl | rfl <;> rfl

theorem rule?_start (isLetter : IsLetter letter) :
    palindromeMachine.rule? "q0" letter =
      some ⟨"q0", letter, carrying letter, Symbol.blank, .right⟩ := by
  rcases isLetter with rfl | rfl <;> rfl

theorem rule?_carrying
    (isLetter : IsLetter letter) (isLetter' : IsLetter symbol) :
    palindromeMachine.rule? (carrying letter) symbol =
      some ⟨carrying letter, symbol, carrying letter, symbol, .right⟩ := by
  rcases isLetter with rfl | rfl <;> rcases isLetter' with rfl | rfl <;> rfl

theorem rule?_carrying_blank (isLetter : IsLetter letter) :
    palindromeMachine.rule? (carrying letter) Symbol.blank =
      some ⟨carrying letter, Symbol.blank, comparing letter, Symbol.blank,
        .left⟩ := by
  rcases isLetter with rfl | rfl <;> rfl

theorem rule?_comparing_same (isLetter : IsLetter letter) :
    palindromeMachine.rule? (comparing letter) letter =
      some ⟨comparing letter, letter, "back", Symbol.blank, .left⟩ := by
  rcases isLetter with rfl | rfl <;> rfl

theorem rule?_comparing_blank (isLetter : IsLetter letter) :
    palindromeMachine.rule? (comparing letter) Symbol.blank =
      some ⟨comparing letter, Symbol.blank, "qA", Symbol.blank, .stay⟩ := by
  rcases isLetter with rfl | rfl <;> rfl

theorem rule?_comparing_other
    (isLetter : IsLetter letter) (isLetter' : IsLetter symbol)
    (differs : symbol ≠ letter) :
    palindromeMachine.rule? (comparing letter) symbol = none := by
  rcases isLetter with rfl | rfl <;> rcases isLetter' with rfl | rfl
  · exact absurd rfl differs
  · rfl
  · rfl
  · exact absurd rfl differs

theorem rule?_back (isLetter : IsLetter symbol) :
    palindromeMachine.rule? "back" symbol =
      some ⟨"back", symbol, "back", symbol, .left⟩ := by
  rcases isLetter with rfl | rfl <;> rfl

theorem rule?_of_foreign
    (foreign : ¬ IsLetter symbol) (ink : symbol ≠ Symbol.blank)
    (state : String) :
    palindromeMachine.rule? state symbol = none := by
  have known :
      ∀ rule ∈ palindromeMachine.rules,
        IsLetter rule.symbol ∨ rule.symbol = Symbol.blank := by
    decide +kernel
  rw [Machine.rule?_eq_none_iff]
  intro rule member isKey
  obtain rfl : rule.symbol = symbol := congrArg Prod.snd isKey
  rcases known rule member with isLetter | isBlank
  · exact foreign isLetter
  · exact ink isBlank

end Rules

/-! ## Rounds -/

section Rounds

variable
    {letter symbol : Symbol}
    {inner : List Symbol}

/-- The letter at the left end is carried over letters. -/
theorem walks_carrying
    (isLetter : IsLetter letter) (areLetters : ∀ c ∈ inner, IsLetter c)
    (rest : List Symbol) :
    palindromeMachine.Walks (inner.length + 1)
      ⟨"q0", ⟨[], letter :: (inner ++ rest)⟩⟩
      ⟨carrying letter, ⟨inner.reverse, rest⟩⟩ := by
  have taken :
      palindromeMachine.Walks 1
        ⟨"q0", ⟨[], letter :: (inner ++ rest)⟩⟩
        ⟨carrying letter, ⟨[Symbol.blank], inner ++ rest⟩⟩ :=
    Machine.walks_rule ⟨[], letter :: (inner ++ rest)⟩ rfl
      (rule?_start isLetter)
  have scanned :=
    Machine.walks_scan_right (isHalting_carrying isLetter)
      (fun c member => rule?_carrying isLetter (areLetters c member)) [] rest
  rw [List.append_nil] at scanned
  rw [Nat.add_comm]
  exact (taken.trans (Machine.walks_blank_left [] _)).trans scanned

/-- The letter at the left end is carried to the right end and compared there. -/
theorem walks_comparing
    (isLetter : IsLetter letter) (areLetters : ∀ c ∈ inner, IsLetter c) :
    palindromeMachine.Walks (inner.length + 2)
      ⟨"q0", ⟨[], letter :: inner⟩⟩
      ⟨comparing letter, .leftOf inner.reverse []⟩ := by
  have carried := walks_carrying isLetter areLetters []
  rw [List.append_nil] at carried
  have turned :
      palindromeMachine.Walks 1
        ⟨carrying letter, ⟨inner.reverse, []⟩⟩
        ⟨comparing letter, .leftOf inner.reverse [Symbol.blank]⟩ :=
    Machine.walks_rule ⟨inner.reverse, []⟩ (isHalting_carrying isLetter)
      (rule?_carrying_blank isLetter)
  exact
    (carried.trans turned).trans
      (Machine.walks_blank_right inner.reverse.tail [_])

theorem walks_back (areLetters : ∀ c ∈ inner, IsLetter c) :
    palindromeMachine.Walks (inner.length + 1)
      ⟨"back", .leftOf inner.reverse [Symbol.blank]⟩
      ⟨"q0", ⟨[], inner⟩⟩ := by
  have passes :
      ∀ c ∈ inner.reverse,
        palindromeMachine.rule? "back" c = some ⟨"back", c, "back", c, .left⟩ :=
    fun c member => rule?_back (areLetters c (List.mem_reverse.mp member))
  have scanned := Machine.walks_scan_left rfl passes [] [Symbol.blank]
  rw [List.append_nil, List.length_reverse, List.reverse_reverse] at scanned
  have restarted :
      palindromeMachine.Walks 1
        ⟨"back", .leftOf [] (inner ++ [Symbol.blank])⟩
        ⟨"q0", ⟨[Symbol.blank], inner ++ [Symbol.blank]⟩⟩ :=
    Machine.walks_rule (.leftOf [] (inner ++ [Symbol.blank])) rfl
      (rfl : palindromeMachine.rule? "back" Symbol.blank =
        some ⟨"back", Symbol.blank, "q0", Symbol.blank, .right⟩)
  -- What was taken from both ends is blank now, and a blank at an end is no cell of the word.
  have cleared :
      palindromeMachine.Walks 0
        ⟨"q0", ⟨[Symbol.blank], inner ++ [Symbol.blank]⟩⟩
        ⟨"q0", ⟨[], inner⟩⟩ :=
    (Machine.walks_blank_left [] (inner ++ [Symbol.blank])).trans
      (Machine.walks_blank_right [] inner)
  exact scanned.trans (restarted.trans cleared)

/-- What is compared with the letter is the last symbol. -/
theorem walks_comparing_last
    (isLetter : IsLetter letter)
    (areLetters : ∀ c ∈ inner ++ [symbol], IsLetter c) :
    palindromeMachine.Walks (inner.length + 3)
      ⟨"q0", ⟨[], letter :: (inner ++ [symbol])⟩⟩
      ⟨comparing letter, .leftOf (symbol :: inner.reverse) []⟩ := by
  have compared := walks_comparing isLetter areLetters
  rw [List.reverse_concat, List.length_append] at compared
  exact compared

/-- A round takes the same letter from both ends. -/
theorem walks_round
    (isLetter : IsLetter letter) (areLetters : ∀ c ∈ inner, IsLetter c) :
    palindromeMachine.Walks (2 * inner.length + 5)
      ⟨"q0", ⟨[], letter :: (inner ++ [letter])⟩⟩
      ⟨"q0", ⟨[], inner⟩⟩ := by
  have areLetters' : ∀ c ∈ inner ++ [letter], IsLetter c :=
    List.forall_mem_append.mpr
      ⟨areLetters, List.forall_mem_singleton.mpr isLetter⟩
  have matched :
      palindromeMachine.Walks 1
        ⟨comparing letter, .leftOf (letter :: inner.reverse) []⟩
        ⟨"back", .leftOf inner.reverse [Symbol.blank]⟩ :=
    Machine.walks_rule (.leftOf (letter :: inner.reverse) [])
      (isHalting_comparing isLetter) (rule?_comparing_same isLetter)
  have round :=
    (walks_comparing_last isLetter areLetters').trans
      (matched.trans (walks_back areLetters))
  have steps :
      inner.length + 3 + (1 + (inner.length + 1)) =
        2 * inner.length + 5 := by
    omega
  exact steps ▸ round

end Rounds

/-! ## Verdicts -/

/-- The number of steps that accepting a word of some length takes. -/
def stepsToAccept (length : Nat) : Nat :=
  (length + 1) * (length + 2) / 2

theorem stepsToAccept_zero : stepsToAccept 0 = 1 :=
  rfl

theorem stepsToAccept_one : stepsToAccept 1 = 3 :=
  rfl

theorem stepsToAccept_add_two (length : Nat) :
    stepsToAccept (length + 2) =
      2 * length + 5 + stepsToAccept length := by
  have product :
      (length + 2 + 1) * (length + 2 + 2) =
        (length + 1) * (length + 2) + 2 * (2 * length + 5) := by
    ring
  rw [stepsToAccept, product, Nat.add_mul_div_left _ _ Nat.two_pos,
    Nat.add_comm]
  rfl

theorem walks_accepting
    {word : List Symbol}
    (isPalindrome : word.Palindrome)
    (areLetters : ∀ c ∈ word, IsLetter c) :
    palindromeMachine.Walks (stepsToAccept word.length)
      ⟨"q0", ⟨[], word⟩⟩ ⟨"qA", ⟨[], [Symbol.blank]⟩⟩ := by
  induction isPalindrome with
  | nil =>
      rw [List.length_nil, stepsToAccept_zero]
      exact
        Machine.walks_rule ⟨[], []⟩ rfl
          (rfl : palindromeMachine.rule? "q0" Symbol.blank =
            some ⟨"q0", Symbol.blank, "qA", Symbol.blank, .stay⟩)
  | singleton letter =>
      have isLetter := List.forall_mem_singleton.mp areLetters
      have compared :=
        walks_comparing isLetter (List.forall_mem_nil IsLetter)
      have alone :
          palindromeMachine.Walks 1
            ⟨comparing letter, .leftOf [] []⟩
            ⟨"qA", ⟨[], [Symbol.blank]⟩⟩ :=
        Machine.walks_rule (.leftOf [] []) (isHalting_comparing isLetter)
          (rule?_comparing_blank isLetter)
      rw [List.length_singleton, stepsToAccept_one]
      exact compared.trans alone
  | @cons_concat letter inner isPalindrome induction =>
      rw [List.forall_mem_cons, List.forall_mem_append] at areLetters
      rcases areLetters with ⟨isLetter, areLetters, -⟩
      have steps :
          stepsToAccept (letter :: (inner ++ [letter])).length =
            2 * inner.length + 5 + stepsToAccept inner.length := by
        rw [List.length_cons, List.length_append]
        exact stepsToAccept_add_two inner.length
      rw [steps]
      exact (walks_round isLetter areLetters).trans (induction areLetters)

theorem walks_stuck_on_foreign
    {state : String} {symbol : Symbol}
    (running : palindromeMachine.isHalting state = false)
    (foreign : ¬ IsLetter symbol) (ink : symbol ≠ Symbol.blank)
    (left right : List Symbol) :
    palindromeMachine.Walks 1
      ⟨state, ⟨left, symbol :: right⟩⟩ ⟨"qR", ⟨left, symbol :: right⟩⟩ :=
  Machine.walks_stuck ⟨left, symbol :: right⟩ running
    (rule?_of_foreign foreign ink state)

theorem exists_first_foreign
    {word : List Symbol}
    (foreign : ¬ ∀ c ∈ word, IsLetter c) :
    ∃ before symbol after, word = before ++ symbol :: after ∧
      (∀ c ∈ before, IsLetter c) ∧ ¬ IsLetter symbol := by
  cases found : word.find? (¬ IsLetter ·) with
  | none =>
      have areLetters := List.find?_eq_none.mp found
      exact absurd (by simpa using areLetters) foreign
  | some symbol =>
      rcases List.find?_eq_some_iff_append.mp found with
        ⟨isForeign, before, after, isWord, areLetters⟩
      exact
        ⟨before, symbol, after, isWord, by simpa using areLetters,
          by simpa using isForeign⟩

theorem walks_foreign_inside
    {letter : Symbol} {inner : List Symbol}
    (isLetter : IsLetter letter) (ink : Symbol.blank ∉ inner)
    (foreign : ¬ ∀ c ∈ inner, IsLetter c) :
    ∃ count ≤ inner.length + 1, ∃ sides : Sides,
      palindromeMachine.Walks count
        ⟨"q0", ⟨[], letter :: inner⟩⟩ ⟨"qR", sides⟩ := by
  rcases exists_first_foreign foreign with
    ⟨before, symbol, after, rfl, areLetters, foreign⟩
  have symbolInk : symbol ≠ Symbol.blank := by
    rintro rfl
    exact ink (List.mem_append_cons_self)
  have carried := walks_carrying isLetter areLetters (symbol :: after)
  have stuck :=
    walks_stuck_on_foreign (isHalting_carrying isLetter) foreign symbolInk
      before.reverse after
  refine ⟨before.length + 1 + 1, ?_, _, carried.trans stuck⟩
  rw [List.length_append, List.length_cons]
  omega

theorem walks_mismatch
    {letter last : Symbol} {inner : List Symbol}
    (isLetter : IsLetter letter)
    (areLetters : ∀ c ∈ inner ++ [last], IsLetter c)
    (differs : last ≠ letter) :
    ∃ sides : Sides,
      palindromeMachine.Walks (inner.length + 4)
        ⟨"q0", ⟨[], letter :: (inner ++ [last])⟩⟩ ⟨"qR", sides⟩ := by
  have lastIsLetter : IsLetter last :=
    areLetters last (List.mem_append_right inner (List.mem_singleton_self last))
  have stuck :=
    Machine.walks_stuck (.leftOf (last :: inner.reverse) [])
      (isHalting_comparing isLetter)
      (rule?_comparing_other isLetter lastIsLetter differs)
  exact ⟨_, (walks_comparing_last isLetter areLetters).trans stuck⟩

/-- A word that is no palindrome of letters is rejected in the first round that finds out. -/
theorem walks_rejecting
    {word : List Symbol}
    (ink : Symbol.blank ∉ word)
    (fails : ¬ ((∀ c ∈ word, IsLetter c) ∧ word.Palindrome)) :
    ∃ count ≤ stepsToAccept word.length, ∃ sides : Sides,
      palindromeMachine.Walks count
        ⟨"q0", ⟨[], word⟩⟩ ⟨"qR", sides⟩ := by
  induction word using List.bidirectionalRec with
  | nil => exact absurd ⟨List.forall_mem_nil _, .nil⟩ fails
  | singleton symbol =>
      have foreign : ¬ IsLetter symbol := by
        intro isLetter
        exact
          fails
            ⟨List.forall_mem_singleton.mpr isLetter, .singleton symbol⟩
      rw [List.mem_singleton] at ink
      rw [List.length_singleton, stepsToAccept_one]
      exact
        ⟨1, by decide, _,
          walks_stuck_on_foreign rfl foreign (Ne.symm ink) [] []⟩
  | cons_append first inner last induction =>
      have length :
          (first :: (inner ++ [last])).length = inner.length + 2 := by
        rw [List.length_cons, List.length_append, List.length_singleton]
      rw [length, stepsToAccept_add_two]
      rw [List.mem_cons, not_or] at ink
      rcases ink with ⟨firstInk, restInk⟩
      by_cases isLetter : IsLetter first
      · by_cases areLetters : ∀ c ∈ inner ++ [last], IsLetter c
        · by_cases same : last = first
          · -- The ends agree, so a later round finds what is wrong inside.
            subst same
            have failsInside :
                ¬ ((∀ c ∈ inner, IsLetter c) ∧ inner.Palindrome) := by
              rintro ⟨-, isPalindrome⟩
              exact
                fails
                  ⟨List.forall_mem_cons.mpr ⟨isLetter, areLetters⟩,
                    isPalindrome.cons_concat last⟩
            have innerInk : Symbol.blank ∉ inner :=
              fun member => restInk (List.mem_append_left [last] member)
            rcases induction innerInk failsInside with
              ⟨count, within, sides, rejects⟩
            have round :=
              walks_round isLetter (List.forall_mem_append.mp areLetters).1
            exact
              ⟨2 * inner.length + 5 + count, by omega, sides,
                round.trans rejects⟩
          · rcases walks_mismatch isLetter areLetters same with
              ⟨sides, rejects⟩
            exact ⟨inner.length + 4, by omega, sides, rejects⟩
        · rcases walks_foreign_inside isLetter restInk areLetters with
            ⟨count, within, sides, rejects⟩
          rw [List.length_append, List.length_singleton] at within
          exact ⟨count, by omega, sides, rejects⟩
      · exact
          ⟨1, by omega, _,
            walks_stuck_on_foreign rfl isLetter (Ne.symm firstInk) []
              (inner ++ [last])⟩

/-! ## Runs -/

/--
The palindrome program of the catalogue halts on every word that holds neither a
blank nor the symbol that stands for it.  It accepts exactly the words over its
two letters that equal their reverses, and rejects all others.  A word of length
`n` takes at most `(n + 1) * (n + 2) / 2` steps, and exactly so many if it is
accepted, after which the tape is blank.
-/
theorem palindrome_decides :
    ∃ (program : Program) (machine : Machine),
      byName "palindrome" = .ok program ∧
      program.description.build = .ok machine ∧
      ∀ word : String, '_' ∉ word.toList → Symbol.blank ∉ word.toList →
        ∃ (steps : Nat) (final : Configuration),
          ((Run.begin machine word).nth steps).1 = some final ∧
          ((Run.begin machine word).nth (steps + 1)).1 = none ∧
          (final.state = "qA" ∨ final.state = "qR") ∧
          (final.state = "qA" ↔
            (∀ symbol ∈ word.toList, symbol = 'a' ∨ symbol = 'b') ∧
              word.toList.reverse = word.toList) ∧
          steps ≤ (word.length + 1) * (word.length + 2) / 2 ∧
          (final.state = "qA" →
            steps = (word.length + 1) * (word.length + 2) / 2 ∧
              final.tape.content = [Symbol.blank] ∧
                ∀ distance : Int, final.tape.seen distance = Symbol.blank) := by
  refine
    ⟨_, palindromeMachine, byName_palindrome, build_palindrome, ?_⟩
  intro word noBlank ink
  have written :=
    Machine.wordSymbols_eq_toList
      (rfl : palindromeMachine.blank? = some '_') noBlank
  rw [← List.Palindrome.iff_reverse_eq, ← String.length_toList]
  by_cases accepted :
      (∀ symbol ∈ word.toList, IsLetter symbol) ∧ word.toList.Palindrome
  · have walks := walks_accepting accepted.2 accepted.1
    rcases Run.nth_of_walks written walks rfl with
      ⟨final, yielded, ended, isAccepting, has⟩
    have listed := Tape.content_of_hasSides has (by simp) (by simp)
    have isBlank : final.tape.HasSides ⟨[], []⟩ :=
      Tape.hasSides_append_blank_right.mp has
    refine
      ⟨_, final, yielded, ended, Or.inl isAccepting,
        iff_of_true isAccepting accepted, le_rfl, ?_⟩
    intro _
    refine ⟨rfl, listed.1, ?_⟩
    intro distance
    rw [isBlank]
    cases distance <;> rfl
  · rcases walks_rejecting ink accepted with ⟨steps, within, sides, walks⟩
    rcases Run.nth_of_walks written walks rfl with
      ⟨final, yielded, ended, isRejecting, -⟩
    have notAccepting : final.state ≠ "qA" := by
      change final.state = "qR" at isRejecting
      rw [isRejecting]
      decide
    exact
      ⟨steps, final, yielded, ended, Or.inr isRejecting,
        iff_of_false notAccepting accepted, within,
        fun isAccepting => absurd isAccepting notAccepting⟩

theorem palindrome_decides_abba :
    ∃ (program : Program) (machine : Machine),
      byName "palindrome" = .ok program ∧
      program.description.build = .ok machine ∧
      ∃ final : Configuration,
        ((Run.begin machine "abba").nth 15).1 = some final ∧
        final.state = "qA" ∧ final.tape.content = [Symbol.blank] := by
  rcases palindrome_decides with ⟨program, machine, found, built, decides⟩
  rcases decides "abba" (by decide) (by decide) with
    ⟨steps, final, yielded, -, -, accepts, -, accepted⟩
  have isAccepting : final.state = "qA" := accepts.mpr (by simp)
  rcases accepted isAccepting with ⟨isCount, content, -⟩
  have isFifteen : steps = 15 := isCount.trans (by decide)
  rw [isFifteen] at yielded
  exact ⟨program, machine, found, built, final, yielded, isAccepting, content⟩

end TapeMachine.Catalogue
