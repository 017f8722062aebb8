import TapeMachine.Proofs.Building
import TapeMachine.Proofs.Catalogue.Programs
import TapeMachine.Proofs.Run.Walk

/-!
# The addition program adds

A number is written in strokes, and the word of a sum has a plus between its two
numbers.  The program goes over the whole word and turns the plus into a stroke,
which makes one stroke too many; it comes back for the last one and blanks it.

Neither the place of the plus nor the numbers themselves make a difference on
the way, so there is one walk over the word and two more steps.  The head is left
on the blanked cell, which is all there is to see if both numbers are zero.
-/

namespace TapeMachine.Catalogue

/-- The machine that the addition program describes. -/
def unaryAdditionMachine : Machine where
  start := unaryAddition.start
  accept := unaryAddition.accept
  reject := unaryAddition.reject
  blank? := some unaryAddition.blank
  rules := unaryAddition.rules
  deterministic := by decide +kernel

theorem build_unaryAddition :
    unaryAddition.build = .ok unaryAdditionMachine :=
  Description.build_eq_ok_iff.mpr ⟨rfl, rfl, rfl, rfl, rfl⟩

/-- A number in strokes. -/
def strokes (number : Nat) : List Symbol :=
  List.replicate number '1'

/-- The word of a sum: its two numbers in strokes, and a plus between them. -/
def sumSymbols (left right : Nat) : List Symbol :=
  strokes left ++ '+' :: strokes right

theorem eq_of_mem_sumSymbols
    {left right : Nat} {symbol : Symbol}
    (member : symbol ∈ sumSymbols left right) :
    symbol = '1' ∨ symbol = '+' := by
  rcases List.mem_append.mp member with isLeft | behind
  · exact Or.inl (List.eq_of_mem_replicate isLeft)
  · rcases List.mem_cons.mp behind with isPlus | isRight
    · exact Or.inr isPlus
    · exact Or.inl (List.eq_of_mem_replicate isRight)

@[simp]
theorem length_sumSymbols (left right : Nat) :
    (sumSymbols left right).length = left + right + 1 := by
  rw [sumSymbols, strokes, strokes, List.length_append, List.length_cons,
    List.length_replicate, List.length_replicate, Nat.add_assoc]

/-! ## The walks -/

section Walks

variable
    (left right : Nat)

theorem walks_over_sum :
    unaryAdditionMachine.Walks (left + right + 1)
      ⟨"scan", ⟨[], sumSymbols left right⟩⟩
      ⟨"scan", ⟨strokes (left + right + 1), []⟩⟩ := by
  have passes :
      ∀ symbol ∈ sumSymbols left right,
        unaryAdditionMachine.rule? "scan" symbol =
          some ⟨"scan", symbol, "scan", (fun _ => '1') symbol, .right⟩ := by
    intro symbol member
    rcases eq_of_mem_sumSymbols member with rfl | rfl <;> rfl
  have scanned := Machine.walks_rewriting_right rfl passes [] []
  rw [List.map_const', List.reverse_replicate, List.append_nil,
    List.append_nil, length_sumSymbols] at scanned
  exact scanned

/-- The blank behind the word is written again and stays a blank. -/
theorem walks_turn :
    unaryAdditionMachine.Walks 1
      ⟨"scan", ⟨strokes (left + right + 1), []⟩⟩
      ⟨"trim", ⟨strokes (left + right), strokes 1⟩⟩ := by
  have turned :
      unaryAdditionMachine.Walks 1
        ⟨"scan", ⟨strokes (left + right + 1), []⟩⟩
        ⟨"trim", .leftOf (strokes (left + right + 1)) [Symbol.blank]⟩ :=
    Machine.walks_rule ⟨strokes (left + right + 1), []⟩ rfl
      (rfl : unaryAdditionMachine.rule? "scan" Symbol.blank =
        some ⟨"scan", Symbol.blank, "trim", Symbol.blank, .left⟩)
  exact
    turned.trans (Machine.walks_blank_right (strokes (left + right)) ['1'])

theorem walks_trim :
    unaryAdditionMachine.Walks 1
      ⟨"trim", ⟨strokes (left + right), strokes 1⟩⟩
      ⟨"done", ⟨strokes (left + right), [Symbol.blank]⟩⟩ :=
  Machine.walks_rule ⟨strokes (left + right), strokes 1⟩ rfl
    (rfl : unaryAdditionMachine.rule? "trim" '1' =
      some ⟨"trim", '1', "done", Symbol.blank, .stay⟩)

theorem walks_addition :
    unaryAdditionMachine.Walks (left + right + 3)
      ⟨"scan", ⟨[], sumSymbols left right⟩⟩
      ⟨"done", ⟨strokes (left + right), [Symbol.blank]⟩⟩ :=
  ((walks_over_sum left right).trans (walks_turn left right)).trans
    (walks_trim left right)

end Walks

/-! ## Runs -/

/--
The addition program of the catalogue adds any two numbers in strokes, zero
included.  It halts in its accepting state after a step for each stroke and
three more.  What is left is the sum in strokes and one blank cell behind it, on
which the head stands.
-/
theorem unaryAddition_adds :
    ∃ (program : Program) (machine : Machine),
      byName "unary-addition" = .ok program ∧
      program.description.build = .ok machine ∧
      machine.accept = "done" ∧
      ∀ left right : Nat,
        let word := String.ofList (strokes left ++ '+' :: strokes right)
        ∃ final : Configuration,
          ((Run.begin machine word).nth (left + right + 3)).1 = some final ∧
          ((Run.begin machine word).nth (left + right + 4)).1 = none ∧
          final.state = "done" ∧
          final.tape.content = strokes (left + right) ++ [Symbol.blank] ∧
          final.tape.headOffset = left + right := by
  refine
    ⟨_, unaryAdditionMachine, byName_unaryAddition, build_unaryAddition, rfl,
      ?_⟩
  intro left right word
  have isSum : word.toList = sumSymbols left right := String.toList_ofList
  have noBlank : 'B' ∉ word.toList := by
    rw [isSum]
    intro member
    exact absurd (eq_of_mem_sumSymbols member) (by decide)
  have written :=
    (Machine.wordSymbols_eq_toList
      (rfl : unaryAdditionMachine.blank? = some 'B') noBlank).trans isSum
  rcases Run.nth_of_walks written (walks_addition left right) rfl with
    ⟨final, yielded, ended, isDone, has⟩
  have strokesEnd :
      (strokes (left + right)).getLast? ≠ some Symbol.blank := by
    intro isLast
    have isStroke := List.eq_of_mem_replicate (List.mem_of_getLast? isLast)
    exact absurd isStroke (by decide)
  rcases Tape.content_of_hasSides has strokesEnd (by simp) with
    ⟨content, offset⟩
  rw [strokes, List.reverse_replicate] at content
  rw [strokes, List.length_replicate] at offset
  exact ⟨final, yielded, ended, isDone, content, offset⟩

end TapeMachine.Catalogue
