import Mathlib.Data.Set.Finite.Lemmas
import Mathlib.Order.Bounds.Image
import TapeMachine.Proofs.Tape.Growth
import TapeMachine.Proofs.Tape.Refinement

/-!
# The store holds the written span

A head on the infinite tape has a position of its own, while the head of a stored
tape is counted from a first cell that changes as the store grows to the left.
The difference of the two is the position of the first stored cell.  What a
write does to the ends of the store is then a minimum and a maximum, and what many
operations do follows by an induction over them: the store reaches from the first
to the last position that was filled at the beginning or written to later.

A machine writes before each movement.  Its head is never further than one cell
from the store, so each of its steps adds one cell at most.
-/

namespace TapeMachine

/-- Whether an operation writes. -/
def Tape.Operation.Writes : Tape.Operation → Prop
  | .write _ => True
  | .shift _ => False
  | .apply _ _ => True

/-! ## Written positions -/

namespace InfiniteTape

theorem perform_concat
    (tape : InfiniteTape) (operations : List Tape.Operation)
    (operation : Tape.Operation) :
    tape.perform (operations ++ [operation]) =
      (tape.perform operations).act operation := by
  simp [perform]

/-- The positions that are written to while several things are done. -/
def written
    (tape : InfiniteTape) (operations : List Tape.Operation) : Set Int :=
  { position |
    ∃ (earlier : List Tape.Operation) (operation : Tape.Operation)
        (later : List Tape.Operation),
      operations = earlier ++ operation :: later ∧
        operation.Writes ∧ (tape.perform earlier).head = position }

section Written

variable
    (tape : InfiniteTape)
    {operations : List Tape.Operation}
    {operation : Tape.Operation}

@[simp]
theorem written_nil : tape.written [] = ∅ := by
  simp [written]

theorem mem_written_concat {position : Int} :
    position ∈ tape.written (operations ++ [operation]) ↔
      (operation.Writes ∧ (tape.perform operations).head = position) ∨
        position ∈ tape.written operations := by
  constructor
  · rintro ⟨earlier, written, later, split, writes, atHead⟩
    rcases later.eq_nil_or_concat' with rfl | ⟨later, last, rfl⟩
    · rcases List.append_inj' split rfl with ⟨rfl, same⟩
      cases same
      exact Or.inl ⟨writes, atHead⟩
    · rw [← List.cons_append, ← List.append_assoc] at split
      rcases List.append_inj' split rfl with ⟨rfl, -⟩
      exact Or.inr ⟨earlier, written, later, rfl, writes, atHead⟩
  · rintro (⟨writes, atHead⟩ | ⟨earlier, written, later, rfl, writes, atHead⟩)
    · exact ⟨operations, operation, [], rfl, writes, atHead⟩
    · exact
        ⟨earlier, written, later ++ [operation], by simp, writes, atHead⟩

theorem written_concat_of_writes (writes : operation.Writes) :
    tape.written (operations ++ [operation]) =
      insert (tape.perform operations).head (tape.written operations) := by
  ext position
  simp [mem_written_concat, writes, eq_comm]

theorem written_concat_of_not_writes (idle : ¬ operation.Writes) :
    tape.written (operations ++ [operation]) = tape.written operations := by
  ext position
  simp [mem_written_concat, idle]

theorem finite_written (operations : List Tape.Operation) :
    (tape.written operations).Finite := by
  induction operations using List.reverseRecOn with
  | nil => simp
  | append_singleton operations operation induction =>
      by_cases writes : operation.Writes
      · rw [written_concat_of_writes tape writes]
        exact induction.insert _
      · rwa [written_concat_of_not_writes tape writes]

end Written

end InfiniteTape

namespace Tape

theorem perform_concat
    (tape : Tape) (operations : List Operation) (operation : Operation) :
    tape.perform (operations ++ [operation]) =
      (tape.perform operations).act operation := by
  simp [perform]

/-! ## The ends of the store -/

/--
In the positions of an infinite tape the store of a tape begins at `first` and
ends in front of `behind`.
-/
structure Covers
    (tape : Tape) (infinite : InfiniteTape) (first behind : Int) : Prop where
  first_eq : first = infinite.head - tape.head
  behind_eq : behind = first + tape.storedLength

theorem covers_ofSymbols (symbols : List Symbol) :
    (ofSymbols symbols).Covers (.ofSymbols symbols) 0 symbols.length where
  first_eq := rfl
  behind_eq := by simp

namespace Covers

variable
    {tape : Tape}
    {infinite : InfiniteTape}
    {first behind : Int}

theorem write
    (covers : tape.Covers infinite first behind) (symbol : Symbol) :
    (tape.write symbol).Covers (infinite.write symbol)
      (min infinite.head first) (max (infinite.head + 1) behind) := by
  rcases covers with ⟨isFirst, isBehind⟩
  constructor
  · rw [head_write]
    change _ = infinite.head - _
    omega
  · rw [storedLength_write]
    omega

theorem shift
    (covers : tape.Covers infinite first behind) (direction : Direction) :
    (tape.shift direction).Covers (infinite.shift direction) first behind := by
  rcases covers with ⟨isFirst, isBehind⟩
  constructor
  · rw [head_shift, InfiniteTape.head_shift]
    omega
  · rw [storedLength_shift]
    exact isBehind

theorem act_of_writes
    (covers : tape.Covers infinite first behind)
    {operation : Operation} (writes : operation.Writes) :
    (tape.act operation).Covers (infinite.act operation)
      (min infinite.head first) (max (infinite.head + 1) behind) := by
  cases operation with
  | write symbol => exact covers.write symbol
  | shift direction => exact absurd writes id
  | apply symbol direction => exact (covers.write symbol).shift direction

theorem act_of_not_writes
    (covers : tape.Covers infinite first behind)
    {operation : Operation} (idle : ¬ operation.Writes) :
    (tape.act operation).Covers (infinite.act operation) first behind := by
  cases operation with
  | write symbol => exact absurd trivial idle
  | shift direction => exact covers.shift direction
  | apply symbol direction => exact absurd trivial idle

/-- After several operations the store ends at its old ends or at written positions. -/
theorem perform
    (covers : tape.Covers infinite first behind)
    (operations : List Operation) :
    ∃ first' behind' : Int,
      (tape.perform operations).Covers (infinite.perform operations)
        first' behind' ∧
      IsLeast (insert first (infinite.written operations)) first' ∧
      IsGreatest (insert behind ((· + 1) '' infinite.written operations))
        behind' := by
  induction operations using List.reverseRecOn with
  | nil => exact ⟨first, behind, covers, by simp, by simp⟩
  | append_singleton operations operation induction =>
      rcases induction with ⟨first', behind', covers', isLeast, isGreatest⟩
      rw [perform_concat, InfiniteTape.perform_concat]
      by_cases writes : operation.Writes
      · refine ⟨_, _, covers'.act_of_writes writes, ?_, ?_⟩
        · rw [infinite.written_concat_of_writes writes, Set.insert_comm]
          exact isLeast.insert _
        · rw [infinite.written_concat_of_writes writes, Set.image_insert_eq,
            Set.insert_comm]
          exact isGreatest.insert _
      · refine ⟨_, _, covers'.act_of_not_writes writes, ?_⟩
        rw [infinite.written_concat_of_not_writes writes]
        exact ⟨isLeast, isGreatest⟩

end Covers

/--
The stored length is that of the least span that has the first `count` positions
and all that were written to.
-/
def StoresSpan (tape : Tape) (count : Nat) (written : Set Int) : Prop :=
  (written = ∅ ∧ tape.storedLength = count) ∨
    ∃ least greatest : Int,
      IsLeast written least ∧ IsGreatest written greatest ∧
        (tape.storedLength : Int) =
          max (count : Int) (1 + greatest) - min 0 least

theorem storesSpan_perform
    (symbols : List Symbol) (operations : List Operation) :
    ((ofSymbols symbols).perform operations).StoresSpan symbols.length
      ((InfiniteTape.ofSymbols symbols).written operations) := by
  rcases (covers_ofSymbols symbols).perform operations with
    ⟨first, behind, covers, isLeast, isGreatest⟩
  have length := covers.behind_eq
  have finite := (InfiniteTape.ofSymbols symbols).finite_written operations
  generalize (InfiniteTape.ofSymbols symbols).written operations = written
    at isLeast isGreatest finite ⊢
  rcases written.eq_empty_or_nonempty with rfl | nonempty
  · rw [insert_empty_eq] at isLeast
    rw [Set.image_empty, insert_empty_eq] at isGreatest
    have isFirst := isLeast.unique isLeast_singleton
    have isBehind := isGreatest.unique isGreatest_singleton
    exact Or.inl ⟨rfl, by omega⟩
  · rcases Set.exists_min_image written id finite nonempty with
      ⟨least, leastMem, leastLe⟩
    rcases Set.exists_max_image written id finite nonempty with
      ⟨greatest, greatestMem, leGreatest⟩
    have least' : IsLeast written least := ⟨leastMem, leastLe⟩
    have greatest' : IsGreatest written greatest := ⟨greatestMem, leGreatest⟩
    have following : Monotone (· + (1 : Int)) :=
      fun _ _ before => Int.add_le_add_right before 1
    have behindGreatest := following.map_isGreatest greatest'
    have isFirst := isLeast.unique (least'.insert 0)
    have isBehind := isGreatest.unique (behindGreatest.insert _)
    exact Or.inr ⟨least, greatest, least', greatest', by omega⟩

/-! ## Growth -/

theorem storedLength_le_write (tape : Tape) (symbol : Symbol) :
    tape.storedLength ≤ (tape.write symbol).storedLength := by
  rw [storedLength_write]
  omega

theorem storedLength_le_act (tape : Tape) (operation : Operation) :
    tape.storedLength ≤ (tape.act operation).storedLength := by
  cases operation with
  | write symbol => exact tape.storedLength_le_write symbol
  | shift direction => exact Nat.le_refl _
  | apply symbol direction => exact tape.storedLength_le_write symbol

/-- The store never shrinks. -/
theorem storedLength_le_perform (tape : Tape) (operations : List Operation) :
    tape.storedLength ≤ (tape.perform operations).storedLength := by
  induction operations generalizing tape with
  | nil => exact Nat.le_refl _
  | cons operation rest induction =>
      exact (tape.storedLength_le_act operation).trans (induction _)

/-- Movements leave the store alone. -/
theorem cells_perform_shifts (tape : Tape) (directions : List Direction) :
    (tape.perform (directions.map .shift)).cells = tape.cells := by
  induction directions generalizing tape with
  | nil => rfl
  | cons direction rest induction => exact induction (tape.shift direction)

/-- The head is on a stored cell or right beside the store. -/
structure HeadIsNear (tape : Tape) : Prop where
  neg_one_le : -1 ≤ tape.head
  le_storedLength : tape.head ≤ tape.storedLength

theorem headIsNear_ofSymbols (symbols : List Symbol) :
    (ofSymbols symbols).HeadIsNear where
  neg_one_le := (by decide : (-1 : Int) ≤ 0)
  le_storedLength := Int.natCast_nonneg _

namespace HeadIsNear

variable
    {tape : Tape}

theorem storedLength_apply_le
    (near : tape.HeadIsNear) (symbol : Symbol) (direction : Direction) :
    (tape.apply symbol direction).storedLength ≤ tape.storedLength + 1 := by
  rcases near with ⟨atLeast, atMost⟩
  rw [Tape.apply, storedLength_shift, storedLength_write]
  omega

theorem apply
    (near : tape.HeadIsNear) (symbol : Symbol) (direction : Direction) :
    (tape.apply symbol direction).HeadIsNear := by
  rcases near with ⟨atLeast, atMost⟩
  have oneCell : -1 ≤ direction.offset ∧ direction.offset ≤ 1 := by
    cases direction <;> decide
  constructor
  · rw [Tape.apply, head_shift, head_write]
    omega
  · rw [Tape.apply, head_shift, head_write, storedLength_shift,
      storedLength_write]
    omega

theorem perform_applies
    (near : tape.HeadIsNear) (moves : List (Symbol × Direction)) :
    (tape.perform (moves.map fun move => .apply move.1 move.2)).HeadIsNear := by
  induction moves generalizing tape with
  | nil => exact near
  | cons move rest induction => exact induction (near.apply move.1 move.2)

end HeadIsNear

end Tape

end TapeMachine
