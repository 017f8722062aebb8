import TapeMachine.Proofs.Format.RoundTrip
import TapeMachine.Proofs.Json.Symbols
import TapeMachine.Proofs.Json.ZeroEscape

/-!
# The blank of the tape as a symbol of a description

The zero character is the blank of the tape and is not meant to be a symbol of a
description.  Nothing refuses it: a description text may hold it like any other
character, and a document may hold its escape.  But it comes from nowhere else.
A description read from a source that does not hold it has symbols which stay
apart on the tape, and what is reported about its transitions is true of them as
they are written.
-/

namespace TapeMachine

namespace Format

/-! ## Symbols stand in the text -/

theorem StateThenSymbol.mem
    {state : String} {symbol : Symbol} {written : List Char}
    (isWritten : StateThenSymbol state symbol written) :
    symbol ∈ written := by
  rcases isWritten with ⟨isName, isGap, isSymbol, apart⟩
  simp

theorem mem_of_makes_blank
    {core : List Char} {symbol : Symbol}
    (makes : Makes core (.header (.blank symbol))) :
    symbol ∈ core := by
  cases makes with
  | header gapBefore gapAfter isValue =>
      cases isValue
      simp

theorem symbols_subset_of_makes_transition
    {core : List Char} {transition : Transition}
    (makes : Makes core (.transition transition)) :
    transition.symbols ⊆ core := by
  cases makes with
  | transition isLeft isRight _ _ _ _ _ =>
      simp [Transition.symbols, isLeft.mem, isRight.mem]

theorem symbols_subset_of_parse
    {text : String} {description : Description}
    (parsed : Description.parse text = .ok description) :
    description.symbols ⊆ text.toList := by
  intro symbol member
  rcases List.mem_cons.mp member with rfl | member
  · have said :
        .header (.blank description.blank) ∈ statementsOf description := by
      simp [statementsOf, headersOf]
    rcases exists_makes_of_parse parsed said with ⟨core, makes, -, within⟩
    exact within (mem_of_makes_blank makes)
  · rcases List.mem_flatMap.mp member with ⟨transition, made, member⟩
    have said : .transition transition ∈ statementsOf description := by
      simp [statementsOf, made]
    rcases exists_makes_of_parse parsed said with ⟨core, makes, -, within⟩
    exact within (symbols_subset_of_makes_transition makes member)

end Format

namespace Description

open Format

theorem blank_not_mem_symbols_of_ofJson
    {text : String} {description : Description}
    (noEscape : ¬ Json.zeroEscape <:+: text.toList)
    (decoded : ofJson text = .ok description) :
    Symbol.blank ∉ description.symbols := by
  unfold ofJson at decoded
  split at decoded
  · cases decoded
  · next value read =>
      split at decoded
      · next made =>
          cases decoded
          intro member
          rcases Json.meansSymbol_of_decodeDescription made member with
            ⟨parts, memberLiterals, meant⟩
          have stands := Json.standsIn_of_read read memberLiterals
          exact
            stands.blank_not_mem noEscape meant List.mem_cons_self
      · cases decoded

/--
The blank of the tape is no symbol of a description that was read from a text
without it, or decoded from a document without its escape.  So the blank put in
place of the symbol for it merges no two symbols of such a description, and a
situation is reported as repeated only if two transitions are written for it.
-/
theorem blank_not_mem_symbols
    (source : String) (description : Description)
    (made :
      (Symbol.blank ∉ source.toList ∧ parse source = .ok description) ∨
        (¬ ['\\', 'u', '0', '0', '0', '0'] <:+: source.toList ∧
          ofJson source = .ok description)) :
    Symbol.blank ∉ description.symbols ∧
      (∀ first ∈ description.symbols, ∀ second ∈ description.symbols,
        description.internal first = description.internal second →
          first = second) ∧
      (∀ (state : String) (symbol : Symbol),
        description.build = .error (.duplicateTransition state symbol) →
          2 ≤ (description.transitions.map Transition.key).count
            (state, symbol)) := by
  have ink : Symbol.blank ∉ description.symbols := by
    rcases made with ⟨absent, parsed⟩ | ⟨noEscape, decoded⟩
    · exact fun member => absent (symbols_subset_of_parse parsed member)
    · exact blank_not_mem_symbols_of_ofJson noEscape decoded
  refine ⟨ink, ?_, ?_⟩
  · intro first memberFirst second memberSecond merged
    have firstInk : first ≠ Symbol.blank := by
      rintro rfl
      exact ink memberFirst
    have secondInk : second ≠ Symbol.blank := by
      rintro rfl
      exact ink memberSecond
    exact eq_of_internal_eq firstInk secondInk merged
  · intro state symbol failed
    exact two_le_count_of_build ink failed

/-- A description with two transitions for one situation. -/
def twiceWritten : Description where
  start := "q"
  accept := "a"
  reject := "r"
  blank := 'B'
  transitions := [⟨"q", 'B', "q", 'B', .right⟩, ⟨"q", 'B', "a", '1', .left⟩]

theorem blank_not_mem_symbols_twiceWritten :
    Symbol.blank ∉ twiceWritten.symbols ∧
      2 ≤ (twiceWritten.transitions.map Transition.key).count ("q", 'B') := by
  have parsed :
      parse ("start: q\naccept: a\nreject: r\nblank: B\n" ++
          "q B -> q B >\nq B -> a 1 <\n") =
        .ok twiceWritten := by
    decide +kernel
  have decoded :
      ofJson ("[\"q\", \"a\", \"r\", \"\\u0042\", [" ++
          "[\"q\", \"B\", \"q\", \"B\", \"Right\"], " ++
          "[\"q\", \"B\", \"a\", \"1\", \"Left\"]]]") =
        .ok twiceWritten := by
    decide +kernel
  have ofText :=
    blank_not_mem_symbols _ _ (Or.inl ⟨by decide +kernel, parsed⟩)
  have ofDocument :=
    blank_not_mem_symbols _ _ (Or.inr ⟨by decide +kernel, decoded⟩)
  exact ⟨ofText.1, ofDocument.2.2 "q" 'B' rfl⟩

/-- A description whose second transition reads the blank of the tape. -/
def onceWritten : Description where
  start := "q"
  accept := "a"
  reject := "r"
  blank := 'B'
  transitions :=
    [⟨"q", 'B', "q", 'B', .right⟩, ⟨"q", Symbol.blank, "a", '1', .left⟩]

/-- Neither reader refuses the blank of the tape, and it collides with the blank on paper. -/
theorem blank_merges_in_onceWritten :
    parse ("start: q\naccept: a\nreject: r\nblank: B\n" ++
        "q B -> q B >\nq \x00 -> a 1 <\n") =
        .ok onceWritten ∧
      ofJson ("[\"q\", \"a\", \"r\", \"B\", [" ++
          "[\"q\", \"B\", \"q\", \"B\", \"Right\"], " ++
          "[\"q\", \"\\u0000\", \"a\", \"1\", \"Left\"]]]") =
          .ok onceWritten ∧
        Symbol.blank ∈ onceWritten.symbols ∧
          onceWritten.internal Symbol.blank = onceWritten.internal 'B' ∧
            onceWritten.build = .error (.duplicateTransition "q" 'B') ∧
              (onceWritten.transitions.map Transition.key).count ("q", 'B') =
                1 :=
  ⟨by decide +kernel, by decide +kernel, by decide, rfl, rfl, by decide⟩

end Description

end TapeMachine
