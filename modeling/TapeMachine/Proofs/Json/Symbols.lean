import TapeMachine.Json.Document
import TapeMachine.Proofs.Json.Literals
import TapeMachine.Proofs.Success
import TapeMachine.Proofs.Symbols

/-!
# The symbols of a document

A description decoded from a document has no symbols of its own: each of them is
what some string literal of the document means.  Whether its fields are given as
members or as elements, a record takes from them only symbols that they mean.
-/

namespace TapeMachine.Json

/-! ## Meant symbols -/

/-- Some literal means the symbol and nothing else. -/
def MeansSymbol (literals : List (List StringPart)) (symbol : Symbol) : Prop :=
  ∃ parts ∈ literals, text? parts = some [symbol]

theorem MeansSymbol.mono
    {literals others : List (List StringPart)} {symbol : Symbol}
    (means : MeansSymbol literals symbol) (within : literals ⊆ others) :
    MeansSymbol others symbol := by
  rcases means with ⟨parts, member, meant⟩
  exact ⟨parts, within member, meant⟩

theorem wrongShape_ne_ok
    {Wanted : Type} {value : Value} {wanted : Shape} {made : Wanted} :
    wrongShape value wanted ≠ .ok made := by
  intro shaped
  rcases bind_eq_ok_iff.mp shaped with ⟨found, -, thrown⟩
  cases thrown

theorem meansSymbol_of_decodeChar
    {value : Value} {symbol : Symbol}
    (decoded : decodeChar value = .ok symbol) :
    MeansSymbol value.literals symbol := by
  unfold decodeChar at decoded
  split at decoded
  · next parts =>
      rcases bind_eq_ok_iff.mp decoded with ⟨text, isText, single⟩
      unfold decodeText at isText
      split at isText
      · next letters meant =>
          cases isText
          rw [String.toList_ofList] at single
          split at single
          · next c =>
              cases single
              exact ⟨parts, List.mem_cons_self, meant⟩
          · cases single
      · cases isText
  · exact absurd decoded wrongShape_ne_ok

/-! ## Members of an object -/

theorem map_fillField_eq_ok_iff
    {Field Draft : Type} {name : String} {old : Option Field}
    {decode : Value → Except Mismatch Field} {value : Value}
    {fill : Option Field → Draft} {filled : Draft} :
    (fillField name old decode value).map fill = .ok filled ↔
      old = none ∧
        ∃ field, decode value = .ok field ∧ fill (some field) = filled := by
  cases old with
  | none => simp [fillField, map_eq_ok_iff]
  | some field => simp [fillField, Except.map]

theorem givenField_eq_ok_iff
    {Field : Type} {name : String} {given : Option Field} {field : Field} :
    givenField name given = .ok field ↔ given = some field := by
  cases given <;> simp [givenField]

/-- If a member adds only symbols it means, an object adds only symbols it means. -/
theorem meansSymbol_of_putMembers
    {Draft : Type} {put : Draft → String → Value → Except Mismatch Draft}
    {members : List (List StringPart × Value)} {draft made : Draft}
    {symbol : Symbol}
    (symbolsOf : Draft → List Symbol)
    (adds : ∀ {draft after : Draft} {name : String} {value : Value}
        {symbol : Symbol},
      put draft name value = .ok after → symbol ∈ symbolsOf after →
        symbol ∈ symbolsOf draft ∨ MeansSymbol value.literals symbol)
    (taken : putMembers put draft members = .ok made)
    (member : symbol ∈ symbolsOf made) :
    symbol ∈ symbolsOf draft ∨
      MeansSymbol (Value.object members).literals symbol := by
  simp only [Value.literals]
  induction members generalizing draft with
  | nil =>
      cases taken
      exact Or.inl member
  | cons first members induction =>
      rcases bind_eq_ok_iff.mp taken with ⟨name, -, rest⟩
      rcases bind_eq_ok_iff.mp rest with ⟨after, put, rest⟩
      rw [literalsOfMembers]
      rcases induction rest with old | means
      · rcases adds put old with old | means
        · exact Or.inl old
        · exact Or.inr (means.mono (by simp))
      · exact Or.inr (means.mono (by simp))

/-- The symbols among the fields given so far. -/
def TransitionDraft.symbols (draft : TransitionDraft) : List Symbol :=
  draft.symbol?.toList ++ draft.write?.toList

theorem TransitionDraft.symbols_of_put
    {draft after : TransitionDraft} {name : String} {value : Value}
    {symbol : Symbol}
    (taken : draft.put name value = .ok after)
    (member : symbol ∈ after.symbols) :
    symbol ∈ draft.symbols ∨ MeansSymbol value.literals symbol := by
  unfold TransitionDraft.put at taken
  split_ifs at taken
  · rcases map_fillField_eq_ok_iff.mp taken with ⟨-, state, -, rfl⟩
    exact Or.inl member
  · rcases map_fillField_eq_ok_iff.mp taken with ⟨-, read, decoded, rfl⟩
    simp only [symbols, Option.toList_some, List.cons_append,
      List.nil_append, List.mem_cons] at member
    rcases member with rfl | member
    · exact Or.inr (meansSymbol_of_decodeChar decoded)
    · exact Or.inl (List.mem_append_right _ member)
  · rcases map_fillField_eq_ok_iff.mp taken with ⟨-, next, -, rfl⟩
    exact Or.inl member
  · rcases map_fillField_eq_ok_iff.mp taken with ⟨-, write, decoded, rfl⟩
    simp only [symbols, Option.toList_some, List.mem_append,
      List.mem_singleton] at member
    rcases member with member | rfl
    · exact Or.inl (List.mem_append_left _ member)
    · exact Or.inr (meansSymbol_of_decodeChar decoded)
  · rcases map_fillField_eq_ok_iff.mp taken with ⟨-, direction, -, rfl⟩
    exact Or.inl member
  · cases taken
    exact Or.inl member

theorem TransitionDraft.symbols_of_finish
    {draft : TransitionDraft} {transition : Transition}
    (finished : draft.finish = .ok transition) :
    transition.symbols = draft.symbols := by
  rcases bind_eq_ok_iff.mp finished with ⟨state, -, finished⟩
  rcases bind_eq_ok_iff.mp finished with ⟨symbol, isSymbol, finished⟩
  rcases bind_eq_ok_iff.mp finished with ⟨next, -, finished⟩
  rcases bind_eq_ok_iff.mp finished with ⟨write, isWrite, finished⟩
  rcases bind_eq_ok_iff.mp finished with ⟨direction, -, finished⟩
  cases finished
  rw [givenField_eq_ok_iff] at isSymbol isWrite
  simp [symbols, Transition.symbols, isSymbol, isWrite]

/-! ## Elements of an array -/

theorem exists_mem_of_elementAt
    {Field : Type} {record : Record} {elements : List Value} {index : Nat}
    {decode : Value → Except Mismatch Field} {field : Field}
    (decoded : (elementAt record elements index >>= decode) = .ok field) :
    ∃ element ∈ elements, decode element = .ok field := by
  rcases bind_eq_ok_iff.mp decoded with ⟨element, isElement, decoded⟩
  unfold elementAt at isElement
  split at isElement
  · next found =>
      cases isElement
      exact ⟨element, List.mem_of_getElem? found, decoded⟩
  · cases isElement

theorem meansSymbol_of_elementAt
    {record : Record} {elements : List Value} {index : Nat} {symbol : Symbol}
    (decoded :
      (elementAt record elements index >>= decodeChar) = .ok symbol) :
    MeansSymbol (Value.array elements).literals symbol := by
  rcases exists_mem_of_elementAt decoded with ⟨element, member, decoded⟩
  exact
    (meansSymbol_of_decodeChar decoded).mono
      (literals_subset_of_mem_elements member)

theorem eq_of_checkLength
    {Made : Type} {elements : List Value} {made result : Made}
    (checked : checkLength elements made = .ok result) :
    made = result := by
  unfold checkLength at checked
  split at checked
  · exact Except.ok.inj checked
  · cases checked

/-! ## Transitions -/

theorem meansSymbol_of_decodeTransition
    {value : Value} {transition : Transition} {symbol : Symbol}
    (decoded : decodeTransition value = .ok transition)
    (member : symbol ∈ transition.symbols) :
    MeansSymbol value.literals symbol := by
  unfold decodeTransition at decoded
  split at decoded
  · next members =>
      rcases bind_eq_ok_iff.mp decoded with ⟨draft, taken, finished⟩
      rw [TransitionDraft.symbols_of_finish finished] at member
      rcases meansSymbol_of_putMembers TransitionDraft.symbols
          TransitionDraft.symbols_of_put taken member with given | means
      · cases given
      · exact means
  · next elements =>
      rcases bind_eq_ok_iff.mp decoded with ⟨state, -, decoded⟩
      rcases bind_eq_ok_iff.mp decoded with ⟨read, isRead, decoded⟩
      rcases bind_eq_ok_iff.mp decoded with ⟨next, -, decoded⟩
      rcases bind_eq_ok_iff.mp decoded with ⟨write, isWrite, decoded⟩
      rcases bind_eq_ok_iff.mp decoded with ⟨direction, -, decoded⟩
      cases eq_of_checkLength decoded
      simp only [Transition.symbols, List.mem_cons, List.not_mem_nil,
        or_false] at member
      rcases member with rfl | rfl
      · exact meansSymbol_of_elementAt isRead
      · exact meansSymbol_of_elementAt isWrite
  · exact absurd decoded wrongShape_ne_ok

theorem meansSymbol_of_decodeTransitions
    {value : Value} {transitions : List Transition} {symbol : Symbol}
    (decoded : decodeTransitions value = .ok transitions)
    (member : symbol ∈ transitions.flatMap Transition.symbols) :
    MeansSymbol value.literals symbol := by
  rcases List.mem_flatMap.mp member with ⟨transition, made, member⟩
  unfold decodeTransitions at decoded
  split at decoded
  · next elements =>
      rcases exists_mem_of_forall₂ (mapM_eq_ok_iff.mp decoded) made with
        ⟨element, memberElement, decoded⟩
      exact
        (meansSymbol_of_decodeTransition decoded member).mono
          (literals_subset_of_mem_elements memberElement)
  · exact absurd decoded wrongShape_ne_ok

/-! ## Descriptions -/

/-- The symbols among the fields given so far. -/
def DescriptionDraft.symbols (draft : DescriptionDraft) : List Symbol :=
  draft.blank?.toList ++
    draft.transitions?.toList.flatMap (·.flatMap Transition.symbols)

theorem DescriptionDraft.symbols_of_put
    {draft after : DescriptionDraft} {name : String} {value : Value}
    {symbol : Symbol}
    (taken : draft.put name value = .ok after)
    (member : symbol ∈ after.symbols) :
    symbol ∈ draft.symbols ∨ MeansSymbol value.literals symbol := by
  unfold DescriptionDraft.put at taken
  split_ifs at taken
  · rcases map_fillField_eq_ok_iff.mp taken with ⟨-, start, -, rfl⟩
    exact Or.inl member
  · rcases map_fillField_eq_ok_iff.mp taken with ⟨-, accept, -, rfl⟩
    exact Or.inl member
  · rcases map_fillField_eq_ok_iff.mp taken with ⟨-, reject, -, rfl⟩
    exact Or.inl member
  · rcases map_fillField_eq_ok_iff.mp taken with ⟨-, blank, decoded, rfl⟩
    simp only [symbols, Option.toList_some, List.cons_append,
      List.nil_append, List.mem_cons] at member
    rcases member with rfl | member
    · exact Or.inr (meansSymbol_of_decodeChar decoded)
    · exact Or.inl (List.mem_append_right _ member)
  · rcases map_fillField_eq_ok_iff.mp taken with
      ⟨-, transitions, decoded, rfl⟩
    simp only [symbols, Option.toList_some, List.flatMap_singleton,
      List.mem_append] at member
    rcases member with member | member
    · exact Or.inl (List.mem_append_left _ member)
    · exact Or.inr (meansSymbol_of_decodeTransitions decoded member)
  · cases taken
    exact Or.inl member

theorem DescriptionDraft.symbols_of_finish
    {draft : DescriptionDraft} {description : Description}
    (finished : draft.finish = .ok description) :
    description.symbols = draft.symbols := by
  rcases bind_eq_ok_iff.mp finished with ⟨start, -, finished⟩
  rcases bind_eq_ok_iff.mp finished with ⟨accept, -, finished⟩
  rcases bind_eq_ok_iff.mp finished with ⟨reject, -, finished⟩
  rcases bind_eq_ok_iff.mp finished with ⟨blank, isBlank, finished⟩
  rcases bind_eq_ok_iff.mp finished with ⟨transitions, areGiven, finished⟩
  cases finished
  rw [givenField_eq_ok_iff] at isBlank areGiven
  simp [symbols, Description.symbols, isBlank, areGiven]

/-- Every symbol of a decoded description is what a literal of the document means. -/
theorem meansSymbol_of_decodeDescription
    {value : Value} {description : Description} {symbol : Symbol}
    (decoded : decodeDescription value = .ok description)
    (member : symbol ∈ description.symbols) :
    MeansSymbol value.literals symbol := by
  unfold decodeDescription at decoded
  split at decoded
  · next members =>
      rcases bind_eq_ok_iff.mp decoded with ⟨draft, taken, finished⟩
      rw [DescriptionDraft.symbols_of_finish finished] at member
      rcases meansSymbol_of_putMembers DescriptionDraft.symbols
          DescriptionDraft.symbols_of_put taken member with given | means
      · cases given
      · exact means
  · next elements =>
      rcases bind_eq_ok_iff.mp decoded with ⟨start, -, decoded⟩
      rcases bind_eq_ok_iff.mp decoded with ⟨accept, -, decoded⟩
      rcases bind_eq_ok_iff.mp decoded with ⟨reject, -, decoded⟩
      rcases bind_eq_ok_iff.mp decoded with ⟨blank, isBlank, decoded⟩
      rcases bind_eq_ok_iff.mp decoded with ⟨transitions, areGiven, decoded⟩
      cases eq_of_checkLength decoded
      rcases List.mem_cons.mp member with rfl | member
      · exact meansSymbol_of_elementAt isBlank
      · rcases exists_mem_of_elementAt areGiven with
          ⟨element, memberElement, areGiven⟩
        exact
          (meansSymbol_of_decodeTransitions areGiven member).mono
            (literals_subset_of_mem_elements memberElement)
  · exact absurd decoded wrongShape_ne_ok

end TapeMachine.Json
