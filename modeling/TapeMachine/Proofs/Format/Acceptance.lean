import Mathlib.Data.List.Forall2
import Mathlib.Data.List.Nodup
import TapeMachine.Format.Reader
import TapeMachine.Proofs.Format.Line
import TapeMachine.Proofs.Format.Statement

/-!
# Which texts make which descriptions

A description text is accepted when each of its lines makes a statement and the
statements give every header once.  The order in which the reader looks for
faults, and the places it remembers for its reports, do not matter for that: the
reader runs through without a fault exactly on the texts that are composed as
they should be, and returns what their lines say.
-/

namespace TapeMachine.Format

/-- The headers of a description, in the order of its standard form. -/
def headersOf (description : Description) : List Header :=
  [.start description.start, .accept description.accept,
    .reject description.reject, .blank description.blank]

/-! ## Lines -/

theorem exists_readLines_iff
    {lines : List Line} {statements : List Statement} :
    (∃ readings, readLines lines = .ok readings ∧
        readings.map Prod.snd = statements) ↔
      List.Forall₂ LineMakes (lines.map Line.text) statements := by
  induction lines generalizing statements with
  | nil =>
      rw [List.map_nil, List.forall₂_nil_left_iff]
      constructor
      · rintro ⟨readings, read, rfl⟩
        cases read
        rfl
      · rintro rfl
        exact ⟨[], rfl, rfl⟩
  | cons line lines induction =>
      rw [List.map_cons, List.forall₂_cons_left_iff]
      constructor
      · rintro ⟨readings, read, rfl⟩
        unfold readLines at read
        split at read
        · cases read
        · next statement readLine =>
            cases readRest : readLines lines with
            | error fault =>
                rw [readRest] at read
                cases read
            | ok rest =>
                rw [readRest] at read
                cases read
                exact
                  ⟨statement, rest.map Prod.snd, read_eq_ok_iff.mp readLine,
                    induction.mp ⟨rest, readRest, rfl⟩, rfl⟩
      · rintro ⟨statement, others, makes, makeOthers, rfl⟩
        rcases induction.mpr makeOthers with ⟨rest, readRest, rfl⟩
        refine ⟨(line, statement) :: rest, ?_, rfl⟩
        simp only [readLines, read_eq_ok_iff.mpr makes, readRest]
        rfl

/-! ## Headers -/

/-- No header is repeated when no two headers have one keyword. -/
theorem repeatedHeader?_eq_none_iff
    {seen keywords : List Keyword} {readings : List (Line × Statement)}
    (given :
      ((readings.map Prod.snd).filterMap Statement.header?).map
        Header.keyword = keywords) :
    repeatedHeader? seen readings = none ↔
      keywords.Nodup ∧ ∀ keyword ∈ keywords, keyword ∉ seen := by
  induction readings generalizing seen keywords with
  | nil =>
      subst given
      simp [repeatedHeader?]
  | cons reading readings induction =>
      rcases reading with ⟨line, statement⟩
      cases made : statement.header? with
      | none =>
          rw [List.map_cons, List.filterMap_cons_none made] at given
          simpa only [repeatedHeader?, made] using induction given
      | some header =>
          rw [List.map_cons, List.filterMap_cons_some made, List.map_cons]
            at given
          subst given
          simp only [repeatedHeader?, made, List.nodup_cons,
            List.forall_mem_cons]
          by_cases before : header.keyword ∈ seen
          · simp [before]
          · rw [if_neg before, induction rfl]
            constructor
            · rintro ⟨distinct, fresh⟩
              refine ⟨⟨?_, distinct⟩, before, ?_⟩
              · intro again
                exact fresh _ again List.mem_cons_self
              · intro keyword member wasSeen
                exact fresh keyword member (List.mem_cons_of_mem _ wasSeen)
            · rintro ⟨⟨once, distinct⟩, -, fresh⟩
              refine ⟨distinct, ?_⟩
              intro keyword member wasSeen
              rcases List.mem_cons.mp wasSeen with rfl | wasSeen
              · exact once member
              · exact fresh keyword member wasSeen

section Values

variable
    {Value : Type}
    {value? : Header → Option Value}
    {statements : List Statement}
    {value : Value}

theorem headerValue_eq_ok_iff_findSome?
    {keyword : Keyword} :
    headerValue keyword value? statements = .ok value ↔
      (statements.filterMap Statement.header?).findSome? value? =
        some value := by
  have sameSearch :
      (statements.findSome? fun statement => statement.header?.bind value?) =
        (statements.filterMap Statement.header?).findSome? value? := by
    induction statements with
    | nil => rfl
    | cons statement statements induction =>
        cases made : statement.header? with
        | none => simp [List.filterMap_cons_none made, made, induction]
        | some header =>
            simp [List.filterMap_cons_some made, List.findSome?_cons, made,
              induction]
  rw [headerValue, sameSearch]
  split
  · next found => simp [found]
  · next missing => simp [missing]

/-- Of headers without repetition, the one that is asked for is found. -/
theorem headerValue_eq_ok_iff
    {keyword : Keyword}
    (make : Value → Header)
    (ofHeader : ∀ header value, value? header = some value ↔ header = make value)
    (ofValue : ∀ value, (make value).keyword = keyword)
    (distinct :
      ((statements.filterMap Statement.header?).map Header.keyword).Nodup) :
    headerValue keyword value? statements = .ok value ↔
      make value ∈ statements.filterMap Statement.header? := by
  rw [headerValue_eq_ok_iff_findSome?]
  constructor
  · intro search
    rcases List.exists_of_findSome?_eq_some search with
      ⟨header, member, valued⟩
    rw [(ofHeader header value).mp valued] at member
    exact member
  · intro member
    have isFound :
        ((statements.filterMap Statement.header?).findSome? value?).isSome =
          true := by
      rw [List.findSome?_isSome_iff]
      exact ⟨make value, member, by simp [(ofHeader _ _).mpr rfl]⟩
    rcases Option.isSome_iff_exists.mp isFound with ⟨value', search⟩
    rcases List.exists_of_findSome?_eq_some search with
      ⟨header, member', valued⟩
    have isMade := (ofHeader header value').mp valued
    subst isMade
    have same : make value' = make value :=
      List.inj_on_of_nodup_map distinct member' member
        ((ofValue value').trans (ofValue value).symm)
    rw [same, (ofHeader _ _).mpr rfl] at valued
    cases valued
    exact search

end Values

theorem map_keyword_headersOf
    (description : Description) :
    (headersOf description).map Header.keyword = Keyword.all :=
  rfl

theorem exists_mem_headersOf
    (description : Description) (keyword : Keyword) :
    ∃ header ∈ headersOf description, header.keyword = keyword := by
  have listed : keyword ∈ (headersOf description).map Header.keyword := by
    rw [map_keyword_headersOf]
    cases keyword <;> simp [Keyword.all]
  exact List.mem_map.mp listed

/-- Headers without repetition that hold all headers of a description are these headers. -/
theorem perm_headersOf_iff
    {headers : List Header} {description : Description} :
    headers.Perm (headersOf description) ↔
      (headers.map Header.keyword).Nodup ∧
        ∀ header ∈ headersOf description, header ∈ headers := by
  have distinctKeywords :
      ((headersOf description).map Header.keyword).Nodup := by
    rw [map_keyword_headersOf]
    decide
  constructor
  · intro perm
    refine ⟨(perm.map Header.keyword).nodup_iff.mpr distinctKeywords, ?_⟩
    intro header member
    exact perm.mem_iff.mpr member
  · rintro ⟨distinct, holds⟩
    apply
      (List.perm_ext_iff_of_nodup distinct.of_map
        distinctKeywords.of_map).mpr
    intro header
    constructor
    · intro member
      rcases exists_mem_headersOf description header.keyword with
        ⟨header', member', sameKeyword⟩
      have same : header' = header :=
        List.inj_on_of_nodup_map distinct (holds header' member') member
          sameKeyword
      exact same ▸ member'
    · exact holds header

/-! ## Descriptions -/

theorem assemble_eq_ok_iff_headerValue
    {statements : List Statement} {description : Description} :
    assemble statements = .ok description ↔
      headerValue .start Header.start? statements = .ok description.start ∧
      headerValue .accept Header.accept? statements = .ok description.accept ∧
      headerValue .reject Header.reject? statements = .ok description.reject ∧
      headerValue .blank Header.blank? statements = .ok description.blank ∧
      statements.filterMap Statement.transition? = description.transitions := by
  constructor
  · intro assembled
    unfold assemble at assembled
    rcases bind_eq_ok_iff.mp assembled with ⟨start, readStart, assembled⟩
    rcases bind_eq_ok_iff.mp assembled with ⟨accept, readAccept, assembled⟩
    rcases bind_eq_ok_iff.mp assembled with ⟨reject, readReject, assembled⟩
    rcases bind_eq_ok_iff.mp assembled with ⟨blank, readBlank, assembled⟩
    cases assembled
    exact ⟨readStart, readAccept, readReject, readBlank, rfl⟩
  · rintro ⟨readStart, readAccept, readReject, readBlank, transitions⟩
    unfold assemble
    refine bind_eq_ok_iff.mpr ⟨_, readStart, ?_⟩
    refine bind_eq_ok_iff.mpr ⟨_, readAccept, ?_⟩
    refine bind_eq_ok_iff.mpr ⟨_, readReject, ?_⟩
    refine bind_eq_ok_iff.mpr ⟨_, readBlank, ?_⟩
    rw [transitions]
    rfl

theorem assemble_eq_ok_iff
    {statements : List Statement} {description : Description}
    (distinct :
      ((statements.filterMap Statement.header?).map Header.keyword).Nodup) :
    assemble statements = .ok description ↔
      (statements.filterMap Statement.header?).Perm (headersOf description) ∧
        statements.filterMap Statement.transition? =
          description.transitions := by
  have ofStart (header : Header) (state : String) :
      header.start? = some state ↔ header = .start state := by
    cases header <;> simp [Header.start?]
  have ofAccept (header : Header) (state : String) :
      header.accept? = some state ↔ header = .accept state := by
    cases header <;> simp [Header.accept?]
  have ofReject (header : Header) (state : String) :
      header.reject? = some state ↔ header = .reject state := by
    cases header <;> simp [Header.reject?]
  have ofBlank (header : Header) (symbol : Symbol) :
      header.blank? = some symbol ↔ header = .blank symbol := by
    cases header <;> simp [Header.blank?]
  rw [assemble_eq_ok_iff_headerValue, perm_headersOf_iff,
    headerValue_eq_ok_iff .start ofStart (fun _ => rfl) distinct,
    headerValue_eq_ok_iff .accept ofAccept (fun _ => rfl) distinct,
    headerValue_eq_ok_iff .reject ofReject (fun _ => rfl) distinct,
    headerValue_eq_ok_iff .blank ofBlank (fun _ => rfl) distinct]
  simp [headersOf, distinct, and_assoc]

theorem parseTrimmed_eq_ok_iff_read
    {source : List Char} {description : Description} :
    Description.parseTrimmed source = .ok description ↔
      ∃ readings, readLines (Line.cut 0 source) = .ok readings ∧
        repeatedHeader? [] readings = none ∧
          assemble (readings.map Prod.snd) = .ok description := by
  unfold Description.parseTrimmed
  split
  · next fault unread => simp [unread]
  · next readings read =>
      rw [read]
      simp only [Except.ok.injEq, exists_eq_left']
      split
      · next repeated => simp [repeated]
      · next unrepeated =>
          split
          · next made assembled =>
              simp [unrepeated, assembled]
          · next missing unassembled =>
              simp [unassembled]

theorem parseTrimmed_eq_ok_iff
    {source : List Char} {description : Description} :
    Description.parseTrimmed source = .ok description ↔
      ∃ lines statements, Splits source lines ∧
        List.Forall₂ LineMakes lines statements ∧
        (statements.filterMap Statement.header?).Perm
          (headersOf description) ∧
        statements.filterMap Statement.transition? =
          description.transitions := by
  rw [parseTrimmed_eq_ok_iff_read]
  constructor
  · rintro ⟨readings, read, unrepeated, assembled⟩
    have distinct := ((repeatedHeader?_eq_none_iff rfl).mp unrepeated).1
    exact
      ⟨_, readings.map Prod.snd, splits_cut 0 source,
        exists_readLines_iff.mp ⟨readings, read, rfl⟩,
        (assemble_eq_ok_iff distinct).mp assembled⟩
  · rintro ⟨lines, statements, splits, makes, perm, transitions⟩
    rw [← splits.map_text_cut 0] at makes
    rcases exists_readLines_iff.mpr makes with ⟨readings, read, rfl⟩
    have distinct := (perm_headersOf_iff.mp perm).1
    exact
      ⟨readings, read,
        (repeatedHeader?_eq_none_iff rfl).mpr ⟨distinct, by simp⟩,
        (assemble_eq_ok_iff distinct).mpr ⟨perm, transitions⟩⟩

end TapeMachine.Format

namespace TapeMachine.Description

open Format

/-- The texts that are accepted, and the descriptions they make. -/
theorem parse_eq_ok_iff
    (text : String) (description : Description) :
    parse text = .ok description ↔
      text.utf8ByteSize ≤ 65536 ∧
      ∃ trimmed lines statements,
        Trims Text.isWhiteSpace text.toList trimmed ∧
        Splits trimmed lines ∧
        List.Forall₂
          (fun line statement =>
            ∃ core, Trims isGap line core ∧ Makes core statement)
          lines statements ∧
        (statements.filterMap Statement.header?).Perm
          [.start description.start, .accept description.accept,
            .reject description.reject, .blank description.blank] ∧
        statements.filterMap Statement.transition? =
          description.transitions := by
  have trimsLines :
      LineMakes = fun line statement =>
        ∃ core, Trims isGap line core ∧ Makes core statement := by
    ext line statement
    exact lineMakes_iff_trims
  rw [← trimsLines]
  unfold parse
  by_cases tooLarge : sizeLimit < text.utf8ByteSize
  · have notWithin : ¬ text.utf8ByteSize ≤ 65536 := Nat.not_le.mpr tooLarge
    simp [tooLarge, notWithin]
  · have within : text.utf8ByteSize ≤ 65536 := Nat.not_lt.mp tooLarge
    rw [if_neg tooLarge, parseTrimmed_eq_ok_iff]
    constructor
    · rintro ⟨lines, statements, composed⟩
      exact
        ⟨within, Text.trim text.toList, lines, statements,
          trim_eq_iff.mp rfl, composed⟩
    · rintro ⟨-, trimmed, lines, statements, trims, composed⟩
      rw [trim_eq_iff.mpr trims]
      exact ⟨lines, statements, composed⟩

end TapeMachine.Description
