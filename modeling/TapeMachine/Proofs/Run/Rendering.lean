import TapeMachine.Proofs.Format.RoundTrip
import TapeMachine.Proofs.Run.Equality
import TapeMachine.Proofs.Symbols
import TapeMachine.Proofs.Tape.Rendering

/-!
# Shown configurations can be told apart

A configuration is shown as its state, a colon and its tape.  A state that was
read from a text holds no colon, so the state can be told from what is shown, and
the tape can be told if its symbols are legible.

They are, along every run of a machine that a description without brackets
describes.  Neither a word nor a rule puts the symbol on the tape that stands for
the blank on paper: the blank of the tape was put in its place.
-/

namespace TapeMachine

/-! ## Configurations -/

/-- The state holds no colon, and the tape can be told from what it is shown as. -/
structure Configuration.Legible
    (configuration : Configuration) (shownBlank : Symbol) : Prop where
  state : ':' ∉ configuration.state.toList
  tape : configuration.tape.Legible shownBlank

namespace Configuration.Legible

variable
    {configuration configuration' : Configuration}
    {shownBlank : Symbol}

theorem scan_render
    (legible : configuration.Legible shownBlank) :
    (configuration.render shownBlank).toList.takeWhile (· != ':') =
        configuration.state.toList ∧
      (configuration.render shownBlank).toList.dropWhile (· != ':') =
        ':' :: ' ' :: (configuration.tape.render shownBlank).toList := by
  apply Format.scan_iff.mpr
  refine ⟨by simp [render], ?_, Format.beginsOutside_cons.mpr rfl⟩
  intro letter member
  rw [bne_iff_ne]
  rintro rfl
  exact legible.state member

theorem render_inj
    (legible : configuration.Legible shownBlank)
    (legible' : configuration'.Legible shownBlank)
    (noBracket : shownBlank ∉ ['[', ']']) :
    configuration.render shownBlank = configuration'.render shownBlank ↔
      (configuration == configuration') = true := by
  rw [Configuration.beq_iff, ← legible.tape.render_inj legible'.tape noBracket]
  constructor
  · intro alike
    rcases legible.scan_render with ⟨isState, isTape⟩
    rcases legible'.scan_render with ⟨isState', isTape'⟩
    rw [alike, isState'] at isState
    rw [alike, isTape', List.cons_inj_right, List.cons_inj_right] at isTape
    exact
      ⟨(String.toList_inj.mp isState).symm,
        (String.toList_inj.mp isTape).symm⟩
  · rintro ⟨sameState, sameTape⟩
    rw [render, render, sameState, sameTape]

end Configuration.Legible

/-! ## Machines -/

/-- No state that a run can reach holds a colon, and every symbol that is written is legible. -/
structure Machine.Legible (machine : Machine) : Prop where
  noBracket : machine.shownBlank ∉ ['[', ']']
  start : ':' ∉ machine.start.toList
  reject : ':' ∉ machine.reject.toList
  next : ∀ rule ∈ machine.rules, ':' ∉ rule.next.toList
  write : ∀ rule ∈ machine.rules, rule.write.Legible machine.shownBlank

namespace Machine.Legible

variable {machine : Machine}

theorem step
    (legible : machine.Legible)
    (before : Configuration)
    (legibleBefore : before.Legible machine.shownBlank) :
    (machine.step before).Legible machine.shownBlank := by
  rcases before with ⟨state, tape⟩
  simp only [Machine.step]
  split
  · next rule found =>
      have member := (rule?_eq_some_iff.mp found).1
      exact
        { state := legible.next rule member
          tape :=
            legibleBefore.tape.apply legible.noBracket
              (legible.write rule member) rule.direction }
  · exact { state := legible.reject, tape := legibleBefore.tape }

theorem course
    (legible : machine.Legible)
    {word : String}
    (legibleWord :
      ∀ symbol ∈ machine.wordSymbols word, symbol.Legible machine.shownBlank)
    (place : Nat) :
    (machine.course word place).Legible machine.shownBlank := by
  apply course_of_step _ legible.step
  refine { state := legible.start, tape := ?_ }
  intro symbol stored
  exact legibleWord symbol (by simpa [initial, Tape.ofSymbols] using stored)

end Machine.Legible

namespace Description

variable
    {description : Description}
    {machine : Machine}

/-- The symbol on paper is legible on the tape, since the one for the blank is replaced. -/
theorem legible_internal
    {symbol : Symbol}
    (noBracket : description.blank ∉ ['[', ']'])
    (plain : symbol ∉ ['[', ']']) :
    (description.internal symbol).Legible description.blank := by
  unfold internal
  split
  · exact Symbol.legible_blank noBracket
  · next notBlank =>
      refine
        { noBracket := ?_
          blank_of_eq := fun isBlank => absurd isBlank notBlank }
      unfold Symbol.present
      split
      · exact noBracket
      · exact plain

theorem legible_of_build
    (writable : description.Writable)
    (noBracket : ∀ symbol ∈ description.symbols, symbol ∉ ['[', ']'])
    (built : description.build = .ok machine) :
    machine.Legible := by
  rcases build_eq_ok_iff.mp built with
    ⟨isStart, -, isReject, isBlank, isRules⟩
  have shownBlank : machine.shownBlank = description.blank := by
    simp [Machine.shownBlank, isBlank]
  have blankPlain : description.blank ∉ ['[', ']'] :=
    noBracket description.blank List.mem_cons_self
  have noColon {name : String} (isName : IsWritableName name) :
      ':' ∉ name.toList := by
    intro member
    exact isName.2 ':' member (by simp)
  refine
    { noBracket := shownBlank ▸ blankPlain
      start := isStart ▸ noColon writable.start
      reject := isReject ▸ noColon writable.reject
      next := ?_
      write := ?_ }
  · rw [isRules]
    intro rule member
    rcases List.mem_map.mp member with ⟨transition, described, rfl⟩
    exact noColon (writable.transitions transition described).next
  · rw [isRules, shownBlank]
    intro rule member
    rcases List.mem_map.mp member with ⟨transition, described, rfl⟩
    exact
      legible_internal blankPlain
        (noBracket _ (write_mem_symbols described))

theorem legible_wordSymbols
    {word : String} {symbol : Symbol}
    (blankPlain : description.blank ∉ ['[', ']'])
    (built : description.build = .ok machine)
    (plain : ∀ symbol ∈ word.toList, symbol ∉ ['[', ']'])
    (member : symbol ∈ machine.wordSymbols word) :
    symbol.Legible machine.shownBlank := by
  have isBlank := (build_eq_ok_iff.mp built).2.2.2.1
  simp only [Machine.wordSymbols, isBlank] at member
  rcases List.mem_map.mp member with ⟨letter, written, rfl⟩
  simp only [Machine.shownBlank, isBlank]
  exact legible_internal blankPlain (plain letter written)

end Description

namespace Run

/--
Configurations that runs of one described machine yield are shown alike only if
they are equal, provided that no bracket is among the symbols of the description
and of the words.  None of their tapes stores the symbol that shows a blank,
unless that is the blank of the tape itself, and so a cell that is shown as a
blank is one.
-/
theorem render_identifies_configurations
    {text : String} {description : Description} {machine : Machine}
    {word word' : String}
    (parsed : Description.parse text = .ok description)
    (noBracket : ∀ symbol ∈ description.symbols, symbol ∉ ['[', ']'])
    (built : description.build = .ok machine)
    (plain : ∀ symbol ∈ word.toList, symbol ∉ ['[', ']'])
    (plain' : ∀ symbol ∈ word'.toList, symbol ∉ ['[', ']'])
    {place place' : Nat} {configuration configuration' : Configuration}
    (yields : ((begin machine word).nth place).1 = some configuration)
    (yields' : ((begin machine word').nth place').1 = some configuration') :
    (configuration.render machine.shownBlank =
        configuration'.render machine.shownBlank ↔
      (configuration == configuration') = true) ∧
    (∀ symbol ∈ configuration.tape.cells,
      symbol = machine.shownBlank → symbol = Symbol.blank) ∧
    (∀ symbol ∈ configuration.tape.content,
      symbol.present machine.shownBlank = machine.shownBlank ↔
        symbol = Symbol.blank) := by
  have legible : machine.Legible :=
    Description.legible_of_build (Format.writable_of_parse parsed) noBracket
      built
  have blankPlain := noBracket description.blank List.mem_cons_self
  rcases nth_begin_eq_some_iff.mp yields with ⟨-, rfl⟩
  rcases nth_begin_eq_some_iff.mp yields' with ⟨-, rfl⟩
  have here :=
    legible.course
      (fun _ => Description.legible_wordSymbols blankPlain built plain) place
  have there :=
    legible.course
      (fun _ => Description.legible_wordSymbols blankPlain built plain') place'
  refine ⟨here.render_inj there legible.noBracket, ?_, ?_⟩
  · intro symbol stored
    exact (here.tape symbol stored).blank_of_eq
  · intro symbol member
    exact (here.tape.content legible.noBracket member).present_eq_iff

/-- Exchanges strokes and blanks on the way to the right. -/
def inverting : Description where
  start := "q"
  accept := "a"
  reject := "r"
  blank := 'B'
  transitions := [⟨"q", 'B', "q", '1', .right⟩, ⟨"q", '1', "q", 'B', .right⟩]

/-- The machine that is described. -/
def invertingMachine : Machine where
  start := "q"
  accept := "a"
  reject := "r"
  blank? := some 'B'
  rules :=
    [⟨"q", Symbol.blank, "q", '1', .right⟩,
      ⟨"q", '1', "q", Symbol.blank, .right⟩]
  deterministic := by decide

/-- A stroke that was removed leaves a stored blank behind, which nothing shows. -/
theorem render_identifies_configurations_inverting :
    ((invertingMachine.course "1" 1).render 'B' =
        (invertingMachine.course "" 0).render 'B' ↔
      (invertingMachine.course "1" 1 ==
        invertingMachine.course "" 0) = true) ∧
    (∀ symbol ∈ (invertingMachine.course "1" 1).tape.cells,
      symbol = 'B' → symbol = Symbol.blank) ∧
    (invertingMachine.course "1" 1).render 'B' = "q: [B]" ∧
    (invertingMachine.course "1" 1).tape.cells = #[Symbol.blank] := by
  have parsed :
      Description.parse
          ("start: q\naccept: a\nreject: r\nblank: B\n" ++
            "q B -> q 1 >\nq 1 -> q B >\n") =
        .ok inverting := by
    decide +kernel
  have built : inverting.build = .ok invertingMachine :=
    Description.build_eq_ok_iff.mpr ⟨rfl, rfl, rfl, rfl, rfl⟩
  have yields :
      ((begin invertingMachine "1").nth 1).1 =
        some (invertingMachine.course "1" 1) :=
    rfl
  have yields' :
      ((begin invertingMachine "").nth 0).1 =
        some (invertingMachine.course "" 0) :=
    rfl
  have noBracket : ∀ symbol ∈ inverting.symbols, symbol ∉ ['[', ']'] := by
    simp [inverting, Description.symbols, Transition.symbols]
  have identified :=
    render_identifies_configurations parsed noBracket built (by simp)
      (by simp) yields yields'
  exact ⟨identified.1, identified.2.1, by decide +kernel, by decide⟩

end Run

end TapeMachine
