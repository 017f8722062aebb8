import TapeMachine.Proofs.CommandLine.Delay
import TapeMachine.Proofs.CommandLine.Transcript

/-!
# How the program ends

Whatever the arguments, the files and the input are, the program ends with one of
three exit codes.  There is one exception.  A delay is accepted if it is finite
and not negative, but the pause is made of it only when the machine and the word
are there, and from about 2^64 seconds on it cannot be made: the program crashes
although nothing is wrong with what it was given.

A session is performed within a budget of turns.  The budget is never what ends
it, so the exit code is always the one that the run or a failure decides.
-/

namespace TapeMachine.CommandLine

/-! ## Exit codes -/

/-- The exit codes that the program has a meaning for. -/
def regularCodes : List Nat :=
  [0, 1, 2]

theorem Verdict.exitCode_mem (verdict : Verdict) :
    verdict.exitCode ∈ regularCodes := by
  cases verdict <;> decide

theorem Stop.exitCode_mem (stop : Stop) :
    stop.outcome.exitCode ∈ regularCodes := by
  cases stop with
  | error wrong => exact (by decide : 2 ∈ regularCodes)
  | version | help => decide

theorem Outcome.exitCode_failure_mem (output : String) (error : MachineError) :
    (failure output error).exitCode ∈ regularCodes :=
  (by decide : 1 ∈ regularCodes)

namespace Session

theorem exitCode_perform_mem
    (auto : Bool) (fuel : Nat) (session : Session)
    (input : List UInt8) (output : String) :
    (perform auto fuel session input output).exitCode ∈ regularCodes := by
  induction fuel generalizing session input output with
  | zero => exact Verdict.exitCode_mem .rejected
  | succ fuel induction =>
      simp only [perform]
      split
      · next text verdict _ => exact verdict.exitCode_mem
      · split
        · exact Outcome.exitCode_failure_mem _ _
        · split
          · next verdict _ => exact verdict.exitCode_mem
          · exact induction _ _ _

/-- A snapshot that a session goes on from is counted, and within the limit. -/
theorem shown_of_turn
    {session next : Session} {text : String}
    (turned : session.turn = .snapshot text (.ok next)) :
    session.shown ≤ session.maxSteps ∧ next.shown = session.shown + 1 ∧
      next.maxSteps = session.maxSteps := by
  rcases session with ⟨run, shown, maxSteps⟩
  simp only [turn] at turned
  split at turned
  · cases turned
  · split at turned
    · cases turned
    · next within =>
        split at turned
        · cases turned
        · cases turned
          exact ⟨Nat.le_of_not_lt within, rfl, rfl⟩

/-- A session that has turns left for every snapshot within its limit needs no more of them. -/
theorem perform_add
    {auto : Bool} {session : Session} {fuel : Nat}
    (begun : session.shown ≤ session.maxSteps + 1)
    (enough : session.maxSteps + 2 ≤ session.shown + fuel)
    (more : Nat) (input : List UInt8) (output : String) :
    perform auto (fuel + more) session input output =
      perform auto fuel session input output := by
  induction fuel generalizing session input output with
  | zero => omega
  | succ fuel induction =>
      rw [Nat.add_right_comm]
      simp only [perform]
      cases turned : session.turn with
      | ending text verdict => rfl
      | snapshot text next =>
          cases next with
          | error verdict => rfl
          | ok next =>
              rcases shown_of_turn turned with ⟨within, counted, sameLimit⟩
              have sameBehind := @induction next (by omega) (by omega)
              simp only [sameBehind]

theorem perform_begin_add
    (machine : Machine) (word : String) (maxSteps more : Nat)
    (auto : Bool) (input : List UInt8) :
    perform auto (maxSteps + 2 + more) (begin machine word maxSteps) input "" =
      (begin machine word maxSteps).transcript auto input :=
  perform_add (Nat.zero_le _) (by simp [begin]) more input ""

end Session

/-! ## Outcomes -/

/--
The arguments choose a machine and a word which are there, and they hold a
number, read as the delay, that is too long for a pause.
-/
def AsksForOverlongPause
    (storage : Storage) (input : List UInt8) (arguments : List String) :
    Prop :=
  ∃ (asked : Arguments) (machine : Machine) (source : WordSource)
      (word : String) (rest : List UInt8),
    Arguments.read arguments = .ok asked ∧ asked.list = false ∧
      prepare storage asked = .ok (machine, source) ∧
        source.resolve storage input = .ok (word, rest) ∧
          ∃ argument ∈ arguments, ∃ value : List Char,
            value <:+ argument.toList ∧
              readDelay value = .ok asked.delay ∧ WritesOverlong value

section Outcomes

variable
    {storage : Storage}
    {input : List UInt8}

theorem runChosen_of_resolve
    {asked : Arguments} {machine : Machine} {source : WordSource}
    {word : String} {rest : List UInt8}
    (prepared : prepare storage asked = .ok (machine, source))
    (resolved : source.resolve storage input = .ok (word, rest)) :
    runChosen storage input asked =
      if isEndless asked.delay then crash
      else
        (Session.begin machine word asked.maxSteps).transcript asked.auto
          rest := by
  simp only [runChosen, prepared, resolved, bind, Except.bind, pure,
    Except.pure]

theorem prepare_of_program
    {asked : Arguments} {name : String} {program : Program}
    {machine : Machine}
    (chosen : asked.program? = some name)
    (found : Catalogue.byName name = .ok program)
    (built : program.description.build = .ok machine) :
    prepare storage asked =
      .ok (machine, chooseWord asked (some program.sample)) := by
  simp only [prepare, chooseDescription_of_program chosen found, bind,
    Except.bind, built, pure, Except.pure]

/-- Either the machine and the word are there, or the failure to get them is the outcome. -/
theorem resolve_or_runChosen_eq_failure
    (storage : Storage) (input : List UInt8) (asked : Arguments) :
    (∃ machine source word rest,
        prepare storage asked = .ok (machine, source) ∧
          source.resolve storage input = .ok (word, rest)) ∨
      ∃ error, runChosen storage input asked = .failure "" error := by
  cases prepared : prepare storage asked with
  | error error =>
      refine Or.inr ⟨error, ?_⟩
      simp only [runChosen, prepared, bind, Except.bind]
  | ok both =>
      rcases both with ⟨machine, source⟩
      cases resolved : source.resolve storage input with
      | error error =>
          refine Or.inr ⟨error, ?_⟩
          simp only [runChosen, prepared, resolved, bind, Except.bind]
      | ok both =>
          rcases both with ⟨word, rest⟩
          exact Or.inl ⟨machine, source, word, rest, rfl, resolved⟩

theorem execute_of_understood
    {arguments : List String} {asked : Arguments}
    (understood : Arguments.read arguments = .ok asked)
    (notListing : asked.list = false) :
    execute storage input arguments = runChosen storage input asked := by
  simp only [execute, understood, notListing, Bool.false_eq_true, if_false]

theorem execute_eq_crash
    {arguments : List String}
    (overlong : AsksForOverlongPause storage input arguments) :
    execute storage input arguments = crash := by
  rcases overlong with
    ⟨asked, machine, source, word, rest, understood, notListing, prepared,
      resolved, written⟩
  rw [execute_of_understood understood notListing,
    runChosen_of_resolve prepared resolved,
    if_pos ((Arguments.isEndless_iff_of_read understood).mpr written)]

theorem exitCode_execute_mem
    {arguments : List String}
    (pausable : ¬ AsksForOverlongPause storage input arguments) :
    (execute storage input arguments).exitCode ∈ regularCodes := by
  cases understood : Arguments.read arguments with
  | error stop =>
      simp only [execute, understood]
      exact stop.exitCode_mem
  | ok asked =>
      cases listing : asked.list with
      | true =>
          simp only [execute, understood, listing, if_true]
          exact (by decide : 0 ∈ regularCodes)
      | false =>
          rw [execute_of_understood understood listing]
          rcases resolve_or_runChosen_eq_failure storage input asked with
            ⟨machine, source, word, rest, prepared, resolved⟩ | ⟨error, failed⟩
          · rw [runChosen_of_resolve prepared resolved]
            split
            · next endless =>
                exact
                  absurd
                    ⟨asked, machine, source, word, rest, understood, listing,
                      prepared, resolved,
                      (Arguments.isEndless_iff_of_read understood).mp endless⟩
                    pausable
            · exact Session.exitCode_perform_mem _ _ _ _ _
          · rw [failed]
            exact Outcome.exitCode_failure_mem "" error

end Outcomes

/--
The program crashes just if the arguments choose a machine and a word that are
there and ask for a pause of at least 2^64 - 2^10 seconds.  In every other case
it ends with one of its three exit codes, and a session ends by itself, within
the turns it has.
-/
theorem execute_crashes_iff
    (storage : Storage) (input : List UInt8) (arguments : List String) :
    (execute storage input arguments = crash ↔
      AsksForOverlongPause storage input arguments) ∧
    (¬ AsksForOverlongPause storage input arguments →
      (execute storage input arguments).exitCode ∈ regularCodes) ∧
    (∀ (text : List Char) (delay : Binary64),
      readDelay text = .ok delay →
        (isEndless delay = true ↔ WritesOverlong text)) ∧
    (∀ (machine : Machine) (word : String) (maxSteps more : Nat)
        (auto : Bool) (rest : List UInt8),
      Session.perform auto (maxSteps + 2 + more)
          (Session.begin machine word maxSteps) rest "" =
        (Session.begin machine word maxSteps).transcript auto rest) := by
  refine ⟨⟨?_, execute_eq_crash⟩, exitCode_execute_mem, ?_, ?_⟩
  · intro crashes
    by_contra pausable
    have regular := exitCode_execute_mem pausable
    rw [crashes] at regular
    exact absurd regular (by decide)
  · intro text delay read
    exact isEndless_iff_of_readDelay read
  · exact Session.perform_begin_add

/-- One second less than the shortest delay that crashes is rounded down, and does not. -/
theorem execute_crashes_iff_longest_delay :
    ¬ AsksForOverlongPause (FileTree.directory []).storage []
        ["-p", "palindrome", "--delay", "18446744073709550591"] ∧
      (execute (FileTree.directory []).storage []
          ["-p", "palindrome", "--delay",
            "18446744073709550591"]).exitCode ∈ regularCodes := by
  have understood :
      Arguments.read ["-p", "palindrome", "--delay", "18446744073709550591"] =
        .ok
          { program? := some "palindrome"
            delay? := some { significand := 9007199254740991, exponent := 11 } } :=
    rfl
  have pausable :
      ¬ AsksForOverlongPause (FileTree.directory []).storage []
          ["-p", "palindrome", "--delay", "18446744073709550591"] := by
    rintro ⟨asked, -, -, -, -, understood', -, -, -, written⟩
    have endless := (Arguments.isEndless_iff_of_read understood').mpr written
    rw [understood] at understood'
    cases understood'
    exact absurd endless (by decide)
  exact ⟨pausable, (execute_crashes_iff _ _ _).2.1 pausable⟩

/-- A delay of 10^20 seconds is accepted, and crashes a run that would have been accepted. -/
theorem execute_crashes_on_accepted_delay :
    (∃ delay, readDelay "1e20".toList = .ok delay) ∧
      execute (FileTree.directory []).storage []
          ["-p", "palindrome", "-w", "a", "--auto", "--delay", "1e20"] =
        crash ∧
      (execute (FileTree.directory []).storage []
          ["-p", "palindrome", "-w", "a", "--auto", "--delay",
            "1e20"]).exitCode ∉ regularCodes := by
  have read :
      readDelay "1e20".toList =
        .ok { significand := 6103515625000000, exponent := 14 } := by
    decide +kernel
  have overlong : WritesOverlong "1e20".toList := by
    refine ⟨{ coefficient := 1, exponent := 20 }, by decide +kernel, ?_⟩
    norm_num [Decimal.value]
  have understood :
      Arguments.read
          ["-p", "palindrome", "-w", "a", "--auto", "--delay", "1e20"] =
        .ok
          { program? := some "palindrome"
            word? := some "a"
            auto := true
            delay? := some { significand := 6103515625000000, exponent := 14 } } :=
    rfl
  have asks :
      AsksForOverlongPause (FileTree.directory []).storage []
        ["-p", "palindrome", "-w", "a", "--auto", "--delay", "1e20"] :=
    ⟨_, _, _, _, _, understood, rfl,
      prepare_of_program rfl Catalogue.byName_palindrome
        Catalogue.build_palindrome,
      rfl, "1e20", by decide, "1e20".toList, List.suffix_rfl, read, overlong⟩
  have crashes := execute_eq_crash asks
  refine ⟨⟨_, read⟩, crashes, ?_⟩
  rw [crashes]
  decide

end TapeMachine.CommandLine
