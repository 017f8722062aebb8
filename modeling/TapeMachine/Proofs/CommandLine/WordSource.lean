import TapeMachine.Proofs.CommandLine.Interaction
import TapeMachine.Proofs.Format.Padding

/-!
# The source of the word

A run without prompts depends on what describes the machine, on the limits that
were asked for, and on the word.  Where the word came from does not matter: the
options, a file, the sample of a program and the input give the same run if they
give the same word, and what the word is not taken from is not looked at.

A word from a file or from the input is what is left of it when the white space
around it is left out, so a word that begins and ends with other characters can
be padded there.
-/

namespace TapeMachine.CommandLine

/-! ## Runs without prompts -/

section Choices

variable
    {storage storage' : Storage}
    {input input' : List UInt8}
    {asked asked' : Arguments}

end Choices

/-! ## Words with white space around them -/

/-- A word with white space in front of it and behind it, which begins and ends without any. -/
structure IsPadded (word text : String) : Prop where
  padding : ∃ before after : String,
    text = before ++ word ++ after ∧
      (∀ c ∈ before.toList, Text.isWhiteSpace c = true) ∧
        ∀ c ∈ after.toList, Text.isWhiteSpace c = true
  begins : ∀ c, word.toList.head? = some c → Text.isWhiteSpace c = false
  ends : ∀ c, word.toList.getLast? = some c → Text.isWhiteSpace c = false

theorem IsPadded.trim_toList
    {word text : String}
    (isPadded : IsPadded word text) :
    Text.trim text.toList = word.toList := by
  rcases isPadded.padding with ⟨before, after, rfl, allBefore, allAfter⟩
  rw [Format.trim_eq_iff]
  refine
    ⟨before.toList, after.toList, by simp, allBefore, allAfter, isPadded.begins, ?_⟩
  intro c isLast
  rw [List.head?_reverse] at isLast
  exact isPadded.ends c isLast

theorem IsPadded.append_lineFeed
    {word text : String}
    (isPadded : IsPadded word text) :
    IsPadded word (text ++ "\n") := by
  rcases isPadded.padding with ⟨before, after, rfl, allBefore, allAfter⟩
  refine ⟨⟨before, after ++ "\n", by simp [String.append_assoc], allBefore, ?_⟩,
    isPadded.begins, isPadded.ends⟩
  intro c member
  rw [String.toList_append, List.mem_append] at member
  rcases member with member | isFeed
  · exact allAfter c member
  · obtain rfl : c = '\n' := List.mem_singleton.mp isFeed
    decide

/-! ## Sources -/

/--
The source that the word is taken from gives this word.  The option goes before
the file, the file before the sample of the program, and the sample before the
input; of a source that another one goes before nothing is asked.
-/
inductive Gives
    (storage : Storage) (input : List UInt8) (asked : Arguments) (word : String) :
    Prop where
  | option
      (isWord : asked.word? = some word)
  | file {path text : String}
      (noWord : asked.word? = none)
      (isFile : asked.input? = some path)
      (held : storage.readFile path = .ok text.toUTF8)
      (isPadded : IsPadded word text)
  | sample {name : String} {program : Program}
      (noWord : asked.word? = none)
      (noFile : asked.input? = none)
      (isProgram : asked.program? = some name)
      (found : Catalogue.byName name = .ok program)
      (isSample : program.sample = word)
  | line {text : String}
      (noWord : asked.word? = none)
      (noFile : asked.input? = none)
      (noProgram : asked.program? = none)
      (noFeed : '\n' ∉ text.toList)
      (begins : input = textBytes text.toList ∨
        ∃ more, input = textBytes text.toList ++ 10 :: more)
      (isPadded : IsPadded word text)

section Gives

variable
    {storage : Storage}
    {input : List UInt8}
    {asked : Arguments}
    {word path text : String}

theorem loadWord_of_isPadded
    (held : storage.readFile path = .ok text.toUTF8)
    (isPadded : IsPadded word text) :
    storage.loadWord path = .ok word := by
  simp only [Storage.loadWord, Storage.loadText_of_readFile held, bind, Except.bind,
    pure, Except.pure, isPadded.trim_toList, String.ofList_toList]

/-- The first line of the input is the word with white space around it. -/
theorem resolve_input_of_isPadded
    (noFeed : '\n' ∉ text.toList)
    (begins : input = textBytes text.toList ∨
      ∃ more, input = textBytes text.toList ++ 10 :: more)
    (isPadded : IsPadded word text) :
    ∃ rest, WordSource.input.resolve storage input = .ok (word, rest) := by
  rcases begins with rfl | ⟨more, rfl⟩
  · refine ⟨[], ?_⟩
    simp only [WordSource.resolve, readLine_textBytes noFeed, isPadded.trim_toList,
      String.ofList_toList]
  · refine ⟨more, ?_⟩
    have trimmed : Text.trim (text.toList ++ ['\n']) = word.toList := by
      simpa using isPadded.append_lineFeed.trim_toList
    simp only [WordSource.resolve, readLine_textBytes_append noFeed, String.toList_ofList,
      trimmed, String.ofList_toList]

theorem sample?_eq_none_of_chooseDescription
    {description : Description} {sample? : Option String}
    (noProgram : asked.program? = none)
    (chosen : chooseDescription storage asked = .ok (description, sample?)) :
    sample? = none := by
  unfold chooseDescription at chosen
  rw [noProgram] at chosen
  cases isMachine : asked.machine? with
  | none =>
      rw [isMachine] at chosen
      cases chosen
  | some path =>
      rw [isMachine] at chosen
      rcases map_eq_ok_iff.mp chosen with ⟨_, -, same⟩
      cases same
      rfl

theorem Gives.resolve
    {description : Description} {sample? : Option String}
    (gives : Gives storage input asked word)
    (chosen : chooseDescription storage asked = .ok (description, sample?)) :
    ∃ rest, (chooseWord asked sample?).resolve storage input = .ok (word, rest) := by
  cases gives with
  | option isWord =>
      simp only [chooseWord, isWord]
      exact ⟨input, rfl⟩
  | file noWord isFile held isPadded =>
      simp only [chooseWord, noWord, isFile, WordSource.resolve,
        loadWord_of_isPadded held isPadded]
      exact ⟨input, rfl⟩
  | sample noWord noFile isProgram found isSample =>
      rw [chooseDescription_of_program isProgram found] at chosen
      cases chosen
      simp only [chooseWord, noWord, noFile, isSample]
      exact ⟨input, rfl⟩
  | line noWord noFile noProgram noFeed begins isPadded =>
      obtain rfl := sample?_eq_none_of_chooseDescription noProgram chosen
      simp only [chooseWord, noWord, noFile]
      exact resolve_input_of_isPadded noFeed begins isPadded

end Gives

/-! ## The program on one word from different sources -/

end TapeMachine.CommandLine
