import TapeMachine.Format.Reader
import TapeMachine.Proofs.Format.Token

/-!
# White space around a description text

The white space at both ends of a description text is left out before anything
is read of it.  So putting more of it there changes nothing, neither the
description a text makes nor the error it is refused with.  Only the size of the
text is measured before, and may not grow too large.
-/

namespace TapeMachine

namespace Format

/-- More characters of the class at the ends of a text are left out with the others. -/
theorem Trims.padded
    {inClass : Char → Bool} {text core before after : List Char}
    (trims : Trims inClass text core)
    (allBefore : ∀ c ∈ before, inClass c = true)
    (allAfter : ∀ c ∈ after, inClass c = true) :
    Trims inClass (before ++ text ++ after) core := by
  rcases trims with
    ⟨front, back, rfl, allFront, allBack, outside, outsideEnd⟩
  refine
    ⟨before ++ front, back ++ after, by simp, ?_, ?_, outside, outsideEnd⟩
  · exact List.forall_mem_append.mpr ⟨allBefore, allFront⟩
  · exact List.forall_mem_append.mpr ⟨allBack, allAfter⟩

theorem trim_padded
    {before after : List Char}
    (allBefore : ∀ c ∈ before, Text.isWhiteSpace c = true)
    (allAfter : ∀ c ∈ after, Text.isWhiteSpace c = true)
    (text : List Char) :
    Text.trim (before ++ text ++ after) = Text.trim text :=
  trim_eq_iff.mpr ((trim_eq_iff.mp rfl).padded allBefore allAfter)

theorem trimEnd_isPrefix (text : List Char) :
    Text.trimEnd text <+: text := by
  rw [← List.reverse_suffix]
  simp only [Text.trimEnd, Text.trimStart, List.reverse_reverse]
  exact List.dropWhile_suffix _

/-- What trimming leaves stands behind the white space that the text begins with. -/
theorem exists_eq_takeWhile_append_trim (text : List Char) :
    ∃ after,
      text = text.takeWhile Text.isWhiteSpace ++ (Text.trim text ++ after) := by
  rcases trimEnd_isPrefix (text.dropWhile Text.isWhiteSpace) with
    ⟨after, composed⟩
  refine ⟨after, ?_⟩
  rw [Text.trim, Text.trimStart, composed, List.takeWhile_append_dropWhile]

end Format

namespace Description

open Format

theorem parse_of_within
    {text : String}
    (within : text.utf8ByteSize ≤ sizeLimit) :
    parse text = parseTrimmed (Text.trim text.toList) := by
  rw [parse, if_neg (Nat.not_lt.mpr within)]

theorem parse_padded
    {before text after : String}
    (allBefore : ∀ c ∈ before.toList, Text.isWhiteSpace c = true)
    (allAfter : ∀ c ∈ after.toList, Text.isWhiteSpace c = true)
    (within : (before ++ text ++ after).utf8ByteSize ≤ sizeLimit) :
    parse (before ++ text ++ after) = parse text := by
  have withinText : text.utf8ByteSize ≤ sizeLimit := by
    simp only [String.utf8ByteSize_append] at within
    omega
  rw [parse_of_within within, parse_of_within withinText]
  simp only [String.toList_append]
  rw [trim_padded allBefore allAfter]

end Description

end TapeMachine
