import Mathlib.Data.List.Basic
import TapeMachine.Files.Loader

/-!
# Bytes of a text

Files and input hold bytes, and a text is read from them if they are its UTF-8
encoding.  A text is encoded one character at a time.  No other character than
the line feed has the byte of one in its encoding, so bytes can be cut into lines
before they are decoded, and the line feed at the end of a line does not decide
whether it is a text.
-/

namespace TapeMachine

/-- The bytes that encode some characters. -/
def textBytes (text : List Char) : List UInt8 :=
  text.flatMap String.utf8EncodeChar

/-- Whether some bytes encode a text. -/
def IsText (bytes : List UInt8) : Prop :=
  (ByteArray.mk bytes.toArray).IsValidUTF8

section Text

variable
    {bytes : List UInt8}
    {text more : List Char}

@[simp]
theorem textBytes_nil : textBytes [] = [] :=
  rfl

@[simp]
theorem textBytes_append (text more : List Char) :
    textBytes (text ++ more) = textBytes text ++ textBytes more :=
  List.flatMap_append

theorem textBytes_singleton (c : Char) : textBytes [c] = String.utf8EncodeChar c :=
  List.flatMap_singleton ..

theorem textBytes_singleton_ne_nil (c : Char) : textBytes [c] ≠ [] := by
  rw [textBytes_singleton, ← List.length_pos_iff, String.length_utf8EncodeChar]
  exact c.utf8Size_pos

theorem utf8Encode_eq_mk (text : List Char) :
    text.utf8Encode = ByteArray.mk (textBytes text).toArray :=
  ByteArray.ext List.data_toByteArray

theorem isText_iff :
    IsText bytes ↔ ∃ text, bytes = textBytes text := by
  constructor
  · rintro ⟨text, encoded⟩
    rw [utf8Encode_eq_mk, ByteArray.mk.injEq] at encoded
    exact ⟨text, congrArg Array.toList encoded⟩
  · rintro ⟨text, rfl⟩
    exact ⟨text, (utf8Encode_eq_mk text).symm⟩

theorem isText_textBytes (text : List Char) : IsText (textBytes text) :=
  isText_iff.mpr ⟨text, rfl⟩

theorem isText_nil : IsText [] :=
  isText_textBytes []

/-- The bytes of a text are decoded to it. -/
theorem fromUTF8?_textBytes (text : List Char) :
    String.fromUTF8? (ByteArray.mk (textBytes text).toArray) =
      some (String.ofList text) := by
  have decodes :
      String.fromUTF8? (ByteArray.mk (textBytes text).toArray) =
        some (String.fromUTF8 _ (isText_textBytes text)) :=
    dif_pos (isText_textBytes text)
  rw [decodes, Option.some.injEq, ← String.toByteArray_inj, String.toByteArray_ofList,
    utf8Encode_eq_mk]
  rfl

theorem fromUTF8?_eq_none_iff :
    String.fromUTF8? (ByteArray.mk bytes.toArray) = none ↔ ¬ IsText bytes := by
  unfold String.fromUTF8? IsText
  split <;> simp_all

theorem ne_ofNat_of_le {byte : Nat} (high : 128 ≤ byte) (low : byte < 256) :
    (10 : UInt8) ≠ UInt8.ofNat byte := by
  intro same
  have same := congrArg UInt8.toNat same
  rw [UInt8.toNat_ofNat'] at same
  have small : byte % 2 ^ 8 = byte := Nat.mod_eq_of_lt low
  rw [small] at same
  exact absurd (same ▸ high) (by decide)

/-- Only a line feed has the byte of one in its encoding. -/
theorem mem_utf8EncodeChar_iff (c : Char) :
    10 ∈ String.utf8EncodeChar c ↔ c = '\n' := by
  constructor
  · intro member
    unfold String.utf8EncodeChar at member
    dsimp only at member
    -- The bytes of a longer encoding are 128 and more.
    split at member
    · next short =>
        rw [List.mem_singleton] at member
        have same := congrArg UInt8.toNat member
        rw [UInt8.toNat_ofNat', Nat.mod_eq_of_lt (by omega)] at same
        exact Char.ext (UInt32.toNat_inj.mp same.symm)
    · exfalso
      split at member
      · simp only [List.mem_cons, List.not_mem_nil, or_false] at member
        rcases member with same | same <;>
          exact ne_ofNat_of_le (by omega) (by omega) same
      · split at member <;>
          simp only [List.mem_cons, List.not_mem_nil, or_false] at member
        · rcases member with same | same | same <;>
            exact ne_ofNat_of_le (by omega) (by omega) same
        · rcases member with same | same | same | same <;>
            exact ne_ofNat_of_le (by omega) (by omega) same
  · rintro rfl
    decide

theorem mem_textBytes_iff : 10 ∈ textBytes text ↔ '\n' ∈ text := by
  simp [textBytes, mem_utf8EncodeChar_iff]

/-- A line feed at the end does not decide whether bytes are those of a text. -/
theorem isText_append_lineFeed_iff : IsText (bytes ++ [10]) ↔ IsText bytes := by
  rw [isText_iff, isText_iff]
  constructor
  · rintro ⟨text, encoded⟩
    rcases List.eq_nil_or_concat' text with rfl | ⟨init, last, rfl⟩
    · simp at encoded
    · rw [textBytes_append] at encoded
      have isFeed : last = '\n' := by
        rw [← mem_utf8EncodeChar_iff]
        rcases List.eq_nil_or_concat' (textBytes [last]) with none | ⟨front, byte, split⟩
        · exact absurd none (textBytes_singleton_ne_nil last)
        · rw [split, ← List.append_assoc] at encoded
          have same : [10] = [byte] := (List.append_inj' encoded rfl).2
          rw [← textBytes_singleton, split, ← same]
          exact List.mem_append_right front List.mem_cons_self
      subst isFeed
      exact ⟨init, List.append_cancel_right encoded⟩
  · rintro ⟨text, rfl⟩
    exact ⟨text ++ ['\n'], by rw [textBytes_append]; rfl⟩

end Text

/-! ## Texts in files -/

theorem toUTF8_eq_mk (text : String) :
    text.toUTF8 = ByteArray.mk (textBytes text.toList).toArray := by
  rw [← utf8Encode_eq_mk, String.utf8Encode_toList]
  rfl

theorem fromUTF8?_toUTF8 (text : String) :
    String.fromUTF8? text.toUTF8 = some text := by
  rw [toUTF8_eq_mk, fromUTF8?_textBytes, String.ofList_toList]

theorem Storage.loadText_of_readFile
    {storage : Storage} {path text : String}
    (held : storage.readFile path = .ok text.toUTF8) :
    storage.loadText path = .ok text := by
  simp only [loadText, readText, held, bind, Except.bind, fromUTF8?_toUTF8, pure,
    Except.pure]

end TapeMachine
