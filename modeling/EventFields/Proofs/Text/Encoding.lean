import Mathlib.Data.List.Lex
import Mathlib.Tactic.SplitIfs

/-!
# The order of texts

Texts are compared by their code points.  UTF-8 keeps this order: of two
different characters, the one with the smaller code point has the smaller bytes,
whatever stands behind them.  Comparing texts by their bytes is therefore the
same.
-/

namespace EventFields

/-- The bytes of a text in UTF-8. -/
def utf8Bytes (text : String) : List UInt8 :=
  text.toUTF8.data.toList

theorem utf8Bytes_eq (text : String) :
    utf8Bytes text = text.toList.flatMap String.utf8EncodeChar := by
  rw [utf8Bytes, String.toUTF8_eq_toByteArray, ← String.utf8Encode_toList, List.utf8Encode,
    List.toList_data_toByteArray]

/-- The first characters in which texts differ decide on the order of their bytes. -/
theorem utf8EncodeChar_append_lt {left right : Char} (less : left < right)
    (leftRest rightRest : List UInt8) :
    String.utf8EncodeChar left ++ leftRest < String.utf8EncodeChar right ++ rightRest := by
  have lessCode : left.val.toNat < right.val.toNat := less
  have bounded : right.val.toNat < 0x110000 := by
    rcases right.valid with low | ⟨-, high⟩
    · exact Nat.lt_trans low (by decide)
    · exact high
  -- The leading bytes of wider encodings are greater.  Encodings of the same width
  -- are the digits of the code points to the base 64.
  simp only [String.utf8EncodeChar]
  split_ifs <;>
    simp only [List.cons_append, List.nil_append, List.cons_lt_cons_iff,
      UInt8.lt_iff_toNat_lt, ← UInt8.toNat_inj, UInt8.toNat_ofNat'] <;>
    simp (disch := omega) only [Nat.mod_eq_of_lt] <;>
    omega

theorem flatMap_utf8EncodeChar_lt {left right : List Char} (less : left < right) :
    left.flatMap String.utf8EncodeChar < right.flatMap String.utf8EncodeChar := by
  induction less with
  | @nil head rest =>
      have nonempty : (head :: rest).flatMap String.utf8EncodeChar ≠ [] := by
        simp [String.utf8EncodeChar_ne_nil]
      obtain ⟨first, others, split⟩ := List.exists_cons_of_ne_nil nonempty
      rw [split]
      exact List.nil_lt_cons first others
  | rel first =>
      simp only [List.flatMap_cons]
      exact utf8EncodeChar_append_lt first _ _
  | cons _ ih =>
      simp only [List.flatMap_cons]
      exact List.append_left_lt ih

theorem utf8Bytes_lt {left right : String} (less : left < right) :
    utf8Bytes left < utf8Bytes right := by
  rw [utf8Bytes_eq, utf8Bytes_eq]
  exact flatMap_utf8EncodeChar_lt (String.lt_iff.1 less)

/-- UTF-8 keeps the order of texts. -/
theorem utf8Bytes_lt_iff {left right : String} :
    utf8Bytes left < utf8Bytes right ↔ left < right := by
  refine ⟨fun less => ?_, utf8Bytes_lt⟩
  by_contra notBefore
  by_cases after : right < left
  · exact absurd (utf8Bytes_lt after) (List.lt_asymm less)
  · have same : left = right :=
      String.le_antisymm (String.not_lt.1 after) (String.not_lt.1 notBefore)
    rw [same] at less
    exact List.lt_irrefl _ less

end EventFields
