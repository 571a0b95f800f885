import Mathlib.Tactic.Common
import Contracts.Text.Lines
import Contracts.Text.Utf8

/-!
The bytes of a text: each character has its own, one after the other, and `byteLength` counts them.
-/

namespace Contracts.Utf8

private lemma loop_eq (bytes : ByteArray) (i : Nat) (taken : List UInt8) :
    ByteArray.toList.loop bytes i taken = taken.reverse ++ bytes.data.toList.drop i := by
  fun_induction ByteArray.toList.loop bytes i taken with
  | case1 i taken h ih =>
    have hdrop : bytes.data.toList.drop i = bytes.get! i :: bytes.data.toList.drop (i + 1) := by
      have hi : i < bytes.data.size := h
      rw [List.drop_eq_getElem_cons (by simpa using hi), Array.getElem_toList]
      show _ = bytes.data[i]! :: _
      rw [getElem!_pos bytes.data i hi]
    rw [ih, hdrop]
    simp
  | case2 i taken h =>
    have hend : bytes.data.toList.length ≤ i := by simpa using Nat.le_of_not_lt h
    rw [List.drop_eq_nil_of_le hend, List.append_nil]

lemma encode_eq (s : String) : encode s = s.toByteArray.data.toList :=
  (loop_eq s.toByteArray 0 []).trans (by simp)

lemma encode_append (s t : String) : encode (s ++ t) = encode s ++ encode t := by
  simp [encode_eq]

lemma length_encode (cs : List Char) : (encode (String.ofList cs)).length = byteLength cs := by
  rw [encode_eq, String.toByteArray_ofList]
  induction cs with
  | nil => rfl
  | cons c cs ih =>
    rw [List.utf8Encode_cons, ByteArray.data_append, Array.toList_append, List.length_append, ih,
      List.utf8Encode_singleton]
    simp

end Contracts.Utf8
