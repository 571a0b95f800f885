import Mathlib.Tactic.Common
import Contracts.Text.Quoted
import Contracts.Proofs.Text.Split

/-!
What a shown character tells.

A character between quotes is shown as itself, as a backslash and a letter, or as a backslash and
its number between braces. The first two characters of what is shown tell these three apart, and
then what they enclose tells the character. So a message that begins with a character in quotes can
be read in one way only, whatever text comes behind it.
-/

namespace Contracts

variable {m n : Nat} {c d : Char} {s t as bs : List Char}

/-! ### Digits -/

lemma hexDigits_lt (h : n < 16) : hexDigits n = [n.digitChar] := Nat.toDigits_of_lt_base h

lemma hexDigits_ge (h : 16 ≤ n) : hexDigits n = hexDigits (n / 16) ++ [(n % 16).digitChar] :=
  Nat.toDigits_of_base_le (by decide) h

private lemma digitChar_inj : ∀ m < 16, ∀ n < 16, m.digitChar = n.digitChar → m = n := by decide

lemma hexDigits_ne_single (h : 16 ≤ n) (d : Char) : hexDigits n ≠ [d] := by
  intro heq
  have hlength := congrArg List.length heq
  have hfront : 0 < (hexDigits (n / 16)).length := List.length_pos_iff.mpr Nat.toDigits_ne_nil
  rw [hexDigits_ge h, List.length_append] at hlength
  simp only [List.length_singleton] at hlength
  omega

/-- The last digit is the remainder, and the digits in front of it are those of the quotient. -/
lemma hexDigits_inj (h : hexDigits m = hexDigits n) : m = n := by
  induction m using Nat.strongRecOn generalizing n with
  | ind m ih =>
    rcases Nat.lt_or_ge m 16 with hm | hm <;> rcases Nat.lt_or_ge n 16 with hn | hn
    · rw [hexDigits_lt hm, hexDigits_lt hn, List.cons.injEq] at h
      exact digitChar_inj m hm n hn h.1
    · rw [hexDigits_lt hm] at h
      exact absurd h.symm (hexDigits_ne_single hn _)
    · rw [hexDigits_lt hn] at h
      exact absurd h (hexDigits_ne_single hm _)
    · rw [hexDigits_ge hm, hexDigits_ge hn] at h
      obtain ⟨hfront, hlast⟩ := List.append_inj' h rfl
      have hquotient : m / 16 = n / 16 := ih (m / 16) (by omega) hfront
      have hremainder : m % 16 = n % 16 :=
        digitChar_inj _ (Nat.mod_lt _ (by decide)) _ (Nat.mod_lt _ (by decide))
          (List.cons.inj hlast).1
      omega

lemma brace_notMem_hexDigits (n : Nat) : '}' ∉ hexDigits n := by
  have hdigit : ∀ k : Nat, '}' ≠ k.digitChar := fun k => (Nat.digitChar_ne _ (by decide)).symm
  induction n using Nat.strongRecOn with
  | ind n ih =>
    rcases Nat.lt_or_ge n 16 with hn | hn
    · rw [hexDigits_lt hn, List.mem_singleton]
      exact hdigit n
    · rw [hexDigits_ge hn, List.mem_append, List.mem_singleton, not_or]
      exact ⟨ih (n / 16) (by omega), hdigit _⟩

/-! ### Characters in single quotes -/

/-- The letters behind a backslash, each with the character that it stands for. -/
def escapes : List (Char × Char) :=
  [('0', '\x00'), ('t', '\t'), ('n', '\n'), ('r', '\r'), ('\\', '\\'), ('\x27', '\x27')]

/-- The ways in which a character is shown in single quotes. -/
inductive Shown (c : Char) : List Char → Prop
  | plain (h : c ≠ '\\') : Shown c [c]
  | escaped {letter : Char} (h : (letter, c) ∈ escapes) : Shown c ['\\', letter]
  | numbered : Shown c ('\\' :: 'u' :: '{' :: (hexDigits c.toNat ++ ['}']))

private lemma char_eq_of_toNat (h : c.toNat = d.toNat) : c = d := Char.toNat_inj.mp h

lemma shown_showInside (c : Char) : Shown c (showInside '\x27' c).toList := by
  unfold showInside
  split
  · next h => exact .escaped (by rw [char_eq_of_toNat (d := '\x00') h]; decide)
  · next h => exact .escaped (by rw [char_eq_of_toNat (d := '\t') h]; decide)
  · next h => exact .escaped (by rw [char_eq_of_toNat (d := '\n') h]; decide)
  · next h => exact .escaped (by rw [char_eq_of_toNat (d := '\r') h]; decide)
  · next h => exact .escaped (by rw [char_eq_of_toNat (d := '\\') h]; decide)
  · next hbackslash =>
    split
    · next h =>
      have hmark : ('\x27', c) ∈ escapes := by
        rw [h]
        decide
      simpa [h] using Shown.escaped hmark
    · split
      · have hplain : c ≠ '\\' := by
          rintro rfl
          exact hbackslash rfl
        simpa using Shown.plain hplain
      · simpa using Shown.numbered (c := c)

lemma letter_ne_u : ∀ e ∈ escapes, e.1 ≠ 'u' := by decide

lemma eq_of_letter_eq : ∀ e ∈ escapes, ∀ e' ∈ escapes, e.1 = e'.1 → e.2 = e'.2 := by decide

/-- What is shown tells where it ends and which character it shows. -/
lemma Shown.unique (hs : Shown c s) (ht : Shown d t) (h : s ++ as = t ++ bs) : c = d := by
  cases hs with
  | plain hc =>
    cases ht <;> rw [List.cons_append, List.cons_append, List.cons.injEq] at h
    · exact h.1
    · exact absurd h.1 hc
    · exact absurd h.1 hc
  | @escaped letter hc =>
    cases ht with
    | plain hd =>
      simp only [List.cons_append, List.cons.injEq] at h
      exact absurd h.1.symm hd
    | escaped hd =>
      simp only [List.cons_append, List.cons.injEq, true_and] at h
      exact eq_of_letter_eq _ hc _ hd h.1
    | numbered =>
      simp only [List.cons_append, List.cons.injEq, true_and] at h
      exact absurd h.1 (letter_ne_u _ hc)
  | numbered =>
    cases ht with
    | plain hd =>
      simp only [List.cons_append, List.cons.injEq] at h
      exact absurd h.1.symm hd
    | escaped hd =>
      simp only [List.cons_append, List.cons.injEq, true_and] at h
      exact absurd h.1.symm (letter_ne_u _ hd)
    | numbered =>
      simp only [List.cons_append, List.cons.injEq, true_and, List.append_assoc,
        List.nil_append] at h
      have hsplit := congrArg (splitFirst '}') h
      rw [splitFirst_append (brace_notMem_hexDigits _),
        splitFirst_append (brace_notMem_hexDigits _), Option.some.injEq, Prod.mk.injEq] at hsplit
      exact char_eq_of_toNat (hexDigits_inj hsplit.1)

/-- A message that begins with a character in quotes names no other one. -/
lemma quoteChar_inj {x y : String} (h : quoteChar c ++ x = quoteChar d ++ y) : c = d := by
  have hlists := congrArg String.toList h
  simp only [quoteChar, String.toList_append, List.append_assoc] at hlists
  exact (shown_showInside c).unique (shown_showInside d) (List.append_cancel_left hlists)

end Contracts
