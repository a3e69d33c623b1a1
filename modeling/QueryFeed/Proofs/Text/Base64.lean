import Mathlib.Data.List.Nodup
import QueryFeed.Text.Bytes

/-!
**Base 64 keeps all bytes.**

A character of base 64 tells its six bits, and none of the characters is the filling.  So a group of four
characters tells how many bytes it stands for, and which.

Main results:

* `group_injective` — **a group of four characters tells its three bytes**;
* `base64_injective` — **different bytes are written differently**.
-/

set_option autoImplicit false

namespace QueryFeed.Text

theorem length_base64Alphabet : base64Alphabet.length = 64 := by decide +kernel

theorem base64Char_eq {n : Nat} (hn : n < base64Alphabet.length) :
    base64Char n = base64Alphabet[n] := by
  rw [base64Char, List.getD_eq_getElem?_getD, List.getElem?_eq_getElem hn]
  rfl

/-- **A character tells its six bits.** -/
theorem base64Char_injective {m n : Nat} (hm : m < 64) (hn : n < 64)
    (h : base64Char m = base64Char n) : m = n := by
  have hdistinct : base64Alphabet.Nodup := by decide +kernel
  rw [← length_base64Alphabet] at hm hn
  rw [base64Char_eq hm, base64Char_eq hn] at h
  exact hdistinct.getElem_inj_iff.1 h

/-- The filling stands for no bits. -/
theorem base64Char_ne_filling {n : Nat} (hn : n < 64) : base64Char n ≠ '=' := by
  have hfilling : '=' ∉ base64Alphabet := by decide +kernel
  rw [← length_base64Alphabet] at hn
  intro h
  rw [base64Char_eq hn] at h
  exact hfilling (h ▸ List.getElem_mem hn)

/-- **A group of four characters tells its three bytes.** -/
theorem group_injective {a b c d e f : Nat} (ha : a < 256) (hb : b < 256) (hc : c < 256) (hd : d < 256)
    (he : e < 256) (hf : f < 256) (hfirst : base64Char (a / 4) = base64Char (d / 4))
    (hsecond : base64Char (a % 4 * 16 + b / 16) = base64Char (d % 4 * 16 + e / 16))
    (hthird : base64Char (b % 16 * 4 + c / 64) = base64Char (e % 16 * 4 + f / 64))
    (hfourth : base64Char (c % 64) = base64Char (f % 64)) : a = d ∧ b = e ∧ c = f := by
  have hone := base64Char_injective (by omega) (by omega) hfirst
  have htwo := base64Char_injective (by omega) (by omega) hsecond
  have hthree := base64Char_injective (by omega) (by omega) hthird
  have hfour := base64Char_injective (by omega) (by omega) hfourth
  exact ⟨by omega, by omega, by omega⟩

/-- **Different bytes are written differently.** -/
theorem base64_injective {first second : List UInt8} (h : base64 first = base64 second) :
    first = second := by
  have hsmall : ∀ n : UInt8, n.toNat < 256 := UInt8.toNat_lt
  have hnone : 0 < 256 := by decide
  -- what is missing of a last group counts as zero, so each group is told as a full one
  induction first using base64.induct generalizing second with
  | case1 =>
      match second with
      | [] => rfl
      | [_] => cases h
      | [_, _] => cases h
      | _ :: _ :: _ :: _ => cases h
  | case2 a =>
      match second with
      | [] => cases h
      | [d] =>
          simp only [base64, List.cons.injEq] at h
          obtain ⟨had, -, -⟩ := group_injective (hsmall a) hnone hnone (hsmall d) hnone hnone
            h.1 h.2.1 rfl rfl
          rw [UInt8.toNat_inj.1 had]
      | [d, e] =>
          simp only [base64, List.cons.injEq] at h
          exact absurd h.2.2.1.symm (base64Char_ne_filling (by omega))
      | d :: e :: f :: rest =>
          have hf := hsmall f
          simp only [base64, List.cons.injEq] at h
          exact absurd h.2.2.1.symm (base64Char_ne_filling (by omega))
  | case3 a b =>
      match second with
      | [] => cases h
      | [d] =>
          simp only [base64, List.cons.injEq] at h
          exact absurd h.2.2.1 (base64Char_ne_filling (by omega))
      | [d, e] =>
          simp only [base64, List.cons.injEq] at h
          obtain ⟨had, hbe, -⟩ := group_injective (hsmall a) (hsmall b) hnone (hsmall d) (hsmall e)
            hnone h.1 h.2.1 h.2.2.1 rfl
          rw [UInt8.toNat_inj.1 had, UInt8.toNat_inj.1 hbe]
      | d :: e :: f :: rest =>
          simp only [base64, List.cons.injEq] at h
          exact absurd h.2.2.2.1.symm (base64Char_ne_filling (by omega))
  | case4 a b c rest ih =>
      have hc := hsmall c
      match second with
      | [] => cases h
      | [d] =>
          simp only [base64, List.cons.injEq] at h
          exact absurd h.2.2.1 (base64Char_ne_filling (by omega))
      | [d, e] =>
          simp only [base64, List.cons.injEq] at h
          exact absurd h.2.2.2.1 (base64Char_ne_filling (by omega))
      | d :: e :: f :: others =>
          simp only [base64, List.cons.injEq] at h
          obtain ⟨had, hbe, hcf⟩ := group_injective (hsmall a) (hsmall b) hc (hsmall d) (hsmall e)
            (hsmall f) h.1 h.2.1 h.2.2.1 h.2.2.2.1
          rw [UInt8.toNat_inj.1 had, UInt8.toNat_inj.1 hbe, UInt8.toNat_inj.1 hcf, ih h.2.2.2.2]

end QueryFeed.Text
