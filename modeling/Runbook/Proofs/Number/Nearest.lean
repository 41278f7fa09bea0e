import Mathlib
import Runbook.Proofs.Number.Binary

/-!
# The binary number nearest to a rational one

It is unique, because of two equally near numbers exactly one has an even mantissa, and whatever
lies at most half way to the neighbours of a number is rounded to it.
-/

namespace Runbook.Number

def binary (mantissa : Nat) (exponent : Int) : ℚ := mantissa * 2 ^ exponent

/-- No binary number is nearer to `q`, and if another one is as near, the mantissa is even. -/
structure Rounds (q : ℚ) (mantissa : Nat) (exponent : Int) : Prop where
  isBinary : IsBinary mantissa exponent
  nearest : ∀ n f, IsBinary n f → |q - binary mantissa exponent| ≤ |q - binary n f|
  even : ∀ n f, IsBinary n f → binary n f ≠ binary mantissa exponent →
    |q - binary mantissa exponent| = |q - binary n f| → Even mantissa

/-- The number is the one that `q` is rounded to. Exponents above 971 do not fit into a number,
which is infinite then. -/
def IsNearest (q : ℚ) (x : Float) : Prop :=
  ∃ m e, Rounds q m e ∧ parts x = if e ≤ 971 then .finite false m e else .infinite false

variable {m n : Nat} {e f : Int} {q : ℚ}

/-! ## The neighbours of a number -/

theorem zpow_eq_div {b : ℚ} (hb : b ≠ 0) (k : Int) : b ^ k = b ^ k.toNat / b ^ (-k).toNat := by
  have hk : k = (k.toNat : ℤ) - ((-k).toNat : ℤ) := by omega
  conv_lhs => rw [hk]
  rw [zpow_sub₀ hb, zpow_natCast, zpow_natCast]

theorem binary_nonneg (m : Nat) (e : Int) : 0 ≤ binary m e := by
  unfold binary
  positivity

theorem binary_pos (hm : 0 < m) : 0 < binary m e := by
  unfold binary
  positivity

theorem binary_shift (m : Nat) (e : Int) (k : Nat) : binary (m * 2 ^ k) e = binary m (e + k) := by
  unfold binary
  rw [zpow_add₀ two_ne_zero, zpow_natCast]
  push_cast
  ring

theorem binary_succ (m : Nat) (e : Int) : binary (m + 1) e = binary m e + 2 ^ e := by
  unfold binary
  push_cast
  ring

theorem binary_le_binary (h : m ≤ n) : binary m e ≤ binary n e := by
  unfold binary
  gcongr

theorem binary_lt_of_exponent_lt (h : IsBinary m e) (h' : IsBinary n f) (hlt : e < f) :
    binary m e < binary n f := by
  have hfull : 2 ^ 52 ≤ n := h'.full.resolve_right (by have := h.least; omega)
  obtain ⟨k, rfl⟩ : ∃ k : Nat, f = e + (k + 1 : Nat) := ⟨(f - e).toNat - 1, by omega⟩
  have hpow : 1 ≤ 2 ^ k := Nat.one_le_two_pow
  have hm : m + 1 ≤ n * 2 ^ (k + 1) := by
    have := h.lt
    rw [pow_succ]
    nlinarith
  have hpos : (0 : ℚ) < 2 ^ e := by positivity
  calc binary m e < binary (m + 1) e := by rw [binary_succ]; linarith
    _ ≤ binary (n * 2 ^ (k + 1)) e := binary_le_binary hm
    _ = binary n (e + (k + 1 : Nat)) := binary_shift n e (k + 1)

theorem binary_inj (h : IsBinary m e) (h' : IsBinary n f) (heq : binary m e = binary n f) :
    m = n ∧ e = f := by
  rcases lt_trichotomy e f with hlt | rfl | hgt
  · exact absurd heq (binary_lt_of_exponent_lt h h' hlt).ne
  · unfold binary at heq
    have hpos : (2 : ℚ) ^ e ≠ 0 := by positivity
    exact ⟨by exact_mod_cast mul_right_cancel₀ hpos heq, rfl⟩
  · exact absurd heq (binary_lt_of_exponent_lt h' h hgt).ne'

theorem le_or_succ_le (h : IsBinary m e) (h' : IsBinary n f) :
    binary n f ≤ binary m e ∨ binary m e + 2 ^ e ≤ binary n f := by
  rcases lt_or_ge f e with hlt | hge
  · exact .inl (binary_lt_of_exponent_lt h' h hlt).le
  · obtain ⟨k, rfl⟩ : ∃ k : Nat, f = e + k := ⟨(f - e).toNat, by omega⟩
    rw [← binary_shift, ← binary_succ]
    rcases Nat.lt_or_ge m (n * 2 ^ k) with hm | hm
    · exact .inr (binary_le_binary hm)
    · exact .inl (binary_le_binary hm)

/-- How far the next smaller number is from `m * 2 ^ e`. At the least mantissa with 53 bits the
smaller numbers lie closer together. -/
def gapBelow (mantissa : Nat) (exponent : Int) : ℚ :=
  if mantissa = 2 ^ 52 ∧ -1074 < exponent then 2 ^ (exponent - 1) else 2 ^ exponent

theorem exists_below (h : IsBinary m e) (hm : 0 < m) :
    ∃ n f, IsBinary n f ∧ (2 : ℚ) ^ f = gapBelow m e ∧ binary n f + 2 ^ f = binary m e := by
  have hlt := h.lt
  have hleast := h.least
  have hfull := h.full
  by_cases hedge : m = 2 ^ 52 ∧ -1074 < e
  · obtain ⟨rfl, he⟩ := hedge
    refine ⟨2 ^ 53 - 1, e - 1, ⟨by omega, by omega, .inl (by omega)⟩, ?_, ?_⟩
    · rw [gapBelow, if_pos ⟨rfl, he⟩]
    · have hshift := binary_shift (2 ^ 52) (e - 1) 1
      rw [← binary_succ]
      rw [show e - 1 + (1 : Nat) = e by omega] at hshift
      rw [← hshift]
      norm_num
  · refine ⟨m - 1, e, ⟨by omega, hleast, by omega⟩, ?_, ?_⟩
    · rw [gapBelow, if_neg hedge]
    · rw [← binary_succ, Nat.sub_add_cancel hm]

theorem le_sub_gapBelow (h : IsBinary m e) (h' : IsBinary n f) (hlt : binary n f < binary m e) :
    binary n f ≤ binary m e - gapBelow m e := by
  have hm : 0 < m := by
    by_contra hzero
    have hval : binary m e = 0 := by simp [binary, show m = 0 by omega]
    have := binary_nonneg n f
    linarith
  obtain ⟨k, g, hbelow, hgap, hsum⟩ := exists_below h hm
  rcases le_or_succ_le hbelow h' with hle | hge
  · rw [← hgap, ← hsum]
    linarith
  · rw [hsum] at hge
    linarith

theorem exists_above (h : IsBinary m e) :
    ∃ n f, IsBinary n f ∧ binary n f = binary m e + 2 ^ e := by
  have hlt := h.lt
  have hleast := h.least
  have hfull := h.full
  by_cases hcarry : m + 1 = 2 ^ 53
  · refine ⟨2 ^ 52, e + 1, ⟨by omega, by omega, .inl le_rfl⟩, ?_⟩
    have hshift := binary_shift (2 ^ 52) e 1
    rw [Nat.cast_one] at hshift
    rw [← binary_succ, hcarry, ← hshift]
    norm_num
  · exact ⟨m + 1, e, ⟨by omega, hleast, by omega⟩, binary_succ m e⟩

theorem gapBelow_pos : 0 < gapBelow m e := by
  unfold gapBelow
  split <;> positivity

/-! ## Rounding -/

theorem rounds_of_between (h : IsBinary m e) (hlow : binary m e - gapBelow m e / 2 ≤ q)
    (hhigh : q ≤ binary m e + 2 ^ e / 2)
    (hodd : ¬Even m → binary m e - gapBelow m e / 2 < q ∧ q < binary m e + 2 ^ e / 2) :
    Rounds q m e := by
  have hgap := gapBelow_pos (m := m) (e := e)
  have hpos : (0 : ℚ) < 2 ^ e := by positivity
  -- any other number is at least a whole gap away
  have hother : ∀ n f, IsBinary n f → binary n f ≠ binary m e →
      binary n f ≤ binary m e - gapBelow m e ∨ binary m e + 2 ^ e ≤ binary n f := by
    intro n f hn hne
    rcases le_or_succ_le h hn with hle | hge
    · exact .inl (le_sub_gapBelow h hn (lt_of_le_of_ne hle hne))
    · exact .inr hge
  refine ⟨h, fun n f hn => ?_, fun n f hn hne heq => ?_⟩
  · by_cases hne : binary n f = binary m e
    · rw [hne]
    · rcases hother n f hn hne with hle | hge
      · rw [abs_of_nonneg (by linarith : 0 ≤ q - binary n f), abs_le]
        constructor <;> linarith
      · rw [abs_of_nonpos (by linarith : q - binary n f ≤ 0), abs_le]
        constructor <;> linarith
  · by_contra hm
    obtain ⟨hl, hh⟩ := hodd hm
    rcases hother n f hn hne with hle | hge
    · rw [abs_of_nonneg (by linarith : 0 ≤ q - binary n f)] at heq
      rcases abs_cases (q - binary m e) with ⟨habs, _⟩ | ⟨habs, _⟩ <;> linarith
    · rw [abs_of_nonpos (by linarith : q - binary n f ≤ 0)] at heq
      rcases abs_cases (q - binary m e) with ⟨habs, _⟩ | ⟨habs, _⟩ <;> linarith

theorem between_of_rounds (h : Rounds q m e) (hm : 0 < m) :
    (binary m e - gapBelow m e / 2 ≤ q ∧ q ≤ binary m e + 2 ^ e / 2) ∧
      (¬Even m → binary m e - gapBelow m e / 2 < q ∧ q < binary m e + 2 ^ e / 2) := by
  obtain ⟨n, f, hn, hgap, hbelow⟩ := exists_below h.isBinary hm
  obtain ⟨k, g, hk, habove⟩ := exists_above h.isBinary
  have hpos : (0 : ℚ) < 2 ^ e := by positivity
  have hgap_pos := gapBelow_pos (m := m) (e := e)
  rw [hgap] at hbelow
  have hlow : binary m e - gapBelow m e / 2 ≤ q := by
    have hnear := h.nearest n f hn
    rcases abs_cases (q - binary m e) with ⟨h1, _⟩ | ⟨h1, _⟩ <;>
      rcases abs_cases (q - binary n f) with ⟨h2, _⟩ | ⟨h2, _⟩ <;> linarith
  have hhigh : q ≤ binary m e + 2 ^ e / 2 := by
    have hnear := h.nearest k g hk
    rcases abs_cases (q - binary m e) with ⟨h1, _⟩ | ⟨h1, _⟩ <;>
      rcases abs_cases (q - binary k g) with ⟨h2, _⟩ | ⟨h2, _⟩ <;> linarith
  refine ⟨⟨hlow, hhigh⟩, fun hodd => ⟨lt_of_le_of_ne hlow ?_, lt_of_le_of_ne hhigh ?_⟩⟩
  · intro hmiddle
    refine hodd (h.even n f hn (by linarith) ?_)
    rw [abs_of_nonpos (by linarith), abs_of_nonneg (by linarith)]
    linarith
  · intro hmiddle
    refine hodd (h.even k g hk (by linarith) ?_)
    rw [abs_of_nonneg (by linarith), abs_of_nonpos (by linarith)]
    linarith

theorem rounds_binary (h : IsBinary m e) : Rounds (binary m e) m e := by
  have hgap := gapBelow_pos (m := m) (e := e)
  have hpos : (0 : ℚ) < 2 ^ e := by positivity
  exact rounds_of_between h (by linarith) (by linarith) fun _ => ⟨by linarith, by linarith⟩

theorem Rounds.binary_le (h : Rounds q m e) (h' : Rounds q n f) : binary n f ≤ binary m e := by
  by_contra hlt
  rw [not_le] at hlt
  have heq : |q - binary m e| = |q - binary n f| :=
    le_antisymm (h.nearest n f h'.isBinary) (h'.nearest m e h.isBinary)
  have hm : Even m := h.even n f h'.isBinary hlt.ne' heq
  have hn : Even n := h'.even m e h.isBinary hlt.ne heq.symm
  -- the number after an even mantissa has an odd one, so it lies strictly between the two
  have hbinary : IsBinary (m + 1) e := by
    have hbound := h.isBinary.lt
    obtain ⟨k, rfl⟩ := hm
    exact ⟨by omega, h.isBinary.least, by have := h.isBinary.full; omega⟩
  have hpos : (0 : ℚ) < 2 ^ e := by positivity
  have hne : binary (m + 1) e ≠ binary n f := by
    intro hval
    obtain ⟨rfl, -⟩ := binary_inj hbinary h'.isBinary hval
    rw [Nat.even_add_one] at hn
    exact hn hm
  have hle : binary (m + 1) e ≤ binary n f := by
    rw [binary_succ]
    exact (le_or_succ_le h.isBinary h'.isBinary).resolve_left (not_le.mpr hlt)
  have hnear := h.nearest (m + 1) e hbinary
  have hbetween := lt_of_le_of_ne hle hne
  rw [binary_succ] at hbetween hnear
  rcases abs_cases (q - binary m e) with ⟨h1, _⟩ | ⟨h1, _⟩ <;>
    rcases abs_cases (q - binary n f) with ⟨h2, _⟩ | ⟨h2, _⟩ <;>
    rcases abs_cases (q - (binary m e + 2 ^ e)) with ⟨h3, _⟩ | ⟨h3, _⟩ <;> linarith

theorem Rounds.mono {r : ℚ} (h : Rounds q m e) (h' : Rounds r n f) (hle : q ≤ r) :
    binary m e ≤ binary n f := by
  by_contra hlt
  rw [not_le] at hlt
  have hq := h.nearest n f h'.isBinary
  have hr := h'.nearest m e h.isBinary
  -- both lie in the middle between the two numbers, so they are the same
  have hmiddle : binary m e + binary n f ≤ 2 * q := by
    rcases abs_cases (q - binary m e) with ⟨h1, _⟩ | ⟨h1, _⟩ <;>
      rcases abs_cases (q - binary n f) with ⟨h2, _⟩ | ⟨h2, _⟩ <;> linarith
  have hmiddle' : 2 * r ≤ binary m e + binary n f := by
    rcases abs_cases (r - binary m e) with ⟨h1, _⟩ | ⟨h1, _⟩ <;>
      rcases abs_cases (r - binary n f) with ⟨h2, _⟩ | ⟨h2, _⟩ <;> linarith
  obtain rfl : q = r := by linarith
  exact absurd (h'.binary_le h) (not_le.mpr hlt)

theorem Rounds.unique (h : Rounds q m e) (h' : Rounds q n f) : m = n ∧ e = f :=
  binary_inj h.isBinary h'.isBinary (le_antisymm (h'.binary_le h) (h.binary_le h'))

theorem Rounds.eq_of_binary (h : Rounds q m e) (hn : IsBinary n f) (hq : q = binary n f) :
    m = n ∧ e = f :=
  h.unique (hq ▸ rounds_binary hn)

theorem IsNearest.rounds {x : Float} (h : IsNearest q x) (hx : parts x = .finite false m e) :
    Rounds q m e := by
  obtain ⟨k, g, hrounds, hparts⟩ := h
  rw [hx] at hparts
  split_ifs at hparts
  obtain ⟨-, rfl, rfl⟩ := Parts.finite.inj hparts
  exact hrounds

theorem IsNearest.not_nan {x : Float} (hx : IsNearest q x) : parts x ≠ .nan := by
  obtain ⟨m, e, -, hx⟩ := hx
  rw [hx]
  split_ifs <;> simp

end Runbook.Number
