import Mathlib.Algebra.Order.Field.Power
import Mathlib.Algebra.Order.Field.Rat
import Mathlib.Tactic.FieldSimp
import Mathlib.Tactic.Linarith
import Mathlib.Tactic.Positivity
import Mathlib.Tactic.Ring
import Transcripts.Number.Double

/-!
# Rounding

A ratio is rounded on a grid: its exponent is the least for which it has at most 53 digits, and its mantissa is the
nearest whole number there (`exponentOf_spec`, `roundDiv_near`).  Every double precision number is on this grid or
below its 53 digits, so that rounding does not pass one of them (`ofRatio_between`).
-/
namespace Transcripts.Number

/-! ## Rounding -/

/-- The quotient is off by a half at most, and even where it is off by a half. -/
theorem roundDiv_near (num : Nat) {den : Nat} (hden : 0 < den) :
    2 * num ≤ 2 * (roundDiv num den * den) + den ∧ 2 * (roundDiv num den * den) ≤ 2 * num + den ∧
      (2 * num = 2 * (roundDiv num den * den) + den ∨ 2 * (roundDiv num den * den) = 2 * num + den →
        roundDiv num den % 2 = 0) := by
  have hdiv : num = den * (num / den) + num % den := (Nat.div_add_mod num den).symm
  have hmod : num % den < den := Nat.mod_lt num hden
  unfold roundDiv
  simp only
  generalize num / den = q at *
  generalize num % den = r at *
  have hprod : den * q = q * den := Nat.mul_comm den q
  have hsucc : (q + 1) * den = q * den + den := Nat.succ_mul q den
  split
  · omega
  split
  · omega
  · split <;> omega

/-- Whether a number is rounded to a whole number or to a greater one: it is at most a half below it, and a half
below an odd one goes to the even side. -/
def Reaches (x : ℚ) (limit : Nat) : Prop := (limit : ℚ) - 1 / 2 < x ∨ (limit : ℚ) - 1 / 2 = x ∧ limit % 2 = 0

theorem reaches_one_iff {x : ℚ} : Reaches x 1 ↔ 1 / 2 < x := by
  norm_num [Reaches]

theorem le_roundDiv_iff {num den limit : Nat} (hden : 0 < den) : limit ≤ roundDiv num den ↔
    2 * (limit * den) < 2 * num + den ∨ 2 * (limit * den) = 2 * num + den ∧ limit % 2 = 0 := by
  obtain ⟨hlow, hhigh, htie⟩ := roundDiv_near num hden
  generalize roundDiv num den = k at *
  have hsucc : (k + 1) * den = k * den + den := Nat.succ_mul k den
  rcases Nat.lt_trichotomy limit k with hlt | rfl | hgt
  · refine iff_of_true hlt.le (.inl ?_)
    have hle := Nat.mul_le_mul_right den (Nat.succ_le_of_lt hlt)
    rw [Nat.succ_mul] at hle
    omega
  · refine iff_of_true le_rfl ?_
    rcases Nat.lt_or_eq_of_le hhigh with hhalf | hhalf
    · exact .inl hhalf
    · exact .inr ⟨hhalf, htie (.inr hhalf)⟩
  · refine iff_of_false (Nat.not_le.2 hgt) fun h => ?_
    have hle : (k + 1) * den ≤ limit * den := Nat.mul_le_mul_right den hgt
    -- the number is a half above `k`, which is even then, and the limit can only be the next number
    have hhalf : 2 * num = 2 * (k * den) + den := by omega
    have heven := htie (.inl hhalf)
    have hnext : limit ≤ k + 1 := Nat.le_of_mul_le_mul_right (by omega) hden
    omega

theorem reaches_div_iff {num den limit : Nat} (hden : 0 < den) :
    Reaches ((num : ℚ) / den) limit ↔ limit ≤ roundDiv num den := by
  have hpos : (0 : ℚ) < den := by exact_mod_cast hden
  rw [Reaches, le_roundDiv_iff hden, lt_div_iff₀ hpos, eq_div_iff hpos.ne']
  refine or_congr ?_ (and_congr_left' ?_)
  · rw [← Nat.cast_lt (α := ℚ)]
    push_cast
    constructor <;> intro h <;> linarith
  · rw [← Nat.cast_inj (R := ℚ)]
    push_cast
    constructor <;> intro h <;> linarith

/-- The quotient does not pass a whole number. -/
theorem roundDiv_le {num den k : Nat} (hden : 0 < den) (h : num ≤ k * den) : roundDiv num den ≤ k := by
  obtain ⟨-, hhigh, -⟩ := roundDiv_near num hden
  by_contra hlt
  have hnext : (k + 1) * den ≤ roundDiv num den * den := Nat.mul_le_mul_right den (by omega)
  have hsucc : (k + 1) * den = k * den + den := Nat.succ_mul k den
  omega

theorem le_roundDiv {num den k : Nat} (hden : 0 < den) (h : k * den ≤ num) : k ≤ roundDiv num den := by
  obtain ⟨hlow, -, -⟩ := roundDiv_near num hden
  by_contra hlt
  have hnext : (roundDiv num den + 1) * den ≤ k * den := Nat.mul_le_mul_right den (by omega)
  have hsucc : (roundDiv num den + 1) * den = roundDiv num den * den + den := Nat.succ_mul ..
  omega

theorem roundDiv_zero_right (num : Nat) : roundDiv num 0 ≤ 1 := by
  unfold roundDiv
  simp only [Nat.div_zero, Nat.mod_zero]
  split_ifs <;> omega

/-! ## Values -/

namespace Double

/-- The value of a finite number, without its sign. -/
def magnitude (mantissa : Nat) (exponent : Int) : ℚ := mantissa * 2 ^ exponent

theorem ratio_pos (mantissa : Nat) (exponent : Int) : 0 < (ratio mantissa exponent).2 := by
  by_cases h : 0 ≤ exponent
  · simp [ratio, power, h]
  · simp [ratio, power, h]

theorem ratio_eq (mantissa : Nat) (exponent : Int) :
    ((ratio mantissa exponent).1 : ℚ) = magnitude mantissa exponent * (ratio mantissa exponent).2 := by
  by_cases h : 0 ≤ exponent
  · obtain ⟨n, rfl⟩ := Int.eq_ofNat_of_zero_le h
    simp [ratio, power, magnitude]
  · obtain ⟨n, rfl⟩ : ∃ n : Nat, exponent = -n := ⟨(-exponent).toNat, by omega⟩
    have hn : n ≠ 0 := by omega
    simp [ratio, power, magnitude, hn]

theorem ne_zero_of_le_magnitude {limit : ℚ} (hpos : 0 < limit) {mantissa : Nat} {exponent : Int}
    (h : limit ≤ magnitude mantissa exponent) : mantissa ≠ 0 := by
  rintro rfl
  rw [magnitude, Nat.cast_zero, zero_mul] at h
  exact absurd hpos (not_lt.2 h)

theorem magnitude_nonneg (mantissa : Nat) (exponent : Int) : 0 ≤ magnitude mantissa exponent := by
  unfold magnitude
  positivity

theorem power_pos {base : Nat} (h : 0 < base) (e : Int) : 0 < (power base e).1 ∧ 0 < (power base e).2 := by
  unfold power
  split
  · exact ⟨Nat.pow_pos h, Nat.one_pos⟩
  · exact ⟨Nat.one_pos, Nat.pow_pos h⟩

theorem power_two (e : Int) : ((power 2 e).1 : ℚ) = 2 ^ e * (power 2 e).2 := by
  have h := ratio_eq 1 e
  simpa [ratio, magnitude] using h

/-- A number written with a lower exponent. -/
theorem magnitude_lower (mantissa : Nat) {e exponent : Int} (h : e ≤ exponent) :
    magnitude mantissa exponent = magnitude (mantissa * 2 ^ (exponent - e).toNat) e := by
  obtain ⟨n, rfl⟩ : ∃ n : Nat, exponent = e + n := ⟨(exponent - e).toNat, by omega⟩
  have hn : (e + n - e).toNat = n := by omega
  rw [hn, magnitude, magnitude, zpow_add₀ two_ne_zero, zpow_natCast]
  push_cast
  ring

theorem magnitude_le_magnitude {m₁ m₂ : Nat} (e : Int) : magnitude m₁ e ≤ magnitude m₂ e ↔ m₁ ≤ m₂ := by
  unfold magnitude
  rw [mul_le_mul_iff_left₀ (by positivity), Nat.cast_le]

theorem magnitude_full_succ (e : Int) : magnitude fullMantissa (e + 1) = magnitude (2 * fullMantissa) e := by
  rw [magnitude, magnitude, zpow_add_one₀ two_ne_zero]
  push_cast
  ring

/-- A number of 53 digits is less than the ones with a higher exponent that have all 53. -/
theorem magnitude_lt_full {mantissa : Nat} {e exponent : Int} (hm : mantissa < 2 * fullMantissa) (he : exponent < e) :
    magnitude mantissa exponent < magnitude fullMantissa e := by
  calc magnitude mantissa exponent < magnitude (2 * fullMantissa) exponent :=
        lt_of_not_ge fun h => absurd ((magnitude_le_magnitude exponent).1 h) (by omega)
    _ = magnitude fullMantissa (exponent + 1) := (magnitude_full_succ exponent).symm
    _ ≤ magnitude fullMantissa e := by
        have hpow : (2 : ℚ) ^ (exponent + 1) ≤ 2 ^ e := zpow_le_zpow_right₀ one_le_two (by omega)
        exact mul_le_mul_of_nonneg_left hpow (Nat.cast_nonneg _)

/-! ## Numbers of 53 digits -/

/-- A finite number has at most 53 digits, and an exponent within its bounds. -/
def Proper (x : Double) : Prop :=
  ∀ negative m e, x = .finite negative m e → m < 2 * fullMantissa ∧ leastExponent ≤ e ∧ e ≤ greatestExponent

theorem finite_proper {negative : Bool} {m : Nat} {e : Int} (hm : m < 2 * fullMantissa) (hl : leastExponent ≤ e)
    (hg : e ≤ greatestExponent) : (Double.finite negative m e).Proper := by
  intro _ _ _ h
  cases h
  exact ⟨hm, hl, hg⟩

/-- A rational is the value of a number. -/
def Representable (x : ℚ) : Prop :=
  ∃ m e, m < 2 * fullMantissa ∧ leastExponent ≤ e ∧ e ≤ greatestExponent ∧ x = magnitude m e

theorem Representable.nonneg {x : ℚ} (h : Representable x) : 0 ≤ x := by
  obtain ⟨m, e, -, -, -, rfl⟩ := h
  exact magnitude_nonneg m e

theorem fullMantissa_eq : (fullMantissa : ℚ) = 2 ^ (52 : ℤ) := by norm_num [fullMantissa]

theorem log2_bounds {n : Nat} (h : 0 < n) :
    (2 : ℚ) ^ (Nat.log2 n : ℤ) ≤ n ∧ (n : ℚ) < 2 ^ ((Nat.log2 n : ℤ) + 1) := by
  rw [zpow_natCast, zpow_add_one₀ two_ne_zero, zpow_natCast, ← pow_succ]
  exact ⟨by exact_mod_cast Nat.log2_self_le h.ne', by exact_mod_cast Nat.lt_log2_self⟩

/-- The exponent of a ratio comes from the power of two below it. -/
theorem exponentOf_eq {num den : Nat} (hn : 0 < num) (hd : 0 < den) :
    ∃ top : ℤ, exponentOf num den = max (top - 52) leastExponent ∧
      (2 : ℚ) ^ top * den ≤ num ∧ (num : ℚ) < 2 ^ (top + 1) * den := by
  obtain ⟨hnlow, hnhigh⟩ := log2_bounds hn
  obtain ⟨hdlow, hdhigh⟩ := log2_bounds hd
  have htest : num * (power 2 (Nat.log2 num - Nat.log2 den)).2 < den * (power 2 (Nat.log2 num - Nat.log2 den)).1 ↔
      (num : ℚ) < 2 ^ (Nat.log2 num - Nat.log2 den : ℤ) * den := by
    have hpos : (0 : ℚ) < (power 2 (Nat.log2 num - Nat.log2 den)).2 := by exact_mod_cast (power_pos two_pos _).2
    rw [← Nat.cast_lt (α := ℚ), Nat.cast_mul, Nat.cast_mul, power_two, mul_left_comm, ← mul_assoc,
      mul_lt_mul_iff_left₀ hpos]
  unfold exponentOf
  simp only [htest]
  -- the estimate from the binary lengths is right or one too large
  generalize (Nat.log2 num : ℤ) = a at *
  generalize (Nat.log2 den : ℤ) = c at *
  split
  · rename_i hlt
    refine ⟨_, rfl, ?_, by simpa using hlt⟩
    calc (2 : ℚ) ^ (a - c - 1) * den ≤ 2 ^ (a - c - 1) * 2 ^ (c + 1) :=
          mul_le_mul_of_nonneg_left hdhigh.le (by positivity)
      _ = 2 ^ a := by rw [← zpow_add₀ two_ne_zero]; congr 1; omega
      _ ≤ num := hnlow
  · rename_i hge
    refine ⟨_, rfl, not_lt.1 hge, ?_⟩
    calc (num : ℚ) < 2 ^ (a + 1) := hnhigh
      _ = 2 ^ (a - c + 1) * 2 ^ c := by rw [← zpow_add₀ two_ne_zero]; congr 1; omega
      _ ≤ 2 ^ (a - c + 1) * den := mul_le_mul_of_nonneg_left hdlow (by positivity)

/-- With its exponent a ratio has at most 53 digits before the point, and all of them unless the exponent is the
least. -/
theorem exponentOf_spec {num den : Nat} (hn : 0 < num) (hd : 0 < den) :
    leastExponent ≤ exponentOf num den ∧
    (num : ℚ) ≤ magnitude (2 * fullMantissa) (exponentOf num den) * den ∧
    (leastExponent < exponentOf num den → magnitude fullMantissa (exponentOf num den) * den ≤ num) := by
  obtain ⟨top, he, hlow, hhigh⟩ := exponentOf_eq hn hd
  have hfull : ∀ e : ℤ, magnitude fullMantissa e = 2 ^ (e + 52) := by
    intro e
    rw [magnitude, fullMantissa_eq, ← zpow_add₀ two_ne_zero, Int.add_comm]
  have hdouble : ∀ e : ℤ, magnitude (2 * fullMantissa) e = 2 ^ (e + 53) := by
    intro e
    rw [magnitude, Nat.cast_mul, fullMantissa_eq, Nat.cast_two, ← zpow_one_add₀ two_ne_zero, ← zpow_add₀ two_ne_zero]
    congr 1
    omega
  rw [he, hfull, hdouble]
  refine ⟨le_max_right .., hhigh.le.trans ?_, fun hlt => ?_⟩
  · exact mul_le_mul_of_nonneg_right (zpow_le_zpow_right₀ one_le_two (by omega)) (Nat.cast_nonneg den)
  · have hmax : max (top - 52) leastExponent + 52 = top := by omega
    rw [hmax]
    exact hlow

/-- The number with a rounded mantissa: a digit too many moves into the exponent. -/
def carried (negative : Bool) (mantissa : Nat) (exponent : Int) : Double :=
  let (m, e) := if mantissa = 2 * fullMantissa then (fullMantissa, exponent + 1) else (mantissa, exponent)
  if greatestExponent < e then .infinite negative else .finite negative m e

theorem ofRatio_eq (negative : Bool) {num : Nat} (hn : 0 < num) (den : Nat) :
    ofRatio negative num den = carried negative
      (roundDiv (num * (power 2 (exponentOf num den)).2) (den * (power 2 (exponentOf num den)).1))
      (exponentOf num den) := if_neg hn.ne'

theorem carried_proper (negative : Bool) {m : Nat} {e : Int} (hm : m ≤ 2 * fullMantissa) (he : leastExponent ≤ e) :
    (carried negative m e).Proper := by
  unfold carried
  by_cases hfull : m = 2 * fullMantissa
  · simp only [hfull, if_true]
    split
    · nofun
    · exact finite_proper (by decide) (by omega) (by omega)
  · simp only [hfull, if_false]
    split
    · nofun
    · exact finite_proper (by omega) he (by omega)

/-- The carry changes the form of a number and not its value. -/
theorem carried_of_le (negative : Bool) {m : Nat} {e : Int} {upper : ℚ} (hu : Representable upper)
    (hle : magnitude m e ≤ upper) (he : e ≤ greatestExponent) :
    ∃ m' e', carried negative m e = .finite negative m' e' ∧ magnitude m' e' = magnitude m e := by
  obtain ⟨M, E, hM, -, hE, rfl⟩ := hu
  unfold carried
  by_cases hfull : m = 2 * fullMantissa
  · have hlt : e < E := by
      by_contra hge
      have hnext := magnitude_lt_full (e := e + 1) hM (by omega : E < e + 1)
      rw [magnitude_full_succ, ← hfull] at hnext
      exact absurd hle (not_le.2 hnext)
    simp only [hfull, if_true]
    rw [if_neg (by omega)]
    exact ⟨_, _, rfl, magnitude_full_succ e⟩
  · simp only [hfull, if_false]
    rw [if_neg (by omega)]
    exact ⟨m, e, rfl, rfl⟩

/-- Whole numbers on a grid are to the ratio as they are to its mantissa there. -/
theorem grid_le (num den k : Nat) (e : Int) :
    (num * (power 2 e).2 ≤ k * (den * (power 2 e).1) ↔ (num : ℚ) ≤ magnitude k e * den) ∧
    (k * (den * (power 2 e).1) ≤ num * (power 2 e).2 ↔ magnitude k e * den ≤ num) := by
  have hq : (0 : ℚ) < (power 2 e).2 := by exact_mod_cast (power_pos two_pos e).2
  have hk : ((k * (den * (power 2 e).1) : ℕ) : ℚ) = magnitude k e * den * (power 2 e).2 := by
    rw [Nat.cast_mul, Nat.cast_mul, power_two, magnitude]
    ring
  rw [← Nat.cast_le (α := ℚ), hk, ← Nat.cast_le (α := ℚ), hk, Nat.cast_mul]
  exact ⟨mul_le_mul_iff_left₀ hq, mul_le_mul_iff_left₀ hq⟩

theorem ofRatio_proper (negative : Bool) (num den : Nat) : (ofRatio negative num den).Proper := by
  rcases Nat.eq_zero_or_pos num with rfl | hn
  · exact finite_proper (by decide) (le_refl _) (by decide)
  rw [ofRatio_eq negative hn]
  rcases Nat.eq_zero_or_pos den with rfl | hd
  · rw [Nat.zero_mul]
    exact carried_proper negative ((roundDiv_zero_right _).trans (by decide)) (le_max_right ..)
  · obtain ⟨hleast, hmost, -⟩ := exponentOf_spec hn hd
    have hq := Nat.mul_pos hd (power_pos two_pos (exponentOf num den)).1
    exact carried_proper negative (roundDiv_le hq ((grid_le ..).1.2 hmost)) hleast

/-- **Rounding does not pass a number.**  A ratio between two numbers is rounded to one between them. -/
theorem ofRatio_between (negative : Bool) {num den : Nat} (hd : 0 < den) {upper : ℚ} (hu : Representable upper)
    (h : (num : ℚ) ≤ upper * den) :
    ∃ m e, ofRatio negative num den = .finite negative m e ∧ magnitude m e ≤ upper ∧
      ∀ lower, Representable lower → lower * den ≤ num → lower ≤ magnitude m e := by
  have hden : (0 : ℚ) < den := by exact_mod_cast hd
  rcases Nat.eq_zero_or_pos num with rfl | hn
  · refine ⟨0, leastExponent, rfl, by simpa [magnitude] using hu.nonneg, fun lower _ hle => ?_⟩
    have hzero : lower ≤ 0 := not_lt.1 fun hpos => absurd (mul_pos hpos hden) (by simpa using hle)
    simpa [magnitude] using hzero
  obtain ⟨hleast, -, hfull⟩ := exponentOf_spec hn hd
  rw [ofRatio_eq negative hn]
  generalize exponentOf num den = e at *
  have hq := Nat.mul_pos hd (power_pos two_pos e).1
  have hgrid := fun k => grid_le num den k e
  generalize num * (power 2 e).2 = a at *
  generalize den * (power 2 e).1 = b at *
  obtain ⟨M, E, hM, hE, hE', rfl⟩ := hu
  have he : e ≤ E := by
    by_contra hlt
    have hlow := hfull (by omega)
    have := magnitude_lt_full hM (Int.not_le.1 hlt)
    nlinarith
  have hup : magnitude (roundDiv a b) e ≤ magnitude M E := by
    rw [magnitude_lower M he] at h ⊢
    exact (magnitude_le_magnitude e).2 (roundDiv_le hq ((hgrid _).1.2 h))
  obtain ⟨m', e', heq, hvalue⟩ := carried_of_le negative ⟨M, E, hM, hE, hE', rfl⟩ hup (by omega)
  refine ⟨m', e', heq, by rw [hvalue]; exact hup, ?_⟩
  rintro lower ⟨L, F, hL, hF, -, rfl⟩ hlow
  rw [hvalue]
  by_cases hFe : e ≤ F
  · rw [magnitude_lower L hFe] at hlow ⊢
    exact (magnitude_le_magnitude e).2 (le_roundDiv hq ((hgrid _).2.2 hlow))
  · have hlt := magnitude_lt_full hL (Int.not_le.1 hFe)
    have hmany : fullMantissa ≤ roundDiv a b := le_roundDiv hq ((hgrid _).2.2 (hfull (by omega)))
    exact hlt.le.trans ((magnitude_le_magnitude e).2 hmany)

/-- The sum of two numbers is rounded like a ratio. -/
theorem addMagnitude_between (negative₁ negative₂ : Bool) {m₁ m₂ : Nat} {e₁ e₂ : Int} {upper : ℚ}
    (hu : Representable upper) (h : magnitude m₁ e₁ + magnitude m₂ e₂ ≤ upper) :
    ∃ m e, addMagnitude (.finite negative₁ m₁ e₁) (.finite negative₂ m₂ e₂) = .finite false m e ∧
      magnitude m e ≤ upper ∧
      ∀ lower, Representable lower → lower ≤ magnitude m₁ e₁ + magnitude m₂ e₂ → lower ≤ magnitude m e := by
  have hpos := Nat.mul_pos (ratio_pos m₁ e₁) (ratio_pos m₂ e₂)
  have hden : (0 : ℚ) < ((ratio m₁ e₁).2 * (ratio m₂ e₂).2 : ℕ) := by exact_mod_cast hpos
  have hsum : (((ratio m₁ e₁).1 * (ratio m₂ e₂).2 + (ratio m₂ e₂).1 * (ratio m₁ e₁).2 : ℕ) : ℚ) =
      (magnitude m₁ e₁ + magnitude m₂ e₂) * ((ratio m₁ e₁).2 * (ratio m₂ e₂).2 : ℕ) := by
    push_cast
    rw [ratio_eq, ratio_eq]
    ring
  have hround := ofRatio_between false hpos hu (by rw [hsum]; exact mul_le_mul_of_nonneg_right h hden.le)
  obtain ⟨m, e, heq, hle, hlow⟩ := hround
  refine ⟨m, e, heq, hle, fun lower hl hs => hlow lower hl ?_⟩
  rw [hsum]
  exact mul_le_mul_of_nonneg_right hs hden.le

theorem ofDecimal_proper (negative : Bool) (coefficient : Nat) (exponent : Int) :
    (ofDecimal negative coefficient exponent).Proper := by
  have hzero : (Double.finite negative 0 leastExponent).Proper := ofRatio_proper negative 0 1
  unfold ofDecimal
  split
  · exact hzero
  simp only
  split
  · nofun
  split
  · exact hzero
  · exact ofRatio_proper _ _ _

end Double

end Transcripts.Number
