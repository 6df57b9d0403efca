import Transcripts.Json.Reader
import Transcripts.Proofs.Number.Written
import Transcripts.Proofs.Stream.Clock

/-!
# Timeouts that are too short

A number of seconds is checked for being positive and then rounded to whole nanoseconds.  Up to half a nanosecond
passes the check and is rounded to nothing, which does not pass it when it is written out and read again.  Every other
timeout that is read is above zero, and so is what is read back from it (`accepted_again_iff`): writing it out does
not round it below a nanosecond, nor up to the seconds that no duration holds.
-/
namespace Transcripts

open Transcripts.Number

namespace Timeout

/-! ## Reading -/

theorem nanosOf_eq_zero_iff {m n : Nat} {e : Int} (h : nanosOf m e = some n) :
    n = 0 ↔ Double.magnitude m e * nanosPerSecond ≤ 1 / 2 := by
  rw [← Nat.lt_one_iff, ← Nat.not_le, ← (nanosOf_eq_some h).2, reaches_one_iff, not_lt]

/-- A number of 53 digits below the limit of durations stays below it when its whole seconds are rounded: if it has
more than whole seconds it is small. -/
theorem nanosOf_le {m n : Nat} {e : Int} (hm : m < 2 * Double.fullMantissa) (h : nanosOf m e = some n) :
    n % nanosPerSecond = 0 ∧ n / nanosPerSecond ≤ (2 * Double.fullMantissa - 1) * 2 ^ 11 ∨
      n / nanosPerSecond ≤ 2 * Double.fullMantissa := by
  rcases Int.le_total 0 e with he | he
  · left
    obtain ⟨k, rfl⟩ := Int.eq_ofNat_of_zero_le he
    have hone : ∀ x, roundDiv x 1 = x := fun x =>
      Nat.le_antisymm (roundDiv_le one_pos (by omega)) (le_roundDiv one_pos (by omega))
    have hratio : Double.ratio m k = (m * 2 ^ k, 1) := by simp [Double.ratio, Double.power]
    unfold nanosOf at h
    simp only [hratio, hone, Option.ite_none_left_eq_some, Option.some.injEq, Nat.mul_one, Nat.not_le] at h
    obtain ⟨hlt, rfl⟩ := h
    rw [Nat.mul_mod_left, Nat.mul_div_cancel _ (by decide)]
    refine ⟨rfl, ?_⟩
    rcases Nat.le_total k 11 with hk | hk
    · exact Nat.mul_le_mul (by omega) (Nat.pow_le_pow_right two_pos hk)
    · obtain ⟨j, rfl⟩ := Nat.exists_eq_add_of_le hk
      have hshift : m * 2 ^ (11 + j) = m * 2 ^ j * 2 ^ 11 := by rw [pow_add]; ring
      rw [hshift] at hlt ⊢
      simp only [secondsLimit, Double.fullMantissa] at hlt ⊢
      omega
  · right
    have hsmall : Double.magnitude m e ≤ m := by
      have hpow : (2 : ℚ) ^ e ≤ 1 := zpow_le_one_of_nonpos₀ one_le_two he
      exact mul_le_of_le_one_right (Nat.cast_nonneg m) hpow
    have hnear := (abs_le.1 (nanosOf_eq_some h).1).2
    have hlt : (n : ℚ) < (m * nanosPerSecond + 1 : ℕ) := by
      have hmul := mul_le_mul_of_nonneg_right hsmall (Nat.cast_nonneg (α := ℚ) nanosPerSecond)
      push_cast
      linarith
    have hn : n ≤ nanosPerSecond * m := by
      rw [Nat.mul_comm]
      exact Nat.lt_succ_iff.1 (by exact_mod_cast hlt)
    exact (Nat.div_le_of_le_mul hn).trans hm.le

/-! ## Writing -/

theorem toDouble_zero : toDouble 0 = .finite false 0 Double.leastExponent := by decide +kernel

/-- The least power of two that is rounded to a nanosecond. -/
def leastWritten : ℚ := Double.magnitude 1 (-30)

theorem leastWritten_representable : Double.Representable leastWritten :=
  ⟨1, -30, by decide, by decide, by decide, rfl⟩

/-- What is written for a timeout is at most the sum of what its two parts are, and it does not vanish. -/
theorem toDouble_between {n : Nat} {whole part upper : ℚ} (hw : Double.Representable whole)
    (hp : Double.Representable part) (hu : Double.Representable upper) (hwhole : (n / nanosPerSecond : ℕ) ≤ whole)
    (hpart : (n % nanosPerSecond : ℕ) ≤ part * nanosPerSecond) (hsum : whole + part ≤ upper) :
    ∃ m e, toDouble n = .finite false m e ∧ Double.magnitude m e ≤ upper ∧
      (n ≠ 0 → leastWritten ≤ Double.magnitude m e) := by
  obtain ⟨m₁, e₁, h₁, hle₁, hge₁⟩ := Double.ofRatio_between false one_pos hw (by simpa using hwhole)
  obtain ⟨m₂, e₂, h₂, hle₂, hge₂⟩ :=
    Double.ofRatio_between false (show 0 < nanosPerSecond by decide) hp hpart
  obtain ⟨m, e, h, hle, hge⟩ := Double.addMagnitude_between false false hu ((add_le_add hle₁ hle₂).trans hsum)
  refine ⟨m, e, by rw [toDouble, Double.ofNat, h₁, h₂, h], hle, fun hn => hge leastWritten leastWritten_representable ?_⟩
  have hleast : leastWritten ≤ 1 ∧ leastWritten * nanosPerSecond ≤ 1 := by
    norm_num [leastWritten, Double.magnitude, nanosPerSecond]
  -- there is a whole second or, if not, a nanosecond
  by_cases hzero : n / nanosPerSecond = 0
  · have hone : (1 : ℚ) ≤ (n % nanosPerSecond : ℕ) := by
      have hmod := Nat.div_add_mod n nanosPerSecond
      rw [hzero] at hmod
      exact_mod_cast (show 1 ≤ n % nanosPerSecond by omega)
    have hpos := hge₂ leastWritten leastWritten_representable (hleast.2.trans hone)
    exact hpos.trans (le_add_of_nonneg_left (Double.magnitude_nonneg ..))
  · have hone : (1 : ℚ) ≤ (n / nanosPerSecond : ℕ) := by exact_mod_cast Nat.one_le_iff_ne_zero.2 hzero
    have hpos := hge₁ leastWritten leastWritten_representable (by simpa using hleast.1.trans hone)
    exact hpos.trans (le_add_of_nonneg_right (Double.magnitude_nonneg ..))

/-- A timeout that was read from a number is written as one that durations hold. -/
theorem toDouble_lt {m n : Nat} {e : Int} (hm : m < 2 * Double.fullMantissa) (h : nanosOf m e = some n) :
    ∃ m' e', toDouble n = .finite false m' e' ∧ Double.magnitude m' e' < secondsLimit ∧
      (n ≠ 0 → leastWritten ≤ Double.magnitude m' e') := by
  rcases nanosOf_le hm h with ⟨hpart, hwhole⟩ | hwhole
  · have hlargest : Double.Representable ((2 * Double.fullMantissa - 1) * 2 ^ 11 : ℕ) :=
      ⟨2 * Double.fullMantissa - 1, 11, by decide, by decide, by decide, by norm_num [Double.magnitude]⟩
    have hzero : Double.Representable 0 := ⟨0, 0, by decide, by decide, by decide, by norm_num [Double.magnitude]⟩
    obtain ⟨m', e', heq, hle, hpos⟩ := toDouble_between hlargest hzero hlargest (by exact_mod_cast hwhole)
      (by rw [hpart]; norm_num) (by norm_num)
    exact ⟨m', e', heq, hle.trans_lt (by norm_num [Double.fullMantissa, secondsLimit]), hpos⟩
  · have hpower : ∀ k : ℕ, k ≤ 60 → Double.Representable (2 ^ k) := fun k hk =>
      ⟨1, k, by decide, by rw [Double.leastExponent]; omega, by rw [Double.greatestExponent]; omega,
        by simp [Double.magnitude]⟩
    have hmod : n % nanosPerSecond ≤ nanosPerSecond := (Nat.mod_lt n (by decide)).le
    have hlimit : ((2 * Double.fullMantissa : ℕ) : ℚ) = 2 ^ 53 := by norm_num [Double.fullMantissa]
    have hwhole : ((n / nanosPerSecond : ℕ) : ℚ) ≤ 2 ^ 53 := by
      rw [← hlimit]
      exact_mod_cast hwhole
    obtain ⟨m', e', heq, hle, hpos⟩ := toDouble_between (hpower 53 (by decide)) (hpower 0 (by decide))
      (hpower 54 (by decide)) hwhole (by rw [pow_zero, one_mul]; exact_mod_cast hmod) (by norm_num)
    exact ⟨m', e', heq, hle.trans_lt (by norm_num [secondsLimit]), hpos⟩

/-- What is written for a timeout above zero is read as one. -/
theorem ofDatum_toDatum {m n : Nat} {e : Int} (hm : m < 2 * Double.fullMantissa) (h : nanosOf m e = some n)
    (hn : n ≠ 0) : ∃ n', ofDatum (after n).toDatum = .ok (.after n') ∧ n' ≠ 0 := by
  obtain ⟨m', e', heq, hlt, hleast⟩ := toDouble_lt hm h
  have hpos : leastWritten ≤ Double.magnitude m' e' := hleast hn
  have hhalf : (1 / 2 : ℚ) < leastWritten * nanosPerSecond := by
    norm_num [leastWritten, Double.magnitude, nanosPerSecond]
  have hm' : m' ≠ 0 := Double.ne_zero_of_le_magnitude (by norm_num [leastWritten, Double.magnitude]) hpos
  obtain ⟨n', hn', hread⟩ := ofDatum_of_lt hm' hlt
  refine ⟨n', by rw [toDatum, heq, hread], fun hzero => ?_⟩
  have hnone := (nanosOf_eq_zero_iff hn').1 hzero
  have hmul := mul_le_mul_of_nonneg_right hpos (Nat.cast_nonneg (α := ℚ) nanosPerSecond)
  exact absurd (hhalf.trans_le hmul) (not_lt.2 hnone)

/-- **Which timeouts come to nothing.**  For every value of a data file that is read as a timeout:

* the timeout is zero exactly if the value is a number of half a nanosecond or less;
* if it is not, what is written for it is read again as a timeout that is not zero;
* if it is, what is written for it is zero seconds, which is refused. -/
theorem accepted_again_iff {d : Datum} (hd : d.Written) {t : Timeout} (h : ofDatum d = .ok t) :
    (t = .after 0 ↔
      ∃ m e, d = .number (.finite false m e) ∧ Double.magnitude m e * nanosPerSecond ≤ 1 / 2) ∧
    (t ≠ .after 0 → ∃ t', ofDatum t.toDatum = .ok t' ∧ t' ≠ .after 0) ∧
    (t = .after 0 → ofDatum t.toDatum = .error (.notPositive (.finite false 0 Double.leastExponent))) := by
  have hzero : t = .after 0 → ofDatum t.toDatum = .error (.notPositive (.finite false 0 Double.leastExponent)) := by
    rintro rfl
    rw [toDatum, toDouble_zero]
    rfl
  rcases ofDatum_eq_ok h with ⟨rfl, hnumber⟩ | ⟨m, e, n, rfl, hn, rfl⟩
  · refine ⟨iff_of_false nofun ?_, fun _ => ⟨.never, rfl, nofun⟩, hzero⟩
    rintro ⟨m, e, hd, -⟩
    exact hnumber m e hd
  · have hm : m < 2 * Double.fullMantissa := (hd.proper _ rfl false m e rfl).1
    refine ⟨?_, fun hne => ?_, hzero⟩
    · rw [after.injEq, nanosOf_eq_zero_iff hn]
      constructor
      · exact fun hle => ⟨m, e, rfl, hle⟩
      · rintro ⟨_, _, ⟨⟩, hle⟩
        exact hle
    · obtain ⟨n', hread, hn'⟩ := ofDatum_toDatum hm hn fun hz => hne (by rw [hz])
      exact ⟨.after n', hread, fun hz => hn' (after.inj hz)⟩

/-- Half a second, read from a data file, and read again. -/
theorem half_second_accepted_again :
    let d := Datum.ofJson (.number ⟨false, ['0'], ['5'], 0, false⟩)
    d.Written ∧ ofDatum d = .ok (.after 500000000) ∧
    ∃ t, ofDatum (after 500000000).toDatum = .ok t ∧ t ≠ .after 0 := by
  intro d
  have hread : ofDatum d = .ok (.after 500000000) := by decide +kernel
  exact ⟨.json _, hread, (accepted_again_iff (.json _) hread).2.1 nofun⟩

/-- A tenth of a nanosecond is accepted.  The timeout is zero, and what is written for it is not accepted. -/
theorem tenth_of_nanosecond_vanishes :
    let d := Datum.ofJson (.number ⟨false, ['1'], [], -10, false⟩)
    Json.parse "1e-10" = some (.number ⟨false, ['1'], [], -10, false⟩) ∧ ofDatum d = .ok (.after 0) ∧
    ofDatum (after 0).toDatum = .error (.notPositive (.finite false 0 Double.leastExponent)) := by
  refine ⟨rfl, by decide +kernel, by decide +kernel⟩

end Timeout

end Transcripts
