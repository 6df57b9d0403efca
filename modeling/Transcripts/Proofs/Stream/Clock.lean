import Transcripts.Proofs.Number.Rounding
import Transcripts.Proofs.Stream.Account

/-!
# Timeouts that are too long

A timeout is read into whole nanoseconds and added to the time at which a wait starts.  Both have an end: a
duration holds fewer than 2^64 seconds, and what is left of the clock is about half of that.  A number is only checked
for being positive and finite, so that one beyond the first end has no answer at all, and one between the two ends is
a timeout with which no wait can start.
-/
namespace Transcripts

open Transcripts.Number

namespace Timeout

/-! ## Reading a number -/

theorem nanosOf_eq_none_iff {mantissa : Nat} {exponent : Int} :
    nanosOf mantissa exponent = none ↔ (secondsLimit : ℚ) ≤ Double.magnitude mantissa exponent := by
  have hden : (0 : ℚ) < (Double.ratio mantissa exponent).2 := by exact_mod_cast Double.ratio_pos mantissa exponent
  have hvalue := Double.ratio_eq mantissa exponent
  unfold nanosOf
  simp only [ite_eq_left_iff, reduceCtorEq, imp_false, not_not]
  rw [← Nat.cast_le (α := ℚ), hvalue, Nat.cast_mul]
  exact mul_le_mul_iff_left₀ hden

/-- The nanoseconds of a number of seconds are a rounded quotient. -/
theorem nanosOf_eq_roundDiv {mantissa n : Nat} {exponent : Int} (h : nanosOf mantissa exponent = some n) :
    ∃ num den : Nat, 0 < den ∧ (num : ℚ) = Double.magnitude mantissa exponent * nanosPerSecond * den ∧
      n = roundDiv num den := by
  unfold nanosOf at h
  simp only [Option.ite_none_left_eq_some, Option.some.injEq] at h
  refine ⟨_, _, Double.ratio_pos mantissa exponent, ?_, h.2.symm⟩
  rw [Nat.cast_mul, Double.ratio_eq]
  ring

/-- What the nanoseconds of a number of seconds are: the nearest whole number. -/
theorem nanosOf_eq_some {mantissa n : Nat} {exponent : Int} (h : nanosOf mantissa exponent = some n) :
    |(n : ℚ) - Double.magnitude mantissa exponent * nanosPerSecond| ≤ 1 / 2 ∧
    ∀ limit, Reaches (Double.magnitude mantissa exponent * nanosPerSecond) limit ↔ limit ≤ n := by
  obtain ⟨num, den, hpos, hnum, rfl⟩ := nanosOf_eq_roundDiv h
  have hden : (0 : ℚ) < den := by exact_mod_cast hpos
  constructor
  · obtain ⟨hlow, hhigh, -⟩ := roundDiv_near num hpos
    have hlow : (2 * num : ℚ) ≤ 2 * (roundDiv num den * den) + den := by exact_mod_cast hlow
    have hhigh : (2 * (roundDiv num den * den) : ℚ) ≤ 2 * num + den := by exact_mod_cast hhigh
    rw [hnum] at hlow hhigh
    rw [abs_le]
    constructor <;> nlinarith
  · intro limit
    rw [← reaches_div_iff hpos, hnum, mul_div_cancel_right₀ _ hden.ne']

theorem ofDouble_finite {mantissa : Nat} (h : mantissa ≠ 0) (exponent : Int) :
    ofDouble (.finite false mantissa exponent) = match nanosOf mantissa exponent with
      | some n => .ok (.after n)
      | none => .error .overflow := if_neg h

theorem ofWord_ne_overflow (word : String) : ofWord word ≠ .error .overflow := by
  unfold ofWord
  split <;> nofun

/-- A setting is a positive number, or it is no timeout but `none`, and reading it comes to an answer. -/
theorem ofDatum_cases (d : Datum) :
    (∃ m e, d = .number (.finite false m e) ∧ m ≠ 0) ∨
      (∀ m e, d = .number (.finite false m e) → m = 0) ∧ (∀ x, d = .number x → ofDatum d = .error (.notPositive x)) ∧
        ofDatum d ≠ .error .overflow ∧ ∀ t, ofDatum d = .ok t → t = .never := by
  cases d with
  | number x =>
    cases x with
    | nan => exact .inr ⟨nofun, fun x hx => by cases hx; rfl, nofun, nofun⟩
    | infinite negative => exact .inr ⟨nofun, fun x hx => by cases hx; rfl, nofun, nofun⟩
    | finite negative m e =>
      cases negative with
      | true => exact .inr ⟨nofun, fun x hx => by cases hx; rfl, nofun, nofun⟩
      | false =>
        by_cases hm : m = 0
        · subst hm
          exact .inr ⟨fun m e h => by cases h; rfl, fun x hx => by cases hx; rfl, nofun, nofun⟩
        · exact .inl ⟨m, e, rfl, hm⟩
  | string s =>
    refine .inr ⟨nofun, nofun, ofWord_ne_overflow s, fun t ht => ?_⟩
    simp only [ofDatum, ofWord] at ht
    split at ht <;> cases ht
    rfl
  | null | bool | moment | list | table => exact .inr ⟨nofun, nofun, nofun, nofun⟩

/-- A number that no duration holds has no answer. -/
theorem ofDatum_of_limit {m : Nat} {e : Int} (h : (secondsLimit : ℚ) ≤ Double.magnitude m e) :
    ofDatum (.number (.finite false m e)) = .error .overflow := by
  have hm : m ≠ 0 := Double.ne_zero_of_le_magnitude (by norm_num [secondsLimit]) h
  have hread := ofDouble_finite hm e
  rwa [nanosOf_eq_none_iff.2 h] at hread

/-- Any other positive number is read. -/
theorem ofDatum_of_lt {m : Nat} {e : Int} (hm : m ≠ 0) (h : Double.magnitude m e < secondsLimit) :
    ∃ n, nanosOf m e = some n ∧ ofDatum (.number (.finite false m e)) = .ok (.after n) := by
  have hread := ofDouble_finite hm e
  cases hn : nanosOf m e with
  | none => exact absurd (nanosOf_eq_none_iff.1 hn) (not_le.2 h)
  | some n =>
    rw [hn] at hread
    exact ⟨n, rfl, hread⟩

/-- What is read is the word for no timeout, or a number of seconds in nanoseconds. -/
theorem ofDatum_eq_ok {d : Datum} {t : Timeout} (h : ofDatum d = .ok t) :
    t = .never ∧ (∀ m e, d ≠ .number (.finite false m e)) ∨
      ∃ m e n, d = .number (.finite false m e) ∧ nanosOf m e = some n ∧ t = .after n := by
  rcases ofDatum_cases d with ⟨m, e, rfl, hm⟩ | ⟨-, hrefused, -, hnever⟩
  · have hlt : Double.magnitude m e < secondsLimit := not_le.1 fun hle => by
      cases (ofDatum_of_limit hle).symm.trans h
    obtain ⟨n, hn, hread⟩ := ofDatum_of_lt hm hlt
    cases h.symm.trans hread
    exact .inr ⟨m, e, n, rfl, hn, rfl⟩
  · refine .inl ⟨hnever t h, fun m e hd => ?_⟩
    cases h.symm.trans (hrefused _ hd)

theorem ofDatum_overflow_iff {d : Datum} : ofDatum d = .error .overflow ↔
    ∃ m e, d = .number (.finite false m e) ∧ (secondsLimit : ℚ) ≤ Double.magnitude m e := by
  constructor
  · intro h
    rcases ofDatum_cases d with ⟨m, e, rfl, hm⟩ | ⟨-, -, hover, -⟩
    · by_contra hnone
      obtain ⟨n, -, hread⟩ := ofDatum_of_lt hm (not_le.1 fun hle => hnone ⟨m, e, rfl, hle⟩)
      cases h.symm.trans hread
    · exact absurd h hover
  · rintro ⟨m, e, rfl, hle⟩
    exact ofDatum_of_limit hle

theorem ofDatum_notPositive_iff {x : Double} :
    ofDatum (.number x) = .error (.notPositive x) ↔ ∀ m e, x = .finite false m e → m = 0 := by
  rcases ofDatum_cases (.number x) with ⟨m, e, hx, hm⟩ | ⟨hzero, hrefused, -, -⟩
  · cases hx
    refine iff_of_false (fun h => ?_) fun h => hm (h m e rfl)
    rcases le_or_gt (secondsLimit : ℚ) (Double.magnitude m e) with hle | hlt
    · cases (ofDatum_of_limit hle).symm.trans h
    · obtain ⟨n, -, hread⟩ := ofDatum_of_lt hm hlt
      cases hread.symm.trans h
  · exact iff_of_true (hrefused x rfl) fun m e h => hzero m e (congrArg _ h)

end Timeout

/-! ## Waiting -/

namespace Stream

theorem finish_ne_beyondClock (s : Stream) (e : StreamEnd) : (s.finish e).1 ≠ .beyondClock := by
  cases e <;> nofun

theorem giveUp_ne_beyondClock (s : Stream) (deadline : Option Nat) : (s.giveUp deadline).1 ≠ .beyondClock := by
  cases deadline <;> nofun

/-- A wait that has started is never refused by the clock. -/
theorem Waits.ne_beyondClock {m : PromptMatcher} {deadline : Option Nat} {s : Stream} {rs : List Receipt}
    {r : Outcome × Stream} (h : Waits m deadline s rs r) : r.1 ≠ .beyondClock := by
  induction h with
  | found => nofun
  | hangup | ended => exact finish_ne_beyondClock _ _
  | silence | late => exact giveUp_ne_beyondClock _ deadline
  | read _ _ _ _ _ ih => exact ih

/-- The clock refuses a wait exactly if it cannot say when the timeout is over, whatever is buffered or still to
come. -/
theorem await_beyondClock_iff (s : Stream) (m : PromptMatcher) (t : Timeout) :
    (s.await m t).1 = .beyondClock ↔ ∃ n, t.nanos? = some n ∧ s.clockEnd ≤ s.now + n := by
  have hclock : (∃ n, t.nanos? = some n ∧ s.clockEnd ≤ s.now + n) ↔ ¬ s.inClock t := by
    rw [inClock_iff]
    push Not
    rfl
  rw [hclock]
  by_cases ht : s.inClock t
  · simp only [ht, not_true_eq_false, iff_false]
    rw [await_of_inClock ht]
    split
    · split
      · nofun
      · exact finish_ne_beyondClock _ _
    · exact (awaitFrom_waits _ _ _ _ rfl).ne_beyondClock
  · simp [await_of_not_inClock ht, ht]

end Stream

/-! ## Numbers and waits -/

/-- A wait with what was read from a setting is refused just if the setting is a number that reaches what is left of
the clock. -/
theorem Timeout.await_beyondClock_iff_reaches {d : Datum} {t : Timeout} (h : ofDatum d = .ok t) (s : Stream)
    (matcher : PromptMatcher) : (s.await matcher t).1 = .beyondClock ↔
      ∃ m e, d = .number (.finite false m e) ∧
        Reaches (Double.magnitude m e * nanosPerSecond) (s.clockEnd - s.now) := by
  rw [Stream.await_beyondClock_iff]
  rcases ofDatum_eq_ok h with ⟨rfl, hno⟩ | ⟨m, e, n, rfl, hn, rfl⟩
  · refine iff_of_false (by rintro ⟨n, hn, -⟩; cases hn) ?_
    rintro ⟨m, e, heq, -⟩
    exact hno m e heq
  · have hleft : s.clockEnd ≤ s.now + n ↔ Reaches (Double.magnitude m e * nanosPerSecond) (s.clockEnd - s.now) := by
      rw [(nanosOf_eq_some hn).2, Nat.sub_le_iff_le_add']
    constructor
    · rintro ⟨n', hn', hle⟩
      cases hn'
      exact ⟨m, e, rfl, hleft.1 hle⟩
    · rintro ⟨m', e', heq, hle⟩
      cases heq
      exact ⟨n, rfl, hleft.2 hle⟩

/-- **Which timeouts end the program.**  For every setting:

* reading it comes to no answer exactly if it is a number of 2^64 seconds or more;
* if it is read as a timeout, a wait with it that begins at some time of a clock is refused exactly if it is a number
  that, in whole nanoseconds, reaches what is left of that clock, and then every wait is, even where a prompt is
  there already;
* a number that is not positive and finite is refused with a message, and any other one below 2^64 is the
  nearest number of nanoseconds. -/
theorem Timeout.ends_program_iff (d : Datum) :
    (ofDatum d = .error .overflow ↔
      ∃ m e, d = .number (.finite false m e) ∧ (secondsLimit : ℚ) ≤ Double.magnitude m e) ∧
    (∀ t, ofDatum d = .ok t → ∀ (s : Stream) (matcher : PromptMatcher),
      (s.await matcher t).1 = .beyondClock ↔
        ∃ m e, d = .number (.finite false m e) ∧
          Reaches (Double.magnitude m e * nanosPerSecond) (s.clockEnd - s.now)) ∧
    (∀ x, d = .number x → (ofDatum d = .error (.notPositive x) ↔ ∀ m e, x = .finite false m e → m = 0)) ∧
    (∀ m e, d = .number (.finite false m e) → m ≠ 0 → Double.magnitude m e < secondsLimit →
      ∃ n : Nat, ofDatum d = .ok (.after n) ∧ |(n : ℚ) - Double.magnitude m e * nanosPerSecond| ≤ 1 / 2) := by
  refine ⟨ofDatum_overflow_iff, fun t ht s matcher => await_beyondClock_iff_reaches ht s matcher, ?_, ?_⟩
  · rintro x rfl
    exact ofDatum_notPositive_iff
  · rintro m e rfl hm hlt
    obtain ⟨n, hn, hread⟩ := ofDatum_of_lt hm hlt
    exact ⟨n, hread, (nanosOf_eq_some hn).1⟩

/-- A number of seconds between the two ends: it is a timeout, and a wait with it is refused where a prompt is
there already.  A number beyond both has no answer. -/
theorem Timeout.long_timeout_refused :
    ofDatum (.number (.ofDecimal false 1 19)) = .ok (.after 10000000000000000000000000000) ∧
    (PromptMatcher.literal ["\n>>>"]).find (Text.bytes "\n>>>") = some ⟨0, 0, 4⟩ ∧
    (Stream.await { buffer := Text.bytes "\n>>>" } (.literal ["\n>>>"])
      (.after 10000000000000000000000000000)).1 = .beyondClock ∧
    ofDatum (.number (.ofDecimal false 1 20)) = .error .overflow := by
  refine ⟨by decide, by decide, by decide, by decide⟩

end Transcripts
