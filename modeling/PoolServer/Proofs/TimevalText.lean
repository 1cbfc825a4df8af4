import Mathlib
import PoolServer.Time.Duration
import PoolServer.Proofs.PublicConfinement
/-!
# Printed durations

The statistics print a duration as its whole seconds in decimal, a point, and the whole
microseconds of the part below one second in six digits, zeros in front. Digits in decimal text
are read back by `Nat.ofDigitChars`, and by the strict reader `Decimal.readNat` when a bound is
checked as well.

Main statement: building a duration fails exactly when the carried seconds overflow, and printing
one gives the carried seconds, a point and exactly six digits of microseconds. Cut at its point,
the text reads back as the seconds and the microseconds, so two durations print alike exactly when
they agree to the microsecond.
-/
namespace PoolServer

namespace Decimal

theorem digitValue?_of_isDigit {c : Char} (h : c.isDigit) :
    digitValue? c = some (c.toNat - '0'.toNat) := by
  have := Char.isDigit_iff_toNat.1 h
  unfold digitValue?
  rw [if_pos ⟨this.1, this.2⟩]

/-- Reading digits onto `acc` gives their value while it stays within the limit. -/
theorem accumulate_digits {limit : Nat} {e : NumeralError} {cs : List Char} {acc : Nat}
    (hd : cs.all Char.isDigit) (hle : Nat.ofDigitChars 10 cs acc ≤ limit) :
    accumulate limit e acc cs = .ok (Nat.ofDigitChars 10 cs acc) := by
  induction cs generalizing acc with
  | nil => rfl
  | cons c cs ih =>
    simp only [List.all_cons, Bool.and_eq_true] at hd
    rw [Nat.ofDigitChars_cons] at hle ⊢
    have hprefix : 10 * acc + (c.toNat - '0'.toNat) ≤
        Nat.ofDigitChars 10 cs (10 * acc + (c.toNat - '0'.toNat)) := by
      rw [Nat.ofDigitChars_eq_ofDigitChars_zero]
      have := Nat.one_le_pow cs.length 10 (by decide)
      nlinarith
    simp only [accumulate, digitValue?_of_isDigit hd.1, Nat.mul_comm acc 10]
    rw [if_pos (by omega)]
    exact ih hd.2 hle

/-- A numeral of digits alone reads as its value when that is within the bound. -/
theorem readNat_digits {max : Nat} {cs : List Char} (hne : cs ≠ []) (hd : cs.all Char.isDigit)
    (hle : Nat.ofDigitChars 10 cs 0 ≤ max) : readNat max cs = .ok (Nat.ofDigitChars 10 cs 0) := by
  obtain ⟨c, cs', rfl⟩ := List.exists_cons_of_ne_nil hne
  have hc : c.isDigit := by simp_all
  have hplus : c ≠ '+' := by rintro rfl; simp at hc
  have hminus : c ≠ '-' := by rintro rfl; simp at hc
  rw [← accumulate_digits (e := .tooLarge) hd hle]
  unfold readNat
  split <;> simp_all

theorem toList_text (n : Nat) : (text n).toList = Nat.toDigits 10 n := by
  simp [text]

theorem toDigits_all_isDigit (n : Nat) : (Nat.toDigits 10 n).all Char.isDigit := by
  simpa using fun c hc => Nat.isDigit_of_mem_toDigits (by decide) (by decide) hc

/-- The decimal text of a number is digits that read back as the number. -/
theorem text_digits (n : Nat) :
    (text n).toList ≠ [] ∧ (text n).toList.all Char.isDigit ∧
      Nat.ofDigitChars 10 (text n).toList 0 = n := by
  simp only [toList_text]
  exact ⟨Nat.toDigits_ne_nil, toDigits_all_isDigit n, Nat.ofDigitChars_ten_toDigits⟩

/-- Padded to `w` digits, a number below `10 ^ w` is exactly `w` digits that read back as the
number. -/
theorem padded_digits {w n : Nat} (hw : 0 < w) (h : n < 10 ^ w) :
    (padded w n).length = w ∧ (padded w n).toList.all Char.isDigit ∧
      Nat.ofDigitChars 10 (padded w n).toList 0 = n := by
  have htext : (toString n).toList = Nat.toDigits 10 n := toList_text n
  have hlen : (Nat.toDigits 10 n).length ≤ w := (Nat.length_toDigits_le_iff (by decide) hw).2 h
  simp only [padded, htext, String.length_ofList, String.toList_ofList, List.length_append,
    List.length_replicate, List.all_append, Nat.ofDigitChars_append,
    Nat.ofDigitChars_replicate_zero, Nat.mul_zero, Nat.ofDigitChars_ten_toDigits,
    toDigits_all_isDigit, Bool.and_true, and_true]
  exact ⟨by omega, by simp [List.all_replicate]⟩

end Decimal

namespace Duration

theorem subsecMicros_lt (d : Duration) : d.subsecMicros < 10 ^ 6 := by
  have := d.nanos_lt
  simp only [subsecMicros]
  omega

/-- Building a duration fails exactly when the seconds with the carry pass the largest word. -/
theorem new?_eq_none_iff {secs nanos : Nat} :
    new? secs nanos = none ↔ Nat.pow 2 64 ≤ secs + nanos / 1000000000 := by
  simp only [new?]
  split <;> simp_all

/-- A built duration holds the seconds with the carry and the rest of the nanoseconds. -/
theorem new?_eq_some {secs nanos : Nat} {d : Duration} (h : new? secs nanos = some d) :
    d.secs = secs + nanos / 1000000000 ∧ d.nanos = nanos % 1000000000 := by
  simp only [new?] at h
  split at h
  · cases h
    exact ⟨rfl, rfl⟩
  · cases h

theorem toList_timeval (d : Duration) :
    d.timeval.toList =
      (Decimal.text d.secs).toList ++ '.' :: (Decimal.padded 6 d.subsecMicros).toList := by
  simp [timeval]

/-- Cut at its point, a printed duration reads back as its seconds and its microseconds. -/
theorem readNat_split_timeval (d : Duration) :
    (Text.splitWhere (· == '.') d.timeval.toList).map (Decimal.readNat Decimal.wordMax) =
      [.ok d.secs, .ok d.subsecMicros] := by
  obtain ⟨hne, hdig, hval⟩ := Decimal.text_digits d.secs
  obtain ⟨hlen, hdig', hval'⟩ := Decimal.padded_digits (by decide) d.subsecMicros_lt
  have hnodot (l : List Char) (h : l.all Char.isDigit) : ∀ c ∈ l, (c == '.') = false := by
    intro c hc
    have : c.isDigit := List.all_eq_true.1 h c hc
    simp only [beq_eq_false_iff_ne, ne_eq]
    rintro rfl
    simp at this
  have hsecs := d.secs_lt
  have hmicros := d.subsecMicros_lt
  rw [toList_timeval, Text.splitWhere_append_sep _ _ (by rfl),
    Text.splitWhere_of_forall (hnodot _ hdig), Text.splitWhere_of_forall (hnodot _ hdig')]
  have hpne : (Decimal.padded 6 d.subsecMicros).toList ≠ [] := by
    rw [← List.length_pos_iff, String.length_toList, hlen]
    decide
  have hsecs' : Nat.ofDigitChars 10 (Decimal.text d.secs).toList 0 ≤ Decimal.wordMax := by
    rw [hval]
    unfold Decimal.wordMax
    omega
  have hmicros' : Nat.ofDigitChars 10 (Decimal.padded 6 d.subsecMicros).toList 0 ≤
      Decimal.wordMax := by
    have : 10 ^ 6 ≤ Decimal.wordMax := by decide
    omega
  rw [List.singleton_append, List.map_cons, List.map_cons, List.map_nil,
    Decimal.readNat_digits hne hdig hsecs', Decimal.readNat_digits hpne hdig' hmicros', hval, hval']

/-- The printed text depends on a duration only through its seconds and microseconds. -/
theorem timeval_congr {d₁ d₂ : Duration} (hs : d₁.secs = d₂.secs)
    (hm : d₁.subsecMicros = d₂.subsecMicros) : d₁.timeval = d₂.timeval := by
  simp only [timeval, hs, hm]

/-- Two durations print alike exactly when they agree to the microsecond. -/
theorem timeval_eq_iff {d₁ d₂ : Duration} :
    d₁.timeval = d₂.timeval ↔ d₁.totalNanos / 1000 = d₂.totalNanos / 1000 := by
  have h₁ := d₁.nanos_lt
  have h₂ := d₂.nanos_lt
  have hmicros (d : Duration) : d.totalNanos / 1000 = d.secs * 1000000 + d.subsecMicros := by
    simp only [totalNanos, subsecMicros]
    omega
  rw [hmicros, hmicros]
  constructor
  · intro h
    have hread := congrArg (fun t : String => (Text.splitWhere (· == '.') t.toList).map
      (Decimal.readNat Decimal.wordMax)) h
    simp only [readNat_split_timeval, List.cons.injEq, Except.ok.injEq, and_true] at hread
    omega
  · intro h
    have := d₁.subsecMicros_lt
    have := d₂.subsecMicros_lt
    exact timeval_congr (by omega) (by omega)

end Duration

/-- Building a duration from seconds and nanoseconds fails exactly when the seconds with the carry
pass the largest word. A duration so built prints as the seconds with the carry, a point, and six
digits that read as the whole microseconds of the nanoseconds left over. Any two durations print
alike exactly when they agree to the microsecond, and each text cut at its point reads back as the
seconds and the microseconds. -/
theorem timeval_exact (secs nanos : Nat) :
    (Duration.new? secs nanos = none ↔ Nat.pow 2 64 ≤ secs + nanos / 1000000000) ∧
    (∀ d, Duration.new? secs nanos = some d → ∃ frac : String,
      d.timeval = Decimal.text (secs + nanos / 1000000000) ++ "." ++ frac ∧
      frac.length = 6 ∧ frac.toList.all Char.isDigit ∧
      Nat.ofDigitChars 10 frac.toList 0 = nanos % 1000000000 / 1000) ∧
    (∀ d₁ d₂ : Duration,
      d₁.timeval = d₂.timeval ↔ d₁.totalNanos / 1000 = d₂.totalNanos / 1000) ∧
    (∀ d : Duration, (Text.splitWhere (· == '.') d.timeval.toList).map
      (Decimal.readNat Decimal.wordMax) = [.ok d.secs, .ok d.subsecMicros]) := by
  refine ⟨Duration.new?_eq_none_iff, fun d hd => ?_, fun _ _ => Duration.timeval_eq_iff,
    Duration.readNat_split_timeval⟩
  obtain ⟨hs, hn⟩ := Duration.new?_eq_some hd
  obtain ⟨hlen, hdig, hval⟩ := Decimal.padded_digits (by decide) d.subsecMicros_lt
  refine ⟨Decimal.padded 6 d.subsecMicros, by rw [Duration.timeval, hs], hlen, hdig, ?_⟩
  rw [hval, Duration.subsecMicros, hn]

/-- One and a half billion nanoseconds carry one second: the text is `2.500000`. -/
theorem timeval_exact_carry :
    Duration.new? 1 1500000000 = some ⟨2, 500000000, by decide, by decide⟩ ∧
      ∃ frac : String, (⟨2, 500000000, by decide, by decide⟩ : Duration).timeval =
        Decimal.text (1 + 1500000000 / 1000000000) ++ "." ++ frac ∧
        frac.length = 6 ∧ frac.toList.all Char.isDigit ∧
        Nat.ofDigitChars 10 frac.toList 0 = 1500000000 % 1000000000 / 1000 :=
  have h : Duration.new? 1 1500000000 = some ⟨2, 500000000, by decide, by decide⟩ := rfl
  ⟨h, (timeval_exact 1 1500000000).2.1 _ h⟩

end PoolServer
