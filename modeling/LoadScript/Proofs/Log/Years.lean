import LoadScript.Log.Time
import LoadScript.Proofs.Outcome

/-!
Years. The years from 1 to 9999 are the ones of a run of seconds, and the times in this run are those that can be
written in full.
-/

namespace LoadScript

namespace Moment

/-! The years of a cycle of 400 years that starts on a first of March. -/

def yearOfCycle (day : Nat) : Nat := (day - day / 1460 + day / 36524 - day / 146096) / 365

def dayOfYear (day : Nat) : Nat :=
  day - (365 * yearOfCycle day + yearOfCycle day / 4 - yearOfCycle day / 100)

def monthFromMarch (day : Nat) : Nat := (5 * dayOfYear day + 2) / 153

def monthOf (day : Nat) : Nat :=
  if monthFromMarch day < 10 then monthFromMarch day + 3 else monthFromMarch day - 9

def calendarYear (day : Nat) : Nat := yearOfCycle day + if monthOf day ≤ 2 then 1 else 0

variable {day : Nat}

theorem yearOfCycle_eq_zero_iff : yearOfCycle day = 0 ↔ day < 365 := by
  unfold yearOfCycle
  omega

theorem yearOfCycle_le (within : day < 146097) : yearOfCycle day ≤ 399 := by
  unfold yearOfCycle
  omega

theorem yearOfCycle_eq_last_iff (within : day < 146097) : yearOfCycle day = 399 ↔ 145731 ≤ day := by
  unfold yearOfCycle
  omega

/-- January and February stand at the end of a year that starts in March. -/
theorem monthOf_le_two_iff (inYear : dayOfYear day ≤ 365) : monthOf day ≤ 2 ↔ 306 ≤ dayOfYear day := by
  unfold monthOf monthFromMarch
  split
  · omega
  · omega

theorem calendarYear_le (within : day < 146097) : calendarYear day ≤ 400 := by
  have years := yearOfCycle_le within
  unfold calendarYear
  split
  · omega
  · omega

theorem calendarYear_eq_zero_iff : calendarYear day = 0 ↔ day < 306 := by
  have first := @yearOfCycle_eq_zero_iff day
  unfold calendarYear
  by_cases inFirst : day < 365
  · have zero := first.mpr inFirst
    have same : dayOfYear day = day := by
      rw [dayOfYear, zero]
      rfl
    have month := monthOf_le_two_iff (by omega : dayOfYear day ≤ 365)
    split
    · omega
    · omega
  · omega

theorem calendarYear_eq_last_iff (within : day < 146097) : calendarYear day = 400 ↔ 146037 ≤ day := by
  have years := yearOfCycle_le within
  have last := yearOfCycle_eq_last_iff within
  unfold calendarYear
  by_cases inLast : 145731 ≤ day
  · have final := last.mpr inLast
    have same : dayOfYear day = day - 145731 := by rw [dayOfYear, final]
    have month := monthOf_le_two_iff (by omega : dayOfYear day ≤ 365)
    split
    · omega
    · omega
  · split
    · omega
    · omega

/-! The year of a moment. -/

theorem year_ofEpoch (seconds : Int) :
    (ofEpoch seconds).year = (seconds.fdiv 86400 + 719468).fdiv 146097 * 400 +
      calendarYear ((seconds.fdiv 86400 + 719468).fmod 146097).toNat := by
  have year (cycle : Int) (day : Nat) :
      cycle * 400 + yearOfCycle day + (if monthOf day ≤ 2 then 1 else 0) =
        cycle * 400 + calendarYear day := by
    rw [calendarYear]
    split
    · omega
    · omega
  exact year _ _

theorem year_ofEpoch_iff (seconds : Int) :
    1 ≤ (ofEpoch seconds).year ∧ (ofEpoch seconds).year ≤ 9999 ↔
      -62135596800 ≤ seconds ∧ seconds < 253402300800 := by
  rw [year_ofEpoch, Int.fdiv_eq_ediv_of_nonneg _ (by decide), Int.fdiv_eq_ediv_of_nonneg _ (by decide),
    Int.fmod_eq_emod_of_nonneg _ (by decide)]
  generalize cycles : (seconds / 86400 + 719468) / 146097 = cycle
  generalize days : ((seconds / 86400 + 719468) % 146097).toNat = day
  have within : day < 146097 := by omega
  have atMost := calendarYear_le within
  have first := @calendarYear_eq_zero_iff day
  have last := calendarYear_eq_last_iff within
  omega

end Moment

namespace Log

theorem yearLimit_eq : yearLimit = 2147483648 := rfl

theorem twoTo_63 : Int.ofNat (Double.twoTo 63) = 9223372036854775808 := rfl

theorem twoTo_32 : Double.twoTo 32 = 4294967296 := rfl

theorem momentAt_eq_ok_iff {seconds : Int} {moment : Moment} :
    momentAt seconds = .ok moment ↔ moment = .ofEpoch seconds ∧
      (-9223372036854775808 ≤ seconds ∧ seconds < 9223372036854775808) ∧
      -2147481748 ≤ moment.year ∧ moment.year < 2147485548 := by
  simp only [momentAt, Bool.or_eq_true, decide_eq_true_eq]
  rw [twoTo_63, yearLimit_eq]
  constructor
  · intro found
    split at found
    · cases found
    · split at found
      · cases found
      · cases found
        exact ⟨rfl, by omega, by omega⟩
  · rintro ⟨rfl, range, years⟩
    rw [if_neg (by omega), if_neg (by omega)]

/-- A year of a moment has four digits in a word of 32 bits only if it has them outside of it. -/
theorem bmod_year_iff {year : Int} (years : -2147481748 ≤ year ∧ year < 2147485548) :
    (year.bmod (Double.twoTo 32) < 1 || 9999 < year.bmod (Double.twoTo 32)) = false ↔
      1 ≤ year ∧ year ≤ 9999 := by
  rw [twoTo_32, Int.bmod_def, Bool.or_eq_false_iff, decide_eq_false_iff_not, decide_eq_false_iff_not]
  split
  · omega
  · omega

namespace Time

def HasFullYear (time : Time) : Prop :=
  ∃ seconds micros, time.split = .ok (seconds, micros) ∧
    -62135596800 ≤ seconds ∧ seconds < 253402300800

theorem exists_exactText_iff (time : Time) :
    (∃ shown, time.exactText = .ok shown) ↔ time.HasFullYear := by
  rw [exactText, HasFullYear]
  cases time.split with
  | error fault =>
      constructor
      · rintro ⟨shown, ⟨⟩⟩
      · rintro ⟨seconds, micros, ⟨⟩, -⟩
  | ok parts =>
      obtain ⟨seconds, micros⟩ := parts
      have years := Moment.year_ofEpoch_iff seconds
      constructor
      · rintro ⟨shown, read⟩
        obtain ⟨_, ⟨⟩, read⟩ := Outcome.bind_eq_ok.mp read
        obtain ⟨moment, found, read⟩ := Outcome.bind_eq_ok.mp read
        obtain ⟨rfl, -, within⟩ := momentAt_eq_ok_iff.mp found
        simp only [] at read
        split at read
        · cases read
        · next full =>
            exact ⟨seconds, micros, rfl, years.mp ((bmod_year_iff within).mp (Bool.eq_false_iff.mpr full))⟩
      · rintro ⟨_, _, same, first, last⟩
        cases same
        obtain ⟨atLeast, atMost⟩ := years.mpr ⟨first, last⟩
        have found : momentAt seconds = .ok (.ofEpoch seconds) :=
          momentAt_eq_ok_iff.mpr ⟨rfl, by omega, by omega⟩
        have full := (bmod_year_iff (by omega)).mpr ⟨atLeast, atMost⟩
        refine ⟨?shown, Outcome.bind_eq_ok.mpr ⟨_, rfl, Outcome.bind_eq_ok.mpr ⟨_, found, ?given⟩⟩⟩
        case given =>
          simp only [full]
          rfl

end Time

end Log

end LoadScript
