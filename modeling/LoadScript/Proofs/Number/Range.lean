import LoadScript.Proofs.Number.Shortest

/-!
The range of the doubles: which whole numbers have one, and which results are finite.
-/

namespace LoadScript.Double

theorem roundQuotient_lt {numerator denominator bound : Nat} (positive : 0 < denominator)
    (below : 2 * numerator + denominator < 2 * (bound * denominator)) :
    roundQuotient numerator denominator < bound := by
  have whole := Nat.div_add_mod numerator denominator
  rw [Nat.mul_comm] at whole
  have smaller : numerator / denominator < bound := by
    rw [Nat.div_lt_iff_lt_mul positive]
    omega
  rcases Nat.lt_or_eq_of_le smaller with less | same
  · rcases roundQuotient_eq_or numerator denominator with rounded | rounded <;> omega
  · have step := Nat.succ_mul (numerator / denominator) denominator
    rw [← same] at below
    rw [roundQuotient, if_pos (by omega)]
    exact smaller

theorem finite?_ofUnits_eq_none_iff (negative : Bool) {numerator denominator shift mantissa : Nat}
    (shiftEq : (numerator / denominator).log2 - 52 = shift)
    (mantissaEq : roundQuotient numerator (denominator * twoTo shift) = mantissa) :
    finite? (ofUnits negative numerator denominator) = none ↔
      topExponent < shift ∨ topExponent = shift ∧ mantissa = 2 ^ 53 := by
  rw [ofUnits_eq negative shiftEq mantissaEq]
  split
  · split
    · simp only [finite?, true_iff]
      omega
    · simp only [finite?, reduceCtorEq, false_iff]
      omega
  · split
    · simp only [finite?, true_iff]
      omega
    · simp only [finite?, reduceCtorEq, false_iff]
      omega

theorem shift_units {magnitude exponent : Nat} (lower : twoTo exponent ≤ magnitude)
    (upper : magnitude < twoTo (exponent + 1)) :
    (magnitude * unitsPerOne / 1).log2 - 52 = exponent + 1022 := by
  have scaled (other : Nat) : twoTo (other + 1074) = twoTo other * unitsPerOne := twoTo_add other 1074
  rw [Nat.div_one]
  apply shift_eq
  · show twoTo (52 + (exponent + 1022)) ≤ magnitude * unitsPerOne
    rw [show 52 + (exponent + 1022) = exponent + 1074 by omega, scaled]
    exact Nat.mul_le_mul_right _ lower
  · show magnitude * unitsPerOne < twoTo (53 + (exponent + 1022))
    rw [show 53 + (exponent + 1022) = exponent + 1 + 1074 by omega, scaled]
    exact Nat.mul_lt_mul_of_pos_right upper unitsPerOne_pos

/-- At the greatest exponent a number is rounded up to the next power of two from half a step below it. -/
theorem roundQuotient_top {magnitude half units : Nat} (positive : 0 < half * units)
    (upper : magnitude ≤ 2 ^ 54 * half) :
    roundQuotient (magnitude * units) (2 * (half * units)) = 2 ^ 53 ↔
      2 ^ 54 * half - half ≤ magnitude := by
  have upperUnits := Nat.mul_le_mul_right units upper
  rw [Nat.mul_assoc] at upperUnits
  constructor
  · intro rounded
    rcases Nat.lt_or_ge magnitude (2 ^ 54 * half - half) with short | reaches
    · have shortUnits : (magnitude + 1 + half) * units ≤ 2 ^ 54 * half * units :=
        Nat.mul_le_mul_right units (by omega)
      rw [Nat.mul_assoc, Nat.add_mul, Nat.add_mul] at shortUnits
      have unitsPositive := Nat.pos_of_mul_pos_left positive
      have below : roundQuotient (magnitude * units) (2 * (half * units)) < 2 ^ 53 :=
        roundQuotient_lt (by omega) (by omega)
      omega
    · exact reaches
  · intro reaches
    have reachesUnits : 2 ^ 54 * half * units ≤ (magnitude + half) * units :=
      Nat.mul_le_mul_right units (by omega)
    rw [Nat.mul_assoc, Nat.add_mul] at reachesUnits
    exact roundQuotient_of_near (by omega) (by omega) (by omega) fun odd => absurd odd (by decide)

theorem topStep_eq : 1 * twoTo (1023 + 1022) = 2 * (twoTo 970 * unitsPerOne) := by
  rw [Nat.one_mul]
  show twoTo (1 + (970 + 1074)) = 2 * (twoTo 970 * unitsPerOne)
  rw [twoTo_add, twoTo_add 970, unitsPerOne, show twoTo 1 = 2 from rfl]

/-- A whole number has no double if it is at least half a step beyond the largest one. -/
theorem ofInt?_eq_none_iff (value : Int) :
    ofInt? value = none ↔ twoTo 1024 - twoTo 970 ≤ value.natAbs := by
  rw [ofInt?]
  generalize value.natAbs = magnitude
  have top : twoTo 1024 = twoTo 54 * twoTo 970 := twoTo_add 54 970
  have belowTop : twoTo 1024 = twoTo 1 * twoTo 1023 := twoTo_add 1 1023
  rw [twoTo_eq 54] at top
  rw [twoTo_eq 1] at belowTop
  have topIs : topExponent = 2045 := rfl
  have positive := twoTo_pos 970
  have stepPositive : 0 < twoTo 970 * unitsPerOne := Nat.mul_pos positive unitsPerOne_pos
  rcases Nat.eq_zero_or_pos magnitude with rfl | nonzero
  · have shiftEq : (0 * unitsPerOne / 1).log2 - 52 = 0 := by
      rw [Nat.zero_mul]
      rfl
    rw [finite?_ofUnits_eq_none_iff _ shiftEq rfl]
    omega
  obtain ⟨exponent, lower, upper⟩ :
      ∃ exponent, twoTo exponent ≤ magnitude ∧ magnitude < twoTo (exponent + 1) :=
    ⟨magnitude.log2, Nat.log2_self_le (by omega), Nat.lt_log2_self⟩
  rw [finite?_ofUnits_eq_none_iff _ (shift_units lower upper) rfl]
  -- Below the greatest exponent every number has a double, above it none; at it the rounding decides.
  rcases Nat.lt_trichotomy exponent 1023 with small | rfl | large
  · have atMost : twoTo (exponent + 1) ≤ twoTo 1023 := twoTo_le_twoTo small
    omega
  · change magnitude < twoTo 1024 at upper
    rw [topStep_eq, roundQuotient_top stepPositive (by omega)]
    omega
  · have atLeast : twoTo 1024 ≤ twoTo exponent := twoTo_le_twoTo large
    omega

/-! Finite results. -/

theorem ofUnits_finite (negative : Bool) {numerator denominator exponent : Nat}
    (small : exponent < topExponent) (below : numerator / denominator < twoTo (53 + exponent)) :
    ∃ mantissa exponent, ofUnits negative numerator denominator = .finite negative mantissa exponent := by
  have short : (numerator / denominator).log2 - 52 < topExponent := by
    generalize topExponent = top at small
    rcases Nat.eq_zero_or_pos (numerator / denominator) with zero | positive
    · rw [zero, Nat.log2_zero]
      omega
    · have := (Nat.log2_lt (Nat.ne_of_gt positive)).mpr below
      omega
  rw [ofUnits_eq negative rfl rfl]
  split
  · exact ⟨_, _, if_neg (Nat.not_lt.mpr short)⟩
  · exact ⟨_, _, if_neg (Nat.not_lt.mpr (Nat.le_of_lt short))⟩

theorem divideBy_finite (negative : Bool) {mantissa exponent divisor : Nat}
    (normal : IsNormal mantissa exponent) (divides : 2 ≤ divisor) :
    ∃ quotient power, (finite negative mantissa exponent).divideBy divisor =
      .finite negative quotient power ∧ IsNormal quotient power := by
  obtain ⟨exponentBelow, topIs⟩ : ∃ exponentBelow, topExponent = exponentBelow + 1 := ⟨2044, rfl⟩
  have below : mantissa * twoTo exponent / divisor < twoTo (53 + exponentBelow) := by
    have top : mantissa * twoTo exponent < twoTo 53 * twoTo topExponent :=
      Nat.mul_lt_mul_of_lt_of_le normal.mantissa_lt (twoTo_le_twoTo normal.exponent_le) (twoTo_pos _)
    have wider := Nat.mul_le_mul_left (twoTo (53 + exponentBelow)) divides
    rw [topIs, ← twoTo_add, ← Nat.add_assoc, twoTo_add _ 1, show twoTo 1 = 2 from rfl] at top
    rw [Nat.div_lt_iff_lt_mul (by omega)]
    exact Nat.lt_of_lt_of_le top wider
  obtain ⟨quotient, power, rounded⟩ := ofUnits_finite negative (by omega) below
  have canonical : IsCanonical (ofUnits negative (mantissa * twoTo exponent) divisor) :=
    ofUnits_isCanonical negative (by omega)
  rw [rounded] at canonical
  cases canonical with
  | finite quotientNormal => exact ⟨quotient, power, rounded, quotientNormal⟩

/-- From the exponent of the number one on every number is whole. -/
theorem exponent_lt_of_whole?_eq_none {negative : Bool} {mantissa exponent : Nat}
    (broken : (finite negative mantissa exponent).whole? = none) : exponent < 1074 := by
  rcases Nat.lt_or_ge exponent 1074 with small | large
  · exact small
  · have units : mantissa * twoTo exponent = mantissa * twoTo (exponent - 1074) * unitsPerOne := by
      rw [Nat.mul_assoc, unitsPerOne, ← twoTo_add]
      congr 2
      omega
    have divides : (unitsPerOne : Int) ∣ (mantissa * twoTo exponent : Nat) :=
      Int.natCast_dvd_natCast.mpr ⟨_, units.trans (Nat.mul_comm _ _)⟩
    have isWhole (amount : Int) (divides : (unitsPerOne : Int) ∣ amount) :
        (if amount % unitsPerOne = 0 then some (amount / unitsPerOne) else none) ≠ none := by
      rw [if_pos (Int.emod_eq_zero_of_dvd divides)]
      exact Option.some_ne_none _
    cases negative with
    | false => exact absurd broken (isWhole _ divides)
    | true => exact absurd broken (isWhole _ ((Int.dvd_neg).mpr divides))

theorem roundTo_finite (negative : Bool) {mantissa exponent : Nat} (places : Nat)
    (normal : IsNormal mantissa exponent) (small : exponent < 1074) :
    ∃ rounded power, (finite negative mantissa exponent).roundTo places =
      .finite negative rounded power := by
  have scaled : roundQuotient (mantissa * twoTo exponent * tenTo places) unitsPerOne ≤
      twoTo 53 * tenTo places := by
    apply roundQuotient_le unitsPerOne_pos
    rw [Nat.mul_right_comm (twoTo 53)]
    exact Nat.mul_le_mul_right _ (Nat.mul_le_mul (Nat.le_of_lt normal.mantissa_lt)
      (twoTo_le_twoTo (Nat.le_of_lt small)))
  have below : roundQuotient (mantissa * twoTo exponent * tenTo places) unitsPerOne * unitsPerOne /
      tenTo places < twoTo (53 + (1074 + 1)) := by
    have next : unitsPerOne < twoTo (1074 + 1) := by
      have positive := unitsPerOne_pos
      rw [twoTo_add, show twoTo 1 = 2 from rfl, ← unitsPerOne]
      omega
    rw [Nat.div_lt_iff_lt_mul (tenTo_pos places), twoTo_add]
    calc roundQuotient (mantissa * twoTo exponent * tenTo places) unitsPerOne * unitsPerOne
        ≤ twoTo 53 * tenTo places * unitsPerOne := Nat.mul_le_mul_right _ scaled
      _ = twoTo 53 * unitsPerOne * tenTo places := Nat.mul_right_comm _ _ _
      _ < twoTo 53 * twoTo (1074 + 1) * tenTo places :=
          Nat.mul_lt_mul_of_pos_right (Nat.mul_lt_mul_of_pos_left next (twoTo_pos 53))
            (tenTo_pos places)
  rw [roundTo]
  exact ofUnits_finite negative (by decide) below

end LoadScript.Double
