import LoadScript.Proofs.Number.Shortest

/-!
A decimal between the midpoints around a finite number is read as that number.
-/

namespace LoadScript.Double

theorem digits_pos {mantissa exponent digits : Nat} {place : Int} (nonzero : mantissa ≠ 0)
    (rounds : DecimalRoundsTo mantissa exponent digits place) : 0 < digits := by
  rcases Nat.eq_zero_or_pos digits with rfl | positive
  · generalize stepEq : 2 ^ exponent * tenTo (-place).toNat = step
    have stepPositive : 0 < step := stepEq ▸ Nat.mul_pos (Nat.two_pow_pos exponent) (tenTo_pos _)
    obtain ⟨lower, -, -, -⟩ := RoundsTo.bounds stepEq rounds
    have := Nat.le_mul_of_pos_left step (Nat.pos_of_ne_zero nonzero)
    omega
  · exact positive

theorem point_le {mantissa exponent digits : Nat} {place : Int} (normal : IsNormal mantissa exponent)
    (positive : 0 < digits) (rounds : DecimalRoundsTo mantissa exponent digits place) :
    place + (Nat.toDigits 10 digits).length ≤ 400 := by
  generalize scaleEq : tenTo (-place).toNat = scale at *
  have scalePositive : 0 < scale := scaleEq ▸ tenTo_pos _
  rw [DecimalRoundsTo, scaleEq] at rounds
  obtain ⟨-, upper, -, -⟩ := RoundsTo.bounds rfl rounds
  have below : digits * tenTo place.toNat ≤ 2 ^ 1024 * scale := by
    have mantissaBound := Nat.mul_le_mul_right (2 ^ exponent * scale) normal.mantissa_lt
    rw [Nat.succ_mul] at mantissaBound
    have exponentBound : 2 ^ exponent ≤ twoTo topExponent :=
      twoTo_le_twoTo normal.exponent_le
    apply Nat.le_of_mul_le_mul_right _ unitsPerOne_pos
    calc digits * tenTo place.toNat * unitsPerOne
        = digits * unitsPerOne * tenTo place.toNat := Nat.mul_right_comm _ _ _
      _ ≤ 2 ^ 53 * (2 ^ exponent * scale) := by omega
      _ ≤ 2 ^ 53 * (twoTo topExponent * scale) :=
          Nat.mul_le_mul_left _ (Nat.mul_le_mul_right _ exponentBound)
      _ = 2 ^ 53 * twoTo topExponent * scale := (Nat.mul_assoc _ _ _).symm
      _ = 2 ^ 1024 * unitsPerOne * scale := by
          rw [show 2 ^ 53 * twoTo topExponent = 2 ^ 1024 * unitsPerOne by decide +kernel]
      _ = 2 ^ 1024 * scale * unitsPerOne := Nat.mul_right_comm _ _ _
  rcases Int.lt_or_le 400 (place + (Nat.toDigits 10 digits).length) with large | holds
  · have someDigits : 0 < (Nat.toDigits 10 digits).length := Nat.length_toDigits_pos
    have reaches : 10 ^ 400 * scale ≤ 2 ^ 1024 * scale :=
      calc 10 ^ 400 * scale
          ≤ 10 ^ ((Nat.toDigits 10 digits).length - 1) * tenTo place.toNat := by
            rw [← scaleEq, tenTo_eq, tenTo_eq, ← Nat.pow_add, ← Nat.pow_add]
            exact Nat.pow_le_pow_right (by decide) (by omega)
        _ ≤ digits * tenTo place.toNat := Nat.mul_le_mul_right _ (tenTo_length_le positive)
        _ ≤ 2 ^ 1024 * scale := below
    have := Nat.le_of_mul_le_mul_right reaches scalePositive
    exact absurd this (by decide +kernel)
  · exact holds

theorem le_point {mantissa exponent digits : Nat} {place : Int} (nonzero : mantissa ≠ 0)
    (rounds : DecimalRoundsTo mantissa exponent digits place) :
    -400 ≤ place + (Nat.toDigits 10 digits).length := by
  rcases Int.lt_or_le (place + (Nat.toDigits 10 digits).length) (-400) with small | holds
  · generalize scaleEq : tenTo (-place).toNat = scale at *
    have scalePositive : 0 < scale := scaleEq ▸ tenTo_pos _
    rw [DecimalRoundsTo, scaleEq, tenTo_eq_one (by omega), Nat.mul_one] at rounds
    obtain ⟨lower, -, -, -⟩ := RoundsTo.bounds rfl rounds
    have mantissaBound := Nat.le_mul_of_pos_left (2 ^ exponent * scale) (Nat.pos_of_ne_zero nonzero)
    have exponentBound := Nat.le_mul_of_pos_left scale (Nat.two_pow_pos exponent)
    have positive : 0 < digits * unitsPerOne := by omega
    have reaches : 10 ^ 401 * (digits * unitsPerOne) < 2 * unitsPerOne * (digits * unitsPerOne) :=
      calc 10 ^ 401 * (digits * unitsPerOne)
          = 10 ^ 401 * digits * unitsPerOne := (Nat.mul_assoc _ _ _).symm
        _ < 10 ^ 401 * 10 ^ (Nat.toDigits 10 digits).length * unitsPerOne :=
            Nat.mul_lt_mul_of_pos_right (Nat.mul_lt_mul_of_pos_left (lt_tenTo_length digits)
              (tenTo_pos 401)) unitsPerOne_pos
        _ ≤ scale * unitsPerOne := by
            rw [← scaleEq, tenTo_eq, ← Nat.pow_add]
            exact Nat.mul_le_mul_right _ (Nat.pow_le_pow_right (by decide) (by omega))
        _ ≤ 2 * (digits * unitsPerOne) * unitsPerOne := Nat.mul_le_mul_right _ (by omega)
        _ = 2 * unitsPerOne * (digits * unitsPerOne) := Nat.mul_right_comm _ _ _
    have := Nat.lt_of_mul_lt_mul_right reaches
    exact absurd this (by decide +kernel)
  · exact holds

theorem ofDecimal_of_roundsTo (negative : Bool) {mantissa exponent digits : Nat} {place : Int}
    (normal : IsNormal mantissa exponent) (nonzero : mantissa ≠ 0)
    (rounds : DecimalRoundsTo mantissa exponent digits place) :
    ofDecimal negative digits place = .finite negative mantissa exponent := by
  have positive := digits_pos nonzero rounds
  have upper := point_le normal positive rounds
  have lower := le_point nonzero rounds
  have inside : (digits = 0 || place + (Nat.toDigits 10 digits).length < -400) = false := by
    simp only [Bool.or_eq_false_iff, decide_eq_false_iff_not]
    omega
  rw [ofDecimal, inside, if_neg Bool.false_ne_true, if_neg (by omega)]
  split
  · next small =>
      apply ofUnits_of_roundsTo negative normal (tenTo_pos _)
      rw [DecimalRoundsTo, tenTo_eq_one (by omega), Nat.mul_one] at rounds
      exact rounds
  · next large =>
      apply ofUnits_of_roundsTo negative normal Nat.one_pos
      rw [DecimalRoundsTo, show tenTo (-place).toNat = 1 from tenTo_eq_one (by omega)] at rounds
      exact rounds

end LoadScript.Double
