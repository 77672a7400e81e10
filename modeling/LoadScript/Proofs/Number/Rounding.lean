import LoadScript.Number.Double
import Mathlib.Algebra.Group.Nat.Defs

/-!
Rounding quotients to doubles. Every quotient between the midpoints around a double is rounded to it, and
whatever is rounded has the one form of its value.
-/

namespace LoadScript.Double

theorem twoTo_eq (exponent : Nat) : twoTo exponent = 2 ^ exponent := rfl

theorem twoTo_add (first second : Nat) : twoTo (first + second) = twoTo first * twoTo second :=
  Nat.pow_add 2 first second

theorem twoTo_pos (exponent : Nat) : 0 < twoTo exponent := Nat.two_pow_pos exponent

theorem twoTo_le_twoTo {lower upper : Nat} (below : lower ≤ upper) : twoTo lower ≤ twoTo upper :=
  Nat.pow_le_pow_right (by decide) below

theorem unitsPerOne_pos : 0 < unitsPerOne := twoTo_pos 1074

theorem roundQuotient_eq_or (numerator denominator : Nat) :
    roundQuotient numerator denominator = numerator / denominator ∨
      roundQuotient numerator denominator = numerator / denominator + 1 := by
  simp only [roundQuotient]
  split
  · exact .inl rfl
  · split
    · exact .inr rfl
    · omega

theorem roundQuotient_le {numerator denominator bound : Nat} (positive : 0 < denominator)
    (below : numerator ≤ bound * denominator) : roundQuotient numerator denominator ≤ bound := by
  have atMost : numerator / denominator ≤ bound := by
    rw [Nat.div_le_iff_le_mul positive]
    omega
  rcases Nat.lt_or_eq_of_le atMost with less | same
  · rcases roundQuotient_eq_or numerator denominator with rounded | rounded <;> omega
  · have whole := Nat.div_add_mod numerator denominator
    rw [same, Nat.mul_comm] at whole
    simp only [roundQuotient, same]
    split
    · omega
    · omega

theorem le_roundQuotient {numerator denominator bound : Nat} (positive : 0 < denominator)
    (above : bound * denominator ≤ numerator) : bound ≤ roundQuotient numerator denominator := by
  have atLeast := (Nat.le_div_iff_mul_le positive).mpr above
  rcases roundQuotient_eq_or numerator denominator with rounded | rounded <;> omega

/-- The nearest whole number to a quotient is the one that is half a step away at most, and less if it is
odd. -/
theorem roundQuotient_of_near {numerator denominator nearest : Nat} (positive : 0 < denominator)
    (lower : 2 * (nearest * denominator) ≤ 2 * numerator + denominator)
    (upper : 2 * numerator ≤ 2 * (nearest * denominator) + denominator)
    (strict : nearest % 2 = 1 → 2 * (nearest * denominator) < 2 * numerator + denominator ∧
      2 * numerator < 2 * (nearest * denominator) + denominator) :
    roundQuotient numerator denominator = nearest := by
  have whole := Nat.div_add_mod numerator denominator
  have below := Nat.mod_lt numerator positive
  rw [Nat.mul_comm] at whole
  simp only [roundQuotient]
  generalize numerator / denominator = quotient at *
  generalize numerator % denominator = remainder at *
  have atLeast : quotient ≤ nearest := by
    rcases Nat.lt_or_ge nearest quotient with smaller | holds
    · have step : (nearest + 1) * denominator ≤ quotient * denominator :=
        Nat.mul_le_mul_right _ smaller
      rw [Nat.add_mul, Nat.one_mul] at step
      omega
    · exact holds
  have atMost : nearest ≤ quotient + 1 := by
    rcases Nat.lt_or_ge (quotient + 1) nearest with greater | holds
    · have step : (quotient + 2) * denominator ≤ nearest * denominator :=
        Nat.mul_le_mul_right _ greater
      rw [Nat.add_mul] at step
      omega
    · exact holds
  have candidates : nearest = quotient ∨ nearest = quotient + 1 := by omega
  rcases candidates with rfl | rfl
  · rcases Nat.mod_two_eq_zero_or_one nearest with even | odd
    · split
      · rfl
      · split <;> omega
    · have := strict odd
      rw [if_pos (by omega)]
  · rw [Nat.add_mul, Nat.one_mul] at lower upper strict
    rcases Nat.mod_two_eq_zero_or_one (quotient + 1) with even | odd
    · rw [if_neg (by omega)]
      split <;> omega
    · have := strict odd
      rw [if_neg (by omega), if_pos (by omega)]

structure IsNormal (mantissa exponent : Nat) : Prop where
  mantissa_lt : mantissa < 2 ^ 53
  exponent_eq_zero : mantissa < 2 ^ 52 → exponent = 0
  exponent_le : exponent ≤ topExponent

inductive IsCanonical : Double → Prop where
  | notANumber : IsCanonical .notANumber
  | infinity {negative : Bool} : IsCanonical (.infinity negative)
  | finite {negative : Bool} {mantissa exponent : Nat} :
      IsNormal mantissa exponent → IsCanonical (.finite negative mantissa exponent)

theorem shift_eq {quotient shift : Nat} (lower : 2 ^ (52 + shift) ≤ quotient)
    (upper : quotient < 2 ^ (53 + shift)) : quotient.log2 - 52 = shift := by
  have nonzero : quotient ≠ 0 := by
    have := Nat.two_pow_pos (52 + shift)
    omega
  have : quotient.log2 = 52 + shift := by
    rw [Nat.log2_eq_iff nonzero]
    exact ⟨lower, by rwa [show 52 + shift + 1 = 53 + shift by omega]⟩
  omega

theorem shift_eq_zero {quotient : Nat} (upper : quotient < 2 ^ 53) : quotient.log2 - 52 = 0 := by
  rcases Nat.eq_zero_or_pos quotient with rfl | positive
  · rfl
  · have := (Nat.log2_lt (k := 53) (by omega)).mpr upper
    omega

theorem ofUnits_eq (negative : Bool) {numerator denominator shift mantissa : Nat}
    (shiftEq : (numerator / denominator).log2 - 52 = shift)
    (mantissaEq : roundQuotient numerator (denominator * 2 ^ shift) = mantissa) :
    ofUnits negative numerator denominator =
      if mantissa = 2 ^ 53 then
        if topExponent < shift + 1 then .infinity negative else .finite negative (2 ^ 52) (shift + 1)
      else if topExponent < shift then .infinity negative else .finite negative mantissa shift := by
  by_cases full : mantissa = 2 ^ 53 <;>
    simp only [ofUnits, twoTo_eq, shiftEq, mantissaEq, full, ↓reduceIte]

theorem ofUnits_isCanonical (negative : Bool) {numerator denominator : Nat}
    (positive : 0 < denominator) : IsCanonical (ofUnits negative numerator denominator) := by
  have quotientBound := Nat.lt_log2_self (n := numerator / denominator)
  have quotientReaches := Nat.log2_self_le (n := numerator / denominator)
  generalize shiftEq : (numerator / denominator).log2 - 52 = shift
  have stepPositive : 0 < denominator * 2 ^ shift := Nat.mul_pos positive (Nat.two_pow_pos shift)
  have atMost : roundQuotient numerator (denominator * 2 ^ shift) ≤ 2 ^ 53 := by
    apply roundQuotient_le stepPositive
    have wider : numerator / denominator < 2 ^ (53 + shift) :=
      Nat.lt_of_lt_of_le quotientBound (Nat.pow_le_pow_right (by decide) (by omega))
    rw [Nat.div_lt_iff_lt_mul positive, Nat.pow_add] at wider
    rw [Nat.mul_left_comm, Nat.mul_comm denominator]
    omega
  have atLeast : shift ≠ 0 → 2 ^ 52 ≤ roundQuotient numerator (denominator * 2 ^ shift) := by
    intro shifted
    apply le_roundQuotient stepPositive
    have nonzero : numerator / denominator ≠ 0 := by
      intro zero
      rw [zero] at shiftEq
      exact shifted shiftEq.symm
    have reaches := quotientReaches nonzero
    rw [show (numerator / denominator).log2 = 52 + shift by omega,
      Nat.le_div_iff_mul_le positive, Nat.pow_add] at reaches
    rw [Nat.mul_left_comm, Nat.mul_comm denominator]
    omega
  generalize mantissaEq : roundQuotient numerator (denominator * 2 ^ shift) = mantissa at *
  rw [ofUnits_eq negative shiftEq mantissaEq]
  split
  · split
    · exact .infinity
    · exact .finite ⟨by decide, fun impossible => absurd impossible (by decide), by omega⟩
  · split
    · exact .infinity
    · exact .finite ⟨by omega, fun small => by omega, by omega⟩

def lowerGap (mantissa exponent : Nat) : Nat :=
  if mantissa = twoTo 52 && exponent != 0 then 1 else 2

/-- Whether a quotient of units lies between the midpoints to both neighbours of a finite number, or on
one of them if the mantissa is even. -/
def RoundsTo (mantissa exponent numerator denominator : Nat) : Prop :=
  let step := 2 ^ exponent * denominator
  if mantissa % 2 = 0 then
    4 * (mantissa * step) ≤ 4 * numerator + lowerGap mantissa exponent * step ∧
      4 * numerator ≤ 4 * (mantissa * step) + 2 * step
  else
    4 * (mantissa * step) < 4 * numerator + lowerGap mantissa exponent * step ∧
      4 * numerator < 4 * (mantissa * step) + 2 * step

theorem lowerGap_le_two (mantissa exponent : Nat) : lowerGap mantissa exponent ≤ 2 := by
  rw [lowerGap]
  split <;> decide

theorem one_le_lowerGap (mantissa exponent : Nat) : 1 ≤ lowerGap mantissa exponent := by
  rw [lowerGap]
  split <;> decide

theorem lowerGap_of_boundary {mantissa exponent : Nat} (leading : mantissa = 2 ^ 52)
    (raised : exponent ≠ 0) : lowerGap mantissa exponent = 1 := by
  subst leading
  have : (exponent != 0) = true := by simpa using raised
  rw [lowerGap, this]
  rfl

theorem RoundsTo.bounds {mantissa exponent numerator denominator step : Nat}
    (stepEq : 2 ^ exponent * denominator = step)
    (rounds : RoundsTo mantissa exponent numerator denominator) :
    4 * (mantissa * step) ≤ 4 * numerator + 2 * step ∧
      4 * numerator ≤ 4 * (mantissa * step) + 2 * step ∧
      (mantissa % 2 = 1 → 4 * (mantissa * step) < 4 * numerator + 2 * step ∧
        4 * numerator < 4 * (mantissa * step) + 2 * step) ∧
      (mantissa = 2 ^ 52 → exponent ≠ 0 → 4 * (mantissa * step) ≤ 4 * numerator + step) := by
  simp only [RoundsTo, stepEq] at rounds
  have gapBound : lowerGap mantissa exponent * step ≤ 2 * step :=
    Nat.mul_le_mul_right step (lowerGap_le_two mantissa exponent)
  refine ⟨?_, ?_, ?_, ?_⟩
  · split at rounds <;> omega
  · split at rounds <;> omega
  · intro odd
    rw [if_neg (by omega)] at rounds
    omega
  · intro leading raised
    rw [lowerGap_of_boundary leading raised] at rounds
    split at rounds <;> omega

theorem ofUnits_of_roundsTo (negative : Bool) {mantissa exponent numerator denominator : Nat}
    (normal : IsNormal mantissa exponent) (positive : 0 < denominator)
    (rounds : RoundsTo mantissa exponent numerator denominator) :
    ofUnits negative numerator denominator = .finite negative mantissa exponent := by
  generalize stepEq : 2 ^ exponent * denominator = step
  have stepPositive : 0 < step := stepEq ▸ Nat.mul_pos (Nat.two_pow_pos exponent) positive
  obtain ⟨lower, upper, strict, boundary⟩ := rounds.bounds stepEq
  have belowTop : mantissa * step + step ≤ 2 ^ 53 * step := by
    have := Nat.mul_le_mul_right step normal.mantissa_lt
    rwa [Nat.succ_mul] at this
  have quotientUpper : numerator / denominator < 2 ^ (53 + exponent) := by
    rw [Nat.div_lt_iff_lt_mul positive, Nat.pow_add, Nat.mul_assoc, stepEq]
    omega
  have mantissaNear : roundQuotient numerator (denominator * 2 ^ exponent) = mantissa := by
    rw [Nat.mul_comm, stepEq]
    exact roundQuotient_of_near stepPositive (by omega) (by omega) (fun odd => by
      have := strict odd
      omega)
  have finish (shiftEq : (numerator / denominator).log2 - 52 = exponent) :
      ofUnits negative numerator denominator = .finite negative mantissa exponent := by
    rw [ofUnits_eq negative shiftEq mantissaNear, if_neg (Nat.ne_of_lt normal.mantissa_lt),
      if_neg (Nat.not_lt.mpr normal.exponent_le)]
  rcases Nat.eq_zero_or_pos exponent with rfl | raised
  · exact finish (shift_eq_zero quotientUpper)
  · rcases Nat.lt_or_ge numerator (2 ^ 52 * step) with short | reaches
    · -- Just below a power of two the quotient is rounded up to it from the exponent below.
      have leading : mantissa = 2 ^ 52 := by
        have large : 2 ^ 52 ≤ mantissa := by
          rcases Nat.lt_or_ge mantissa (2 ^ 52) with small | large
          · have := normal.exponent_eq_zero small
            omega
          · exact large
        rcases Nat.lt_or_eq_of_le large with larger | same
        · have := Nat.mul_le_mul_right step larger
          rw [Nat.succ_mul] at this
          omega
        · exact same.symm
      obtain ⟨lowered, rfl⟩ : ∃ lowered, exponent = lowered + 1 := ⟨exponent - 1, by omega⟩
      generalize halfEq : 2 ^ lowered * denominator = half
      have stepHalf : step = 2 * half := by
        rw [← stepEq, ← halfEq, Nat.pow_succ, Nat.mul_comm (2 ^ lowered), Nat.mul_assoc]
      have above := boundary leading (by omega)
      rw [leading, stepHalf] at above
      rw [stepHalf] at short
      have lowerShift : 2 ^ (52 + lowered) ≤ numerator / denominator := by
        rw [Nat.le_div_iff_mul_le positive, Nat.pow_add, Nat.mul_assoc, halfEq]
        omega
      have upperShift : numerator / denominator < 2 ^ (53 + lowered) := by
        rw [Nat.div_lt_iff_lt_mul positive, Nat.pow_add, Nat.mul_assoc, halfEq]
        omega
      have rounded : roundQuotient numerator (denominator * 2 ^ lowered) = 2 ^ 53 := by
        rw [Nat.mul_comm, halfEq]
        exact roundQuotient_of_near (by omega) (by omega) (by omega)
          (fun odd => absurd odd (by decide))
      rw [ofUnits_eq negative (shift_eq lowerShift upperShift) rounded, if_pos rfl,
        if_neg (Nat.not_lt.mpr normal.exponent_le), leading]
    · have lowerShift : 2 ^ (52 + exponent) ≤ numerator / denominator := by
        rw [Nat.le_div_iff_mul_le positive, Nat.pow_add, Nat.mul_assoc, stepEq]
        exact reaches
      exact finish (shift_eq lowerShift quotientUpper)

theorem roundsTo_scale {mantissa exponent numerator denominator factor : Nat}
    (positive : 0 < factor) :
    RoundsTo mantissa exponent (numerator * factor) (denominator * factor) ↔
      RoundsTo mantissa exponent numerator denominator := by
  simp only [RoundsTo, ← Nat.mul_assoc, ← Nat.add_mul, Nat.mul_le_mul_right_iff positive,
    Nat.mul_lt_mul_right positive]

end LoadScript.Double
