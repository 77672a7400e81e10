import LoadScript.Number.Shortest
import LoadScript.Proofs.Number.Rounding

/-!
The shortest decimal of a double is rounded to that double: one of the grids that are tried has a point
near enough, and every point that is taken is.
-/

namespace LoadScript.Double

theorem tenTo_eq (exponent : Nat) : tenTo exponent = 10 ^ exponent := rfl

theorem tenTo_pos (exponent : Nat) : 0 < tenTo exponent := Nat.pow_pos (by decide)

theorem tenTo_eq_one {place : Int} (low : place ≤ 0) : tenTo place.toNat = 1 := by
  rw [show place.toNat = 0 by omega]
  rfl

theorem lt_tenTo_length (value : Nat) : value < 10 ^ (Nat.toDigits 10 value).length :=
  (Nat.length_toDigits_le_iff (by decide) Nat.length_toDigits_pos).mp (Nat.le_refl _)

theorem tenTo_length_le {value : Nat} (positive : 0 < value) :
    10 ^ ((Nat.toDigits 10 value).length - 1) ≤ value := by
  have longer : 0 < (Nat.toDigits 10 value).length := Nat.length_toDigits_pos
  rcases Nat.eq_zero_or_pos ((Nat.toDigits 10 value).length - 1) with one | more
  · rw [one]
    exact positive
  · apply Nat.not_lt.mp
    intro less
    have := (Nat.length_toDigits_le_iff (by decide) more).mpr less
    omega

def DecimalRoundsTo (mantissa exponent digits : Nat) (place : Int) : Prop :=
  RoundsTo mantissa exponent (digits * unitsPerOne * tenTo place.toNat) (tenTo (-place).toNat)

def readsBack (mantissa exponent : Nat) (place : Int) (point : Nat) : Bool :=
  let scale := tenTo (-place).toNat
  let step := 4 * unitsPerOne * tenTo place.toNat
  let value := 4 * mantissa * twoTo exponent * scale
  let above := 2 * twoTo exponent * scale
  let below := lowerGap mantissa exponent * twoTo exponent * scale
  if mantissa % 2 = 0 then value - below ≤ point * step && point * step ≤ value + above
  else value - below < point * step && point * step < value + above

def chosenPoint (lower nearest : Nat) : Bool → Bool → Option Nat
  | true, true => some nearest
  | true, false => some lower
  | false, true => some (lower + 1)
  | false, false => none

theorem gridPoint?_eq {mantissa exponent value step : Nat} {place : Int}
    (valueEq : 4 * mantissa * twoTo exponent * tenTo (-place).toNat = value)
    (stepEq : 4 * unitsPerOne * tenTo place.toNat = step) :
    gridPoint? mantissa exponent place =
      chosenPoint (value / step) (roundQuotient value step)
        (readsBack mantissa exponent place (value / step))
        (readsBack mantissa exponent place (value / step + 1)) := by
  subst valueEq stepEq
  rfl

theorem chosenPoint_isSome {lower nearest : Nat} {lowerNear upperNear : Bool}
    (near : lowerNear = true ∨ upperNear = true) :
    (chosenPoint lower nearest lowerNear upperNear).isSome = true := by
  cases lowerNear <;> cases upperNear
  · simp at near
  · rfl
  · rfl
  · rfl

theorem near_of_chosenPoint {lower nearest point : Nat} {near : Nat → Bool}
    (rounded : nearest = lower ∨ nearest = lower + 1)
    (chosen : chosenPoint lower nearest (near lower) (near (lower + 1)) = some point) :
    near point = true := by
  cases lowerNear : near lower <;> cases upperNear : near (lower + 1) <;>
    simp only [lowerNear, upperNear, chosenPoint, Option.some.injEq, reduceCtorEq] at chosen
  · rwa [← chosen]
  · rwa [← chosen]
  · rcases rounded with same | next
    · rwa [← chosen, same]
    · rwa [← chosen, next]

theorem readsBack_iff {mantissa exponent point : Nat} {place : Int} {spacing step : Nat}
    (spacingEq : point * unitsPerOne * tenTo place.toNat = spacing)
    (stepEq : 2 ^ exponent * tenTo (-place).toNat = step) :
    readsBack mantissa exponent place point = true ↔
      if mantissa % 2 = 0 then
        4 * (mantissa * step) - lowerGap mantissa exponent * step ≤ 4 * spacing ∧
          4 * spacing ≤ 4 * (mantissa * step) + 2 * step
      else
        4 * (mantissa * step) - lowerGap mantissa exponent * step < 4 * spacing ∧
          4 * spacing < 4 * (mantissa * step) + 2 * step := by
  have place4 : point * (4 * unitsPerOne * tenTo place.toNat) = 4 * spacing := by
    rw [← spacingEq, Nat.mul_assoc 4, Nat.mul_left_comm, Nat.mul_assoc point]
  simp only [readsBack, twoTo_eq, Nat.mul_assoc, stepEq] at place4 ⊢
  rw [place4]
  split <;> simp only [Bool.and_eq_true, decide_eq_true_eq]

theorem roundsTo_of_readsBack {mantissa exponent point : Nat} {place : Int}
    (near : readsBack mantissa exponent place point = true) :
    DecimalRoundsTo mantissa exponent point place := by
  rw [readsBack_iff rfl rfl] at near
  simp only [DecimalRoundsTo, RoundsTo]
  split at near
  · next even =>
      rw [if_pos even]
      omega
  · next odd =>
      rw [if_neg odd]
      omega

theorem roundsTo_of_gridPoint? {mantissa exponent point : Nat} {place : Int}
    (found : gridPoint? mantissa exponent place = some point) :
    DecimalRoundsTo mantissa exponent point place := by
  apply roundsTo_of_readsBack
  rw [gridPoint?_eq rfl rfl] at found
  exact near_of_chosenPoint (roundQuotient_eq_or _ _) found

theorem gridPoint?_isSome {mantissa exponent : Nat} {place : Int}
    (fine : 4 * unitsPerOne * tenTo place.toNat <
      (lowerGap mantissa exponent + 2) * (2 ^ exponent * tenTo (-place).toNat)) :
    (gridPoint? mantissa exponent place).isSome = true := by
  generalize stepEq : 2 ^ exponent * tenTo (-place).toNat = step at fine
  generalize spacingEq : unitsPerOne * tenTo place.toNat = spacing
  have spacingPositive : 0 < spacing := spacingEq ▸ Nat.mul_pos unitsPerOne_pos (tenTo_pos _)
  rw [Nat.mul_assoc, spacingEq, Nat.add_mul] at fine
  have near (point : Nat) : readsBack mantissa exponent place point = true ↔ _ :=
    readsBack_iff (Nat.mul_assoc point _ _) stepEq
  simp only [spacingEq] at near
  have valueEq : 4 * mantissa * twoTo exponent * tenTo (-place).toNat = 4 * (mantissa * step) := by
    rw [twoTo_eq, Nat.mul_assoc, Nat.mul_assoc, stepEq]
  have gridEq : 4 * unitsPerOne * tenTo place.toNat = 4 * spacing := by
    rw [Nat.mul_assoc, spacingEq]
  rw [gridPoint?_eq valueEq gridEq]
  apply chosenPoint_isSome
  rw [near, near]
  have whole := Nat.div_add_mod (4 * (mantissa * step)) (4 * spacing)
  have remainder := Nat.mod_lt (4 * (mantissa * step))
    (show 4 * spacing > 0 from Nat.mul_pos (by decide) spacingPositive)
  generalize 4 * (mantissa * step) / (4 * spacing) = lower at *
  generalize 4 * (mantissa * step) % (4 * spacing) = rest at *
  rw [Nat.mul_assoc, Nat.mul_comm spacing] at whole
  have odd : mantissa % 2 = 1 → step ≤ mantissa * step := fun odd =>
    Nat.le_mul_of_pos_left step (by omega)
  have gapBound : lowerGap mantissa exponent * step ≤ 2 * step :=
    Nat.mul_le_mul_right step (lowerGap_le_two mantissa exponent)
  rw [Nat.add_mul, Nat.one_mul]
  generalize mantissa * step = value at *
  generalize lower * spacing = reached at *
  generalize lowerGap mantissa exponent * step = below at *
  split <;> omega

theorem fine_of_wide {mantissa exponent lead : Nat} {place : Int} (normal : IsNormal mantissa exponent)
    (first : place + 17 = lead) (reaches : 10 ^ lead * unitsPerOne ≤ mantissa * 2 ^ exponent) :
    4 * unitsPerOne * tenTo place.toNat <
      (lowerGap mantissa exponent + 2) * (2 ^ exponent * tenTo (-place).toNat) := by
  have gap : 3 ≤ lowerGap mantissa exponent + 2 :=
    Nat.add_le_add_right (one_le_lowerGap mantissa exponent) 2
  have mantissaBound : 4 * mantissa < 3 * 10 ^ 17 := by
    have := normal.mantissa_lt
    omega
  generalize scaleEq : tenTo (-place).toNat = scale
  have scalePositive : 0 < scale := scaleEq ▸ tenTo_pos _
  have shifted : tenTo place.toNat * 10 ^ 17 = 10 ^ lead * scale := by
    rw [← scaleEq, tenTo_eq, tenTo_eq, ← Nat.pow_add, ← Nat.pow_add]
    congr 1
    omega
  apply Nat.lt_of_mul_lt_mul_right (a := 10 ^ 17)
  calc 4 * unitsPerOne * tenTo place.toNat * 10 ^ 17
      = 4 * (10 ^ lead * unitsPerOne) * scale := by
        rw [Nat.mul_assoc _ _ (10 ^ 17), shifted, Nat.mul_comm (10 ^ lead) unitsPerOne]
        simp only [Nat.mul_assoc]
    _ ≤ 4 * (mantissa * 2 ^ exponent) * scale :=
        Nat.mul_le_mul_right _ (Nat.mul_le_mul_left _ reaches)
    _ = 4 * mantissa * (2 ^ exponent * scale) := by simp only [Nat.mul_assoc]
    _ < 3 * 10 ^ 17 * (2 ^ exponent * scale) :=
        Nat.mul_lt_mul_of_pos_right mantissaBound
          (Nat.mul_pos (Nat.two_pow_pos exponent) scalePositive)
    _ = 3 * (2 ^ exponent * scale) * 10 ^ 17 := Nat.mul_right_comm _ _ _
    _ ≤ (lowerGap mantissa exponent + 2) * (2 ^ exponent * scale) * 10 ^ 17 :=
        Nat.mul_le_mul_right _ (Nat.mul_le_mul_right _ gap)

theorem fine_of_narrow {mantissa exponent zeros : Nat} {place : Int}
    (normal : IsNormal mantissa exponent) (first : place + zeros + 16 = 0)
    (short : unitsPerOne < 10 ^ zeros * (mantissa * 2 ^ exponent)) :
    4 * unitsPerOne * tenTo place.toNat <
      (lowerGap mantissa exponent + 2) * (2 ^ exponent * tenTo (-place).toNat) := by
  have mantissaBound : 4 * mantissa ≤ (lowerGap mantissa exponent + 2) * 10 ^ 16 := by
    have := normal.mantissa_lt
    rw [lowerGap]
    split
    · next boundary =>
        have leading : mantissa = 2 ^ 52 := by
          simp only [Bool.and_eq_true, decide_eq_true_eq] at boundary
          exact boundary.1
        omega
    · omega
  have scaleEq : tenTo (-place).toNat = 10 ^ zeros * 10 ^ 16 := by
    rw [tenTo_eq, ← Nat.pow_add]
    congr 1
    omega
  rw [tenTo_eq_one (by omega), scaleEq, Nat.mul_one]
  calc 4 * unitsPerOne
      < 4 * (10 ^ zeros * (mantissa * 2 ^ exponent)) := Nat.mul_lt_mul_of_pos_left short (by decide)
    _ = 4 * mantissa * (2 ^ exponent * 10 ^ zeros) := by
        rw [Nat.mul_comm (10 ^ zeros)]
        simp only [Nat.mul_assoc]
    _ ≤ (lowerGap mantissa exponent + 2) * 10 ^ 16 * (2 ^ exponent * 10 ^ zeros) :=
        Nat.mul_le_mul_right _ mantissaBound
    _ = (lowerGap mantissa exponent + 2) * (2 ^ exponent * (10 ^ zeros * 10 ^ 16)) := by
        rw [Nat.mul_assoc, Nat.mul_comm (10 ^ 16), Nat.mul_assoc (2 ^ exponent)]

theorem gridPoint?_last_isSome {mantissa exponent : Nat} (normal : IsNormal mantissa exponent)
    (nonzero : mantissa ≠ 0) :
    (gridPoint? mantissa exponent (leadingPlace (mantissa * twoTo exponent) - 18)).isSome = true := by
  have unitsPositive : 0 < mantissa * twoTo exponent :=
    Nat.mul_pos (Nat.pos_of_ne_zero nonzero) (twoTo_pos exponent)
  apply gridPoint?_isSome
  rw [leadingPlace]
  split
  · next wide =>
      have quotientPositive := Nat.div_pos wide unitsPerOne_pos
      have digits : 0 < (Nat.toDigits 10 (mantissa * twoTo exponent / unitsPerOne)).length :=
        Nat.length_toDigits_pos
      have reaches := (Nat.le_div_iff_mul_le unitsPerOne_pos).mp (tenTo_length_le quotientPositive)
      exact fine_of_wide normal (by omega) reaches
  · have digits : 0 < (Nat.toDigits 10 (unitsPerOne / (mantissa * twoTo exponent))).length :=
      Nat.length_toDigits_pos
    have short := (Nat.div_lt_iff_lt_mul unitsPositive).mp
      (lt_tenTo_length (unitsPerOne / (mantissa * twoTo exponent)))
    exact fine_of_narrow normal (by rw [Int.ofNat_eq_natCast]; omega) short

theorem shortest_roundsTo {mantissa exponent : Nat} (normal : IsNormal mantissa exponent)
    (nonzero : mantissa ≠ 0) :
    DecimalRoundsTo mantissa exponent (shortest mantissa exponent).digits
      (shortest mantissa exponent).exponent := by
  have last := gridPoint?_last_isSome normal nonzero
  rw [shortest]
  generalize leadingPlace (mantissa * twoTo exponent) = first at last ⊢
  generalize search : List.findSome? _ _ = result
  cases result with
  | none =>
      have missing := List.findSome?_eq_none_iff.mp search (first - 18)
        (List.mem_map.mpr ⟨18, by decide, rfl⟩)
      rw [Option.map_eq_none_iff] at missing
      simp [missing] at last
  | some decimal =>
      obtain ⟨place, -, found⟩ := List.exists_of_findSome?_eq_some search
      simp only [Option.map_eq_some_iff] at found
      obtain ⟨point, found, rfl⟩ := found
      exact roundsTo_of_gridPoint? found

theorem decimalRoundsTo_shift {mantissa exponent digits : Nat} {place : Int} (zeros : Nat)
    (rounds : DecimalRoundsTo mantissa exponent digits place) :
    DecimalRoundsTo mantissa exponent (digits * 10 ^ zeros) (place - zeros) := by
  rw [DecimalRoundsTo, ← roundsTo_scale (tenTo_pos (-place).toNat)]
  rw [DecimalRoundsTo, ← roundsTo_scale (tenTo_pos (-(place - zeros)).toNat)] at rounds
  have shifted : tenTo place.toNat * tenTo (-(place - zeros)).toNat =
      10 ^ zeros * tenTo (place - zeros).toNat * tenTo (-place).toNat := by
    simp only [tenTo_eq, ← Nat.pow_add]
    congr 1
    omega
  have numerators : digits * unitsPerOne * tenTo place.toNat * tenTo (-(place - zeros)).toNat =
      digits * 10 ^ zeros * unitsPerOne * tenTo (place - zeros).toNat * tenTo (-place).toNat := by
    rw [Nat.mul_assoc _ (tenTo _), shifted]
    simp only [← Nat.mul_assoc]
    rw [Nat.mul_right_comm digits unitsPerOne]
  rw [← numerators, Nat.mul_comm (tenTo (-(place - zeros)).toNat)]
  exact rounds

end LoadScript.Double
