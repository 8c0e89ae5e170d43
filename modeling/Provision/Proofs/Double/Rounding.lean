import Mathlib.Tactic.Ring
import Provision.Double.Decimal

/-!
# Rounding to the nearest double

The rank nearest to a quotient depends on the quotient only (`ofRatio_congr`), and a magnitude that
is a double already is rounded to itself (`rankOfUnits_units`). A decimal is rounded in the same way
however large or small its power of ten is (`ofDecimal_eq_ofRatio`): the two shortcuts for extreme
powers agree with the rounding they save. So a decimal is read as its value alone says, whatever
zeros are moved between its digits and its exponent (`ofDecimal_shift`).
-/

namespace Provision.Double

theorem binade_eq : binade = 2 ^ 52 := rfl

/-- The number of bits below the point. -/
def fractionBits : ℕ := 1074

theorem unitsPerOne_eq : unitsPerOne = 2 ^ fractionBits := Nat.pow_eq

theorem unitsPerOne_pos : 0 < unitsPerOne := by
  rw [unitsPerOne_eq]
  exact Nat.two_pow_pos fractionBits

/-! ## Quotients -/

theorem roundDiv_scale (num den : ℕ) {c : ℕ} (hc : 0 < c) :
    roundDiv (num * c) (den * c) = roundDiv num den := by
  unfold roundDiv
  simp only [Nat.mul_div_mul_right _ _ hc, Nat.mul_mod_mul_right, ← Nat.mul_assoc,
    Nat.mul_lt_mul_right hc]

theorem roundDiv_mul (n : ℕ) {den : ℕ} (hden : 0 < den) : roundDiv (n * den) den = n := by
  unfold roundDiv
  simp [Nat.mul_div_cancel _ hden, hden]

theorem roundDiv_eq_zero {num den : ℕ} (h : 2 * num < den) : roundDiv num den = 0 := by
  unfold roundDiv
  simp [Nat.div_eq_of_lt (show num < den by omega), Nat.mod_eq_of_lt (show num < den by omega), h]

theorem rankOfUnits_scale (num den : ℕ) {c : ℕ} (hc : 0 < c) :
    rankOfUnits (num * c) (den * c) = rankOfUnits num den := by
  unfold rankOfUnits
  simp only [Nat.mul_div_mul_right _ _ hc]
  rw [Nat.mul_right_comm den c, roundDiv_scale num _ hc]

theorem ofRatio_scale (neg : Bool) (num den : ℕ) {c : ℕ} (hc : 0 < c) :
    ofRatio neg (num * c) (den * c) = ofRatio neg num den := by
  unfold ofRatio
  rw [Nat.mul_right_comm num c, rankOfUnits_scale _ _ hc]

/-- **Equal quotients are rounded to the same double.** -/
theorem ofRatio_congr (neg : Bool) {num den num' den' : ℕ} (hden : 0 < den) (hden' : 0 < den')
    (h : num * den' = num' * den) : ofRatio neg num den = ofRatio neg num' den' := by
  rw [← ofRatio_scale neg num den hden', h, Nat.mul_comm den den', ofRatio_scale neg num' den' hden]

/-! ## Ranks -/

/-- **A magnitude that is a double already** is rounded to itself. -/
theorem rankOfUnits_units (rank : ℕ) : rankOfUnits (units rank) 1 = rank := by
  unfold rankOfUnits units scale significand
  simp only [Nat.pow_eq, Nat.div_one, Nat.one_mul]
  have hbinade : 0 < binade := by rw [binade_eq]; exact Nat.two_pow_pos 52
  by_cases hrank : rank < binade
  · -- a subnormal number: the rank is the number of units
    have hlog : rank.log2 - 52 = 0 := by
      rcases Nat.eq_zero_or_pos rank with rfl | hpos
      · rfl
      · have hlt := (Nat.log2_lt (Nat.ne_of_gt hpos)).2 (binade_eq ▸ hrank)
        omega
    have hdiv : rank / binade - 1 = 0 := by rw [Nat.div_eq_of_lt hrank]
    simp only [if_pos hrank, hdiv, Nat.pow_zero, Nat.mul_one, hlog, Nat.zero_mul, Nat.zero_add]
    simpa using roundDiv_mul rank Nat.one_pos
  · -- a normal number: the significand has 53 bits, so the scale is found again
    have hle : binade ≤ rank := Nat.le_of_not_lt hrank
    rw [if_neg hrank]
    set scale := rank / binade - 1 with hscale
    set sig := binade + rank % binade with hsig
    have hmod : rank % binade < binade := Nat.mod_lt rank hbinade
    have hpow : 0 < 2 ^ scale := Nat.two_pow_pos scale
    have hne : sig * 2 ^ scale ≠ 0 := Nat.mul_ne_zero (by omega) (Nat.ne_of_gt hpow)
    have hlog : (sig * 2 ^ scale).log2 = 52 + scale := by
      refine (Nat.log2_eq_iff hne).2 ⟨?_, ?_⟩
      · rw [Nat.pow_add, ← binade_eq]
        exact Nat.mul_le_mul_right _ (by omega)
      · rw [show 52 + scale + 1 = 53 + scale by omega, Nat.pow_add]
        have hsig' : sig < 2 ^ 53 := by rw [show 2 ^ 53 = binade + binade from rfl]; omega
        exact Nat.mul_lt_mul_of_pos_right hsig' hpow
    rw [hlog, Nat.add_sub_cancel_left, roundDiv_mul sig hpow]
    have hdiv : 1 ≤ rank / binade := (Nat.le_div_iff_mul_le hbinade).2 (by omega)
    have hsplit := Nat.div_add_mod rank binade
    have hmul : scale * binade + binade = binade * (rank / binade) := by
      rw [hscale, ← Nat.succ_mul, Nat.succ_eq_add_one, Nat.sub_add_cancel hdiv, Nat.mul_comm]
    omega

/-- The rank of a signed number gives the number back. -/
theorem ofRank_val (neg : Bool) (rank : Fin (top + 1)) :
    ofRank neg rank.val = .signed neg rank := by
  unfold ofRank
  have hle : rank.val ≤ top := Nat.le_of_lt_succ rank.isLt
  rw [Nat.min_eq_left hle]
  congr 1
  exact Fin.ext (Nat.mod_eq_of_lt rank.isLt)

theorem ofRank_injective {neg : Bool} {m n : ℕ} (hm : m ≤ top) (hn : n ≤ top)
    (h : ofRank neg m = ofRank neg n) : m = n := by
  have hval := congrArg Fin.val (Double.signed.inj h).2
  simp only [Fin.ofNat, Nat.min_eq_left hm, Nat.min_eq_left hn] at hval
  rwa [Nat.mod_eq_of_lt (by omega), Nat.mod_eq_of_lt (by omega)] at hval

/-- Only the sign of a rounded number depends on the sign. -/
theorem ofRank_sign {m n : ℕ} (h : ofRank false m = ofRank false n) (neg : Bool) :
    ofRank neg m = ofRank neg n := by
  unfold ofRank at h ⊢
  rw [(Double.signed.inj h).2]

/-! ## Decimals -/

theorem eight_pow_le (n : ℕ) : 2 ^ (3 * n) ≤ 10 ^ n := by
  rw [Nat.pow_mul]
  exact Nat.pow_le_pow_left (by decide) n

/-- A quotient of less than half a unit is rounded to zero. -/
theorem ofRatio_eq_zero (neg : Bool) {num den : ℕ} (h : 2 * (num * unitsPerOne) < den) :
    ofRatio neg num den = zero neg := by
  unfold ofRatio zero rankOfUnits
  simp only [Nat.div_eq_of_lt (show num * unitsPerOne < den by omega), Nat.log2_zero, Nat.zero_sub,
    Nat.zero_mul, Nat.zero_add, Nat.pow_eq, Nat.pow_zero, Nat.mul_one, roundDiv_eq_zero h]

/-- A number of `2 ^ 1025` or more is rounded to infinity. -/
theorem ofRatio_eq_infinity (neg : Bool) {num bits : ℕ} (hbits : 1025 ≤ bits) (h : 2 ^ bits ≤ num) :
    ofRatio neg num 1 = infinity neg := by
  unfold ofRatio infinity rankOfUnits
  rw [Nat.div_one]
  have hne : num * unitsPerOne ≠ 0 := by
    have := Nat.two_pow_pos bits
    have := unitsPerOne_pos
    exact Nat.mul_ne_zero (by omega) (by omega)
  have hlog : bits + fractionBits ≤ (num * unitsPerOne).log2 := by
    rw [Nat.le_log2 hne, unitsPerOne_eq, Nat.pow_add]
    exact Nat.mul_le_mul_right _ h
  have hrank : top ≤ ((num * unitsPerOne).log2 - 52) * binade := by
    unfold top
    exact Nat.mul_le_mul_right _ (by unfold fractionBits at hlog; omega)
  unfold ofRank
  rw [Nat.min_eq_right (Nat.le_trans hrank (Nat.le_add_right _ _)), Nat.min_self]

/-- **Reading a decimal is rounding its value**, also where a shortcut is taken. -/
theorem ofDecimal_eq_ofRatio (neg : Bool) (digits : ℕ) (exponent : ℤ) :
    ofDecimal neg digits exponent =
      ofRatio neg (digits * 10 ^ exponent.toNat) (10 ^ (-exponent).toNat) := by
  have hten : ∀ n : ℕ, 0 < 10 ^ n := fun n => Nat.pow_pos (by decide)
  unfold ofDecimal
  by_cases hzero : digits = 0
  · rw [if_pos hzero, hzero, Nat.zero_mul, ofRatio_eq_zero]
    rw [Nat.zero_mul]
    exact hten _
  · rw [if_neg hzero]
    by_cases hlarge : 400 < exponent
    · -- `10 ^ 401` is more than `2 ^ 1203`
      rw [if_pos hlarge, show (-exponent).toNat = 0 by omega, Nat.pow_zero]
      refine (ofRatio_eq_infinity neg (show 1025 ≤ 3 * exponent.toNat by omega) ?_).symm
      calc 2 ^ (3 * exponent.toNat) ≤ 10 ^ exponent.toNat := eight_pow_le _
        _ ≤ digits * 10 ^ exponent.toNat := Nat.le_mul_of_pos_left _ (by omega)
    · rw [if_neg hlarge]
      by_cases hsmall : exponent < -(400 + digits.log2 + 1 : ℤ)
      · -- the digits are less than a power of two that the power of ten exceeds
        rw [if_pos hsmall, show exponent.toNat = 0 by omega, Nat.pow_zero, Nat.mul_one,
          ofRatio_eq_zero]
        calc 2 * (digits * unitsPerOne)
            < 2 * (2 ^ (digits.log2 + 1) * unitsPerOne) := by
              have := Nat.mul_lt_mul_of_pos_right (@Nat.lt_log2_self digits) unitsPerOne_pos
              omega
          _ = 2 ^ (digits.log2 + fractionBits + 2) := by rw [unitsPerOne_eq]; ring
          _ ≤ 2 ^ (3 * (-exponent).toNat) :=
              Nat.pow_le_pow_right (by decide) (by unfold fractionBits; omega)
          _ ≤ 10 ^ (-exponent).toNat := eight_pow_le _
      · rw [if_neg hsmall]
        cases exponent with
        | ofNat e => simp
        | negSucc e => simp

/-- **Zeros moved from the digits to the exponent** do not change the double. -/
theorem ofDecimal_shift (neg : Bool) (digits : ℕ) (exponent : ℤ) (zeros : ℕ) :
    ofDecimal neg (digits * 10 ^ zeros) (exponent - zeros) = ofDecimal neg digits exponent := by
  rw [ofDecimal_eq_ofRatio, ofDecimal_eq_ofRatio]
  refine ofRatio_congr neg (Nat.pow_pos (by decide)) (Nat.pow_pos (by decide)) ?_
  have hpow : zeros + (exponent - zeros).toNat + (-exponent).toNat =
      exponent.toNat + (-(exponent - zeros)).toNat := by omega
  calc digits * 10 ^ zeros * 10 ^ (exponent - zeros).toNat * 10 ^ (-exponent).toNat
      = digits * 10 ^ (zeros + (exponent - zeros).toNat + (-exponent).toNat) := by ring
    _ = digits * 10 ^ exponent.toNat * 10 ^ (-(exponent - zeros)).toNat := by rw [hpow]; ring

end Provision.Double
