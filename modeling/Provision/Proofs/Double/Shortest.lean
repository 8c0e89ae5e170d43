import Provision.Proofs.Double.Rounding

/-!
# The shortest decimal reads back

Every candidate of the search is checked by reading it back, and if the search found none, the
exact decimal would be taken, which reads back as well (`ofDecimal_exactDecimal`). So the decimal
that a double is written with denotes the double (`ofDecimal_shortest`).
-/

namespace Provision.Double

/-- **The exact decimal of a rank reads back.** -/
theorem ofDecimal_exactDecimal (rank : ℕ) :
    ofDecimal false (exactDecimal rank).1 (exactDecimal rank).2 = ofRank false rank := by
  have hunits : ∀ num den, 0 < den → num * unitsPerOne = units rank * den →
      ofRatio false num den = ofRank false rank := by
    intro num den hden h
    unfold ofRatio
    rw [h, ← Nat.one_mul den, ← Nat.mul_assoc, Nat.mul_one, rankOfUnits_scale _ _ hden,
      rankOfUnits_units]
  rw [ofDecimal_eq_ofRatio]
  unfold exactDecimal
  by_cases hscale : 1074 ≤ scale rank
  · rw [if_pos hscale]
    refine hunits _ _ (Nat.pow_pos (by decide)) ?_
    have hpow : 2 ^ scale rank = 2 ^ (scale rank - 1074) * 2 ^ fractionBits := by
      rw [← Nat.pow_add]
      unfold fractionBits
      congr 1
      omega
    unfold units
    simp only [Nat.pow_eq, Int.toNat_zero, Int.neg_zero, Nat.pow_zero, Nat.mul_one, hpow,
      unitsPerOne_eq]
    ring
  · rw [if_neg hscale]
    refine hunits _ _ (Nat.pow_pos (by decide)) ?_
    set j := 1074 - scale rank with hj
    have hpow : 2 ^ fractionBits = 2 ^ scale rank * 2 ^ j := by
      rw [← Nat.pow_add]
      unfold fractionBits
      congr 1
      omega
    have hten : 10 ^ j = 2 ^ j * 5 ^ j := by rw [← Nat.mul_pow]
    unfold units
    simp only [Nat.pow_eq, Int.neg_neg, Int.toNat_natCast, unitsPerOne_eq, hpow, hten,
      show (-(j : ℤ)).toNat = 0 by omega, Nat.pow_zero, Nat.mul_one]
    ring

theorem ofDecimal_trim (neg : Bool) (fuel : ℕ) :
    ∀ d : ℕ × ℤ, ofDecimal neg (trim fuel d).1 (trim fuel d).2 = ofDecimal neg d.1 d.2 := by
  induction fuel with
  | zero => intro d; rfl
  | succ fuel ih =>
    rintro ⟨digits, exponent⟩
    unfold trim
    split
    · rename_i h
      rw [ih]
      have hshift := ofDecimal_shift neg (digits / 10) (exponent + 1) 1
      have hdigits : digits / 10 * 10 ^ 1 = digits := by omega
      have hexponent : exponent + 1 - ((1 : ℕ) : ℤ) = exponent := by omega
      rw [hdigits, hexponent] at hshift
      exact hshift.symm
    · rfl

/-- **The shortest decimal of a rank reads back.** -/
theorem ofDecimal_shortest (neg : Bool) (rank : ℕ) :
    ofDecimal neg (shortest rank).1 (shortest rank).2 = ofRank neg rank := by
  -- the sign aside, the candidate that is taken was checked, or is the exact decimal
  have hfalse : ofDecimal false (shortest rank).1 (shortest rank).2 = ofRank false rank := by
    unfold shortest
    have hexact := ofDecimal_exactDecimal rank
    rcases hd : exactDecimal rank with ⟨digits, exponent⟩
    rw [hd] at hexact
    simp only
    rw [ofDecimal_trim]
    cases hfound : (List.range 17).findSome? fun k =>
        (neighbours digits exponent (digitCount digits) (k + 1)).find? fun x =>
          decide (ofDecimal false x.1 x.2 = ofRank false rank) with
    | none => exact hexact
    | some d =>
      obtain ⟨k, -, hk⟩ := List.exists_of_findSome?_eq_some hfound
      have hread := List.find?_some hk
      exact of_decide_eq_true hread
  rw [ofDecimal_eq_ofRatio] at hfalse ⊢
  exact ofRank_sign hfalse neg

theorem shortest_ne_zero {rank : ℕ} (hzero : rank ≠ 0) (htop : rank ≤ top) :
    (shortest rank).1 ≠ 0 := by
  intro h
  have hread := ofDecimal_shortest false rank
  unfold ofDecimal at hread
  rw [if_pos h] at hread
  exact hzero (ofRank_injective (Nat.zero_le _) htop hread).symm

end Provision.Double
