/-
**Points.**

A shopper's points, and the points that a payment earns: one per cent of the paid amount, in
`int` arithmetic and without a check of its own.

* `RedHatPay.Point`, `RedHatPay.Point.addPoint`;
* `RedHatPay.Point.earned` — the points that a payment earns, exactly;
* `RedHatPay.Point.addPoint_exact_iff` — the new points are the exact sum as long as it is in range.
-/

import RedHatPay.Domain.Token

set_option relaxedAutoImplicit false
set_option autoImplicit false

namespace RedHatPay

/-- `rhpay.point.domain.Point`. -/
structure Point where
  ownerId : ShopperId
  point : Int32
  deriving DecidableEq

/-- `Point.RATE_PER_CENT`. -/
def Point.ratePerCent : Int32 := 1

/-- `Point.addPoint`. -/
def Point.addPoint (p : Point) (paidAmount : Money) : Point :=
  let addedPoint := paidAmount.value * Point.ratePerCent / 100
  ⟨p.ownerId, p.point + addedPoint⟩

namespace Point

/-- The points that a payment of this amount earns. -/
def earned (paidAmount : Money) : Int := paidAmount.toInt / 100

theorem earned_nonneg (m : Money) : 0 ≤ earned m := Int.ediv_nonneg m.toInt_nonneg (by decide)

theorem earned_eq_zero_iff {m : Money} : earned m = 0 ↔ m.toInt < 100 := by
  have hnn := m.toInt_nonneg
  rw [earned]
  omega

/-- What is added is exact. -/
theorem toInt_addedPoint (m : Money) : (m.value * ratePerCent / 100).toInt = earned m := by
  have hone : m.value * ratePerCent = m.value := Int32.mul_one _
  rw [hone, Int32.toInt_div_of_ne_right _ _ (by decide), earned, Money.toInt]
  exact Int.tdiv_eq_ediv_of_nonneg m.nonneg

/-- The sum wraps. -/
theorem addPoint_point (p : Point) (m : Money) :
    (p.addPoint m).point.toInt = (p.point.toInt + earned m).bmod (2 ^ 32) := by
  rw [addPoint, Int32.toInt_add, toInt_addedPoint]

/-- The new points are the exact sum, as long as it is in range. -/
theorem addPoint_exact_iff (p : Point) (m : Money) :
    (p.addPoint m).point.toInt = p.point.toInt + earned m ↔
      p.point.toInt + earned m < 2 ^ 31 := by
  have hlo := p.point.le_toInt
  have hlt := p.point.toInt_lt
  have hnn := earned_nonneg m
  have hm : earned m < 2 ^ 31 := by
    have hm' := m.toInt_lt
    rw [earned]
    omega
  rw [addPoint_point, Int.bmod_def]
  split <;> omega

end Point

end RedHatPay
