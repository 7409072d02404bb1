/-
**Amounts of money.**

`Money` wraps an `int` and refuses a negative one in its constructor.  Here the check is a field
of the structure, so that no negative amount can be built; `RedHatPay.Money.new` is the
constructor of the source, with its exception.  There is no overflow check: a sum that leaves the
range of `int` wraps to a negative number and is refused for that reason.

* `RedHatPay.Money`, `RedHatPay.Money.new` — the type and its constructor;
* `RedHatPay.Money.add_eq_ok`, `RedHatPay.Money.add_eq_error` — a sum is exact, or refused;
* `RedHatPay.Money.minus_eq_ok`, `RedHatPay.Money.minus_eq_error` — so is a difference.
-/

import Mathlib.Algebra.Order.Ring.Int
import RedHatPay.Java

set_option relaxedAutoImplicit false
set_option autoImplicit false

namespace RedHatPay

/-- `rhpay.payment.domain.Money`. -/
structure Money where
  value : Int32
  /-- What the constructor checks. -/
  nonneg : 0 ≤ value.toInt
  deriving DecidableEq

namespace Money

/-- The exact value of an amount. -/
def toInt (m : Money) : Int := m.value.toInt

/-- `new Money(value)`. -/
def new (value : Int32) : Except JavaException Money :=
  if h : value.toInt < 0 then .error (.runtime "Negative value set to Money")
  else .ok ⟨value, not_lt.1 h⟩

/-- `Money.add`. -/
def add (m a : Money) : Except JavaException Money := new (m.value + a.value)

/-- `Money.minus`. -/
def minus (m a : Money) : Except JavaException Money := new (m.value - a.value)

/-- `Money.isPositive`. -/
def isPositive (m : Money) : Bool := decide (0 < m.value.toInt)

/-- `Money.largerEqual`. -/
def largerEqual (m a : Money) : Bool := decide (a.value.toInt ≤ m.value.toInt)

theorem toInt_nonneg (m : Money) : 0 ≤ m.toInt := m.nonneg

theorem toInt_lt (m : Money) : m.toInt < 2 ^ 31 := m.value.toInt_lt

theorem ext_toInt {m a : Money} (h : m.toInt = a.toInt) : m = a := by
  cases m
  cases a
  congr
  exact Int32.toInt_inj.1 h

@[simp] theorem isPositive_iff {m : Money} : m.isPositive = true ↔ 0 < m.toInt :=
  decide_eq_true_iff

@[simp] theorem largerEqual_iff {m a : Money} : m.largerEqual a = true ↔ a.toInt ≤ m.toInt :=
  decide_eq_true_iff

theorem new_of_nonneg {v : Int32} (h : 0 ≤ v.toInt) : new v = .ok ⟨v, h⟩ :=
  dif_neg (not_lt.2 h)

theorem new_of_neg {v : Int32} (h : v.toInt < 0) :
    new v = .error (.runtime "Negative value set to Money") :=
  dif_pos h

@[simp] theorem new_value (m : Money) : new m.value = .ok m := new_of_nonneg m.nonneg

/-- The constructor accepts an `int` exactly when it is not negative. -/
theorem new_eq_ok_iff {v : Int32} {m : Money} : new v = .ok m ↔ v = m.value := by
  constructor
  · intro h
    rcases lt_or_ge v.toInt 0 with hv | hv
    · rw [new_of_neg hv] at h
      cases h
    · rw [new_of_nonneg hv] at h
      cases h
      rfl
  · rintro rfl
    exact new_value m

/-- A sum in range is exact. -/
theorem add_eq_ok {m a : Money} (h : m.toInt + a.toInt < 2 ^ 31) :
    ∃ r, m.add a = .ok r ∧ r.toInt = m.toInt + a.toInt := by
  have hv : (m.value + a.value).toInt = m.toInt + a.toInt := toInt_add_of_lt m.nonneg a.nonneg h
  have hnn : 0 ≤ (m.value + a.value).toInt := by
    rw [hv]
    exact add_nonneg m.toInt_nonneg a.toInt_nonneg
  exact ⟨⟨_, hnn⟩, new_of_nonneg hnn, hv⟩

/-- A sum out of range is refused. -/
theorem add_eq_error {m a : Money} (h : 2 ^ 31 ≤ m.toInt + a.toInt) :
    m.add a = .error (.runtime "Negative value set to Money") :=
  new_of_neg ((toInt_add_neg_iff m.nonneg a.nonneg).2 h)

/-- A difference that is not negative is exact. -/
theorem minus_eq_ok {m a : Money} (h : a.toInt ≤ m.toInt) :
    ∃ r, m.minus a = .ok r ∧ r.toInt = m.toInt - a.toInt := by
  have hv : (m.value - a.value).toInt = m.toInt - a.toInt := toInt_sub_of_nonneg m.nonneg a.nonneg
  have hnn : 0 ≤ (m.value - a.value).toInt := by omega
  exact ⟨⟨_, hnn⟩, new_of_nonneg hnn, hv⟩

/-- A negative difference is refused. -/
theorem minus_eq_error {m a : Money} (h : m.toInt < a.toInt) :
    m.minus a = .error (.runtime "Negative value set to Money") := by
  refine new_of_neg ?_
  rw [toInt_sub_of_nonneg m.nonneg a.nonneg]
  exact sub_neg.2 h

end Money

end RedHatPay
