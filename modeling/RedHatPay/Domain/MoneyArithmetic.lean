/-
**Money arithmetic: exact, or refused.**

`Money.add` and `Money.minus` compute with wrapping `int`s, and the only check is that of the
constructor: the result must not be negative.  Since two amounts are never negative, an exact result
that is out of range always lands on a negative `int`, so this one check catches overflow and
underflow alike, in any sequence of operations.

Main definitions:

* `RedHatPay.MoneyOp`, `RedHatPay.Money.calculate` — an operation with its operand, as the code
  computes it;
* `RedHatPay.Money.evaluate` — a sequence of operations, up to the first exception;
* `RedHatPay.MoneyOp.ideal`, `RedHatPay.Money.exactResult` — the same over the integers.

Main results:

* `RedHatPay.Money.calculate_exactOrRefused` — one operation;
* `RedHatPay.Money.evaluate_exact_or_refused` — **any sequence of operations**.
-/

import RedHatPay.Domain.Money
import RedHatPay.Lib.Checked

set_option relaxedAutoImplicit false
set_option autoImplicit false

namespace RedHatPay

open Checked

/-- An arithmetic operation on an amount, with its operand. -/
inductive MoneyOp
  | add (a : Money)
  | minus (a : Money)
  deriving DecidableEq

/-- The operation over the integers. -/
def MoneyOp.ideal (v : Int) : MoneyOp → Int
  | .add a => v + a.toInt
  | .minus a => v - a.toInt

namespace Money

/-- The operation as the code carries it out. -/
def calculate (m : Money) : MoneyOp → Except JavaException Money
  | .add a => m.add a
  | .minus a => m.minus a

/-- A sequence of operations; the first exception ends it. -/
def evaluate (m : Money) (l : List MoneyOp) : Except JavaException Money := l.foldlM calculate m

/-- The result of a sequence of operations over the integers. -/
def exactResult (m : Money) (l : List MoneyOp) : Int := l.foldl MoneyOp.ideal m.toInt

/-- The values of an `int` that is not negative. -/
def InRange (v : Int) : Prop := 0 ≤ v ∧ v ≤ 2 ^ 31 - 1

/-- **One operation** is exact if its exact result is in range, and is refused otherwise. -/
theorem calculate_exactOrRefused : ExactOrRefused toInt InRange calculate MoneyOp.ideal
    (.runtime "Negative value set to Money") where
  room_value m := ⟨m.toInt_nonneg, Int.le_sub_one_of_lt m.toInt_lt⟩
  accept m op hroom := by
    cases op with
    | add a => exact add_eq_ok (Int.lt_of_le_sub_one hroom.2)
    | minus a => exact minus_eq_ok (sub_nonneg.1 hroom.1)
  refuse m op hroom := by
    cases op with
    | add a =>
        have hnn : 0 ≤ m.toInt + a.toInt := add_nonneg m.toInt_nonneg a.toInt_nonneg
        -- a sum cannot be negative, so it has to be too large
        exact add_eq_error (not_lt.1 fun hlt => hroom ⟨hnn, Int.le_sub_one_of_lt hlt⟩)
    | minus a =>
        have hle : m.toInt - a.toInt ≤ 2 ^ 31 - 1 :=
          (sub_le_self _ a.toInt_nonneg).trans (Int.le_sub_one_of_lt m.toInt_lt)
        -- a difference cannot be too large, so it has to be negative
        exact minus_eq_error (not_le.1 fun h => hroom ⟨sub_nonneg.2 h, hle⟩)

/-- **Any sequence of operations**: it has a result exactly when all exact results on the way are in
range, and then the result is exact; otherwise the first operation whose exact result leaves the
range throws, and ends the sequence. -/
theorem evaluate_exact_or_refused (m : Money) (l : List MoneyOp) :
    ((∃ r, m.evaluate l = .ok r) ↔ ∀ l', l' <+: l → InRange (m.exactResult l')) ∧
    (∀ r, m.evaluate l = .ok r → r.toInt = m.exactResult l) ∧
    ((¬ ∀ l', l' <+: l → InRange (m.exactResult l')) → ∃ l₁ op l₂ m₁, l = l₁ ++ op :: l₂ ∧
      (∀ l', l' <+: l₁ → InRange (m.exactResult l')) ∧ ¬ InRange (m.exactResult (l₁ ++ [op])) ∧
      m.evaluate l₁ = .ok m₁ ∧ m₁.toInt = m.exactResult l₁ ∧
      m₁.calculate op = .error (.runtime "Negative value set to Money") ∧
      m.evaluate l = .error (.runtime "Negative value set to Money")) := by
  refine ⟨⟨?_, fun hfits => ?_⟩, fun r hr => ?_, calculate_exactOrRefused.first_refused⟩
  · rintro ⟨r, hr⟩
    exact calculate_exactOrRefused.fits_of_foldlM hr
  · obtain ⟨r, hr, -⟩ := calculate_exactOrRefused.foldlM_eq_ok hfits
    exact ⟨r, hr⟩
  · have hfits := calculate_exactOrRefused.fits_of_foldlM hr
    obtain ⟨r', hr', hexact⟩ := calculate_exactOrRefused.foldlM_eq_ok hfits
    cases hr.symm.trans hr'
    exact hexact

/-- A sum that is too large is refused, even if the next operation would bring it back. -/
example : evaluate ⟨2147483647, by decide⟩ [.add ⟨1, by decide⟩, .minus ⟨1, by decide⟩] =
    .error (.runtime "Negative value set to Money") := rfl

end Money

end RedHatPay
