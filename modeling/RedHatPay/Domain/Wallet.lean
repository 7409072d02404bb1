/-
**The wallet: paying, and topping up until the bill is covered.**

A wallet pays a bill from its balance.  If its auto-charge amount is positive it first tops itself
up, one auto-charge at a time, until the balance covers the bill; otherwise a bill above the
balance is refused.  The object is mutable, so every method here returns its outcome together with
the wallet it leaves behind, also when it throws.

The loop of `Wallet.pay` is `RedHatPay.Wallet.topUp`.  Every round that succeeds raises the
balance by at least one, so as many rounds as the bill exceeds the balance suffice;
`RedHatPay.Wallet.topUp_eq` states that the bounded recursion is the `while` loop of the source.

* `RedHatPay.Wallet.autoCharge`, `RedHatPay.Wallet.topUp`, `RedHatPay.Wallet.pay`;
* `RedHatPay.Wallet.rounds` — the number of top-ups that a bill takes, in closed form;
* `RedHatPay.Wallet.Covers` — does the wallet cover the bill, with its top-ups?
* `RedHatPay.Wallet.pay_of_covers`, `RedHatPay.Wallet.pay_of_not_covers` — **the outcome of a
  payment**: the exact new balance, or an exception.
-/

import Mathlib.Tactic.Linarith
import Mathlib.Tactic.Ring
import RedHatPay.Domain.Token

set_option relaxedAutoImplicit false
set_option autoImplicit false

namespace RedHatPay

/-- `rhpay.payment.domain.Wallet`. -/
structure Wallet where
  owner : Shopper
  chargedMoney : Money
  autoChargeMoney : Money
  deriving DecidableEq

namespace Wallet

/-- `Wallet.autoChargeable`. -/
def autoChargeable (w : Wallet) : Bool := w.autoChargeMoney.isPositive

/-- `Wallet.canPay`. -/
def canPay (w : Wallet) (bill : Billing) : Bool := w.chargedMoney.largerEqual bill.amount

/-- `Wallet.autoCharge`. -/
def autoCharge (w : Wallet) : Except JavaException Money × Wallet :=
  if w.autoChargeable then
    match w.chargedMoney.add w.autoChargeMoney with
    | .ok m => (.ok m, { w with chargedMoney := m })
    | .error e => (.error e, w)
  else (.error (.failedAutoCharge "Could not auto charge"), w)

/-- At most `n` rounds of the loop `while (!canPay(bill)) autoCharge()`. -/
def topUpLoop (bill : Billing) : Nat → Wallet → Except JavaException Unit × Wallet
  | 0, w => (.ok (), w)
  | n + 1, w =>
      if w.canPay bill then (.ok (), w)
      else match w.autoCharge with
        | (.ok _, w') => topUpLoop bill n w'
        | (.error e, w') => (.error e, w')

/-- The loop of `Wallet.pay`: auto-charging until the bill can be paid. -/
def topUp (w : Wallet) (bill : Billing) : Except JavaException Unit × Wallet :=
  topUpLoop bill (bill.amount.toInt - w.chargedMoney.toInt).toNat w

/-- The exception of a wallet that cannot pay the bill. -/
def refusal (w : Wallet) (bill : Billing) : JavaException :=
  .failedPayment ("Couldn\x27t buy items. Amount in wallet is " ++
    ToString.toString w.chargedMoney.value ++ ", but store bill " ++
    ToString.toString bill.amount.value)

/-- The last part of `Wallet.pay`: the balance is debited and the payment is made out. -/
def debit (w : Wallet) (bill : Billing) (now : LocalDateTime) :
    Except JavaException Payment × Wallet :=
  match w.chargedMoney.minus bill.amount with
  | .ok newAmount =>
      (.ok ⟨bill.storeId, w.owner.id, bill.amount, now, none⟩, { w with chargedMoney := newAmount })
  | .error e => (.error e, w)

/-- `Wallet.pay`; `now` is what `LocalDateTime.now()` returns. -/
def pay (w : Wallet) (bill : Billing) (now : LocalDateTime) :
    Except JavaException Payment × Wallet :=
  if w.autoChargeable then
    match w.topUp bill with
    | (.ok (), w') => w'.debit bill now
    -- only a `FailedAutoChargeException` is caught; a refused `Money` goes through
    | (.error (.failedAutoCharge _), w') => (.error (w'.refusal bill), w')
    | (.error e, w') => (.error e, w')
  else if w.canPay bill then w.debit bill now
  else (.error (w.refusal bill), w)

@[simp] theorem autoChargeable_iff {w : Wallet} :
    w.autoChargeable = true ↔ 0 < w.autoChargeMoney.toInt := Money.isPositive_iff

@[simp] theorem canPay_iff {w : Wallet} {bill : Billing} :
    w.canPay bill = true ↔ bill.amount.toInt ≤ w.chargedMoney.toInt := Money.largerEqual_iff

/-! ### The loop -/

theorem autoCharge_ok {w : Wallet} (ha : 0 < w.autoChargeMoney.toInt)
    (h : w.chargedMoney.toInt + w.autoChargeMoney.toInt < 2 ^ 31) :
    ∃ m, w.autoCharge = (.ok m, { w with chargedMoney := m }) ∧
      m.toInt = w.chargedMoney.toInt + w.autoChargeMoney.toInt := by
  obtain ⟨m, hm, hv⟩ := Money.add_eq_ok h
  refine ⟨m, ?_, hv⟩
  rw [autoCharge, if_pos (autoChargeable_iff.2 ha), hm]

theorem autoCharge_error {w : Wallet} (ha : 0 < w.autoChargeMoney.toInt)
    (h : 2 ^ 31 ≤ w.chargedMoney.toInt + w.autoChargeMoney.toInt) :
    w.autoCharge = (.error (.runtime "Negative value set to Money"), w) := by
  rw [autoCharge, if_pos (autoChargeable_iff.2 ha), Money.add_eq_error h]

theorem topUpLoop_of_canPay {bill : Billing} {w : Wallet} (h : w.canPay bill = true) (n : Nat) :
    topUpLoop bill n w = (.ok (), w) := by
  cases n with
  | zero => rfl
  | succ n => rw [topUpLoop, if_pos h]

/-- More rounds than the bill exceeds the balance change nothing. -/
theorem topUpLoop_eq_topUp {bill : Billing} : ∀ (n : Nat) (w : Wallet),
    (bill.amount.toInt - w.chargedMoney.toInt).toNat ≤ n → topUpLoop bill n w = topUp w bill := by
  -- both loops are compared with the one that has a round more than needed
  have key : ∀ (m n : Nat) (w : Wallet),
      (bill.amount.toInt - w.chargedMoney.toInt).toNat ≤ m →
      (bill.amount.toInt - w.chargedMoney.toInt).toNat ≤ n →
      topUpLoop bill m w = topUpLoop bill n w := by
    intro m
    induction m with
    | zero =>
        intro n w hm _
        have hpay : w.canPay bill = true := canPay_iff.2 (by omega)
        rw [topUpLoop_of_canPay hpay, topUpLoop_of_canPay hpay]
    | succ m ih =>
        intro n w hm hn
        by_cases hpay : w.canPay bill = true
        · rw [topUpLoop_of_canPay hpay, topUpLoop_of_canPay hpay]
        · have hlt : w.chargedMoney.toInt < bill.amount.toInt := by
            simpa using hpay
          obtain ⟨n, rfl⟩ : ∃ k, n = k + 1 := ⟨n - 1, by omega⟩
          rw [topUpLoop, topUpLoop, if_neg hpay, if_neg hpay]
          by_cases hauto : 0 < w.autoChargeMoney.toInt
          · rcases lt_or_ge (w.chargedMoney.toInt + w.autoChargeMoney.toInt) (2 ^ 31) with h | h
            · obtain ⟨m', hm', hv⟩ := autoCharge_ok hauto h
              rw [hm']
              exact ih n _ (by simp only [hv]; omega) (by simp only [hv]; omega)
            · rw [autoCharge_error hauto h]
          · rw [autoCharge, if_neg (by simpa using hauto)]
  exact fun n w hn => key n _ w hn le_rfl

/-- **The loop of the source**: the recursion of `topUp` is that of
`while (!canPay(bill)) autoCharge()`. -/
theorem topUp_eq (w : Wallet) (bill : Billing) :
    w.topUp bill =
      if w.canPay bill then (.ok (), w)
      else match w.autoCharge with
        | (.ok _, w') => w'.topUp bill
        | (.error e, w') => (.error e, w') := by
  by_cases hpay : w.canPay bill = true
  · rw [if_pos hpay, topUp, topUpLoop_of_canPay hpay]
  · rw [if_neg hpay, ← topUpLoop_eq_topUp _ w (Nat.le_succ _), topUpLoop, if_neg hpay]
    by_cases hauto : 0 < w.autoChargeMoney.toInt
    · rcases lt_or_ge (w.chargedMoney.toInt + w.autoChargeMoney.toInt) (2 ^ 31) with h | h
      · obtain ⟨m, hm, hv⟩ := autoCharge_ok hauto h
        rw [hm]
        exact topUpLoop_eq_topUp _ _ (by simp only [hv]; omega)
      · rw [autoCharge_error hauto h]
    · rw [autoCharge, if_neg (by simpa using hauto)]

/-! ### The closed form -/

/-- The number of top-ups of `a` that raise the balance `c` to at least `b`. -/
def rounds (c a b : Int) : Nat := if b ≤ c then 0 else ((b - c + a - 1) / a).toNat

theorem rounds_of_le {c a b : Int} (h : b ≤ c) : rounds c a b = 0 := if_pos h

/-- One round of the loop leaves one top-up less to do. -/
theorem rounds_step {c a b : Int} (ha : 0 < a) (h : c < b) :
    rounds c a b = rounds (c + a) a b + 1 := by
  have hsplit : b - c + a - 1 = b - c - 1 + a * 1 := by ring
  have hceil : (b - c + a - 1) / a = (b - c - 1) / a + 1 := by
    rw [hsplit, Int.add_mul_ediv_left _ _ ha.ne']
  have hnn : 0 ≤ (b - c - 1) / a := Int.ediv_nonneg (by omega) ha.le
  rw [rounds, if_neg (not_le.2 h), hceil]
  rcases le_or_gt b (c + a) with hle | hgt
  · -- the last round: less than one top-up was missing
    have hzero : (b - c - 1) / a = 0 := Int.ediv_eq_zero_of_lt (by omega) (by omega)
    rw [rounds_of_le hle, hzero]
    rfl
  · rw [rounds, if_neg (not_le.2 hgt)]
    have hrest : b - (c + a) + a - 1 = b - c - 1 := by ring
    rw [hrest]
    omega

/-- The balance after the top-ups covers the bill. -/
theorem le_add_rounds {a b : Int} (ha : 0 < a) : ∀ {n : Nat} {c : Int},
    rounds c a b = n → b ≤ c + n * a := by
  intro n
  induction n with
  | zero =>
      intro c h
      rcases le_or_gt b c with hle | hgt
      · simpa using hle
      · rw [rounds_step ha hgt] at h
        cases h
  | succ n ih =>
      intro c h
      rcases le_or_gt b c with hle | hgt
      · rw [rounds_of_le hle] at h
        cases h
      · rw [rounds_step ha hgt, Nat.succ.injEq] at h
        have hn := ih h
        push_cast
        linarith

/-- Does the balance `c`, topped up by `a` at a time, cover a bill of `b` within the range of
`int`? -/
def Fits (c a b : Int) : Prop := b ≤ c ∨ 0 < a ∧ c + rounds c a b * a < 2 ^ 31

instance (c a b : Int) : Decidable (Fits c a b) :=
  inferInstanceAs (Decidable (_ ∨ _ ∧ _))

/-- The balance that a covered bill of `b` leaves. -/
def balanceAfter (c a b : Int) : Int := c + rounds c a b * a - b

/-- Does the wallet cover the amount? -/
def Covers (w : Wallet) (amount : Money) : Prop :=
  Fits w.chargedMoney.toInt w.autoChargeMoney.toInt amount.toInt

instance (w : Wallet) (amount : Money) : Decidable (w.Covers amount) :=
  inferInstanceAs (Decidable (Fits _ _ _))

/-- The loop ends with the balance raised by the top-ups it takes, if they fit. -/
theorem topUp_of_fits (bill : Billing) : ∀ {n : Nat} {w : Wallet},
    0 < w.autoChargeMoney.toInt →
    rounds w.chargedMoney.toInt w.autoChargeMoney.toInt bill.amount.toInt = n →
    w.chargedMoney.toInt + n * w.autoChargeMoney.toInt < 2 ^ 31 →
    ∃ m, w.topUp bill = (.ok (), { w with chargedMoney := m }) ∧
      m.toInt = w.chargedMoney.toInt + n * w.autoChargeMoney.toInt := by
  intro n
  induction n with
  | zero =>
      intro w ha hn _
      have hle := le_add_rounds ha hn
      have hpay : w.canPay bill = true := canPay_iff.2 (by simpa using hle)
      refine ⟨w.chargedMoney, ?_, by simp⟩
      rw [topUp_eq, if_pos hpay]
  | succ n ih =>
      intro w ha hn hfit
      rcases le_or_gt bill.amount.toInt w.chargedMoney.toInt with hle | hgt
      · rw [rounds_of_le hle] at hn
        cases hn
      -- a round of the loop, and the rest of it by induction on the rounds to go
      · have hpay : ¬ w.canPay bill = true := by simpa using hgt
        rw [rounds_step ha hgt, Nat.succ.injEq] at hn
        push_cast at hfit
        have hna : 0 ≤ (n : Int) * w.autoChargeMoney.toInt := by positivity
        obtain ⟨m, hm, hv⟩ := autoCharge_ok ha (by linarith)
        have hfit' : m.toInt + n * w.autoChargeMoney.toInt < 2 ^ 31 := by
          rw [hv]
          linarith
        obtain ⟨m', hm', hv'⟩ := ih (w := { w with chargedMoney := m }) ha
          (by simpa only [hv] using hn) hfit'
        refine ⟨m', ?_, ?_⟩
        · rw [topUp_eq, if_neg hpay, hm]
          exact hm'
        · simp only [hv', hv]
          push_cast
          ring

/-- The loop ends in the exception of `Money` if the top-ups do not fit. -/
theorem topUp_of_overflow (bill : Billing) : ∀ {n : Nat} {w : Wallet},
    0 < w.autoChargeMoney.toInt →
    rounds w.chargedMoney.toInt w.autoChargeMoney.toInt bill.amount.toInt = n →
    2 ^ 31 ≤ w.chargedMoney.toInt + n * w.autoChargeMoney.toInt →
    ∃ w', w.topUp bill = (.error (.runtime "Negative value set to Money"), w') := by
  intro n
  induction n with
  | zero =>
      intro w _ _ hfit
      have hlt := w.chargedMoney.toInt_lt
      simp only [Nat.cast_zero, zero_mul, add_zero] at hfit
      exact absurd hfit (not_le.2 hlt)
  | succ n ih =>
      intro w ha hn hfit
      rcases le_or_gt bill.amount.toInt w.chargedMoney.toInt with hle | hgt
      · rw [rounds_of_le hle] at hn
        cases hn
      · have hpay : ¬ w.canPay bill = true := by simpa using hgt
        rw [rounds_step ha hgt, Nat.succ.injEq] at hn
        push_cast at hfit
        -- either this top-up is the one that overflows, or a later one is
        rcases lt_or_ge (w.chargedMoney.toInt + w.autoChargeMoney.toInt) (2 ^ 31) with h | h
        · obtain ⟨m, hm, hv⟩ := autoCharge_ok ha h
          obtain ⟨w', hw'⟩ := ih (w := { w with chargedMoney := m }) ha
            (by simpa only [hv] using hn) (by simp only [hv]; linarith)
          refine ⟨w', ?_⟩
          rw [topUp_eq, if_neg hpay, hm]
          exact hw'
        · refine ⟨w, ?_⟩
          rw [topUp_eq, if_neg hpay, autoCharge_error ha h]

theorem debit_of_le {w : Wallet} {bill : Billing} (now : LocalDateTime)
    (h : bill.amount.toInt ≤ w.chargedMoney.toInt) :
    ∃ m, w.debit bill now =
        (.ok ⟨bill.storeId, w.owner.id, bill.amount, now, none⟩, { w with chargedMoney := m }) ∧
      m.toInt = w.chargedMoney.toInt - bill.amount.toInt := by
  obtain ⟨m, hm, hv⟩ := Money.minus_eq_ok h
  exact ⟨m, by rw [debit, hm], hv⟩

/-- **A covered bill is paid**, and the balance is the exact one. -/
theorem pay_of_covers {w : Wallet} (bill : Billing) (now : LocalDateTime)
    (h : w.Covers bill.amount) :
    ∃ m, w.pay bill now =
        (.ok ⟨bill.storeId, w.owner.id, bill.amount, now, none⟩, { w with chargedMoney := m }) ∧
      m.toInt =
        balanceAfter w.chargedMoney.toInt w.autoChargeMoney.toInt bill.amount.toInt := by
  by_cases ha : 0 < w.autoChargeMoney.toInt
  · have hfit : w.chargedMoney.toInt + rounds w.chargedMoney.toInt w.autoChargeMoney.toInt
        bill.amount.toInt * w.autoChargeMoney.toInt < 2 ^ 31 := by
      rcases h with hle | ⟨-, hfit⟩
      · rw [rounds_of_le hle]
        simpa using w.chargedMoney.toInt_lt
      · exact hfit
    obtain ⟨m, hm, hv⟩ := topUp_of_fits bill ha rfl hfit
    have hle : bill.amount.toInt ≤ m.toInt := by
      rw [hv]
      exact le_add_rounds ha rfl
    obtain ⟨m', hm', hv'⟩ :=
      debit_of_le (w := { w with chargedMoney := m }) now hle
    refine ⟨m', ?_, ?_⟩
    · rw [pay, if_pos (autoChargeable_iff.2 ha), hm]
      exact hm'
    · rw [hv', balanceAfter, ← hv]
  · have hle : bill.amount.toInt ≤ w.chargedMoney.toInt := by
      rcases h with hle | ⟨ha', -⟩
      · exact hle
      · exact absurd ha' ha
    obtain ⟨m, hm, hv⟩ := debit_of_le now hle
    refine ⟨m, ?_, ?_⟩
    · rw [pay, if_neg (by simpa using ha), if_pos (canPay_iff.2 hle), hm]
    · rw [hv, balanceAfter, rounds_of_le hle]
      simp

/-- **A bill that is not covered is refused.** -/
theorem pay_of_not_covers {w : Wallet} (bill : Billing) (now : LocalDateTime)
    (h : ¬ w.Covers bill.amount) : ∃ e w', w.pay bill now = (.error e, w') := by
  have hlt : ¬ bill.amount.toInt ≤ w.chargedMoney.toInt := fun hle => h (Or.inl hle)
  by_cases ha : 0 < w.autoChargeMoney.toInt
  · obtain ⟨w', hw'⟩ := topUp_of_overflow bill ha rfl
      (not_lt.1 fun hfit => h (Or.inr ⟨ha, hfit⟩))
    refine ⟨.runtime "Negative value set to Money", w', ?_⟩
    rw [pay, if_pos (autoChargeable_iff.2 ha), hw']
  · refine ⟨w.refusal bill, w, ?_⟩
    rw [pay, if_neg (by simpa using ha), if_neg (by simpa using hlt)]

/-- **What is known of a payment that is made**: the bill was covered, the payment is made out to
the bill and the owner, and only the balance has changed, to the exact amount. -/
theorem pay_eq_ok {w w' : Wallet} {bill : Billing} {now : LocalDateTime} {p : Payment}
    (h : w.pay bill now = (.ok p, w')) :
    w.Covers bill.amount ∧ p = ⟨bill.storeId, w.owner.id, bill.amount, now, none⟩ ∧
      w' = { w with chargedMoney := w'.chargedMoney } ∧
      w'.chargedMoney.toInt =
        balanceAfter w.chargedMoney.toInt w.autoChargeMoney.toInt bill.amount.toInt := by
  by_cases hc : w.Covers bill.amount
  · obtain ⟨m, hm, hv⟩ := pay_of_covers bill now hc
    rw [hm] at h
    cases h
    exact ⟨hc, rfl, rfl, hv⟩
  · obtain ⟨e, w'', he⟩ := pay_of_not_covers bill now hc
    rw [he] at h
    cases h

/-- The outcome of a payment does not depend on the clock. -/
theorem pay_ok_iff {w : Wallet} {bill : Billing} {now : LocalDateTime} :
    (∃ p w', w.pay bill now = (.ok p, w')) ↔ w.Covers bill.amount := by
  constructor
  · rintro ⟨p, w', hp⟩
    exact (pay_eq_ok hp).1
  · intro h
    obtain ⟨m, hm, -⟩ := pay_of_covers bill now h
    exact ⟨_, _, hm⟩

end Wallet

end RedHatPay
