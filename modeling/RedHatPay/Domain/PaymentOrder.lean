/-
**The order of payments does not matter.**

A wallet pays several bills one after another.  Each payment tops the wallet up only as much as it
needs, so the balances in between depend on the order.  What is shown here is that the top-ups of
the single payments add up to those that one bill over the sum would take.

* `RedHatPay.Wallet.PaysAll` — a list of bills is accepted, with a total number of top-ups;
* `RedHatPay.Wallet.rounds_add` — **the single roundings add up to one rounding of the sum**;
* `RedHatPay.Wallet.PaysAll.balance` — the balance after a list of bills, and the total number of
  top-ups, in terms of the sum;
* `RedHatPay.Wallet.paysAll_order` — **the order of payments does not matter**.
-/

import RedHatPay.Domain.TopUps

set_option relaxedAutoImplicit false
set_option autoImplicit false

namespace RedHatPay.Wallet

/-! ### Adding up top-ups -/

/-- Without an auto-charge amount there are no top-ups. -/
theorem rounds_zero (c b : Int) : rounds c 0 b = 0 := by
  rw [rounds, Int.ediv_zero, Int.toNat_zero, ite_self]

theorem balanceAfter_zero (c b : Int) : balanceAfter c 0 b = c - b := by
  rw [balanceAfter, mul_zero, add_zero]

/-- **The single roundings add up**: what a second bill takes, after a first one, is what is missing
to one bill over both amounts. -/
theorem rounds_add {c a b b' : Int} (ha : 0 ≤ a) (hb' : 0 ≤ b') :
    rounds c a b + rounds (balanceAfter c a b) a b' = rounds c a (b + b') := by
  rcases ha.eq_or_lt with rfl | ha
  · rw [rounds_zero, rounds_zero, rounds_zero]
  -- both sides are bounded by the same numbers
  · refine eq_of_forall_ge_iff fun n => ?_
    have hboth : rounds c a b + rounds (balanceAfter c a b) a b' ≤ n ↔
        rounds c a b ≤ n ∧ b' ≤ balanceAfter c a b + ((n : Int) - rounds c a b) * a := by
      rcases le_or_gt (rounds c a b) n with hle | hgt
      · obtain ⟨m, rfl⟩ := Nat.exists_eq_add_of_le hle
        have hcast : ((rounds c a b + m : Nat) : Int) - rounds c a b = m := by omega
        rw [Nat.add_le_add_iff_left, rounds_le_iff ha, hcast, and_iff_right hle]
      · exact iff_of_false (by omega) (by omega)
    rw [hboth, rounds_le_iff ha, rounds_le_iff ha, balanceAfter]
    constructor
    · rintro ⟨-, h⟩
      linarith
    · intro h
      exact ⟨by linarith, by linarith⟩

/-! ### Several bills -/

/-- The wallet accepts the bills one after another, with `n` top-ups in all. -/
inductive PaysAll : Wallet → List Billing → Nat → Wallet → Prop
  | nil (w : Wallet) : PaysAll w [] 0 w
  | cons {w w' w'' : Wallet} {bill : Billing} {bills : List Billing} {now : LocalDateTime}
      {n m : Nat} {p : Payment} (hpay : Pays bill now w n (.ok p) w')
      (h : PaysAll w' bills m w'') : PaysAll w (bill :: bills) (n + m) w''

/-- The exact sum of the bills. -/
def total (bills : List Billing) : Int := (bills.map fun bill => bill.amount.toInt).sum

@[simp] theorem total_nil : total [] = 0 := rfl

@[simp] theorem total_cons (bill : Billing) (bills : List Billing) :
    total (bill :: bills) = bill.amount.toInt + total bills := by
  simp [total]

theorem total_nonneg (bills : List Billing) : 0 ≤ total bills := by
  induction bills with
  | nil => exact le_rfl
  | cons bill bills ih =>
      have hnn := bill.amount.toInt_nonneg
      rw [total_cons]
      omega

theorem total_perm {bills bills' : List Billing} (h : bills.Perm bills') :
    total bills = total bills' :=
  (h.map _).sum_eq

/-- **The balance after a list of bills**: that of one bill over the sum, with as many top-ups. -/
theorem PaysAll.balance {w w' : Wallet} {bills : List Billing} {n : Nat}
    (h : PaysAll w bills n w') : w'.autoChargeMoney = w.autoChargeMoney ∧
      n = rounds w.chargedMoney.toInt w.autoChargeMoney.toInt (total bills) ∧
      w'.chargedMoney.toInt =
        balanceAfter w.chargedMoney.toInt w.autoChargeMoney.toInt (total bills) := by
  induction h with
  | nil w =>
      have hzero : rounds w.chargedMoney.toInt w.autoChargeMoney.toInt 0 = 0 :=
        rounds_of_le w.chargedMoney.toInt_nonneg
      simp [balanceAfter, hzero]
  | @cons w w' w'' bill bills now n m p hpay h ih =>
      obtain ⟨hauto, hm, hbalance⟩ := ih
      have hsettled := settled_of_pay hpay.eq_pay
      have hn := hpay.count
      have hfirst : w'.chargedMoney.toInt = balanceAfter w.chargedMoney.toInt
          w.autoChargeMoney.toInt bill.amount.toInt := hsettled.balance
      rw [hsettled.autoCharge, hfirst] at hm hbalance
      have hsum : n + m = rounds w.chargedMoney.toInt w.autoChargeMoney.toInt
          (bill.amount.toInt + total bills) := by
        rw [← rounds_add w.autoChargeMoney.toInt_nonneg (total_nonneg bills), ← hn, ← hm]
      refine ⟨hauto.trans hsettled.autoCharge, by rw [total_cons, hsum], ?_⟩
      rw [hbalance, total_cons, balanceAfter, ← hm, balanceAfter, balanceAfter, ← hn, ← hsum]
      push_cast
      ring

/-- Without an auto-charge amount, a wallet accepts the bills exactly if it covers their sum. -/
theorem paysAll_iff_of_zero {w : Wallet} (ha : w.autoChargeMoney.toInt = 0)
    (bills : List Billing) :
    (∃ n w', PaysAll w bills n w') ↔ total bills ≤ w.chargedMoney.toInt := by
  constructor
  · rintro ⟨n, w', h⟩
    have hbalance := h.balance.2.2
    have hnn := w'.chargedMoney.toInt_nonneg
    rw [ha, balanceAfter_zero] at hbalance
    omega
  · intro h
    induction bills generalizing w with
    | nil => exact ⟨0, w, .nil w⟩
    | cons bill bills ih =>
        rw [total_cons] at h
        have hnn := total_nonneg bills
        -- the clock does not matter
        have hc : w.Covers bill.amount := Or.inl (by omega)
        obtain ⟨m, hm, hv⟩ := pay_of_covers bill ⟨0, 0⟩ hc
        obtain ⟨n, hends⟩ := pays_pay bill ⟨0, 0⟩ w
        rw [hm] at hends
        rw [ha, balanceAfter_zero] at hv
        obtain ⟨n', w', hrest⟩ := ih (w := { w with chargedMoney := m }) ha (by
          rw [hv]
          omega)
        exact ⟨n + n', w', .cons hends hrest⟩

/-- **The order of payments does not matter**: the balance after a list of bills is given by their
sum, two orders of the same bills end in the same balance after the same number of top-ups, and
without an auto-charge amount one order is accepted exactly if every other is. -/
theorem paysAll_order (w : Wallet) (bills : List Billing) :
    let c := w.chargedMoney.toInt
    let a := w.autoChargeMoney.toInt
    let B := total bills
    (∀ n w', PaysAll w bills n w' →
      (0 < a → w'.chargedMoney.toInt = c + a * ⌈((max 0 (B - c) : Int) : ℚ) / a⌉ - B) ∧
      (a = 0 → w'.chargedMoney.toInt = c - B)) ∧
    (∀ bills', bills.Perm bills' → ∀ n w' n' w'', PaysAll w bills n w' →
      PaysAll w bills' n' w'' → w'.chargedMoney = w''.chargedMoney ∧ n = n') ∧
    (a = 0 → ∀ bills', bills.Perm bills' → ((∃ n w', PaysAll w bills' n w') ↔ B ≤ c)) := by
  intro c a B
  refine ⟨fun n w' h => ?_, fun bills' hperm n w' n' w'' h h' => ?_, fun ha bills' hperm => ?_⟩
  · obtain ⟨-, -, hbalance⟩ := h.balance
    refine ⟨fun ha => ?_, fun ha => ?_⟩
    · rw [hbalance, balanceAfter, rounds_eq_ceil ha, mul_comm]
    · have ha' : w.autoChargeMoney.toInt = 0 := ha
      rw [hbalance, ha', balanceAfter_zero]
  · obtain ⟨-, hn, hbalance⟩ := h.balance
    obtain ⟨-, hn', hbalance'⟩ := h'.balance
    rw [← total_perm hperm] at hn' hbalance'
    exact ⟨Money.ext_toInt (hbalance.trans hbalance'.symm), hn.trans hn'.symm⟩
  · have hsum : B = total bills' := total_perm hperm
    rw [hsum]
    exact paysAll_iff_of_zero ha bills'

/-- From 10 by 5 each, bills of 12 and 4 leave 4 in either order, with 2 top-ups in all. -/
example : balanceAfter (balanceAfter 10 5 12) 5 4 = 4 ∧
    balanceAfter (balanceAfter 10 5 4) 5 12 = 4 ∧
    rounds 10 5 12 + rounds (balanceAfter 10 5 12) 5 4 = 2 := by
  decide

end RedHatPay.Wallet
