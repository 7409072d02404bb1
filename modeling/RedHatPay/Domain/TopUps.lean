/-
**Paying a bill, in closed form.**

`Wallet.pay` tops the wallet up in a loop, in 32-bit arithmetic.  This module gives the loop its
meaning as a loop, together with the number of its rounds, and compares what it does with the
exact arithmetic of the integers.

Main definitions:

* `RedHatPay.Wallet.TopsUp`, `RedHatPay.Wallet.Pays` — the loop, and the method with its loop, end
  after a number of top-ups;
* `RedHatPay.Wallet.topUps` — the number of top-ups that a bill takes, as a ceiling;
* `RedHatPay.Wallet.FailsCleanly` — a payment that fails is refused in the declared way, and
  changes nothing.

Main results:

* `RedHatPay.Wallet.pays_iff` — **the method ends**, and it ends as `RedHatPay.Wallet.pay` says;
* `RedHatPay.Wallet.rounds_le_iff` — the number of top-ups is the least that covers the bill;
* `RedHatPay.Wallet.pay_closedForm` — **the closed form of a payment**;
* `RedHatPay.Wallet.pay_of_overflow` — what is left of a wallet whose top-ups leave the range;
* `RedHatPay.Wallet.failsCleanly_iff` — **when a payment fails cleanly**.
-/

import Mathlib.Data.Rat.Floor
import RedHatPay.Lib.Loop
import RedHatPay.Domain.Wallet

set_option relaxedAutoImplicit false
set_option autoImplicit false

namespace RedHatPay.Wallet

/-! ### The least number of top-ups -/

/-- The number of top-ups is the least that raises the balance to the bill. -/
theorem rounds_le_iff {c a b : Int} (ha : 0 < a) {n : Nat} : rounds c a b ≤ n ↔ b ≤ c + n * a := by
  constructor
  · intro h
    have hle : b ≤ c + rounds c a b * a := le_add_rounds ha rfl
    have hmul : (rounds c a b : Int) * a ≤ n * a := by gcongr
    linarith
  · intro h
    induction n generalizing c with
    | zero => rw [rounds_of_le (by simpa using h)]
    | succ n ih =>
        rcases le_or_gt b c with hle | hgt
        · rw [rounds_of_le hle]
          omega
        · rw [rounds_step ha hgt]
          push_cast at h
          have hn := ih (c := c + a) (by linarith)
          omega

/-- The number of top-ups is a ceiling. -/
theorem rounds_eq_ceil {c a b : Int} (ha : 0 < a) :
    (rounds c a b : Int) = ⌈((max 0 (b - c) : Int) : ℚ) / a⌉ := by
  have haq : (0 : ℚ) < a := by exact_mod_cast ha
  have hnn : 0 ≤ ⌈((max 0 (b - c) : Int) : ℚ) / a⌉ := by
    refine Int.ceil_nonneg (div_nonneg ?_ haq.le)
    exact_mod_cast le_max_left 0 (b - c)
  apply le_antisymm
  · obtain ⟨n, hn⟩ := Int.eq_ofNat_of_zero_le hnn
    rw [hn]
    have hle : ((max 0 (b - c) : Int) : ℚ) / a ≤ (n : Int) := by
      rw [← hn]
      exact Int.le_ceil _
    rw [div_le_iff₀ haq] at hle
    have hle' : max 0 (b - c) ≤ n * a := by exact_mod_cast hle
    have hround : rounds c a b ≤ n := (rounds_le_iff ha).2 (by omega)
    exact_mod_cast hround
  · rw [Int.ceil_le, div_le_iff₀ haq]
    have hle : b ≤ c + rounds c a b * a := le_add_rounds ha rfl
    have hpos : 0 ≤ (rounds c a b : Int) * a := by positivity
    have hmax : max 0 (b - c) ≤ (rounds c a b : Int) * a := max_le hpos (by linarith)
    exact_mod_cast hmax

/-- The number of top-ups that the balance `c` takes to cover a bill of `b`. -/
def topUps (c a b : Int) : Int := if b ≤ c then 0 else ⌈((b - c : Int) : ℚ) / a⌉

theorem topUps_eq_rounds {c a b : Int} (h : b ≤ c ∨ 0 < a) : topUps c a b = rounds c a b := by
  rcases le_or_gt b c with hle | hgt
  · rw [topUps, if_pos hle, rounds_of_le hle, Nat.cast_zero]
  · have ha : 0 < a := h.resolve_left (not_le.2 hgt)
    rw [topUps, if_neg (not_le.2 hgt), rounds_eq_ceil ha, max_eq_right (by omega)]

/-- A wallet that has been topped up is left with less than one top-up. -/
theorem balanceAfter_lt {c a b : Int} (ha : 0 < a) (h : c < b) : balanceAfter c a b < a := by
  -- one top-up less would not have covered the bill
  have hlast : ¬ rounds c a b ≤ rounds (c + a) a b := by
    rw [rounds_step ha h]
    omega
  rw [rounds_le_iff ha] at hlast
  rw [balanceAfter, rounds_step ha h]
  push_cast
  linarith

/-! ### The loop and the method -/

/-- The loop of `Wallet.pay` ends after `n` top-ups. -/
def TopsUp (bill : Billing) (w : Wallet) (n : Nat) (r : Except JavaException Unit)
    (w' : Wallet) : Prop :=
  Loop.Ends (fun w => !w.canPay bill) autoCharge w n r w'

/-- `Wallet.pay` ends after `n` top-ups: a rule for each way through its statements. -/
inductive Pays (bill : Billing) (now : LocalDateTime) (w : Wallet) :
    Nat → Except JavaException Payment → Wallet → Prop
  | topped {n : Nat} {w' : Wallet} (hauto : w.autoChargeable = true)
      (h : TopsUp bill w n (.ok ()) w') :
      Pays bill now w n (w'.debit bill now).1 (w'.debit bill now).2
  | caught {n : Nat} {w' : Wallet} {message : String} (hauto : w.autoChargeable = true)
      (h : TopsUp bill w n (.error (.failedAutoCharge message)) w') :
      Pays bill now w n (.error (w'.refusal bill)) w'
  | thrown {n : Nat} {w' : Wallet} {e : JavaException} (hauto : w.autoChargeable = true)
      (h : TopsUp bill w n (.error e) w') (he : ∀ message, e ≠ .failedAutoCharge message) :
      Pays bill now w n (.error e) w'
  | plain (hauto : w.autoChargeable = false) (hpay : w.canPay bill = true) :
      Pays bill now w 0 (w.debit bill now).1 (w.debit bill now).2
  | short (hauto : w.autoChargeable = false) (hpay : w.canPay bill = false) :
      Pays bill now w 0 (.error (w.refusal bill)) w

theorem lt_of_not_canPay {w : Wallet} {bill : Billing} (h : (!w.canPay bill) = true) :
    w.chargedMoney.toInt < bill.amount.toInt := by
  rw [Bool.not_eq_true', ← Bool.not_eq_true, canPay_iff] at h
  omega

theorem autoCharge_eq_ok {w w' : Wallet} {m : Money} (h : w.autoCharge = (.ok m, w')) :
    0 < w.autoChargeMoney.toInt ∧ w' = { w with chargedMoney := m } ∧
      m.toInt = w.chargedMoney.toInt + w.autoChargeMoney.toInt := by
  by_cases ha : 0 < w.autoChargeMoney.toInt
  · rcases lt_or_ge (w.chargedMoney.toInt + w.autoChargeMoney.toInt) (2 ^ 31) with hfit | hfit
    · obtain ⟨m', hm, hv⟩ := autoCharge_ok ha hfit
      rw [hm] at h
      cases h
      exact ⟨ha, rfl, hv⟩
    · rw [autoCharge_error ha hfit] at h
      cases h
  · rw [autoCharge, if_neg (by simpa using ha)] at h
    cases h

/-- A top-up that fails leaves the wallet as it is; the sum was out of range, if the wallet has an
auto-charge amount at all. -/
theorem autoCharge_eq_error {w w' : Wallet} {e : JavaException}
    (h : w.autoCharge = (.error e, w')) : w' = w ∧ (0 < w.autoChargeMoney.toInt →
      e = .runtime "Negative value set to Money" ∧
        2 ^ 31 ≤ w.chargedMoney.toInt + w.autoChargeMoney.toInt) := by
  by_cases ha : 0 < w.autoChargeMoney.toInt
  · rcases lt_or_ge (w.chargedMoney.toInt + w.autoChargeMoney.toInt) (2 ^ 31) with hfit | hfit
    · obtain ⟨m, hm, -⟩ := autoCharge_ok ha hfit
      rw [hm] at h
      cases h
    · rw [autoCharge_error ha hfit] at h
      cases h
      exact ⟨rfl, fun _ => ⟨rfl, hfit⟩⟩
  · rw [autoCharge, if_neg (by simpa using ha)] at h
    cases h
    exact ⟨rfl, fun ha' => absurd ha' ha⟩

/-- The loop ends as `Wallet.topUp` says. -/
theorem TopsUp.eq_topUp {bill : Billing} {w w' : Wallet} {n : Nat} {r : Except JavaException Unit}
    (h : TopsUp bill w n r w') : w.topUp bill = (r, w') := by
  induction h with
  | exit hguard => rw [topUp_eq, if_pos (by simpa using hguard)]
  | throw hguard hbody =>
      have hlt := lt_of_not_canPay hguard
      rw [topUp_eq, if_neg (by simpa using hlt), hbody]
  | round hguard hbody _ ih =>
      have hlt := lt_of_not_canPay hguard
      rw [topUp_eq, if_neg (by simpa using hlt), hbody, ← ih]

/-- **The loop ends**: every top-up brings the balance nearer to the bill. -/
theorem topsUp_topUp (bill : Billing) (w : Wallet) :
    ∃ n, TopsUp bill w n (w.topUp bill).1 (w.topUp bill).2 := by
  obtain ⟨n, r, w', h⟩ : ∃ n r w', TopsUp bill w n r w' := by
    refine Loop.ends_of_variant (fun w => (bill.amount.toInt - w.chargedMoney.toInt).toNat)
      (fun w w' m hguard hbody => ?_) w
    obtain ⟨ha, rfl, hv⟩ := autoCharge_eq_ok hbody
    have hlt := lt_of_not_canPay hguard
    simp only [hv]
    omega
  rw [h.eq_topUp]
  exact ⟨n, h⟩

/-- After `n` top-ups the balance has grown by `n` times the auto-charge amount, also if the next
one throws. -/
theorem TopsUp.balance {bill : Billing} {w w' : Wallet} {n : Nat} {r : Except JavaException Unit}
    (h : TopsUp bill w n r w') : w' = { w with chargedMoney := w'.chargedMoney } ∧
      w'.chargedMoney.toInt = w.chargedMoney.toInt + n * w.autoChargeMoney.toInt := by
  induction h with
  | exit _ => simp
  | throw _ hbody =>
      obtain ⟨rfl, -⟩ := autoCharge_eq_error hbody
      simp
  | round _ hbody _ ih =>
      obtain ⟨-, rfl, hv⟩ := autoCharge_eq_ok hbody
      obtain ⟨hw, hb⟩ := ih
      refine ⟨hw, ?_⟩
      rw [hb, hv]
      push_cast
      ring

/-- A loop that ends normally has made the least number of top-ups. -/
theorem TopsUp.count {bill : Billing} {w w' : Wallet} {n : Nat} (h : TopsUp bill w n (.ok ()) w') :
    n = rounds w.chargedMoney.toInt w.autoChargeMoney.toInt bill.amount.toInt := by
  generalize hr : (Except.ok () : Except JavaException Unit) = r at h
  induction h with
  | exit hguard => rw [rounds_of_le (by simpa using hguard)]
  | throw _ _ => cases hr
  | round hguard hbody _ ih =>
      obtain ⟨ha, rfl, hv⟩ := autoCharge_eq_ok hbody
      rw [rounds_step ha (lt_of_not_canPay hguard), ih hr, hv]

/-- A wallet with an auto-charge amount throws in the loop only if the sum is out of range. -/
theorem TopsUp.overflow {bill : Billing} {w w' : Wallet} {n : Nat} {e : JavaException}
    (h : TopsUp bill w n (.error e) w') (ha : 0 < w.autoChargeMoney.toInt) :
    e = .runtime "Negative value set to Money" ∧ w'.chargedMoney.toInt < bill.amount.toInt ∧
      2 ^ 31 ≤ w'.chargedMoney.toInt + w.autoChargeMoney.toInt := by
  generalize hr : (Except.error e : Except JavaException Unit) = r at h
  induction h with
  | exit _ => cases hr
  | throw hguard hbody =>
      cases hr
      obtain ⟨rfl, hsum⟩ := autoCharge_eq_error hbody
      exact ⟨(hsum ha).1, lt_of_not_canPay hguard, (hsum ha).2⟩
  | round _ hbody _ ih =>
      obtain ⟨-, rfl, -⟩ := autoCharge_eq_ok hbody
      exact ih ha hr

/-- The method ends as `Wallet.pay` says. -/
theorem Pays.eq_pay {bill : Billing} {now : LocalDateTime} {w w' : Wallet} {n : Nat}
    {r : Except JavaException Payment} (h : Pays bill now w n r w') :
    w.pay bill now = (r, w') := by
  cases h with
  | topped hauto h => rw [pay, if_pos hauto, h.eq_topUp]
  | caught hauto h => rw [pay, if_pos hauto, h.eq_topUp]
  | thrown hauto h he =>
      obtain ⟨rfl, -, -⟩ := h.overflow (autoChargeable_iff.1 hauto)
      rw [pay, if_pos hauto, h.eq_topUp]
  | plain hauto hpay => rw [pay, if_neg (Bool.eq_false_iff.1 hauto), if_pos hpay]
  | short hauto hpay =>
      rw [pay, if_neg (Bool.eq_false_iff.1 hauto), if_neg (Bool.eq_false_iff.1 hpay)]

/-- The method ends. -/
theorem pays_pay (bill : Billing) (now : LocalDateTime) (w : Wallet) :
    ∃ n, Pays bill now w n (w.pay bill now).1 (w.pay bill now).2 := by
  cases hauto : w.autoChargeable with
  | false =>
      refine ⟨0, ?_⟩
      cases hpay : w.canPay bill with
      | false =>
          have h : Pays bill now w 0 (.error (w.refusal bill)) w := .short hauto hpay
          rwa [h.eq_pay]
      | true =>
          have h : Pays bill now w 0 (w.debit bill now).1 (w.debit bill now).2 := .plain hauto hpay
          rwa [h.eq_pay]
  | true =>
      obtain ⟨n, htop⟩ := topsUp_topUp bill w
      refine ⟨n, ?_⟩
      rcases hloop : w.topUp bill with ⟨e | u, w'⟩
      · rw [hloop] at htop
        obtain ⟨rfl, -, -⟩ := htop.overflow (autoChargeable_iff.1 hauto)
        have h : Pays bill now w n (.error (.runtime "Negative value set to Money")) w' :=
          .thrown hauto htop nofun
        rwa [h.eq_pay]
      · rw [hloop] at htop
        have h : Pays bill now w n (w'.debit bill now).1 (w'.debit bill now).2 := .topped hauto htop
        rwa [h.eq_pay]

/-- The top-ups of the method are those of the loop, or there are none. -/
theorem Pays.loop {bill : Billing} {now : LocalDateTime} {w w' : Wallet} {n : Nat}
    {r : Except JavaException Payment} (h : Pays bill now w n r w') :
    (w.autoChargeable = true ∧ ∃ r' w'', TopsUp bill w n r' w'') ∨
      (w.autoChargeable = false ∧ n = 0) := by
  cases h with
  | topped hauto h => exact Or.inl ⟨hauto, _, _, h⟩
  | caught hauto h => exact Or.inl ⟨hauto, _, _, h⟩
  | thrown hauto h _ => exact Or.inl ⟨hauto, _, _, h⟩
  | plain hauto _ => exact Or.inr ⟨hauto, rfl⟩
  | short hauto _ => exact Or.inr ⟨hauto, rfl⟩

/-- **The method ends**, after one number of top-ups, and as `Wallet.pay` says. -/
theorem pays_iff (bill : Billing) (now : LocalDateTime) (w : Wallet) :
    ∃ k, ∀ n r w', Pays bill now w n r w' ↔ n = k ∧ w.pay bill now = (r, w') := by
  obtain ⟨k, hk⟩ := pays_pay bill now w
  refine ⟨k, fun n r w' => ⟨fun h => ⟨?_, h.eq_pay⟩, ?_⟩⟩
  · rcases h.loop with ⟨hauto, r₁, w₁, h₁⟩ | ⟨hauto, rfl⟩
    · rcases hk.loop with ⟨-, r₂, w₂, h₂⟩ | ⟨hauto', -⟩
      · exact (h₁.unique h₂).1
      · cases hauto.symm.trans hauto'
    · rcases hk.loop with ⟨hauto', -⟩ | ⟨-, rfl⟩
      · cases hauto.symm.trans hauto'
      · rfl
  · rintro ⟨rfl, heq⟩
    rw [heq] at hk
    exact hk

/-- A payment that is made takes the least number of top-ups. -/
theorem Pays.count {bill : Billing} {now : LocalDateTime} {w w' : Wallet} {n : Nat} {p : Payment}
    (h : Pays bill now w n (.ok p) w') :
    n = rounds w.chargedMoney.toInt w.autoChargeMoney.toInt bill.amount.toInt := by
  generalize hr : (Except.ok p : Except JavaException Payment) = r at h
  cases h with
  | topped _ h => exact h.count
  | caught _ _ => cases hr
  | thrown _ _ _ => cases hr
  | plain _ hpay => rw [rounds_of_le (canPay_iff.1 hpay)]
  | short _ _ => cases hr

/-! ### The closed form -/

/-- What a payment comes to that is made after `k` top-ups. -/
structure Settled (bill : Billing) (now : LocalDateTime) (w : Wallet) (k : Nat) (p : Payment)
    (w' : Wallet) : Prop where
  ends : Pays bill now w k (.ok p) w'
  balance : w'.chargedMoney.toInt =
    w.chargedMoney.toInt + k * w.autoChargeMoney.toInt - bill.amount.toInt
  /-- No smaller number of top-ups covers the bill. -/
  least : ∀ n : Nat,
    bill.amount.toInt ≤ w.chargedMoney.toInt + n * w.autoChargeMoney.toInt → k ≤ n
  /-- What is left after a top-up is less than one top-up. -/
  below : 0 < k → w'.chargedMoney.toInt < w.autoChargeMoney.toInt
  owner : w'.owner = w.owner
  autoCharge : w'.autoChargeMoney = w.autoChargeMoney
  storeId : p.storeId = bill.storeId
  amount : p.billingAmount = bill.amount
  shopperId : p.shopperId = w.owner.id

/-- Every payment that is made is settled after the least number of top-ups. -/
theorem settled_of_pay {bill : Billing} {now : LocalDateTime} {w w' : Wallet} {p : Payment}
    (h : w.pay bill now = (.ok p, w')) :
    Settled bill now w
      (rounds w.chargedMoney.toInt w.autoChargeMoney.toInt bill.amount.toInt) p w' := by
  obtain ⟨hc, hp, hw, hbalance⟩ := pay_eq_ok h
  obtain ⟨n, hends⟩ := pays_pay bill now w
  rw [h] at hends
  have hn := hends.count
  subst hn
  refine ⟨hends, hbalance, fun n hn => ?_, fun hk => ?_, by rw [hw], by rw [hw], by rw [hp],
    by rw [hp], by rw [hp]⟩
  · rcases hc with hle | ⟨ha, -⟩
    · rw [rounds_of_le hle]
      exact Nat.zero_le n
    · exact (rounds_le_iff ha).2 hn
  · have hlt : w.chargedMoney.toInt < bill.amount.toInt := by
      by_contra hle
      rw [rounds_of_le (not_lt.1 hle)] at hk
      exact absurd hk (lt_irrefl 0)
    rw [hbalance]
    exact balanceAfter_lt (hc.resolve_left (not_le.2 hlt)).1 hlt

/-- **The closed form of a payment**: the method ends; with the number `k` of top-ups that the bill
takes, it returns exactly if the bill is covered within the range of `int`, and then `k` top-ups
have been made; otherwise it throws. -/
theorem pay_closedForm (w : Wallet) (bill : Billing) (now : LocalDateTime) :
    let c := w.chargedMoney.toInt
    let a := w.autoChargeMoney.toInt
    let b := bill.amount.toInt
    let k := topUps c a b
    (∃ j, ∀ n r w', Pays bill now w n r w' ↔ n = j ∧ w.pay bill now = (r, w')) ∧
    ((∃ p w', w.pay bill now = (.ok p, w')) ↔ b ≤ c ∨ 0 < a ∧ c + k * a ≤ 2 ^ 31 - 1) ∧
    (∀ p w', w.pay bill now = (.ok p, w') → ∃ n : Nat, (n : Int) = k ∧ Settled bill now w n p w') ∧
    (¬ (b ≤ c ∨ 0 < a ∧ c + k * a ≤ 2 ^ 31 - 1) → ∃ e w', w.pay bill now = (.error e, w')) := by
  intro c a b k
  have hcovers : w.Covers bill.amount ↔ b ≤ c ∨ 0 < a ∧ c + k * a ≤ 2 ^ 31 - 1 := by
    refine or_congr_right (and_congr_right fun ha => ?_)
    have hk : k = rounds c a b := topUps_eq_rounds (Or.inr ha)
    rw [hk]
    exact (Int.le_sub_one_iff).symm
  refine ⟨pays_iff bill now w, pay_ok_iff.trans hcovers, fun p w' h => ?_, fun h => ?_⟩
  · refine ⟨rounds c a b, ?_, settled_of_pay h⟩
    have hc := hcovers.1 (pay_eq_ok h).1
    exact (topUps_eq_rounds (hc.imp_right And.left)).symm
  · exact pay_of_not_covers bill now (mt hcovers.1 h)

/-- A bill that takes two top-ups: from 10 by 5 each, 17 can be paid and 3 are left. -/
example : let w : Wallet := ⟨⟨⟨1⟩, ⟨"Shopper 1"⟩⟩, ⟨10, by decide⟩, ⟨5, by decide⟩⟩
    (w.pay ⟨⟨1⟩, ⟨17, by decide⟩⟩ ⟨0, 0⟩).2.chargedMoney.toInt = 3 ∧
      rounds 10 5 17 = 2 := by
  decide

/-! ### Failing cleanly -/

/-- The payment is made, or it is refused with the declared exception; and if anything is thrown,
the balance is what it was. -/
def FailsCleanly (w : Wallet) (bill : Billing) (now : LocalDateTime) : Prop :=
  match w.pay bill now with
  | (.ok _, _) => True
  | (.error e, w') => (∃ message, e = .failedPayment message) ∧ w'.chargedMoney = w.chargedMoney

/-- **What is left of a wallet whose top-ups leave the range**: as many top-ups as stay in range
have been made, and the exception is that of `Money`. -/
theorem pay_of_overflow {w : Wallet} (bill : Billing) (now : LocalDateTime)
    (ha : 0 < w.autoChargeMoney.toInt) (h : ¬ w.Covers bill.amount) :
    ∃ m, w.pay bill now =
        (.error (.runtime "Negative value set to Money"), { w with chargedMoney := m }) ∧
      m.toInt = w.chargedMoney.toInt + (2 ^ 31 - 1 - w.chargedMoney.toInt) /
        w.autoChargeMoney.toInt * w.autoChargeMoney.toInt := by
  obtain ⟨w₁, htop⟩ := topUp_of_overflow bill ha rfl (not_lt.1 fun hfit => h (Or.inr ⟨ha, hfit⟩))
  obtain ⟨n, hloop⟩ := topsUp_topUp bill w
  rw [htop] at hloop
  obtain ⟨-, -, hsum⟩ := hloop.overflow ha
  obtain ⟨hw, hbalance⟩ := hloop.balance
  refine ⟨w₁.chargedMoney, ?_, ?_⟩
  · rw [pay, if_pos (autoChargeable_iff.2 ha), htop, ← hw]
  · -- the balance is in range, and with one more top-up it is not
    have hlt := w₁.chargedMoney.toInt_lt
    have hquot : (2 ^ 31 - 1 - w.chargedMoney.toInt) / w.autoChargeMoney.toInt = n := by
      rw [Int.ediv_eq_iff_of_pos ha]
      constructor
      · linarith
      · linarith
    rw [hbalance, hquot]

/-- **When a payment fails cleanly**: exactly if the top-ups that the bill takes do not leave the
range of `int`. -/
theorem failsCleanly_iff (w : Wallet) (bill : Billing) (now : LocalDateTime) :
    w.FailsCleanly bill now ↔
      bill.amount.toInt ≤ w.chargedMoney.toInt ∨ w.autoChargeMoney.toInt = 0 ∨
        w.chargedMoney.toInt + topUps w.chargedMoney.toInt w.autoChargeMoney.toInt
          bill.amount.toInt * w.autoChargeMoney.toInt < 2 ^ 31 := by
  have hnn := w.autoChargeMoney.toInt_nonneg
  by_cases hc : w.Covers bill.amount
  · obtain ⟨m, hm, -⟩ := pay_of_covers bill now hc
    rw [FailsCleanly, hm]
    refine iff_of_true trivial ?_
    rcases hc with hle | ⟨ha, hfit⟩
    · exact Or.inl hle
    · rw [topUps_eq_rounds (Or.inr ha)]
      exact Or.inr (Or.inr hfit)
  · by_cases ha : 0 < w.autoChargeMoney.toInt
    · obtain ⟨m, hm, -⟩ := pay_of_overflow bill now ha hc
      rw [FailsCleanly, hm]
      refine iff_of_false ?_ ?_
      · rintro ⟨⟨message, he⟩, -⟩
        cases he
      · rw [topUps_eq_rounds (Or.inr ha)]
        rintro (hle | hzero | hfit)
        · exact hc (Or.inl hle)
        · omega
        · exact hc (Or.inr ⟨ha, hfit⟩)
    · have hzero : w.autoChargeMoney.toInt = 0 := by omega
      have hlt : ¬ bill.amount.toInt ≤ w.chargedMoney.toInt := fun hle => hc (Or.inl hle)
      have hpay : w.pay bill now = (.error (w.refusal bill), w) := by
        rw [pay, if_neg (by simpa using ha), if_neg (by simpa using hlt)]
      rw [FailsCleanly, hpay]
      exact iff_of_true ⟨⟨_, rfl⟩, rfl⟩ (Or.inr (Or.inl hzero))

/-- The wallet of a shopper with a balance of 10, and an auto-charge amount of 2000000000. -/
def largeTopUps : Wallet :=
  ⟨⟨⟨1⟩, ⟨"Shopper 1"⟩⟩, ⟨10, by decide⟩, ⟨2000000000, by decide⟩⟩

/-- For a bill of 2100000000 the first top-up is made, and the second one leaves the range: the
exception is not the declared one, and the balance has changed. -/
theorem not_failsCleanly :
    largeTopUps.chargedMoney.toInt = 10 ∧
      (largeTopUps.pay ⟨⟨1⟩, ⟨2100000000, by decide⟩⟩ ⟨0, 0⟩).2.chargedMoney.toInt = 2000000010 ∧
      ¬ largeTopUps.FailsCleanly ⟨⟨1⟩, ⟨2100000000, by decide⟩⟩ ⟨0, 0⟩ := by
  have ha : 0 < largeTopUps.autoChargeMoney.toInt := by decide
  have hc : ¬ largeTopUps.Covers ⟨2100000000, by decide⟩ := by decide
  obtain ⟨m, hm, hv⟩ := pay_of_overflow ⟨⟨1⟩, ⟨2100000000, by decide⟩⟩ ⟨0, 0⟩ ha hc
  refine ⟨by decide, ?_, ?_⟩
  · rw [hm]
    exact hv.trans (by decide)
  · rw [FailsCleanly, hm]
    rintro ⟨⟨message, he⟩, -⟩
    cases he

end RedHatPay.Wallet
