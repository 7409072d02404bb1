/-
**The ledger: what any history of token creations and payments leaves behind.**

A history is a sequence of the things that can happen to the stores, in terms of the abstract
payment: a token is created under a key that is not yet in use, a token is taken into processing
by a payment that the wallet then refuses, or a wallet is charged.  A history is kept together
with the list of the payments made in it.  Everything that is asked of the stores over whole runs,
of one deployment or of the other, one request at a time or concurrently, follows from what is
proved here about histories.

* `RedHatPay.Store.Reached` — the stores that a history leads to, with the payments made;
* `RedHatPay.Store.Reached.used_iff`, `RedHatPay.Store.Reached.nodup` — **a token is used up by
  exactly one payment**, and stays used;
* `RedHatPay.Store.Reached.payments_eq`, `RedHatPay.Store.Reached.payments_of_mem` — each payment
  made is on record, and no other record changes;
* `RedHatPay.Store.Reached.balanced` — **the balance**: the start balance and the top-ups, less
  the payments made.
-/

import Mathlib.Data.List.Basic
import RedHatPay.Store

set_option relaxedAutoImplicit false
set_option autoImplicit false

namespace RedHatPay.Store

variable {R : Type} {record : Payment → R} {S₀ S S' : Store R} {L : List (Key × Payment)}

/-- The stores that a history from `S₀` leads to, with the payments made, the last one first. -/
inductive Reached (record : Payment → R) (S₀ : Store R) : List (Key × Payment) → Store R → Prop
  | start : Reached record S₀ [] S₀
  | create {L : List (Key × Payment)} {S : Store R} (key : Key) (h : Reached record S₀ L S)
      (hfresh : S.tokens key = none) : Reached record S₀ L (S.setToken key .unused)
  | refused {L : List (Key × Payment)} {S : Store R} (key : Key) (h : Reached record S₀ L S)
      (hunused : S.tokens key = some .unused) : Reached record S₀ L (S.setToken key .processing)
  | charged {L : List (Key × Payment)} {S S' : Store R} {input : TokenPayInput}
      {now : LocalDateTime} {p : Payment} (h : Reached record S₀ L S)
      (hpay : S.pay record input now = (some p, S')) : Reached record S₀ ((input.key, p) :: L) S'

/-- The sum of the payments made for a shopper. -/
def debits (L : List (Key × Payment)) (id : ShopperId) : Int :=
  ((L.filter fun e => e.1.1 = id).map fun e => e.2.billingAmount.toInt).sum

@[simp] theorem debits_nil (id : ShopperId) : debits [] id = 0 := rfl

theorem debits_cons_self {e : Key × Payment} (L : List (Key × Payment)) :
    debits (e :: L) e.1.1 = e.2.billingAmount.toInt + debits L e.1.1 := by
  simp [debits]

theorem debits_cons_of_ne {e : Key × Payment} {id : ShopperId} (h : e.1.1 ≠ id)
    (L : List (Key × Payment)) : debits (e :: L) id = debits L id := by
  simp [debits, h]

/-- The sum of the amounts that requests ask of a shopper. -/
def requested {ι : Type} (req : ι → PayRequest) (l : List ι) (id : ShopperId) : Int :=
  ((l.filter fun i => (req i).key.1 = id).map fun i => (req i).amount.toInt).sum

/-- A request that succeeds first adds its amount. -/
theorem requested_cons_debits {ι : Type} (req : ι → PayRequest) {i : ι} {l : List ι}
    {L : List (Key × Payment)} {p : Payment}
    (hp : p.billingAmount.toInt = (req i).amount.toInt) (id : ShopperId) :
    requested req l id + debits (((req i).key, p) :: L) id =
      requested req (i :: l) id + debits L id := by
  by_cases hid : (req i).key.1 = id
  · subst hid
    have hdebits : debits (((req i).key, p) :: L) (req i).key.1 =
        p.billingAmount.toInt + debits L (req i).key.1 := debits_cons_self L
    have hrequested : requested req (i :: l) (req i).key.1 =
        (req i).amount.toInt + requested req l (req i).key.1 := by
      simp [requested]
    rw [hdebits, hrequested, hp]
    ring
  · have hrequested : requested req (i :: l) id = requested req l id := by
      simp [requested, hid]
    rw [debits_cons_of_ne hid, hrequested]

/-! ### What does not change -/

/-- A payment is made with an unused token. -/
theorem unused_of_pay {input : TokenPayInput} {now : LocalDateTime} {p : Payment}
    (h : S.pay record input now = (some p, S')) : S.tokens input.key = some .unused := by
  obtain ⟨w, bill, m, hw, -⟩ := pay_eq_some h
  obtain ⟨-, -, -, -, -, -, ht, -⟩ := present_eq_some hw
  exact ht

/-- A payment touches no other token. -/
theorem pay_tokens_of_ne {input : TokenPayInput} {now : LocalDateTime} {p : Payment} {key : Key}
    (h : S.pay record input now = (some p, S')) (hkey : key ≠ input.key) :
    S'.tokens key = S.tokens key := by
  obtain ⟨w, bill, m, -, -, -, -, rfl⟩ := pay_eq_some h
  rw [charge, setPayment_tokens, setToken_tokens, setWallet_tokens, Function.update_of_ne hkey]

/-- What a payment does to the wallets. -/
theorem pay_wallets {input : TokenPayInput} {now : LocalDateTime} {p : Payment}
    (h : S.pay record input now = (some p, S')) :
    ∃ purse m, S.wallets input.shopperId = some purse ∧
      Wallet.Fits purse.charged.toInt purse.autoCharge.toInt input.amount.toInt ∧
      m.toInt = Wallet.balanceAfter purse.charged.toInt purse.autoCharge.toInt
        input.amount.toInt ∧ p.billingAmount = input.amount ∧
      S'.wallets = Function.update S.wallets input.shopperId (some ⟨m, purse.autoCharge⟩) := by
  obtain ⟨w, bill, m, hw, hc, hm, rfl, rfl⟩ := pay_eq_some h
  obtain ⟨name, store, purse, -, -, hpurse, -, rfl, rfl⟩ := present_eq_some hw
  exact ⟨purse, m, hpurse, hc, hm, rfl, rfl⟩

namespace Reached

/-! ### Tokens -/

/-- **A token is used up by a payment, and stays used.** -/
theorem used_iff (h : Reached record S₀ L S) (key : Key) :
    S.tokens key = some .used ↔ S₀.tokens key = some .used ∨ key ∈ L.map Prod.fst := by
  induction h with
  | start => simp
  | create k h hfresh ih =>
      rw [← ih, setToken_tokens]
      by_cases hk : key = k
      · subst hk
        simp [hfresh]
      · rw [Function.update_of_ne hk]
  | refused k h hunused ih =>
      rw [← ih, setToken_tokens]
      by_cases hk : key = k
      · subst hk
        simp [hunused]
      · rw [Function.update_of_ne hk]
  | @charged L S S' input now p h hpay ih =>
      obtain ⟨w, bill, m, -, -, -, -, rfl⟩ := pay_eq_some hpay
      rw [charge, setPayment_tokens, setToken_tokens, setWallet_tokens, List.map_cons,
        List.mem_cons]
      by_cases hk : key = input.key
      · simp [hk]
      · rw [Function.update_of_ne hk, ih]
        simp [hk]

/-- **No token is used up by two payments**, and none that was used at the start. -/
theorem nodup (h : Reached record S₀ L S) :
    (L.map Prod.fst).Nodup ∧ ∀ key ∈ L.map Prod.fst, S₀.tokens key ≠ some .used := by
  induction h with
  | start => simp
  | create key h hfresh ih => exact ih
  | refused key h hunused ih => exact ih
  | charged h hpay ih =>
      have hunused := unused_of_pay hpay
      have hnot := mt (h.used_iff _).2 (by rw [hunused]; decide)
      rw [not_or] at hnot
      rw [List.map_cons, List.nodup_cons]
      refine ⟨⟨hnot.2, ih.1⟩, fun key hkey => ?_⟩
      rcases List.mem_cons.1 hkey with rfl | hkey
      · exact hnot.1
      · exact ih.2 key hkey

/-! ### Payment records -/

/-- A key without a payment keeps its record. -/
theorem payments_eq (h : Reached record S₀ L S) {key : Key} (hkey : key ∉ L.map Prod.fst) :
    S.payments key = S₀.payments key := by
  induction h with
  | start => rfl
  | create k h hfresh ih => exact ih hkey
  | refused k h hunused ih => exact ih hkey
  | charged h hpay ih =>
      obtain ⟨w, bill, m, -, -, -, -, rfl⟩ := pay_eq_some hpay
      rw [List.map_cons, List.mem_cons, not_or] at hkey
      rw [charge, setPayment_payments, Function.update_of_ne hkey.1]
      exact ih hkey.2

/-- Each payment made is on record under its key. -/
theorem payments_of_mem (h : Reached record S₀ L S) {e : Key × Payment} (he : e ∈ L) :
    S.payments e.1 = some (record e.2) := by
  induction h with
  | start => cases he
  | create k h hfresh ih => exact ih he
  | refused k h hunused ih => exact ih he
  | @charged L S S' input now p h hpay ih =>
      -- the record of an earlier payment is not overwritten, since no key is paid twice
      have hnodup := (Reached.charged h hpay).nodup.1
      obtain ⟨w, bill, m, -, -, -, -, rfl⟩ := pay_eq_some hpay
      rw [List.map_cons, List.nodup_cons] at hnodup
      rcases List.mem_cons.1 he with rfl | he
      · rw [charge, setPayment_payments, Function.update_self]
      · have hne : e.1 ≠ input.key := by
          intro heq
          have hmem : e.1 ∈ L.map Prod.fst := List.mem_map_of_mem he
          exact hnodup.1 (heq ▸ hmem)
        rw [charge, setPayment_payments, Function.update_of_ne hne]
        exact ih he

/-! ### Wallets -/

/-- **The balance**: a shopper's wallet holds what it held at the start and the top-ups, less the
payments made; the auto-charge amount stays as it is. -/
theorem balanced (h : Reached record S₀ L S) {id : ShopperId} {purse₀ : Purse}
    (h₀ : S₀.wallets id = some purse₀) :
    ∃ purse, ∃ k : Nat, S.wallets id = some purse ∧ purse.autoCharge = purse₀.autoCharge ∧
      (purse₀.autoCharge.toInt = 0 → k = 0) ∧
      purse.charged.toInt = purse₀.charged.toInt + k * purse₀.autoCharge.toInt - debits L id := by
  induction h with
  | start => exact ⟨purse₀, 0, h₀, rfl, fun _ => rfl, by simp⟩
  | create key h hfresh ih => exact ih
  | refused key h hunused ih => exact ih
  | @charged L S S' input now p h hpay ih =>
      obtain ⟨purse, k, hpurse, hauto, hk, hcharged⟩ := ih
      obtain ⟨purse', m, hpurse', hc, hm, hamount, hwallets⟩ := pay_wallets hpay
      rw [hwallets]
      by_cases hid : input.shopperId = id
      · subst hid
        obtain rfl : purse = purse' := Option.some.inj (hpurse.symm.trans hpurse')
        -- the rounds of this payment come on top of those of the earlier ones
        refine ⟨⟨m, purse.autoCharge⟩, k + Wallet.rounds purse.charged.toInt purse.autoCharge.toInt
          input.amount.toInt, Function.update_self _ _ _, hauto, fun hzero => ?_, ?_⟩
        · rw [hk hzero, Wallet.rounds_of_le]
          rcases hc with hle | ⟨hpos, -⟩
          · exact hle
          · rw [hauto, hzero] at hpos
            exact absurd hpos (lt_irrefl 0)
        · have hdebits : debits ((input.key, p) :: L) input.shopperId =
              p.billingAmount.toInt + debits L input.shopperId := debits_cons_self L
          rw [hdebits, hm, hamount, Wallet.balanceAfter, hcharged, hauto]
          push_cast
          ring
      · refine ⟨purse, k, ?_, hauto, hk, ?_⟩
        · rw [Function.update_of_ne (Ne.symm hid), hpurse]
        · rw [hcharged, debits_cons_of_ne hid]

/-- No wallet appears. -/
theorem wallets_none (h : Reached record S₀ L S) {id : ShopperId} (h₀ : S₀.wallets id = none) :
    S.wallets id = none := by
  induction h with
  | start => exact h₀
  | create key h hfresh ih => exact ih
  | refused key h hunused ih => exact ih
  | charged h hpay ih =>
      obtain ⟨purse, m, hpurse, -, -, -, hwallets⟩ := pay_wallets hpay
      rw [hwallets, Function.update_of_ne, ih]
      rintro rfl
      rw [ih] at hpurse
      cases hpurse

/-- No wallet appears or disappears. -/
theorem wallets_isSome (h : Reached record S₀ L S) (id : ShopperId) :
    (S.wallets id).isSome = (S₀.wallets id).isSome := by
  cases h₀ : S₀.wallets id with
  | none => rw [h.wallets_none h₀]
  | some purse₀ =>
      obtain ⟨purse, k, hpurse, -⟩ := h.balanced h₀
      rw [hpurse]
      rfl

/-- A shopper for whom a payment is made has a wallet. -/
theorem wallets_of_mem (h : Reached record S₀ L S) {e : Key × Payment} (he : e ∈ L) :
    (S₀.wallets e.1.1).isSome := by
  induction h with
  | start => cases he
  | create key h hfresh ih => exact ih he
  | refused key h hunused ih => exact ih he
  | @charged L S S' input now p h hpay ih =>
      rcases List.mem_cons.1 he with rfl | he
      · obtain ⟨purse, m, hpurse, -⟩ := pay_wallets hpay
        change (S₀.wallets input.shopperId).isSome = true
        rw [← h.wallets_isSome, hpurse]
        rfl
      · exact ih he

/-- **The step**: a payment leads a history on, and adds itself to the payments made if it is
made. -/
theorem pay (h : Reached record S₀ L S) (input : TokenPayInput) (now : LocalDateTime) :
    ∃ L', Reached record S₀ L' (S.pay record input now).2 ∧
      match (S.pay record input now).1 with
      | some p => L' = (input.key, p) :: L
      | none => L' = L := by
  rcases pay_cases record S input now with
    ⟨-, hp⟩ | ⟨w, bill, hw, -, hp⟩ | ⟨w, bill, m, -, -, -, hp⟩
  · rw [hp]
    exact ⟨L, h, rfl⟩
  · obtain ⟨-, -, -, -, -, -, ht, -⟩ := present_eq_some hw
    rw [hp]
    exact ⟨L, h.refused input.key ht, rfl⟩
  · rw [hp]
    exact ⟨_, h.charged hp, rfl⟩

end Reached

end RedHatPay.Store
