/-
**The use case `TokenUsecaseImpl.pay`, specified in full.**

Over map-like repositories without faults the outcome of a payment, and every entry after it, are
determined by the entries before it.  The use case runs through a dozen calls, and its `catch`
block writes; none of that shows here.

Main definitions:

* `RedHatPay.Store.Payable` — when a payment is made;
* `RedHatPay.Store.PaidBy`, `RedHatPay.Store.LeftBy` — all the entries after a payment that is
  made, and after one that is not;
* `RedHatPay.Store.SameFor` — the entries of a shopper are the same.

Main results:

* `RedHatPay.Store.pay_meets` — the abstract payment meets the specification;
* `RedHatPay.Backend.pay_spec` — **so does the use case, over every backend**, and the requests of
  different shoppers do not affect each other.
-/

import RedHatPay.Monolith.TokenLifecycle

set_option relaxedAutoImplicit false
set_option autoImplicit false

namespace RedHatPay

open Program

namespace Store

variable {R : Type} {record : Payment → R} {S S' : Store R} {input : TokenPayInput}
  {now : LocalDateTime}

/-! ### The specification -/

/-- The payment finds a shopper, a wallet, a store and an unused token, and the wallet pays. -/
def Payable (S : Store R) (input : TokenPayInput) (now : LocalDateTime) : Prop :=
  ∃ name purse store p w, S.shoppers input.shopperId = some name ∧
    S.wallets input.shopperId = some purse ∧ S.stores input.storeId = some store ∧
    S.tokens input.key = some .unused ∧
    (purse.wallet ⟨input.shopperId, name⟩).pay ⟨input.storeId, input.amount⟩ now = (.ok p, w)

/-- The entries `S'` after the payment `p` has been made: the wallet holds the balance that
`Wallet.pay` computes, the token is used, the payment is recorded, and that is all. -/
structure PaidBy (record : Payment → R) (input : TokenPayInput) (now : LocalDateTime)
    (S S' : Store R) (p : Payment) : Prop where
  payment : p = ⟨input.storeId, input.shopperId, input.amount, now, some input.tokenId⟩
  wallets : ∃ name purse, S.shoppers input.shopperId = some name ∧
    S.wallets input.shopperId = some purse ∧
    S'.wallets = Function.update S.wallets input.shopperId (some ⟨((purse.wallet
      ⟨input.shopperId, name⟩).pay ⟨input.storeId, input.amount⟩ now).2.chargedMoney,
        purse.autoCharge⟩)
  tokens : S'.tokens = Function.update S.tokens input.key (some .used)
  payments : S'.payments = Function.update S.payments input.key (some (record p))
  shoppers : S'.shoppers = S.shoppers
  stores : S'.stores = S.stores

/-- The entries `S'` after a payment that is not made: at most the token has changed. -/
structure LeftBy (input : TokenPayInput) (S S' : Store R) : Prop where
  wallets : S'.wallets = S.wallets
  tokens : ∀ key, key ≠ input.key → S'.tokens key = S.tokens key
  payments : S'.payments = S.payments
  shoppers : S'.shoppers = S.shoppers
  stores : S'.stores = S.stores

/-- The entries of a shopper are the same, and so are the stores. -/
structure SameFor (id : ShopperId) (S S' : Store R) : Prop where
  shopper : S'.shoppers id = S.shoppers id
  wallet : S'.wallets id = S.wallets id
  token : ∀ tokenId, S'.tokens (id, tokenId) = S.tokens (id, tokenId)
  payment : ∀ tokenId, S'.payments (id, tokenId) = S.payments (id, tokenId)
  stores : S'.stores = S.stores

/-! ### The abstract payment -/

/-- **The abstract payment meets the specification.** -/
theorem pay_meets (record : Payment → R) (S : Store R) (input : TokenPayInput)
    (now : LocalDateTime)
    (hq : ∀ store, S.stores input.storeId = some store → store.id = input.storeId) :
    (∃ p, (S.pay record input now).1 = some p ∧ S.Payable input now ∧
      PaidBy record input now S (S.pay record input now).2 p) ∨
    ((S.pay record input now).1 = none ∧ ¬ S.Payable input now ∧
      LeftBy input S (S.pay record input now).2) := by
  rcases pay_cases record S input now with
    ⟨hnone, hp⟩ | ⟨w, bill, hpresent, hc, hp⟩ | ⟨w, bill, m, hpresent, hc, hm, hp⟩
  · rw [hp]
    refine Or.inr ⟨rfl, ?_, rfl, fun _ _ => rfl, rfl, rfl, rfl⟩
    rintro ⟨name, purse, store, p, w, hsh, hw, hst, ht, -⟩
    cases hnone.symm.trans (present_of hsh hst hw ht)
  · obtain ⟨name, store, purse, hsh, hst, hw, ht, rfl, rfl⟩ := present_eq_some hpresent
    rw [hp]
    refine Or.inr ⟨rfl, ?_, rfl, fun key hkey => ?_, rfl, rfl, rfl⟩
    · rintro ⟨name', purse', store', p, w', hsh', hw', -, -, hpay⟩
      cases hsh.symm.trans hsh'
      cases hw.symm.trans hw'
      exact hc (Wallet.pay_eq_ok hpay).1
    · rw [setToken_tokens, Function.update_of_ne hkey]
  · obtain ⟨name, store, purse, hsh, hst, hw, ht, rfl, rfl⟩ := present_eq_some hpresent
    -- the bill is made out by the store that was asked for
    have hid := hq store hst
    obtain ⟨m', hpay, hm'⟩ := Wallet.pay_of_covers ⟨input.storeId, input.amount⟩ now hc
    obtain rfl : m' = m := Money.ext_toInt (hm'.trans hm.symm)
    rw [hp]
    refine Or.inl ⟨_, rfl, ⟨name, purse, store, _, _, hsh, hw, hst, ht, hpay⟩, ?_,
      ⟨name, purse, hsh, hw, ?_⟩, rfl, rfl, rfl, rfl⟩
    · rw [receipt, CoffeeStore.createBill, hid]
    · rw [hpay]
      rfl

/-- A payment that is made leaves the entries of the other shoppers as they are. -/
theorem PaidBy.sameFor {p : Payment} {id : ShopperId} (h : PaidBy record input now S S' p)
    (hid : id ≠ input.shopperId) : SameFor id S S' := by
  have hkey : ∀ tokenId, ((id, tokenId) : Key) ≠ input.key := fun tokenId heq =>
    hid (congrArg Prod.fst heq)
  obtain ⟨name, purse, -, -, hwallets⟩ := h.wallets
  refine ⟨congrFun h.shoppers id, ?_, fun tokenId => ?_, fun tokenId => ?_, h.stores⟩
  · rw [hwallets, Function.update_of_ne hid]
  · rw [h.tokens, Function.update_of_ne (hkey tokenId)]
  · rw [h.payments, Function.update_of_ne (hkey tokenId)]

/-- So does one that is not made. -/
theorem LeftBy.sameFor {id : ShopperId} (h : LeftBy input S S') (hid : id ≠ input.shopperId) :
    SameFor id S S' := by
  refine ⟨congrFun h.shoppers id, congrFun h.wallets id, fun tokenId => ?_,
    fun tokenId => congrFun h.payments (id, tokenId), h.stores⟩
  exact h.tokens _ fun heq => hid (congrArg Prod.fst heq)

/-- What comes of a payment depends on the entries of its shopper only. -/
theorem SameFor.pay_eq (h : SameFor input.shopperId S S') (now : LocalDateTime) :
    (S'.pay record input now).1 = (S.pay record input now).1 := by
  have hpresent : S'.present input = S.present input := by
    refine present_congr h.shopper ?_ h.wallet (h.token input.tokenId)
    rw [h.stores]
  rw [pay, pay, hpresent]
  rcases S.present input with - | ⟨w, bill⟩
  · rfl
  · rcases hp : w.pay bill now with ⟨e | p, w'⟩
    · simp only [hp]
    · simp only [hp]

end Store

/-! ### The use case -/

/-- **The use case in full**: it returns exactly if the payment can be made, and then the wallet,
the token and the payment record are what they should be and nothing else has changed; otherwise
it throws, and nothing but the token may have changed.  In both cases the other shoppers are not
affected, nor what comes of their payments. -/
theorem Backend.pay_spec (B : Backend) (s : B.State) (input : TokenPayInput) (now : LocalDateTime)
    (hq : ∀ store, (B.view s).stores input.storeId = some store → store.id = input.storeId) :
    let out := run B.env (TokenUsecaseImpl.pay input now) s
    ((∃ p, out.1 = .ok p) ↔ (B.view s).Payable input now) ∧
    (∀ p, out.1 = .ok p → Store.PaidBy B.record input now (B.view s) (B.view out.2) p) ∧
    (¬ (B.view s).Payable input now → out.1 = .error (.paymentException "Fail to pay") ∧
      Store.LeftBy input (B.view s) (B.view out.2)) ∧
    (∀ input' now', input'.shopperId ≠ input.shopperId →
      Store.SameFor input'.shopperId (B.view s) (B.view out.2) ∧
      (run B.env (TokenUsecaseImpl.pay input' now') out.2).1 =
        (run B.env (TokenUsecaseImpl.pay input' now') s).1) := by
  intro out
  obtain ⟨hout, hview⟩ := Backend.run_pay (B := B) input now s
  change out.1 = _ at hout
  change B.view out.2 = _ at hview
  -- the other shoppers' payments see the same entries
  have hothers : ∀ input' : TokenPayInput, ∀ now',
      Store.SameFor input'.shopperId (B.view s) (B.view out.2) →
      (run B.env (TokenUsecaseImpl.pay input' now') out.2).1 =
        (run B.env (TokenUsecaseImpl.pay input' now') s).1 := by
    intro input' now' hsame
    rw [(Backend.run_pay input' now' out.2).1, (Backend.run_pay input' now' s).1,
      hsame.pay_eq now']
  rcases Store.pay_meets B.record (B.view s) input now hq with
    ⟨p, hp, hpayable, hpaid⟩ | ⟨hp, hnot, hleft⟩
  · rw [hp] at hout
    rw [← hview] at hpaid
    refine ⟨iff_of_true ⟨p, hout⟩ hpayable, fun p' hp' => ?_, fun h => absurd hpayable h,
      fun input' now' hid => ?_⟩
    · cases hout.symm.trans hp'
      exact hpaid
    · exact ⟨hpaid.sameFor hid, hothers input' now' (hpaid.sameFor hid)⟩
  · rw [hp] at hout
    rw [← hview] at hleft
    refine ⟨iff_of_false ?_ hnot, fun p hp' => ?_, fun _ => ⟨hout, hleft⟩,
      fun input' now' hid => ?_⟩
    · rintro ⟨p, hp'⟩
      cases hout.symm.trans hp'
    · cases hout.symm.trans hp'
    · exact ⟨hleft.sameFor hid, hothers input' now' (hleft.sameFor hid)⟩

/-- The relational repositories find a store under its own id. -/
theorem Monolith.stores_id (s : Monolith.DbState) (id : StoreId) (store : CoffeeStore)
    (h : s.toStore.stores id = some store) : store.id = id := by
  obtain ⟨name, -, rfl⟩ := Option.map_eq_some_iff.1 h
  rfl

/-- A bill of 30 is paid out of a balance of 100, over the relational repositories. -/
theorem pay_spec_oneShopper :
    let s : Monolith.DbState := (Monolith.oneShopper 100 0 .unused).idle
    let input : TokenPayInput := ⟨⟨1⟩, ⟨30, by decide⟩, ⟨"abcd"⟩, ⟨1⟩⟩
    let out := run Monolith.rdbmsEnv (TokenUsecaseImpl.pay input ⟨0, 0⟩) s
    ((∃ p, out.1 = .ok p) ↔ s.toStore.Payable input ⟨0, 0⟩) ∧ out.1.isOk = true :=
  ⟨(Backend.pay_spec Monolith.rdbmsBackend (Monolith.oneShopper 100 0 .unused).idle
    ⟨⟨1⟩, ⟨30, by decide⟩, ⟨"abcd"⟩, ⟨1⟩⟩ ⟨0, 0⟩ (Monolith.stores_id _ _)).1, by decide⟩

end RedHatPay
