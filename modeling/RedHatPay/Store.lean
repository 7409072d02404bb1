/-
**Repositories as finite maps, and what a payment does to them.**

This module states the purpose of `TokenUsecaseImpl.pay` apart from its text.  A store is a tuple
of finite maps, as the domain sees them: what `load` of each repository would give, or nothing
where it would throw.  `RedHatPay.Store.pay` says what a payment does to such a store; it has
three outcomes, and no intermediate states.

`RedHatPay.Backend` is the class of repositories that behave like finite maps and are free of
faults: a state, the answer to every repository call, and a view of the state as a store, such
that the answers are those of the view.  The relational repositories and the cache repositories
are both shown to be backends where they are defined.

Main definitions:

* `RedHatPay.Store`, `RedHatPay.Store.present`, `RedHatPay.Store.pay` — the abstract payment;
* `RedHatPay.Store.Answers`, `RedHatPay.Backend` — map-like repositories.

Main results:

* `RedHatPay.Backend.safe_pay`, `RedHatPay.Backend.run_pay` — **the use case refines the abstract
  payment** over every backend;
* `RedHatPay.Store.pay_cases` — the three outcomes of a payment, each with all its effects.
-/

import RedHatPay.Outline

set_option relaxedAutoImplicit false
set_option autoImplicit false

namespace RedHatPay

open Program

/-- A token is identified by its shopper and its id. -/
abbrev Key : Type := ShopperId × TokenId

/-- The key of the token that a payment presents. -/
def TokenPayInput.key (input : TokenPayInput) : Key := (input.shopperId, input.tokenId)

/-- The two amounts of a wallet. -/
structure Purse where
  charged : Money
  autoCharge : Money
  deriving DecidableEq

/-- The wallet of a shopper with the given purse. -/
def Purse.wallet (purse : Purse) (owner : Shopper) : Wallet :=
  ⟨owner, purse.charged, purse.autoCharge⟩

/-- The purse of a wallet. -/
def Wallet.purse (w : Wallet) : Purse := ⟨w.chargedMoney, w.autoChargeMoney⟩

/-- A purse is made of two stored amounts exactly if they are its amounts. -/
theorem Purse.of_amounts_iff {c a : Int32} {purse : Purse} :
    (match Money.new c, Money.new a with
      | .ok charged, .ok autoCharge => some (⟨charged, autoCharge⟩ : Purse)
      | _, _ => none) = some purse ↔ c = purse.charged.value ∧ a = purse.autoCharge.value := by
  constructor
  · intro h
    split at h
    · rename_i charged autoCharge hc ha
      cases h
      exact ⟨Money.new_eq_ok_iff.1 hc, Money.new_eq_ok_iff.1 ha⟩
    · cases h
  · rintro ⟨rfl, rfl⟩
    simp

/-- A wallet is made of two stored amounts if a purse is. -/
theorem Wallet.toOption_of_amounts (c a : Int32) (owner : Shopper) :
    (do
      let chargedMoney ← Money.new c
      let autoChargeMoney ← Money.new a
      return ⟨owner, chargedMoney, autoChargeMoney⟩ : Except JavaException Wallet).toOption =
      (match Money.new c, Money.new a with
        | .ok charged, .ok autoCharge => some (⟨charged, autoCharge⟩ : Purse)
        | _, _ => none).map (Purse.wallet · owner) := by
  cases Money.new c with
  | error e => rfl
  | ok charged =>
      cases Money.new a with
      | error e => rfl
      | ok autoCharge => rfl

/-- It is, if neither of them is negative. -/
theorem Wallet.of_amounts {c a : Int32} (hc : 0 ≤ c.toInt) (ha : 0 ≤ a.toInt) (owner : Shopper) :
    (do
      let chargedMoney ← Money.new c
      let autoChargeMoney ← Money.new a
      return ⟨owner, chargedMoney, autoChargeMoney⟩ : Except JavaException Wallet) =
      .ok ⟨owner, ⟨c, hc⟩, ⟨a, ha⟩⟩ := by
  rw [Money.new_of_nonneg hc, Money.new_of_nonneg ha]
  rfl

/-- The stores of the system as finite maps; `R` is what is kept of a payment. -/
structure Store (R : Type) where
  shoppers : ShopperId → Option FullName
  stores : StoreId → Option CoffeeStore
  wallets : ShopperId → Option Purse
  tokens : Key → Option TokenStatus
  payments : Key → Option R

namespace Store

variable {R : Type}

/-! ### The abstract payment -/

/-- The wallet and the bill of a payment that finds its shopper, its store, its wallet and an
unused token. -/
def present (S : Store R) (input : TokenPayInput) : Option (Wallet × Billing) :=
  match S.shoppers input.shopperId, S.stores input.storeId, S.wallets input.shopperId,
      S.tokens input.key with
  | some name, some store, some purse, some .unused =>
      some (purse.wallet ⟨input.shopperId, name⟩, store.createBill input.amount)
  | _, _, _, _ => none

/-- The store after a token has been given a status. -/
def setToken (S : Store R) (key : Key) (status : TokenStatus) : Store R :=
  { S with tokens := Function.update S.tokens key (some status) }

/-- The store after a wallet has been written. -/
def setWallet (S : Store R) (w : Wallet) : Store R :=
  { S with wallets := Function.update S.wallets w.owner.id (some w.purse) }

/-- The store after a payment record has been written. -/
def setPayment (S : Store R) (key : Key) (r : R) : Store R :=
  { S with payments := Function.update S.payments key (some r) }

@[simp] theorem setToken_tokens (S : Store R) (key : Key) (status : TokenStatus) :
    (S.setToken key status).tokens = Function.update S.tokens key (some status) := rfl

@[simp] theorem setToken_wallets (S : Store R) (key : Key) (status : TokenStatus) :
    (S.setToken key status).wallets = S.wallets := rfl

@[simp] theorem setWallet_tokens (S : Store R) (w : Wallet) :
    (S.setWallet w).tokens = S.tokens := rfl

@[simp] theorem setWallet_wallets (S : Store R) (w : Wallet) :
    (S.setWallet w).wallets = Function.update S.wallets w.owner.id (some w.purse) := rfl

@[simp] theorem setPayment_tokens (S : Store R) (key : Key) (r : R) :
    (S.setPayment key r).tokens = S.tokens := rfl

@[simp] theorem setPayment_wallets (S : Store R) (key : Key) (r : R) :
    (S.setPayment key r).wallets = S.wallets := rfl

@[simp] theorem setPayment_payments (S : Store R) (key : Key) (r : R) :
    (S.setPayment key r).payments = Function.update S.payments key (some r) := rfl

/-- Giving a token the status it has changes nothing. -/
theorem setToken_self {S : Store R} {key : Key} {status : TokenStatus}
    (h : S.tokens key = some status) : S.setToken key status = S := by
  rw [setToken, ← h, Function.update_eq_self]

/-- The last status given to a token counts. -/
theorem setToken_setToken (S : Store R) (key : Key) (status status' : TokenStatus) :
    (S.setToken key status).setToken key status' = S.setToken key status' := by
  simp [setToken]

theorem setWallet_setToken (S : Store R) (w : Wallet) (key : Key) (status : TokenStatus) :
    (S.setToken key status).setWallet w = (S.setWallet w).setToken key status := rfl

/-- **What a payment does**: nothing, if it does not find what it needs or the token is not
unused; it leaves the token in processing, if the wallet refuses the bill; otherwise it debits the
wallet, uses up the token and records the payment. -/
def pay (record : Payment → R) (S : Store R) (input : TokenPayInput) (now : LocalDateTime) :
    Option Payment × Store R :=
  match S.present input with
  | none => (none, S)
  | some (wallet, bill) =>
      match wallet.pay bill now with
      | (.error _, _) => (none, S.setToken input.key .processing)
      | (.ok p, wallet') =>
          let related : Payment := { p with tokenId := some input.tokenId }
          (some related, ((S.setWallet wallet').setToken input.key .used).setPayment input.key
            (record related))

/-- What the use case throws or returns for the outcome of the abstract payment. -/
def outcome : Option Payment → Except JavaException Payment
  | some p => .ok p
  | none => .error failToPay

/-! ### The three outcomes -/

/-- The payment that is made out for a charged token. -/
def receipt (input : TokenPayInput) (bill : Billing) (now : LocalDateTime) : Payment :=
  ⟨bill.storeId, input.shopperId, input.amount, now, some input.tokenId⟩

/-- The store after a wallet has been charged for a token. -/
def charge (S : Store R) (input : TokenPayInput) (w : Wallet) (r : R) : Store R :=
  ((S.setWallet w).setToken input.key .used).setPayment input.key r

/-- The store after the writes of a payment, one after the other. -/
theorem charge_eq (S : Store R) (input : TokenPayInput) (w : Wallet) (r : R) :
    (((S.setToken input.key .processing).setWallet w).setToken input.key .used).setPayment
      input.key r = S.charge input w r := by
  rw [setWallet_setToken, setToken_setToken]
  rfl

/-- A status that is not `used` is not found in the store after a charge if it was not found
before. -/
theorem charge_tokens_ne {S : Store R} {input : TokenPayInput} {w : Wallet} {r : R} {key : Key}
    {status : TokenStatus} (hs : status ≠ .used) (h : S.tokens key ≠ some status) :
    (S.charge input w r).tokens key ≠ some status := by
  rw [charge, setPayment_tokens, setToken_tokens, setWallet_tokens]
  by_cases hk : key = input.key
  · rw [hk, Function.update_self]
    exact fun heq => hs (Option.some.inj heq).symm
  · rw [Function.update_of_ne hk]
    exact h

/-- What a payment finds when it finds everything that it needs. -/
theorem present_eq_some {S : Store R} {input : TokenPayInput} {w : Wallet} {bill : Billing}
    (h : S.present input = some (w, bill)) :
    ∃ name store purse, S.shoppers input.shopperId = some name ∧
      S.stores input.storeId = some store ∧ S.wallets input.shopperId = some purse ∧
      S.tokens input.key = some .unused ∧ w = purse.wallet ⟨input.shopperId, name⟩ ∧
      bill = store.createBill input.amount := by
  unfold present at h
  split at h
  · rename_i name store purse hsh hst hw ht
    cases h
    exact ⟨name, store, purse, hsh, hst, hw, ht, rfl, rfl⟩
  · cases h

theorem present_of {S : Store R} {input : TokenPayInput} {name : FullName} {store : CoffeeStore}
    {purse : Purse} (hsh : S.shoppers input.shopperId = some name)
    (hst : S.stores input.storeId = some store) (hw : S.wallets input.shopperId = some purse)
    (ht : S.tokens input.key = some .unused) :
    S.present input =
      some (purse.wallet ⟨input.shopperId, name⟩, store.createBill input.amount) := by
  simp [present, hsh, hst, hw, ht]

theorem present_of_token_ne {S : Store R} {input : TokenPayInput}
    (ht : S.tokens input.key ≠ some .unused) : S.present input = none := by
  rcases h : S.present input with - | ⟨w, bill⟩
  · rfl
  · obtain ⟨-, -, -, -, -, -, ht', -, -⟩ := present_eq_some h
    exact absurd ht' ht

theorem pay_of_absent {S : Store R} {input : TokenPayInput} (h : S.present input = none)
    (record : Payment → R) (now : LocalDateTime) : S.pay record input now = (none, S) := by
  rw [pay, h]

theorem pay_of_refused {S : Store R} {input : TokenPayInput} {w : Wallet} {bill : Billing}
    (h : S.present input = some (w, bill)) (hc : ¬ w.Covers input.amount)
    (record : Payment → R) (now : LocalDateTime) :
    S.pay record input now = (none, S.setToken input.key .processing) := by
  obtain ⟨_, store, _, _, _, _, _, _, rfl⟩ := present_eq_some h
  obtain ⟨e, w', hp⟩ :=
    Wallet.pay_of_not_covers (store.createBill input.amount) now hc
  rw [pay, h]
  simp only [hp]

theorem pay_of_charged {S : Store R} {input : TokenPayInput} {w : Wallet} {bill : Billing}
    (h : S.present input = some (w, bill)) (hc : w.Covers input.amount) (record : Payment → R)
    (now : LocalDateTime) :
    ∃ m, m.toInt =
        Wallet.balanceAfter w.chargedMoney.toInt w.autoChargeMoney.toInt input.amount.toInt ∧
      S.pay record input now = (some (receipt input bill now),
        S.charge input { w with chargedMoney := m } (record (receipt input bill now))) := by
  obtain ⟨_, store, _, _, _, _, _, rfl, rfl⟩ := present_eq_some h
  obtain ⟨m, hp, hm⟩ :=
    Wallet.pay_of_covers (store.createBill input.amount) now hc
  refine ⟨m, hm, ?_⟩
  rw [pay, h]
  simp only [hp]
  rfl

/-- **The three outcomes of a payment.** -/
theorem pay_cases (record : Payment → R) (S : Store R) (input : TokenPayInput)
    (now : LocalDateTime) :
    (S.present input = none ∧ S.pay record input now = (none, S)) ∨
    (∃ w bill, S.present input = some (w, bill) ∧ ¬ w.Covers input.amount ∧
      S.pay record input now = (none, S.setToken input.key .processing)) ∨
    (∃ w bill m, S.present input = some (w, bill) ∧ w.Covers input.amount ∧
      m.toInt =
        Wallet.balanceAfter w.chargedMoney.toInt w.autoChargeMoney.toInt input.amount.toInt ∧
      S.pay record input now = (some (receipt input bill now),
        S.charge input { w with chargedMoney := m } (record (receipt input bill now)))) := by
  rcases h : S.present input with - | ⟨w, bill⟩
  · exact Or.inl ⟨rfl, pay_of_absent h record now⟩
  · by_cases hc : w.Covers input.amount
    · obtain ⟨m, hm, hp⟩ := pay_of_charged h hc record now
      exact Or.inr (Or.inr ⟨w, bill, m, rfl, hc, hm, hp⟩)
    · exact Or.inr (Or.inl ⟨w, bill, rfl, hc, pay_of_refused h hc record now⟩)

/-- The store with other coffee stores. -/
def withStores (S : Store R) (T : StoreId → Option CoffeeStore) : Store R := { S with stores := T }

/-- What a payment finds depends on the entries of its shopper, its token and its store, and of the
store only on the id. -/
theorem present_congr {R' : Type} {S : Store R} {S' : Store R'} {input : TokenPayInput}
    (hshopper : S.shoppers input.shopperId = S'.shoppers input.shopperId)
    (hstore : (S.stores input.storeId).map CoffeeStore.id =
      (S'.stores input.storeId).map CoffeeStore.id)
    (hwallet : S.wallets input.shopperId = S'.wallets input.shopperId)
    (htoken : S.tokens input.key = S'.tokens input.key) : S.present input = S'.present input := by
  rw [present, present, hshopper, hwallet, htoken]
  cases hT : S.stores input.storeId with
  | none =>
      rw [hT, Option.map_none] at hstore
      rw [Option.map_eq_none_iff.1 hstore.symm]
  | some store =>
      rw [hT, Option.map_some] at hstore
      obtain ⟨store', hstore', hid⟩ := Option.map_eq_some_iff.1 hstore.symm
      have hbill : store.createBill input.amount = store'.createBill input.amount := by
        simp [CoffeeStore.createBill, hid]
      rw [hstore']
      rcases S'.shoppers input.shopperId with - | name
      · rfl
      · rcases S'.wallets input.shopperId with - | purse
        · rfl
        · rcases S'.tokens input.key with - | (_ | _ | _ | _)
          · rfl
          · exact congrArg (fun b => some (purse.wallet ⟨input.shopperId, name⟩, b)) hbill
          · rfl
          · rfl
          · rfl

/-- Two stores in which a payment finds the same make the same payment. -/
theorem pay_congr {R' : Type} {S : Store R} {S' : Store R'} {input : TokenPayInput}
    {now : LocalDateTime} {p : Payment} {T : Store R} {record : Payment → R}
    (hpresent : S.present input = S'.present input) (h : S.pay record input now = (some p, T))
    (record' : Payment → R') : ∃ w : Wallet, w.owner.id = input.shopperId ∧
      T = S.charge input w (record p) ∧
      S'.pay record' input now = (some p, S'.charge input w (record' p)) := by
  rw [pay] at h
  rw [pay, ← hpresent]
  rcases hw : S.present input with - | ⟨w, bill⟩
  · rw [hw] at h
    cases h
  · obtain ⟨name, store, purse, -, -, -, -, rfl, rfl⟩ := present_eq_some hw
    rw [hw] at h
    rcases hpay : (purse.wallet ⟨input.shopperId, name⟩).pay (store.createBill input.amount) now
      with ⟨e | p', w'⟩
    · simp only [hpay] at h
      cases h
    · simp only [hpay] at h ⊢
      obtain ⟨-, -, howner, -⟩ := Wallet.pay_eq_ok hpay
      cases h
      exact ⟨w', by rw [howner]; rfl, rfl, rfl⟩

/-- A payment depends on the id of its coffee store only. -/
theorem pay_withStores {S : Store R} {T : StoreId → Option CoffeeStore} {input : TokenPayInput}
    (h : (T input.storeId).map CoffeeStore.id = (S.stores input.storeId).map CoffeeStore.id)
    (record : Payment → R) (now : LocalDateTime) :
    (S.withStores T).pay record input now =
      ((S.pay record input now).1, (S.pay record input now).2.withStores T) := by
  have hpresent : (S.withStores T).present input = S.present input := present_congr rfl h rfl rfl
  rw [pay, pay, hpresent]
  rcases S.present input with - | ⟨w, bill⟩
  · rfl
  · rcases hp : w.pay bill now with ⟨e | p, w'⟩
    · simp only [hp]
      rfl
    · simp only [hp]
      rfl

/-- A payment leaves the coffee stores as they are. -/
theorem pay_stores (record : Payment → R) (S : Store R) (input : TokenPayInput)
    (now : LocalDateTime) : (S.pay record input now).2.stores = S.stores :=
  congrArg (fun out => out.2.stores) (pay_withStores (T := S.stores) rfl record now)

/-- Whether a payment is made does not depend on the time. -/
theorem pay_eq_none {record : Payment → R} {S : Store R} {input : TokenPayInput}
    {now : LocalDateTime} (h : (S.pay record input now).1 = none) (now' : LocalDateTime) :
    (S.pay record input now').1 = none := by
  rcases pay_cases record S input now with
    ⟨hw, -⟩ | ⟨w, bill, hw, hc, -⟩ | ⟨w, bill, m, -, -, -, hp⟩
  · rw [pay_of_absent hw]
  · rw [pay_of_refused hw hc]
  · rw [hp] at h
    cases h

/-- What is known of a payment that is made. -/
theorem pay_eq_some {record : Payment → R} {S S' : Store R} {input : TokenPayInput}
    {now : LocalDateTime} {p : Payment} (h : S.pay record input now = (some p, S')) :
    ∃ w bill m, S.present input = some (w, bill) ∧ w.Covers input.amount ∧
      m.toInt =
        Wallet.balanceAfter w.chargedMoney.toInt w.autoChargeMoney.toInt input.amount.toInt ∧
      p = receipt input bill now ∧ S' = S.charge input { w with chargedMoney := m } (record p) := by
  rcases pay_cases record S input now with
    ⟨-, hp⟩ | ⟨w, bill, -, -, hp⟩ | ⟨w, bill, m, hw, hc, hm, hp⟩
  · rw [hp] at h
    cases h
  · rw [hp] at h
    cases h
  · rw [hp] at h
    cases h
    exact ⟨w, bill, m, hw, hc, hm, rfl, rfl⟩

/-! ### What a payment has found -/

/-- The token that is loaded for a status in the contents. -/
def loadedToken (input : TokenPayInput) (status : TokenStatus) : Token :=
  ⟨input.shopperId, input.tokenId, status, none⟩

/-- What the use case has found in the contents `S` once the wallet is loaded. -/
def Found (S : Store R) (input : TokenPayInput) (w : Wallet) (bill : Billing) : Prop :=
  ∃ name store purse, S.shoppers input.shopperId = some name ∧
    S.stores input.storeId = some store ∧ S.wallets input.shopperId = some purse ∧
    w = purse.wallet ⟨input.shopperId, name⟩ ∧ bill = store.createBill input.amount

/-- The wallet has paid the bill for the token that was unused in `S`. -/
def Paid (S : Store R) (input : TokenPayInput) (now : LocalDateTime) (p : Payment)
    (w' : Wallet) (token : Token) : Prop :=
  token = loadedToken input .unused ∧
    ∃ w bill, S.present input = some (w, bill) ∧ w.pay bill now = (.ok p, w')

theorem Paid.pay_eq {record : Payment → R} {S : Store R} {input : TokenPayInput}
    {now : LocalDateTime} {p : Payment} {w' : Wallet} {token : Token}
    (h : Paid S input now p w' token) :
    S.pay record input now = (some (token.relate p),
      ((S.setWallet w').setToken input.key .used).setPayment input.key
        (record (token.relate p))) := by
  obtain ⟨rfl, w, bill, hpresent, hpay⟩ := h
  rw [pay, hpresent]
  simp only [hpay]
  rfl

theorem Paid.owner {S : Store R} {input : TokenPayInput} {now : LocalDateTime}
    {p : Payment} {w' : Wallet} {token : Token} (h : Paid S input now p w' token) :
    p.shopperId = input.shopperId ∧ w'.owner.id = input.shopperId ∧
      (S.wallets input.shopperId).map Purse.autoCharge = some w'.autoChargeMoney := by
  obtain ⟨rfl, w, bill, hpresent, hpay⟩ := h
  obtain ⟨name, store, purse, -, -, hw, -, rfl, -⟩ := present_eq_some hpresent
  obtain ⟨-, rfl, hw', -⟩ := Wallet.pay_eq_ok hpay
  refine ⟨rfl, by rw [hw']; rfl, ?_⟩
  rw [hw, hw']
  rfl

/-! ### Map-like repositories -/

/-- The answers that map-like repositories with the contents `S` give to a call, and the contents
`S'` after it.  Loading what is missing throws, or gives `null` for a token.  The calls that `pay`
makes only of what it has loaded are specified only there. -/
def Answers (record : Payment → R) (S : Store R) (o : RepoOp)
    (a : Except JavaException o.Res) (S' : Store R) : Prop :=
  match o, a with
  | .loadShopper id, a => a.toOption = (S.shoppers id).map (Shopper.mk id) ∧ S' = S
  | .loadStore id, a => a.toOption = S.stores id ∧ S' = S
  | .loadWallet owner, a => a.toOption = (S.wallets owner.id).map (Purse.wallet · owner) ∧ S' = S
  | .loadToken shopperId tokenId, a => a.toOption.join =
      (S.tokens (shopperId, tokenId)).map (Token.mk shopperId tokenId · none) ∧ S' = S
  | .storeWallet w, a =>
      (S.wallets w.owner.id).map Purse.autoCharge = some w.autoChargeMoney →
        a = .ok () ∧ S' = S.setWallet w
  | .storeToken token, a => (S.tokens (token.shopperId, token.tokenId)).isSome →
      a = .ok () ∧ S' = S.setToken (token.shopperId, token.tokenId) token.status
  | .storePayment p, a => ∀ tokenId, p.tokenId = some tokenId →
      a = .ok () ∧ S' = S.setPayment (p.shopperId, tokenId) (record p)
  -- the calls that `pay` does not make
  | .createToken _, _ | .loadPayment _ _, _ | .loadPoint _, _ | .storePoint _, _ => True

end Store

/-- Repositories that behave like finite maps. -/
structure Backend where
  /-- The states of the repositories. -/
  State : Type
  /-- What is kept of a payment. -/
  Record : Type
  record : Payment → Record
  /-- The answer to every repository call. -/
  env : Env RepoOp RepoOp.Res JavaException State
  /-- The contents of the repositories. -/
  view : State → Store Record
  answers : ∀ s o, (view s).Answers record o (env o s).1 (view (env o s).2)

namespace Backend

variable (B : Backend)

/-- What the rules for programs know of a backend. -/
def spec : Spec RepoOp RepoOp.Res JavaException B.State where
  pre _ _ := True
  post s o a s' := (B.view s).Answers B.record o a (B.view s')

/-- The payment has done what the abstract payment does to the contents `S`. -/
def Refines (S : Store B.Record) (input : TokenPayInput) (now : LocalDateTime)
    (r : Except JavaException Payment) (s' : B.State) : Prop :=
  r = Store.outcome (S.pay B.record input now).1 ∧ B.view s' = (S.pay B.record input now).2

variable {B}

/-- The outline of a payment over a backend with the contents `S` at the start. -/
def payOutline (S : Store B.Record) (input : TokenPayInput) (now : LocalDateTime) :
    PayOutline B.spec input now (B.Refines S input now) where
  start s := B.view s = S
  shopperLoaded shopper s := B.view s = S ∧
    ∃ name, S.shoppers input.shopperId = some name ∧ shopper = ⟨input.shopperId, name⟩
  storeLoaded shopper store s := B.view s = S ∧
    (∃ name, S.shoppers input.shopperId = some name ∧ shopper = ⟨input.shopperId, name⟩) ∧
      S.stores input.storeId = some store
  walletLoaded w bill s := B.view s = S ∧ Store.Found S input w bill
  tokenLoaded w bill token s := B.view s = S ∧ Store.Found S input w bill ∧
    token = (S.tokens input.key).map (Store.loadedToken input)
  processingStored w bill token s := token = Store.loadedToken input .unused ∧
    S.present input = some (w, bill) ∧ B.view s = S.setToken input.key .processing
  walletStored p token s := ∃ w', Store.Paid S input now p w' token ∧
    B.view s = (S.setWallet w').setToken input.key .processing
  usedStored p token s := ∃ w', Store.Paid S input now p w' token ∧
    B.view s = (S.setWallet w').setToken input.key .used
  -- what the abstract payment leaves is what the `catch` block is about to store
  caught token s := match token with
    | none => S.present input = none ∧ B.view s = S
    | some token => (token.shopperId, token.tokenId) = input.key ∧
        ((B.view s).tokens input.key).isSome ∧
        S.pay B.record input now = (none, (B.view s).setToken input.key token.status)
  loadShopper := by
    refine triple_perform (fun _ _ => trivial) (fun s shopper s' hs h => ?_)
      fun s e s' hs h => ?_
    · obtain ⟨ha, hs'⟩ := h
      obtain ⟨name, hname, rfl⟩ := Option.map_eq_some_iff.1 ha.symm
      exact ⟨hs'.trans hs, name, hs ▸ hname, rfl⟩
    · obtain ⟨ha, hs'⟩ := h
      have hnone : S.shoppers input.shopperId = none := hs ▸ Option.map_eq_none_iff.1 ha.symm
      exact ⟨by simp [Store.present, hnone], hs'.trans hs⟩
  loadStore shopper := by
    refine triple_perform (fun _ _ => trivial) (fun s store s' hs h => ?_)
      fun s e s' hs h => ?_
    · obtain ⟨ha, hs'⟩ := h
      exact ⟨hs'.trans hs.1, hs.2, hs.1 ▸ ha.symm⟩
    · obtain ⟨ha, hs'⟩ := h
      have hnone : S.stores input.storeId = none := hs.1 ▸ ha.symm
      exact ⟨by simp [Store.present, hnone], hs'.trans hs.1⟩
  loadWallet shopper store := by
    refine triple_perform (fun _ _ => trivial) (fun s w s' hs h => ?_) fun s e s' hs h => ?_
    · obtain ⟨hs, ⟨name, hname, rfl⟩, hstore⟩ := hs
      obtain ⟨ha, hs'⟩ := h
      obtain ⟨purse, hpurse, rfl⟩ := Option.map_eq_some_iff.1 ha.symm
      exact ⟨hs'.trans hs, name, store, purse, hname, hstore, hs ▸ hpurse, rfl, rfl⟩
    · obtain ⟨hs, ⟨name, hname, rfl⟩, hstore⟩ := hs
      obtain ⟨ha, hs'⟩ := h
      have hnone : S.wallets input.shopperId = none := hs ▸ Option.map_eq_none_iff.1 ha.symm
      exact ⟨by simp [Store.present, hnone], hs'.trans hs⟩
  loadToken w bill := by
    refine triple_perform (fun _ _ => trivial) (fun s token s' hs h => ?_) fun s e s' hs h => ?_
    · obtain ⟨ha, hs'⟩ := h
      exact ⟨hs'.trans hs.1, hs.2, hs.1 ▸ ha⟩
    · obtain ⟨ha, hs'⟩ := h
      have hnone : S.tokens input.key = none := hs.1 ▸ Option.map_eq_none_iff.1 ha.symm
      exact ⟨Store.present_of_token_ne (by rw [hnone]; nofun), hs'.trans hs.1⟩
  absent w bill s h := by
    obtain ⟨hs, -, htoken⟩ := h
    have hnone : S.tokens input.key = none := Option.map_eq_none_iff.1 htoken.symm
    exact ⟨Store.present_of_token_ne (by rw [hnone]; nofun), hs⟩
  refused w bill token s hne h := by
    obtain ⟨hs, -, htoken⟩ := h
    obtain ⟨status, hstatus, rfl⟩ := Option.map_eq_some_iff.1 htoken.symm
    have hpresent : S.present input = none :=
      Store.present_of_token_ne fun h => hne (Option.some.inj (hstatus.symm.trans h))
    refine ⟨rfl, by rw [hs, hstatus]; rfl, ?_⟩
    rw [Store.pay_of_absent hpresent, hs]
    exact congrArg _ (Store.setToken_self hstatus).symm
  storeProcessing w bill token hunused := by
    refine triple_perform (fun _ _ => trivial) (fun s _ s' hs h => ?_) fun s e s' hs h => ?_
    all_goals
      obtain ⟨hs, ⟨name, store, purse, hname, hstore, hpurse, rfl, rfl⟩, htoken⟩ := hs
      obtain ⟨status, hstatus, rfl⟩ := Option.map_eq_some_iff.1 htoken.symm
      -- the token that was loaded is still in the store, so that its update cannot fail
      obtain rfl : status = .unused := hunused
      obtain ⟨ha, hs'⟩ := h (by rw [hs]; exact Option.isSome_of_eq_some hstatus)
    · exact ⟨rfl, Store.present_of hname hstore hpurse hstatus, by rw [hs', hs]; rfl⟩
    · cases ha
  insufficient w bill token s hc h := by
    obtain ⟨rfl, hpresent, hs⟩ := h
    obtain ⟨_, store, _, _, _, _, _, _, rfl⟩ := Store.present_eq_some hpresent
    refine ⟨rfl, by simp [hs], ?_⟩
    rw [Store.pay_of_refused hpresent hc, hs]
    exact congrArg _ (Store.setToken_setToken _ _ _ _).symm
  storeWallet w bill token p w' hpay := by
    refine triple_perform (fun _ _ => trivial) (fun s _ s' hs h => ?_) fun s e s' hs h => ?_
    all_goals
      obtain ⟨rfl, hpresent, hs⟩ := hs
      have hpaid : Store.Paid S input now p w' (Store.loadedToken input .unused) :=
        ⟨rfl, w, bill, hpresent, hpay⟩
      obtain ⟨-, howner, hauto⟩ := hpaid.owner
      obtain ⟨ha, hs'⟩ := h (by rw [hs, howner]; exact hauto)
    · exact ⟨w', hpaid, by rw [hs', hs]; rfl⟩
    · cases ha
  storeUsed p token := by
    refine triple_perform (fun _ _ => trivial) (fun s _ s' hs h => ?_) fun s e s' hs h => ?_
    all_goals
      obtain ⟨w', hpaid, hs⟩ := hs
      have hkey : ((token.usedFor p).shopperId, (token.usedFor p).tokenId) = input.key := by
        rw [hpaid.1]
        rfl
      obtain ⟨ha, hs'⟩ := h (by rw [hkey, hs]; simp)
    · refine ⟨w', hpaid, ?_⟩
      rw [hs', hs, hkey]
      exact Store.setToken_setToken _ _ _ _
    · cases ha
  storePayment p token := by
    refine triple_perform (fun _ _ => trivial) (fun s _ s' hs h => ?_) fun s e s' hs h => ?_
    all_goals
      obtain ⟨w', hpaid, hs⟩ := hs
      obtain ⟨ha, hs'⟩ := h token.tokenId rfl
    · have hkey : ((token.relate p).shopperId, token.tokenId) = input.key := by
        rw [hpaid.1]
        exact congrArg (·, input.tokenId) hpaid.owner.1
      rw [hkey] at hs'
      change B.Refines S input now (.ok (token.relate p)) s'
      rw [Refines, hpaid.pay_eq, hs', hs]
      exact ⟨rfl, rfl⟩
    · cases ha
  catchNone s h := by
    rw [Refines, Store.pay_of_absent h.1]
    exact ⟨rfl, h.2⟩
  catchSome token := by
    refine triple_perform (fun _ _ => trivial) (fun s _ s' hs h => ?_) fun s e s' hs h => ?_
    all_goals
      obtain ⟨hkey, htok, hpay⟩ := hs
      obtain ⟨ha, hs'⟩ := h (by rw [hkey]; exact htok)
    · rw [Refines, hpay, hs', hkey]
      exact ⟨rfl, rfl⟩
    · cases ha

/-- **The use case refines the abstract payment**, over all map-like repositories. -/
theorem safe_pay (input : TokenPayInput) (now : LocalDateTime) (s : B.State) :
    Safe B.spec (B.Refines (B.view s) input now) (TokenUsecaseImpl.pay input now) s :=
  (payOutline (B.view s) input now).safe rfl

/-- Running the use case against a backend. -/
theorem run_pay (input : TokenPayInput) (now : LocalDateTime) (s : B.State) :
    B.Refines (B.view s) input now (run B.env (TokenUsecaseImpl.pay input now) s).1
      (run B.env (TokenUsecaseImpl.pay input now) s).2 :=
  Safe.run (fun s o _ => B.answers s o) (safe_pay input now s)

end Backend

end RedHatPay
