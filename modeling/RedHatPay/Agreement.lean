/-
**How far the two deployments agree.**

The same requests are sent to both, from states that match.  The deployments agree on every request
up to one that presents a token which was presented in vain before: when a wallet refuses a bill,
the monolith commits what it has written of the token and the data grid rolls it back, so that the
token is spent in the one and unused in the other.  A later payment with it, which the wallet covers
by then or for its amount, is made by the data grid only.  So is a payment of a shopper without a
point account, which the monolith rolls back.

* `RedHatPay.Matching` — matching states;
* `RedHatPay.Pair`, `RedHatPay.Pair.step` — both deployments, and the tokens presented in vain;
* `RedHatPay.Related` — the simulation relation;
* `RedHatPay.agree_iff` — **the deployments agree** in exactly the runs in which no token that was
  presented in vain is presented again for an amount that the wallet covers, and every shopper who
  can pay has a point account.
-/

import RedHatPay.Deployments
import RedHatPay.Ledger

set_option relaxedAutoImplicit false
set_option autoImplicit false

namespace RedHatPay

open Program Grid

/-! ### Matching states -/

/-- A payment row, with its date to the second. -/
def Monolith.PaymentEntity.toSecond (row : Monolith.PaymentEntity) : Grid.PaymentEntity :=
  ⟨row.storeId, row.billingAmount, row.billingDateTime.toEpochSecond zoneOffset⟩

/-- The same wallets, used tokens and payment records, with dates to the second. -/
structure Agree (S : Store Monolith.PaymentEntity) (T : Store Grid.PaymentEntity) : Prop where
  wallets : S.wallets = T.wallets
  used : ∀ key, S.tokens key = some .used ↔ T.tokens key = some .used
  payments : ∀ key, (S.payments key).map Monolith.PaymentEntity.toSecond = T.payments key

/-- The ids of the stores that the monolith has. -/
def StoreId.InRange (id : StoreId) : Prop := 0 ≤ id.value.toInt ∧ id.value.toInt ≤ 9

/-- **Matching states**: the same shoppers, wallets, tokens and payment records, and the stores 0
to 9 in the monolith. -/
structure Matching (db : Monolith.Db) (c : Caches) : Prop where
  shoppers : db.toStore.shoppers = c.toStore.shoppers
  wallets : db.toStore.wallets = c.toStore.wallets
  tokens : db.toStore.tokens = c.toStore.tokens
  payments : ∀ key,
    (db.toStore.payments key).map Monolith.PaymentEntity.toSecond = c.toStore.payments key
  stores : ∀ id : StoreId, id.InRange → (db.toStore.stores id).isSome

/-! ### The simulation relation -/

/-- **The simulation relation** between the stores of the monolith and of the data grid: they match,
but for some tokens that are in processing in the one and unused in the other. -/
structure Related (S : Store Monolith.PaymentEntity) (T : Store Grid.PaymentEntity)
    (vain : Key → Prop) : Prop where
  shoppers : S.shoppers = T.shoppers
  wallets : S.wallets = T.wallets
  payments : ∀ key, (S.payments key).map Monolith.PaymentEntity.toSecond = T.payments key
  stores : ∀ id : StoreId, id.InRange →
    (S.stores id).map CoffeeStore.id = (T.stores id).map CoffeeStore.id
  records : ∀ key, (S.payments key).isSome → (S.wallets key.1).isSome
  tokens : ∀ key, ¬ vain key → S.tokens key = T.tokens key
  spent : ∀ key, vain key → S.tokens key = some .processing ∧ T.tokens key = some .unused

namespace Related

variable {S : Store Monolith.PaymentEntity} {T : Store Grid.PaymentEntity} {vain : Key → Prop}

theorem agree (h : Related S T vain) : Agree S T where
  wallets := h.wallets
  used key := by
    by_cases hvain : vain key
    · obtain ⟨hprocessing, hunused⟩ := h.spent key hvain
      rw [hprocessing, hunused]
      decide
    · rw [h.tokens key hvain]
  payments := h.payments

theorem congr {vain' : Key → Prop} (h : Related S T vain)
    (hvain : ∀ key, vain' key ↔ vain key) : Related S T vain' :=
  ⟨h.shoppers, h.wallets, h.payments, h.stores, h.records,
    fun key hkey => h.tokens key fun hv => hkey ((hvain key).2 hv),
    fun key hkey => h.spent key ((hvain key).1 hkey)⟩

/-- A token that was not presented in vain lets a payment find the same on both sides. -/
theorem present_eq (h : Related S T vain) (input : TokenPayInput)
    (hrange : input.storeId.InRange) (hvain : ¬ vain input.key) :
    S.present input = T.present input :=
  Store.present_congr (congrFun h.shoppers _) (h.stores _ hrange) (congrFun h.wallets _)
    (h.tokens _ hvain)

/-- A token that was presented in vain is not paid with in the monolith. -/
theorem present_spent (h : Related S T vain) (input : TokenPayInput)
    (hvain : vain input.key) : S.present input = none := by
  refine Store.present_of_token_ne ?_
  rw [(h.spent _ hvain).1]
  nofun

/-- A payment that the monolith can make is found by the data grid as well. -/
theorem present_found (h : Related S T vain) {input : TokenPayInput} {out : Wallet × Billing}
    (hrange : input.storeId.InRange) (hpresent : S.present input = some out) :
    T.present input = some out := by
  have hvain : ¬ vain input.key := by
    intro hvain
    rw [h.present_spent input hvain] at hpresent
    cases hpresent
  rw [← h.present_eq input hrange hvain, hpresent]

/-- A token is created on both sides. -/
theorem create (h : Related S T vain) (key₀ : Key) :
    Related (S.setToken key₀ .unused) (T.setToken key₀ .unused)
      fun key => vain key ∧ key ≠ key₀ := by
  refine ⟨h.shoppers, h.wallets, h.payments, h.stores, h.records, fun key hkey => ?_,
    fun key hkey => ?_⟩
  · rw [Store.setToken_tokens, Store.setToken_tokens]
    by_cases hk : key = key₀
    · rw [hk, Function.update_self, Function.update_self]
    · rw [Function.update_of_ne hk, Function.update_of_ne hk]
      exact h.tokens key fun hvain => hkey ⟨hvain, hk⟩
  · rw [Store.setToken_tokens, Store.setToken_tokens, Function.update_of_ne hkey.2,
      Function.update_of_ne hkey.2]
    exact h.spent key hkey.1

/-- A wallet refuses a bill: the monolith keeps what it has written. -/
theorem refuse (h : Related S T vain) {key₀ : Key} (hunused : T.tokens key₀ = some .unused) :
    Related (S.setToken key₀ .processing) T fun key => vain key ∨ key = key₀ := by
  refine ⟨h.shoppers, h.wallets, h.payments, h.stores, h.records, fun key hkey => ?_,
    fun key hkey => ?_⟩
  · rw [not_or] at hkey
    rw [Store.setToken_tokens, Function.update_of_ne hkey.2]
    exact h.tokens key hkey.1
  · rw [Store.setToken_tokens]
    by_cases hk : key = key₀
    · rw [hk, Function.update_self]
      exact ⟨rfl, hunused⟩
    · rw [Function.update_of_ne hk]
      exact h.spent key (hkey.resolve_right hk)

/-- A wallet is charged on both sides. -/
theorem charge (h : Related S T vain) {input : TokenPayInput} {w : Wallet}
    (hw : w.owner.id = input.shopperId) (hwallet : (S.wallets input.shopperId).isSome)
    (hvain : ¬ vain input.key) (row : Monolith.PaymentEntity) :
    Related (S.charge input w row) (T.charge input w row.toSecond) vain := by
  have hwallets : ∀ id, ((S.charge input w row).wallets id).isSome = (S.wallets id).isSome := by
    intro id
    rw [Store.charge, Store.setPayment_wallets, Store.setToken_wallets, Store.setWallet_wallets, hw]
    by_cases hid : id = input.shopperId
    · rw [hid, Function.update_self, hwallet]
      rfl
    · rw [Function.update_of_ne hid]
  refine ⟨h.shoppers, ?_, fun key => ?_, h.stores, fun key hkey => ?_, fun key hkey => ?_,
    fun key hkey => ?_⟩
  · rw [Store.charge, Store.charge, Store.setPayment_wallets, Store.setPayment_wallets,
      Store.setToken_wallets, Store.setToken_wallets, Store.setWallet_wallets,
      Store.setWallet_wallets, h.wallets]
  · rw [Store.charge, Store.charge, Store.setPayment_payments, Store.setPayment_payments]
    by_cases hk : key = input.key
    · rw [hk, Function.update_self, Function.update_self]
      rfl
    · rw [Function.update_of_ne hk, Function.update_of_ne hk]
      exact h.payments key
  · rw [hwallets]
    rw [Store.charge, Store.setPayment_payments] at hkey
    by_cases hk : key = input.key
    · rw [hk]
      exact hwallet
    · rw [Function.update_of_ne hk] at hkey
      exact h.records key hkey
  · rw [Store.charge, Store.charge, Store.setPayment_tokens, Store.setPayment_tokens,
      Store.setToken_tokens, Store.setToken_tokens]
    by_cases hk : key = input.key
    · rw [hk, Function.update_self, Function.update_self]
    · rw [Function.update_of_ne hk, Function.update_of_ne hk]
      exact h.tokens key hkey
  · have hk : key ≠ input.key := by
      rintro rfl
      exact hvain hkey
    rw [Store.charge, Store.charge, Store.setPayment_tokens, Store.setPayment_tokens,
      Store.setToken_tokens, Store.setToken_tokens, Function.update_of_ne hk,
      Function.update_of_ne hk]
    exact h.spent key hkey

end Related

/-! ### Both deployments -/

/-- Does the payment find everything that it needs, and an unused token, and does the wallet then
refuse the bill? -/
def Quarkus.Refused (c : Caches) (req : PayRequest) : Prop :=
  ∃ m w bill, req.amount = Money.value m ∧ c.toStore.present (req.input m) = some (w, bill) ∧
    ¬ w.Covers m

/-- Both deployments, and the tokens that were presented in vain: a wallet has refused the bill, and
the token was not created again since. -/
structure Pair where
  db : Monolith.Db
  grid : Quarkus.Deployment
  vain : Key → Prop

namespace Pair

/-- The same request to both. -/
def step (p : Pair) (r : Request) : Pair where
  db := Monolith.step p.db r
  grid := (Quarkus.serve p.grid r).2
  vain key := match r with
    | .createToken userId uuid => p.vain key ∧ key ≠ createdKey userId uuid
    | .pay req _ => p.vain key ∨ key = req.key ∧ Quarkus.Refused p.grid.caches req

/-- Both succeed or both fail, and they agree on wallets, used tokens and payment records. -/
def Agrees (p : Pair) (r : Request) : Prop :=
  (Monolith.serve p.db r).1.isOk = (Quarkus.serve p.grid r).1.isOk ∧
    Agree (p.step r).db.toStore (p.step r).grid.caches.toStore

/-- A payment for an amount that the wallet covers is not with a token that was presented in vain,
and its shopper has a point account. -/
def Admissible (p : Pair) : Request → Prop
  | .createToken _ _ => True
  | .pay req _ => Quarkus.Chargeable p.grid.caches req →
      ¬ p.vain req.key ∧ (p.db.points req.userId).isSome

/-- The states of the two deployments are related. -/
def Holds (p : Pair) : Prop :=
  Related p.db.toStore p.grid.caches.toStore p.vain

variable {p : Pair}

theorem agrees_createToken (h : p.Holds) (userId : Int32) (uuid : UUID) :
    p.Agrees (.createToken userId uuid) ∧ (p.step (.createToken userId uuid)).Holds := by
  have hholds : (p.step (.createToken userId uuid)).Holds := by
    have hdb : (p.step (.createToken userId uuid)).db.toStore =
        p.db.toStore.setToken (createdKey userId uuid) .unused :=
      Monolith.step_createToken p.db userId uuid
    have hgrid : (p.step (.createToken userId uuid)).grid.caches.toStore =
        p.grid.caches.toStore.setToken (createdKey userId uuid) .unused :=
      Quarkus.toStore_createToken p.grid userId uuid
    rw [Holds, hdb, hgrid]
    exact Related.create h (createdKey userId uuid)
  exact ⟨⟨by rw [Monolith.serve, Monolith.createToken_eq]; rfl, hholds.agree⟩, hholds⟩

/-! ### Payment requests -/

variable {req : PayRequest} (clock : Nat → LocalDateTime)

/-- What the wallet covers it does not refuse. -/
theorem not_refused_of_chargeable {c : Caches} (h : Quarkus.Chargeable c req) :
    ¬ Quarkus.Refused c req := by
  obtain ⟨m, w, bill, hm, hpresent, hcovers⟩ := h
  rintro ⟨m', w', bill', hm', hpresent', hnot⟩
  obtain rfl : m' = m := Money.ext_toInt (congrArg Int32.toInt (hm'.symm.trans hm))
  cases hpresent.symm.trans hpresent'
  exact hnot hcovers

/-- A payment that is not made fails in the data grid. -/
theorem grid_fails (h : p.Holds) (hnot : ¬ Quarkus.Chargeable p.grid.caches req) :
    (Quarkus.serve p.grid (.pay req clock)).1.isOk = false ∧
      (Quarkus.serve p.grid (.pay req clock)).2.caches = p.grid.caches := by
  rcases Quarkus.serve_pay p.grid req clock with ⟨hchargeable, -⟩ | ⟨-, hcaches, hfail⟩
  · exact absurd hchargeable hnot
  · refine ⟨hfail ?_, hcaches⟩
    by_cases hrecord : p.grid.caches.toStore.payments req.key = none
    · exact Or.inr hrecord
    · rw [← h.payments, Option.map_eq_none_iff] at hrecord
      have hwallet := h.records req.key (Option.isSome_iff_ne_none.2 hrecord)
      rw [h.wallets] at hwallet
      exact Or.inl (Option.isSome_iff_ne_none.1 hwallet)

/-- Both deployments make the payment. -/
theorem agrees_charged (h : p.Holds) (hrange : StoreId.InRange ⟨req.storeId⟩)
    (hchargeable : Quarkus.Chargeable p.grid.caches req) (hvain : ¬ p.vain req.key)
    (hpoint : (p.db.points req.userId).isSome) :
    p.Agrees (.pay req clock) ∧ (p.step (.pay req clock)).Holds := by
  rcases Quarkus.serve_pay p.grid req clock with ⟨-, hok, m, payment, hm, hgrid⟩ | ⟨hnot, -⟩
  -- both find the same, and so charge the same wallet
  · obtain ⟨w, howner, hT, hS⟩ := Store.pay_congr
      (h.present_eq (req.input m) hrange hvain).symm hgrid
      Monolith.RdbmsPaymentRepository.entity
    have hwallet : (p.db.toStore.wallets ⟨req.userId⟩).isSome := by
      obtain ⟨purse, -, hpurse, -⟩ := Store.pay_wallets hS
      exact Option.isSome_of_eq_some hpurse
    obtain ⟨q, hq⟩ := Option.isSome_iff_exists.1 hpoint
    obtain ⟨hout, hdb, -⟩ := Monolith.pay_of_charged (clock 0) hm (congrArg Prod.fst hS) hq
    have hholds : (p.step (.pay req clock)).Holds := by
      have hdb' : (p.step (.pay req clock)).db.toStore = p.db.toStore.charge (req.input m) w
          (Monolith.RdbmsPaymentRepository.entity payment) := hdb.trans (congrArg Prod.snd hS)
      have hgrid' : (p.step (.pay req clock)).grid.caches.toStore =
          p.grid.caches.toStore.charge (req.input m) w
            (Monolith.RdbmsPaymentRepository.entity payment).toSecond := hT
      rw [Holds, hdb', hgrid']
      refine (Related.charge h howner hwallet hvain _).congr fun key => ?_
      exact or_iff_left fun hrefused => not_refused_of_chargeable hchargeable hrefused.2
    refine ⟨⟨?_, hholds.agree⟩, hholds⟩
    rw [hok, Monolith.serve, hout]
    rfl
  · exact absurd hchargeable hnot

/-- Neither deployment makes the payment. -/
theorem agrees_failed (h : p.Holds) (hrange : StoreId.InRange ⟨req.storeId⟩)
    (hnot : ¬ Quarkus.Chargeable p.grid.caches req) :
    p.Agrees (.pay req clock) ∧ (p.step (.pay req clock)).Holds := by
  obtain ⟨hfail, hcaches⟩ := grid_fails clock h hnot
  have hgrid : (p.step (.pay req clock)).grid.caches.toStore = p.grid.caches.toStore :=
    congrArg Caches.toStore hcaches
  rcases Monolith.pay_cases p.db req (clock 0) with
    ⟨⟨m, w, bill, hm, hpresent, hcovers⟩, hout, hdb, -⟩ | ⟨hrefused, ⟨e, hout, -⟩, hdb, -⟩ |
      ⟨-, m, payment, hm, hpay, -⟩
  · -- the monolith has taken the token into processing
    have hpresent := h.present_found hrange hpresent
    obtain ⟨-, -, -, -, -, -, hunused, -, -⟩ := Store.present_eq_some hpresent
    have hholds : (p.step (.pay req clock)).Holds := by
      have hdb' : (p.step (.pay req clock)).db.toStore =
          p.db.toStore.setToken req.key .processing := hdb
      rw [Holds, hdb', hgrid]
      refine (Related.refuse h hunused).congr fun key => ?_
      exact or_congr_right (and_iff_left ⟨m, w, bill, hm, hpresent, hcovers⟩)
    refine ⟨⟨?_, hholds.agree⟩, hholds⟩
    rw [hfail, Monolith.serve, hout]
    rfl
  -- neither has changed anything
  · have hholds : (p.step (.pay req clock)).Holds := by
      have hdb' : (p.step (.pay req clock)).db.toStore = p.db.toStore := hdb
      rw [Holds, hdb', hgrid]
      refine Related.congr h fun key => ⟨fun hkey => ?_, Or.inl⟩
      rcases hkey with hkey | ⟨rfl, m, w, bill, hm, hpresent, hcovers⟩
      · exact hkey
      · by_contra hvain
        rw [← h.present_eq (req.input m) hrange hvain] at hpresent
        exact hrefused ⟨m, w, bill, hm, hpresent, hcovers⟩
    refine ⟨⟨?_, hholds.agree⟩, hholds⟩
    rw [hfail, Monolith.serve, hout]
    rfl
  · obtain ⟨w, bill, m', hpresent, hcovers, -⟩ := Store.pay_eq_some hpay
    exact absurd ⟨m, w, bill, hm, h.present_found hrange hpresent, hcovers⟩ hnot

/-- The data grid only makes a payment with a token presented in vain, or of a shopper without a
point account. -/
theorem not_agrees (h : p.Holds) (hchargeable : Quarkus.Chargeable p.grid.caches req)
    (hnot : ¬ (¬ p.vain req.key ∧ (p.db.points req.userId).isSome)) :
    ¬ p.Agrees (.pay req clock) := by
  rintro ⟨hok, -⟩
  rcases Quarkus.serve_pay p.grid req clock with ⟨-, hgrid, -⟩ | ⟨hfailed, -⟩
  · rw [hgrid] at hok
    rcases Monolith.pay_cases p.db req (clock 0) with ⟨-, hout, -⟩ | ⟨-, ⟨e, hout, -⟩, -⟩ |
      ⟨-, m, payment, hm, hpay, hout, -⟩
    · rw [Monolith.serve, hout] at hok
      cases hok
    · rw [Monolith.serve, hout] at hok
      cases hok
    · refine hnot ⟨fun hvain => ?_, Option.isSome_iff_ne_none.2 fun hpoint => ?_⟩
      · obtain ⟨w, bill, m', hpresent, -⟩ := Store.pay_eq_some hpay
        rw [h.present_spent (req.input m) hvain] at hpresent
        cases hpresent
      · rw [Monolith.pay_of_no_point hm (congrArg Prod.fst hpay) hpoint] at hout
        cases hout
  · exact hfailed hchargeable

end Pair

/-- The request is for one of the stores that the monolith has. -/
def Request.InRange : Request → Prop
  | .createToken _ _ => True
  | .pay req _ => StoreId.InRange ⟨req.storeId⟩

/-- **One request**: the deployments agree on it if it is admissible, and only then; and then they
stay related. -/
theorem Pair.agrees_iff {p : Pair} (h : p.Holds) {r : Request} (hr : r.InRange) :
    (p.Agrees r ↔ p.Admissible r) ∧ (p.Admissible r → (p.step r).Holds) := by
  cases r with
  | createToken userId uuid =>
      obtain ⟨hagrees, hholds⟩ := agrees_createToken h userId uuid
      exact ⟨iff_of_true hagrees trivial, fun _ => hholds⟩
  | pay req clock =>
      by_cases hchargeable : Quarkus.Chargeable p.grid.caches req
      · by_cases hboth : ¬ p.vain req.key ∧ (p.db.points req.userId).isSome
        · obtain ⟨hagrees, hholds⟩ := agrees_charged clock h hr hchargeable hboth.1 hboth.2
          exact ⟨iff_of_true hagrees fun _ => hboth, fun _ => hholds⟩
        · have hnot : ¬ p.Admissible (.pay req clock) := fun hadm => hboth (hadm hchargeable)
          exact ⟨iff_of_false (not_agrees clock h hchargeable hboth) hnot,
            fun hadm => absurd hadm hnot⟩
      · obtain ⟨hagrees, hholds⟩ := agrees_failed clock h hr hchargeable
        exact ⟨iff_of_true hagrees fun hyes => absurd hyes hchargeable, fun _ => hholds⟩

/-- **The deployments agree** on all requests of a run, from matching states in which every payment
record is that of a shopper with a wallet, exactly if no payment for an amount that the wallet
covers is with a token that was presented in vain before, or of a shopper without a point
account. -/
theorem agree_iff {db : Monolith.Db} {s : Quarkus.Deployment} (h : Matching db s.caches)
    (hrecords : ∀ key, (db.toStore.payments key).isSome → (db.toStore.wallets key.1).isSome)
    {l : List Request} (hl : ∀ r ∈ l, r.InRange) :
    Run.Steps Pair.step Pair.Agrees ⟨db, s, fun _ => False⟩ l ↔
      Run.Steps Pair.step Pair.Admissible ⟨db, s, fun _ => False⟩ l := by
  refine Run.steps_iff (I := Pair.Holds) (fun p r hr hp => (Pair.agrees_iff hp (hl r hr)).1)
    (fun p r hr hp hadm => (Pair.agrees_iff hp (hl r hr)).2 hadm) ?_
  refine ⟨h.shoppers, h.wallets, h.payments, fun id hid => ?_, hrecords,
    fun key _ => congrFun h.tokens key, fun key hkey => hkey.elim⟩
  obtain ⟨store, hstore⟩ := Option.isSome_iff_exists.1 (h.stores id hid)
  rw [hstore]
  obtain ⟨name, -, rfl⟩ := Option.map_eq_some_iff.1 hstore
  rfl

/-! ### Two tokens -/

/-- The tables that match the caches with one shopper and two unused tokens. -/
def twoTokens : Monolith.Db :=
  { Monolith.oneShopper 100 0 .unused with
    stores id := if 0 ≤ id.toInt ∧ id.toInt ≤ 9 then some "store" else none
    tokens key := if key = ⟨1, "abcd"⟩ ∨ key = ⟨1, "efgh"⟩ then some TokenStatus.unused.value
      else none }

theorem matching_twoTokens : Matching twoTokens (Grid.oneShopper 100 0) := by
  refine ⟨funext fun id => ?_, funext fun id => ?_, funext fun key => ?_, fun key => ?_,
    fun id hid => ?_⟩
  · change (if id.value = 1 then some "user1" else none).map FullName.mk =
      (if (⟨id.value⟩ : ShopperKey) = ⟨1⟩ then some (⟨"user1"⟩ : ShopperEntity) else none).map _
    simp only [ShopperKey.mk.injEq]
    split <;> rfl
  · rw [Caches.toStore_wallets]
    change (if id.value = 1 then some _ else none).bind _ =
      (if (⟨id.value⟩ : ShopperKey) = ⟨1⟩ then some _ else none).bind _
    simp only [ShopperKey.mk.injEq]
    split <;> rfl
  · rw [Caches.toStore_tokens]
    change Option.bind (if (⟨key.1.value, key.2.value⟩ : Monolith.TokenKey) = ⟨1, "abcd"⟩ ∨
        (⟨key.1.value, key.2.value⟩ : Monolith.TokenKey) = ⟨1, "efgh"⟩ then some _ else none) _ =
      (if (⟨key.1.value, key.2.value⟩ : Grid.TokenKey) = ⟨1, "abcd"⟩ ∨
        (⟨key.1.value, key.2.value⟩ : Grid.TokenKey) = ⟨1, "efgh"⟩ then some _ else none).map _
    simp only [Monolith.TokenKey.mk.injEq, Grid.TokenKey.mk.injEq]
    split <;> rfl
  · rw [Caches.toStore_payments]
    rfl
  · have hrange : 0 ≤ id.value.toInt ∧ id.value.toInt ≤ 9 := hid
    change (Option.map _ (if 0 ≤ id.value.toInt ∧ id.value.toInt ≤ 9 then some "store"
      else none)).isSome
    rw [if_pos hrange]
    rfl

/-- A token is presented for too large an amount, and then a token for a smaller one. -/
def tryAgain (tokenId : String) : List Request :=
  [.pay ⟨1, "abcd", 1, 200⟩ fun _ => ⟨0, 0⟩, .pay ⟨1, tokenId, 1, 50⟩ fun _ => ⟨60, 0⟩]

/-- With another token, both deployments make the second payment. -/
theorem agree_otherToken :
    Run.Steps Pair.step Pair.Agrees ⟨twoTokens, ⟨Grid.oneShopper 100 0, []⟩, fun _ => False⟩
      (tryAgain "efgh") := by
  refine (agree_iff matching_twoTokens (fun key hkey => ?_) (fun r hr => ?_)).2
    ⟨fun _ => ⟨id, by decide⟩, fun _ => ⟨?_, by decide⟩, trivial⟩
  · cases hkey
  · rcases List.mem_pair.1 hr with rfl | rfl
    · exact ⟨by decide, by decide⟩
    · exact ⟨by decide, by decide⟩
  · rintro (hvain | ⟨hkey, -⟩)
    · exact hvain
    · exact absurd hkey (by decide)

/-- With the same token, the data grid makes the second payment and the monolith does not; and if
the shopper has no point account, then it does not even make the first. -/
theorem disagree :
    (Matching twoTokens (Grid.oneShopper 100 0) ∧
      ¬ Run.Steps Pair.step Pair.Agrees
        ⟨twoTokens, ⟨Grid.oneShopper 100 0, []⟩, fun _ => False⟩ (tryAgain "abcd")) ∧
    (Matching { twoTokens with points := fun _ => none } (Grid.oneShopper 100 0) ∧
      ¬ Run.Steps Pair.step Pair.Agrees
        ⟨{ twoTokens with points := fun _ => none }, ⟨Grid.oneShopper 100 0, []⟩, fun _ => False⟩
        [.pay ⟨1, "abcd", 1, 50⟩ fun _ => ⟨0, 0⟩]) := by
  refine ⟨⟨matching_twoTokens, ?_⟩, ⟨⟨matching_twoTokens.shoppers, matching_twoTokens.wallets,
    matching_twoTokens.tokens, matching_twoTokens.payments, matching_twoTokens.stores⟩, ?_⟩⟩
  · rintro ⟨-, ⟨hok, -⟩, -⟩
    exact absurd hok (by decide)
  · rintro ⟨⟨hok, -⟩, -⟩
    exact absurd hok (by decide)

end RedHatPay
