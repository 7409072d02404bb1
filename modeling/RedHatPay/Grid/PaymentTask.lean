/-
**The data grid: `PaymentTask`.**

The task that a client has the server run.  It runs `PaymentFunction` on the wallet entry of the
shopper, wherever that is kept, and then reads the payment record back from its cache: what it
answers is whatever that cache holds by then.  If there is no wallet entry, the function does not
run at all, and the task reads the payment cache all the same.

* `RedHatPay.Grid.PaymentTask.call`, `RedHatPay.Grid.PaymentTask.serve` — the task, and serving it
  from the committed caches;
* `RedHatPay.Grid.PaymentTask.Chargeable`, `RedHatPay.Grid.PaymentTask.Charged` — when a task
  charges the wallet, and what that means for the entries;
* `RedHatPay.Grid.PaymentTask.serve_cases` — **what the task answers**: it has charged; the function
  has failed; or the answer of an earlier payment, if there is one.
-/

import RedHatPay.Grid.PaymentFunction

set_option relaxedAutoImplicit false
set_option autoImplicit false

namespace RedHatPay.Grid

open Program

/-- `rhpay.payment.cache.PaymentResponse`; the date is in seconds since the epoch. -/
structure PaymentResponse where
  storeId : Int32
  shopperId : Int32
  tokenId : String
  pillingAmount : Int32
  billingDateTime : Int
  deriving DecidableEq

/-- `rhpay.payment.task.PaymentDistParam`. -/
structure PaymentDistParam where
  shopperId : Int32
  tokenId : String
  amount : Int32
  storeId : Int32
  storeName : String
  deriving DecidableEq

namespace PaymentDistParam

/-- The payment function that the task makes of its parameters. -/
def paymentFunction (parameter : PaymentDistParam) : PaymentFunction :=
  ⟨⟨parameter.shopperId, parameter.tokenId, parameter.storeId, parameter.amount⟩,
    parameter.storeName⟩

/-- The key of the token. -/
def key (parameter : PaymentDistParam) : Key := (⟨parameter.shopperId⟩, ⟨parameter.tokenId⟩)

/-- The input of the use case. -/
def input (parameter : PaymentDistParam) (amount : Money) : TokenPayInput :=
  parameter.paymentFunction.request.input amount

end PaymentDistParam

namespace PaymentTask

/-! ### The task -/

/-- `walletCache.entrySet().stream().filterKeys(Set.of(key)).forEach(f)`: once if there is an entry,
and otherwise not at all. -/
def forEachKey (key : ShopperKey) (f : CacheProgram Unit) : CacheProgram Unit := do
  let entry ← perform (CacheOp.getWallet key)
  match entry with
  | some _ => f
  | none => return ()

/-- The answer that is made of a payment record. -/
def answer (parameter : PaymentDistParam) (payment : Payment) : PaymentResponse :=
  ⟨parameter.storeId, parameter.shopperId, parameter.tokenId, payment.billingAmount.value,
    payment.billingDateTime.toEpochSecond zoneOffset⟩

/-- `PaymentTask.call`. -/
def call (parameter : PaymentDistParam) (clock : Nat → LocalDateTime) :
    CacheProgram PaymentResponse := do
  forEachKey ⟨parameter.shopperId⟩ (parameter.paymentFunction.accept clock)
  let payment ← CachePaymentRepository.load ⟨parameter.shopperId⟩ ⟨parameter.tokenId⟩
  let payment ← ofExcept (nonNull payment)
  return answer parameter payment

/-- Serving the task: the outcome, and the committed caches after it. -/
def serve (parameter : PaymentDistParam) (clock : Nat → LocalDateTime) (dropped : TokenKey → Bool)
    (c : Caches) : Except JavaException PaymentResponse × Caches :=
  let out := run (bounded dropped) (call parameter clock) ⟨c, none⟩
  (out.1, out.2.caches)

/-! ### What it does -/

/-- Does the payment find everything that it needs, and an unused token, and does the wallet cover
the amount? -/
def Chargeable (c : Caches) (parameter : PaymentDistParam) : Prop :=
  ∃ m w bill, parameter.amount = m.value ∧ c.toStore.present (parameter.input m) = some (w, bill) ∧
    w.Covers m

/-- The token entry has gone from unused to used, and the wallet entry has been debited by the
amount, net of top-ups. -/
structure Charged (parameter : PaymentDistParam) (c c' : Caches) : Prop where
  unused : c.tokens.data (entryKey parameter.key) = some ⟨.unused⟩
  used : c'.tokens.data (entryKey parameter.key) = some ⟨.used⟩
  debited : ∃ entry entry', c.wallets.data ⟨parameter.shopperId⟩ = some entry ∧
    c'.wallets.data ⟨parameter.shopperId⟩ = some entry' ∧
    entry'.autoChargeMoney = entry.autoChargeMoney ∧
    entry'.chargedMoney.toInt = Wallet.balanceAfter entry.chargedMoney.toInt
      entry.autoChargeMoney.toInt parameter.amount.toInt

/-- The entry of the payment that the task makes at a date. -/
def record (parameter : PaymentDistParam) (date : LocalDateTime) : PaymentEntity :=
  ⟨parameter.storeId, parameter.amount, date.toEpochSecond zoneOffset⟩

/-- The answer of the task that makes a payment at a date. -/
def receipt (parameter : PaymentDistParam) (date : LocalDateTime) : PaymentResponse :=
  ⟨parameter.storeId, parameter.shopperId, parameter.tokenId, parameter.amount,
    date.toEpochSecond zoneOffset⟩

/-- The caches `c'` are those after the payment has committed, which may have filled the payment
cache. -/
def Commits (parameter : PaymentDistParam) (now : LocalDateTime) (dropped : TokenKey → Bool)
    (c c' : Caches) : Prop :=
  ∃ (m : Money) (p : Payment) (c₁ : Caches), parameter.amount = m.value ∧
    c.toStore.pay CachePaymentRepository.entity (parameter.input m) now = (some p, c₁.toStore) ∧
    c' = c₁.evict dropped

/-- Is there a payment record, with an amount that `Money` accepts? -/
def Recorded (c : Caches) (parameter : PaymentDistParam) : Prop :=
  ∃ entity, c.payments.data (entryKey parameter.key) = some entity ∧ 0 ≤ entity.billingAmount.toInt

/-- What the task answers for a payment record. -/
def reread (parameter : PaymentDistParam) (entity : Option PaymentEntity) :
    Except JavaException PaymentResponse := do
  let entity ← nonNull entity
  let billingAmount ← Money.new entity.billingAmount
  return ⟨parameter.storeId, parameter.shopperId, parameter.tokenId, billingAmount.value,
    entity.billingDateTime⟩

variable {parameter : PaymentDistParam} {clock : Nat → LocalDateTime} {dropped : TokenKey → Bool}
  {c : Caches}

/-- The second half of the task: reading the payment record back. -/
theorem run_reread (parameter : PaymentDistParam) (dropped : TokenKey → Bool) (c : Caches) :
    (run (bounded dropped) (do
        let payment ← CachePaymentRepository.load ⟨parameter.shopperId⟩ ⟨parameter.tokenId⟩
        let payment ← ofExcept (nonNull payment)
        return answer parameter payment) ⟨c, none⟩) =
      (reread parameter (c.payments.data (entryKey parameter.key)), ⟨c, none⟩) := by
  have hload : run (bounded dropped)
      (CachePaymentRepository.load ⟨parameter.shopperId⟩ ⟨parameter.tokenId⟩) ⟨c, none⟩ =
      (CachePaymentRepository.toPayment ⟨parameter.shopperId⟩ ⟨parameter.tokenId⟩
        (c.payments.data (entryKey parameter.key)), ⟨c, none⟩) := by
    rw [← congrFun (seen_idle c).2.2 (entryKey parameter.key)]
    rfl
  rw [run_bind, hload]
  cases c.payments.data (entryKey parameter.key) with
  | none => rfl
  | some entity =>
      rcases hm : Money.new entity.billingAmount with e | m
      · have hpayment : CachePaymentRepository.toPayment ⟨parameter.shopperId⟩ ⟨parameter.tokenId⟩
            (some entity) = .error e := by
          change Money.new entity.billingAmount >>= _ = _
          rw [hm]
          rfl
        have hreread : reread parameter (some entity) = .error e := by
          change Money.new entity.billingAmount >>= _ = _
          rw [hm]
          rfl
        rw [hpayment, hreread]
        rfl
      · have hpayment : CachePaymentRepository.toPayment ⟨parameter.shopperId⟩ ⟨parameter.tokenId⟩
            (some entity) = .ok (some ⟨⟨entity.storeId⟩, ⟨parameter.shopperId⟩, m,
              .ofEpochSecond entity.billingDateTime 0 zoneOffset, some ⟨parameter.tokenId⟩⟩) := by
          change Money.new entity.billingAmount >>= _ = _
          rw [hm]
          rfl
        have hreread : reread parameter (some entity) = .ok ⟨parameter.storeId,
            parameter.shopperId, parameter.tokenId, m.value, entity.billingDateTime⟩ := by
          change Money.new entity.billingAmount >>= _ = _
          rw [hm]
          rfl
        rw [hpayment, hreread]
        have hdate := LocalDateTime.toEpochSecond_ofEpochSecond entity.billingDateTime 0 zoneOffset
        exact congrArg (fun date => ((.ok ⟨parameter.storeId, parameter.shopperId,
          parameter.tokenId, m.value, date⟩ : Except JavaException PaymentResponse),
          (⟨c, none⟩ : GridState))) hdate

/-- There is an answer exactly if there is a record that can be read. -/
theorem reread_of_recorded (h : Recorded c parameter) :
    ∃ r, reread parameter (c.payments.data (entryKey parameter.key)) = .ok r := by
  obtain ⟨entity, hentity, hnn⟩ := h
  rw [hentity]
  change ∃ r, (Money.new entity.billingAmount >>= _) = _
  rw [Money.new_of_nonneg hnn]
  exact ⟨_, rfl⟩

theorem reread_of_not_recorded (h : ¬ Recorded c parameter) :
    ∃ e, reread parameter (c.payments.data (entryKey parameter.key)) = .error e := by
  cases hentity : c.payments.data (entryKey parameter.key) with
  | none => exact ⟨.nullPointer, rfl⟩
  | some entity =>
      have hneg : entity.billingAmount.toInt < 0 :=
        not_le.1 fun hnn => h ⟨entity, hentity, hnn⟩
      change ∃ e, (Money.new entity.billingAmount >>= _) = _
      rw [Money.new_of_neg hneg]
      exact ⟨_, rfl⟩

/-- The payment function of the task has ended, and has left the caches `c'`. -/
def FunctionEnds (parameter : PaymentDistParam) (clock : Nat → LocalDateTime)
    (dropped : TokenKey → Bool) (c c' : Caches) : Prop :=
  run (bounded dropped) (forEachKey ⟨parameter.shopperId⟩ (parameter.paymentFunction.accept clock))
    ⟨c, none⟩ = (.ok (), ⟨c', none⟩)

/-- The task, once the payment function has ended. -/
theorem serve_of_ended {c' : Caches} (h : FunctionEnds parameter clock dropped c c') :
    serve parameter clock dropped c =
      (reread parameter (c'.payments.data (entryKey parameter.key)), c') := by
  rw [serve, call, run_bind_ok h, run_reread]

/-- The task without a wallet entry. -/
theorem serve_of_absent (h : c.wallets.data ⟨parameter.shopperId⟩ = none) :
    serve parameter clock dropped c =
      (reread parameter (c.payments.data (entryKey parameter.key)), c) := by
  have hseen : GridState.wallets ⟨c, none⟩ ⟨parameter.shopperId⟩ = none := by
    rw [(seen_idle c).1, h]
  refine serve_of_ended ?_
  rw [FunctionEnds, forEachKey, run_bind, run_perform]
  change run _ (onValue _ (.ok (GridState.wallets ⟨c, none⟩ ⟨parameter.shopperId⟩))) _ = _
  rw [hseen]
  rfl

/-- The task with a wallet entry. -/
theorem run_forEachKey (dropped : TokenKey → Bool) {entry : WalletEntity}
    (h : c.wallets.data ⟨parameter.shopperId⟩ = some entry) (f : CacheProgram Unit) :
    run (bounded dropped) (forEachKey ⟨parameter.shopperId⟩ f) ⟨c, none⟩ =
      run (bounded dropped) f ⟨c, none⟩ := by
  have hseen : GridState.wallets ⟨c, none⟩ ⟨parameter.shopperId⟩ = some entry := by
    rw [(seen_idle c).1, h]
  rw [forEachKey, run_bind, run_perform]
  change run _ (onValue _ (.ok (GridState.wallets ⟨c, none⟩ ⟨parameter.shopperId⟩))) _ = _
  rw [hseen]
  rfl

/-- Only a payment that is made charges a wallet. -/
theorem pay_of_chargeable (h : Chargeable c parameter) (now : LocalDateTime) :
    ∃ m : Money, parameter.amount = m.value ∧ (c.toStore.pay CachePaymentRepository.entity
      (parameter.input m) now).1 ≠ none := by
  obtain ⟨m, w, bill, hm, hpresent, hcovers⟩ := h
  obtain ⟨_, -, hpay⟩ := Store.pay_of_charged hpresent hcovers CachePaymentRepository.entity now
  refine ⟨m, hm, ?_⟩
  rw [hpay]
  nofun

/-- **What a payment does to the entries.** -/
theorem charged_of_pay {m : Money} {now : LocalDateTime} {p : Payment} {c' : Caches}
    (hm : parameter.amount = m.value)
    (h : c.toStore.pay CachePaymentRepository.entity (parameter.input m) now =
      (some p, c'.toStore)) :
    Chargeable c parameter ∧ Charged parameter c c' ∧
      c'.payments.data (entryKey parameter.key) = some (record parameter now) := by
  obtain ⟨w, bill, m', hpresent, hcovers, hbalance, rfl, hstore⟩ := Store.pay_eq_some h
  obtain ⟨name, store, purse, -, hs, hw, ht, hwallet, rfl⟩ := Store.present_eq_some hpresent
  have htoken : c'.toStore.tokens parameter.key = some .used := by
    rw [hstore]
    exact Function.update_self _ _ _
  have hpurse : c'.toStore.wallets ⟨parameter.shopperId⟩ = some ⟨m', purse.autoCharge⟩ := by
    rw [hstore, hwallet]
    exact Function.update_self _ _ _
  have hpayment : c'.toStore.payments parameter.key = some (CachePaymentRepository.entity
      (Store.receipt (parameter.input m) (store.createBill (parameter.input m).amount) now)) := by
    rw [hstore]
    exact Function.update_self _ _ _
  refine ⟨⟨m, w, _, hm, hpresent, hcovers⟩, ⟨Caches.toStore_tokens_iff.1 ht,
    Caches.toStore_tokens_iff.1 htoken, _, _, Caches.toStore_wallets_iff.1 hw,
    Caches.toStore_wallets_iff.1 hpurse, rfl, ?_⟩, ?_⟩
  · rw [hwallet] at hbalance
    rw [hm]
    exact hbalance
  · rw [Caches.toStore_payments] at hpayment
    cases hs
    rw [hpayment, record, hm]
    rfl

/-- **What a committed payment has done to the entries**, whatever other records were dropped. -/
theorem Commits.charged {now : LocalDateTime} {c' : Caches}
    (h : Commits parameter now dropped c c') :
    Chargeable c parameter ∧ Charged parameter c c' ∧
      (dropped (entryKey parameter.key) = false →
        c'.payments.data (entryKey parameter.key) = some (record parameter now)) := by
  obtain ⟨m, p, c₁, hm, hpay, rfl⟩ := h
  obtain ⟨hchargeable, ⟨hunused, hused, hdebited⟩, hrecord⟩ := charged_of_pay hm hpay
  refine ⟨hchargeable, ⟨hunused, hused, hdebited⟩, fun hd => ?_⟩
  change (if dropped (entryKey parameter.key) then none else
    c₁.payments.data (entryKey parameter.key)) = _
  rw [hd, hrecord]
  rfl

/-- **What the task answers**: it has charged the wallet, and answers unless the record has been
dropped; the function has failed, and nothing has changed; or there is no wallet entry, and it
answers with the record of an earlier payment, if there is one. -/
theorem serve_cases (parameter : PaymentDistParam) (clock : Nat → LocalDateTime)
    (dropped : TokenKey → Bool) (c : Caches) :
    (∃ c', Commits parameter (clock 1) dropped c c' ∧
      serve parameter clock dropped c = (if dropped (entryKey parameter.key) then
        .error .nullPointer else .ok (receipt parameter (clock 1)), c')) ∨
    (¬ Chargeable c parameter ∧ c.wallets.data ⟨parameter.shopperId⟩ ≠ none ∧
      ∃ e, serve parameter clock dropped c = (.error e, c)) ∨
    (¬ Chargeable c parameter ∧ c.wallets.data ⟨parameter.shopperId⟩ = none ∧
      serve parameter clock dropped c =
        (reread parameter (c.payments.data (entryKey parameter.key)), c)) := by
  cases hentry : c.wallets.data ⟨parameter.shopperId⟩ with
  | none =>
      refine Or.inr (Or.inr ⟨?_, rfl, serve_of_absent hentry⟩)
      rintro ⟨m, w, bill, -, hpresent, -⟩
      obtain ⟨_, _, purse, -, -, hw, -⟩ := Store.present_eq_some hpresent
      have hsome := Caches.toStore_wallets_iff.1 hw
      change c.wallets.data ⟨parameter.shopperId⟩ = _ at hsome
      rw [hentry] at hsome
      cases hsome
  | some entry =>
      have heach := run_forEachKey dropped hentry
        (parameter.paymentFunction.accept clock)
      rcases parameter.paymentFunction.accept_cases clock c dropped with
        ⟨m, p, c', hm, hpay, -, hrun⟩ | ⟨hnone, message, hrun⟩
      · obtain ⟨-, -, hrecord⟩ := charged_of_pay hm hpay
        refine Or.inl ⟨c'.evict dropped, ⟨m, p, c', hm, hpay, rfl⟩, ?_⟩
        rw [serve_of_ended (heach.trans hrun)]
        change (reread parameter (if dropped (entryKey parameter.key) then none else
          c'.payments.data (entryKey parameter.key)), c'.evict dropped) = _
        rw [hrecord]
        cases dropped (entryKey parameter.key) with
        | true => rfl
        | false =>
            change (Money.new parameter.amount >>= _, _) = _
            have hm' : parameter.amount = m.value := hm
            rw [hm', Money.new_value]
            change ((Except.ok _ : Except JavaException PaymentResponse), _) = _
            rw [receipt, hm']
            rfl
      · refine Or.inr (Or.inl ⟨fun hchargeable => ?_, nofun, .runtime message, ?_⟩)
        · obtain ⟨m, hm, hsome⟩ := pay_of_chargeable hchargeable (clock 1)
          exact hsome (hnone m hm)
        · rw [serve, call, run_bind_error (heach.trans hrun)]

end PaymentTask

end RedHatPay.Grid
