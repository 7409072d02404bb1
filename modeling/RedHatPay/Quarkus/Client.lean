/-
**The Quarkus service: remote calls and repositories.**

The service keeps nothing itself.  It calls the caches of the data grid, has the server run
`PaymentTask`, and sends payment events to a topic.  `Quarkus.RemoteOp` lists these calls.  What
they do is determined by the deployment and by the occasion on which they are made: what the clocks
show, which payment records the bounded cache drops, whether the emitter accepts the event, and how
the client reports an exception of the server.

* `RedHatPay.Quarkus.RemoteOp`, `RedHatPay.Quarkus.Occasion`, `RedHatPay.Quarkus.remote` — the
  calls;
* `RedHatPay.Quarkus.repositories`, `RedHatPay.Quarkus.CacheDelegateRepository.invoke`,
  `RedHatPay.Quarkus.KafkaNotifyRepository.notify` — the repositories of the service;
* `RedHatPay.Quarkus.invoke_cases` — **what delegating a payment comes to**.
-/

import RedHatPay.Grid.PaymentTask

set_option relaxedAutoImplicit false
set_option autoImplicit false

namespace RedHatPay.Quarkus

open Program Grid

/-! ### Remote calls -/

/-- `rhpay.payment.event.PaymentEvent`. -/
structure PaymentEvent where
  dateTime : LocalDateTime
  userId : Int32
  storeId : Int32
  tokenId : String
  amount : Int32
  deriving DecidableEq

/-- The calls that the service makes to the data grid and to the topic. -/
inductive RemoteOp
  | clearPayment
  | clearUser
  | clearToken
  | clearWallet
  /-- `userCache.putAllAsync`, at the time at which it takes effect. -/
  | putAllUser (map : List (ShopperKey × ShopperEntity))
  /-- `walletCache.putAllAsync`, at the time at which it takes effect. -/
  | putAllWallet (map : List (ShopperKey × WalletEntity))
  | getUser (key : ShopperKey)
  | getWallet (key : ShopperKey)
  | getToken (key : TokenKey)
  | putToken (key : TokenKey) (value : TokenEntity)
  | getPayment (key : TokenKey)
  /-- `walletCache.execute("PaymentTask", parameters, key)`. -/
  | executePaymentTask (parameter : PaymentDistParam) (key : ShopperKey)
  /-- `paymentEmitter.send`. -/
  | send (event : PaymentEvent)

/-- The result of each call.  What `put`, `putAllAsync` and `send` return is not used. -/
abbrev RemoteOp.Res : RemoteOp → Type
  | getUser _ => Option ShopperEntity
  | getWallet _ => Option WalletEntity
  | getToken _ => Option TokenEntity
  | getPayment _ => Option PaymentEntity
  | executePaymentTask _ _ => Grid.PaymentResponse
  | clearPayment | clearUser | clearToken | clearWallet => Unit
  | putAllUser _ | putAllWallet _ | putToken _ _ | send _ => Unit

/-- Programs of remote calls. -/
abbrev RemoteProgram (α : Type) : Type := Program RemoteOp RemoteOp.Res JavaException α

/-- The committed caches, and the events of the topic. -/
structure Deployment where
  caches : Caches
  topic : List PaymentEvent

/-- What is not determined by the deployment itself. -/
structure Occasion where
  /-- What `LocalDateTime.now()` returns in each attempt of `PaymentFunction`. -/
  clock : Nat → LocalDateTime
  /-- The keys whose payment records the bounded cache drops when a payment commits. -/
  dropped : TokenKey → Bool
  /-- What comes of sending an event. -/
  sent : Except JavaException Unit
  /-- What the client throws for an exception of the server. -/
  report : JavaException → JavaException

/-- An occasion on which nothing fails and nothing is dropped. -/
def Occasion.calm (clock : Nat → LocalDateTime) : Occasion := ⟨clock, fun _ => false, .ok (), id⟩

/-- The table after all the entries of a map have been put. -/
def putAll {K V : Type} [DecidableEq K] (map : List (K × V)) (t : K → Option V) : K → Option V :=
  map.foldl (fun t e => Function.update t e.1 (some e.2)) t

/-- The deployment with other caches. -/
def Deployment.withCaches (s : Deployment) (caches : Caches) : Deployment := ⟨caches, s.topic⟩

/-- What the calls do, on a given occasion. -/
def remote (w : Occasion) : Env RemoteOp RemoteOp.Res JavaException Deployment
  | .clearPayment, s =>
      (.ok (), s.withCaches { s.caches with payments := s.caches.payments.clear })
  | .clearUser, s => (.ok (), s.withCaches { s.caches with users := fun _ => none })
  | .clearToken, s => (.ok (), s.withCaches { s.caches with tokens := s.caches.tokens.clear })
  | .clearWallet, s => (.ok (), s.withCaches { s.caches with wallets := s.caches.wallets.clear })
  | .putAllUser map, s =>
      (.ok (), s.withCaches { s.caches with users := putAll map s.caches.users })
  | .putAllWallet map, s => (.ok (), s.withCaches { s.caches with
      wallets := s.caches.wallets.become (putAll map s.caches.wallets.data) })
  | .getUser key, s => (.ok (s.caches.users key), s)
  | .getWallet key, s => (.ok (s.caches.wallets.data key), s)
  | .getToken key, s => (.ok (s.caches.tokens.data key), s)
  | .putToken key value, s =>
      (.ok (), s.withCaches { s.caches with tokens := s.caches.tokens.put key value })
  | .getPayment key, s => (.ok (s.caches.payments.data key), s)
  | .executePaymentTask parameter _, s =>
      let out := PaymentTask.serve parameter w.clock w.dropped s.caches
      (out.1.mapError w.report, s.withCaches out.2)
  | .send event, s =>
      match w.sent with
      | .ok _ => (.ok (), ⟨s.caches, s.topic ++ [event]⟩)
      | .error e => (.error e, s)

/-! ### Repositories -/

namespace CacheShopperRepository

/-- `CacheShopperRepository.load`. -/
def load (id : ShopperId) : RemoteProgram Shopper :=
  query (.getUser ⟨id.value⟩) fun shopperEntity => do
    let shopperEntity ← nonNull shopperEntity
    return ⟨id, ⟨shopperEntity.name⟩⟩

end CacheShopperRepository

namespace RdbmsCoffeeStoreRepository

/-- `RdbmsCoffeeStoreRepository.load`: every store, under the same name. -/
def load (storeId : StoreId) : RemoteProgram CoffeeStore := pure ⟨storeId, ⟨"Demo Store"⟩⟩

end RdbmsCoffeeStoreRepository

namespace CacheWalletRepository

/-- `CacheWalletRepository.load`. -/
def load (owner : Shopper) : RemoteProgram Wallet :=
  query (.getWallet ⟨owner.id.value⟩) fun walletEntity => do
    let walletEntity ← nonNull walletEntity
    let chargedMoney ← Money.new walletEntity.chargedMoney
    let autoChargeMoney ← Money.new walletEntity.autoChargeMoney
    return ⟨owner, chargedMoney, autoChargeMoney⟩

/-- `CacheWalletRepository.store`. -/
def store (_wallet : Wallet) : RemoteProgram Unit := fail (.unsupportedOperation (some ""))

end CacheWalletRepository

namespace CacheTokenRepository

/-- `CacheTokenRepository.create`: an unused token, whatever the status of the given one. -/
def create (token : Token) : RemoteProgram Unit :=
  perform (RemoteOp.putToken ⟨token.shopperId.value, token.tokenId.value⟩ ⟨.unused⟩)

/-- `CacheTokenRepository.load`. -/
def load (shopperId : ShopperId) (tokenId : TokenId) : RemoteProgram (Option Token) :=
  query (.getToken ⟨shopperId.value, tokenId.value⟩) fun tokenEntity => do
    let tokenEntity ← nonNull tokenEntity
    return some ⟨shopperId, tokenId, tokenEntity.status.toDomain, none⟩

/-- `CacheTokenRepository.store`. -/
def store (token : Token) : RemoteProgram Unit :=
  perform (RemoteOp.putToken ⟨token.shopperId.value, token.tokenId.value⟩
    ⟨Grid.TokenStatus.fromDomain token.status⟩)

end CacheTokenRepository

namespace CachePaymentRepository

/-- The payment in an entry, or `null`. -/
def toPayment (shopperId : ShopperId) (tokenId : TokenId) :
    Option PaymentEntity → Except JavaException (Option Payment)
  | none => return none
  | some entity => do
      let billingAmount ← Money.new entity.billingAmount
      return some ⟨⟨entity.storeId⟩, shopperId, billingAmount,
        .ofEpochSecond entity.billingDateTime 0 zoneOffset, some tokenId⟩

/-- `CachePaymentRepository.load`. -/
def load (shopperId : ShopperId) (tokenId : TokenId) : RemoteProgram (Option Payment) :=
  query (.getPayment ⟨shopperId.value, tokenId.value⟩) (toPayment shopperId tokenId)

/-- `CachePaymentRepository.store`. -/
def store (_payment : Payment) : RemoteProgram Unit := fail (.unsupportedOperation none)

end CachePaymentRepository

/-- The repositories of the service.  There is none for points. -/
def repositories : (o : RepoOp) → RemoteProgram o.Res
  | .loadShopper id => CacheShopperRepository.load id
  | .loadStore id => RdbmsCoffeeStoreRepository.load id
  | .loadWallet owner => CacheWalletRepository.load owner
  | .storeWallet wallet => CacheWalletRepository.store wallet
  | .createToken token => CacheTokenRepository.create token
  | .loadToken shopperId tokenId => CacheTokenRepository.load shopperId tokenId
  | .storeToken token => CacheTokenRepository.store token
  | .loadPayment shopperId tokenId => CachePaymentRepository.load shopperId tokenId
  | .storePayment payment => CachePaymentRepository.store payment
  | .loadPoint _ => fail .nullPointer
  | .storePoint _ => fail .nullPointer

namespace CacheDelegateRepository

/-- The parameters of the task. -/
def payInfo (shopperId : ShopperId) (tokenId : TokenId) (store : CoffeeStore) (amount : Money) :
    PaymentDistParam :=
  ⟨shopperId.value, tokenId.value, amount.value, store.id.value, store.name.value⟩

/-- `CacheDelegateRepository.invoke`. -/
def invoke (shopperId : ShopperId) (tokenId : TokenId) (store : CoffeeStore) (amount : Money) :
    RemoteProgram (Option Payment) := do
  let paymentEntity ← perform
    (RemoteOp.executePaymentTask (payInfo shopperId tokenId store amount) ⟨shopperId.value⟩)
  let billingAmount ← ofExcept (Money.new paymentEntity.pillingAmount)
  return some ⟨store.id, shopperId, billingAmount,
    .ofEpochSecond paymentEntity.billingDateTime 0 zoneOffset, some tokenId⟩

end CacheDelegateRepository

namespace KafkaNotifyRepository

/-- The event of a payment. -/
def event (payment : Payment) (tokenId : TokenId) : PaymentEvent :=
  ⟨payment.billingDateTime, payment.shopperId.value, payment.storeId.value, tokenId.value,
    payment.billingAmount.value⟩

/-- `KafkaNotifyRepository.notify`. -/
def notify (payment : Payment) : RemoteProgram Unit := do
  let tokenId ← ofExcept (nonNull payment.tokenId)
  perform (RemoteOp.send (event payment tokenId))

end KafkaNotifyRepository

/-! ### Delegating a payment -/

/-- The payment that the service makes of the answer of a task that has charged at a date. -/
def charged (shopperId : ShopperId) (tokenId : TokenId) (store : CoffeeStore) (amount : Money)
    (date : LocalDateTime) : Payment :=
  ⟨store.id, shopperId, amount, .ofEpochSecond (date.toEpochSecond zoneOffset) 0 zoneOffset,
    some tokenId⟩

/-- What the service makes of the answer of the task. -/
def delegated (shopperId : ShopperId) (tokenId : TokenId) (store : CoffeeStore)
    (r : Except JavaException Grid.PaymentResponse) : Except JavaException (Option Payment) := do
  let paymentEntity ← r
  let billingAmount ← Money.new paymentEntity.pillingAmount
  return some ⟨store.id, shopperId, billingAmount,
    .ofEpochSecond paymentEntity.billingDateTime 0 zoneOffset, some tokenId⟩

theorem run_invoke (w : Occasion) (s : Deployment) (shopperId : ShopperId) (tokenId : TokenId)
    (store : CoffeeStore) (amount : Money) :
    run (remote w) (CacheDelegateRepository.invoke shopperId tokenId store amount) s =
      (delegated shopperId tokenId store ((PaymentTask.serve (CacheDelegateRepository.payInfo
          shopperId tokenId store amount) w.clock w.dropped s.caches).1.mapError w.report),
        s.withCaches (PaymentTask.serve (CacheDelegateRepository.payInfo shopperId tokenId store
          amount) w.clock w.dropped s.caches).2) := by
  rw [CacheDelegateRepository.invoke, run_bind, run_perform, remote]
  dsimp only
  rcases (PaymentTask.serve (CacheDelegateRepository.payInfo shopperId tokenId store amount) w.clock
    w.dropped s.caches).1 with e | r
  · rfl
  · change run _ (ofExcept (Money.new r.pillingAmount) >>= _) _ =
      (Money.new r.pillingAmount >>= _, _)
    rw [run_bind, run_ofExcept]
    cases Money.new r.pillingAmount with
    | error e => rfl
    | ok m => rfl

/-- **What delegating a payment comes to**: the wallet has been charged, and the service receives
the payment unless its record has been dropped; the payment has failed; or there is no wallet entry,
and the service may receive an earlier payment. -/
theorem invoke_cases (w : Occasion) (s : Deployment) (shopperId : ShopperId) (tokenId : TokenId)
    (store : CoffeeStore) (amount : Money) :
    let parameter := CacheDelegateRepository.payInfo shopperId tokenId store amount
    (∃ c', PaymentTask.Commits parameter (w.clock 1) w.dropped s.caches c' ∧
      run (remote w) (CacheDelegateRepository.invoke shopperId tokenId store amount) s =
        (if w.dropped (entryKey parameter.key) then .error (w.report .nullPointer)
          else .ok (some (charged shopperId tokenId store amount (w.clock 1))), s.withCaches c')) ∨
    (¬ PaymentTask.Chargeable s.caches parameter ∧
      s.caches.wallets.data ⟨shopperId.value⟩ ≠ none ∧ ∃ e,
        run (remote w) (CacheDelegateRepository.invoke shopperId tokenId store amount) s =
          (.error e, s)) ∨
    (¬ PaymentTask.Chargeable s.caches parameter ∧
      s.caches.wallets.data ⟨shopperId.value⟩ = none ∧
      run (remote w) (CacheDelegateRepository.invoke shopperId tokenId store amount) s =
        (delegated shopperId tokenId store ((PaymentTask.reread parameter
          (s.caches.payments.data (entryKey parameter.key))).mapError w.report), s)) := by
  intro parameter
  rw [run_invoke]
  rcases PaymentTask.serve_cases parameter w.clock w.dropped s.caches with
    ⟨c', hcommits, hserve⟩ | ⟨hnot, hentry, e, hserve⟩ | ⟨hnot, hentry, hserve⟩
  · refine Or.inl ⟨c', hcommits, ?_⟩
    rw [hserve]
    cases w.dropped (entryKey parameter.key) with
    | true => rfl
    | false =>
        change (Money.new amount.value >>= _, _) = _
        rw [Money.new_value]
        rfl
  · refine Or.inr (Or.inl ⟨hnot, hentry, w.report e, ?_⟩)
    rw [hserve]
    rfl
  · refine Or.inr (Or.inr ⟨hnot, hentry, ?_⟩)
    rw [hserve]
    rfl

end RedHatPay.Quarkus
