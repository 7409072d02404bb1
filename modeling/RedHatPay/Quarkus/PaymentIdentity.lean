/-
**The identity of a payment, from its record to its event.**

A payment is converted five times on its way: into the entry of the payment cache and back, into the
answer of `PaymentTask`, into the payment of the client, and into the event.  Two of these encode
the date as an epoch second.  All of them keep the store, the shopper, the token and the amount, and
the date up to the part of a second.

* `RedHatPay.Quarkus.PaymentIdentity` — what identifies a payment, read off each of the forms;
* `RedHatPay.Quarkus.KeepsIdentity`, `RedHatPay.Quarkus.keepsIdentity` — **a payment keeps its
  identity** at every stage.
-/

import RedHatPay.Quarkus.Client

set_option relaxedAutoImplicit false
set_option autoImplicit false

namespace RedHatPay

open Program

/-- The payment, without the part of a second. -/
def Payment.truncated (p : Payment) : Payment :=
  { p with billingDateTime := p.billingDateTime.truncatedToSeconds }

namespace Quarkus

open Grid

/-! ### Identities -/

/-- What identifies a payment. -/
structure PaymentIdentity where
  storeId : Int32
  shopperId : Int32
  tokenId : String
  amount : Int32
  date : LocalDateTime
  deriving DecidableEq

/-- The identity of a payment with a token. -/
def identity (p : Payment) (tokenId : TokenId) : PaymentIdentity :=
  ⟨p.storeId.value, p.shopperId.value, tokenId.value, p.billingAmount.value, p.billingDateTime⟩

/-- The identity in an answer of the task. -/
def responseIdentity (r : Grid.PaymentResponse) : PaymentIdentity :=
  ⟨r.storeId, r.shopperId, r.tokenId, r.pillingAmount,
    .ofEpochSecond r.billingDateTime 0 zoneOffset⟩

/-- The identity in an event. -/
def PaymentEvent.identity (e : PaymentEvent) : PaymentIdentity :=
  ⟨e.storeId, e.userId, e.tokenId, e.amount, e.dateTime⟩

/-! ### From stage to stage -/

variable {p : Payment} {tokenId : TokenId}

/-- The caches after the server has stored the payment. -/
def withStored (p : Payment) (s : GridState) : GridState :=
  (run exec (Grid.CachePaymentRepository.store p) s).2

theorem run_store (h : p.tokenId = some tokenId) (s : GridState) :
    run exec (Grid.CachePaymentRepository.store p) s = exec (.putPayment
      (entryKey (p.shopperId, tokenId)) (Grid.CachePaymentRepository.entity p)) s := by
  rw [Grid.CachePaymentRepository.store, h]
  rfl

/-- The entry of the payment, in a transaction or outside. -/
theorem payments_stored (h : p.tokenId = some tokenId) (s : GridState) :
    (withStored p s).payments (entryKey (p.shopperId, tokenId)) =
      some (Grid.CachePaymentRepository.entity p) := by
  rw [withStored, run_store h, payments_putPayment, Function.update_self]

/-- A payment that was stored is loaded without the part of a second. -/
theorem toPayment_entity (h : p.tokenId = some tokenId) :
    Grid.CachePaymentRepository.toPayment p.shopperId tokenId
      (some (Grid.CachePaymentRepository.entity p)) = .ok (some p.truncated) := by
  change (Money.new p.billingAmount.value >>= _) = _
  rw [Money.new_value, Payment.truncated, h, ← LocalDateTime.ofEpochSecond_toEpochSecond]
  rfl

/-- Reading the entry that was just written changes nothing. -/
theorem getPayment_stored (h : p.tokenId = some tokenId) (s : GridState) :
    (exec (.getPayment (entryKey (p.shopperId, tokenId))) (withStored p s)).2 = withStored p s := by
  rw [withStored, run_store h]
  obtain ⟨caches, tx⟩ := s
  cases tx with
  | none => rfl
  | some tx =>
      exact congrArg (fun a => (⟨caches, some { tx with payments := a }⟩ : GridState))
        (Transaction.Versioned.read_write _ _ _ _)

theorem run_load_stored (h : p.tokenId = some tokenId) (s : GridState) :
    run exec (Grid.CachePaymentRepository.load p.shopperId tokenId) (withStored p s) =
      (.ok (some p.truncated), withStored p s) := by
  refine Prod.ext ?_ (getPayment_stored h s)
  change Grid.CachePaymentRepository.toPayment p.shopperId tokenId
    ((withStored p s).payments (entryKey (p.shopperId, tokenId))) = _
  rw [payments_stored h, toPayment_entity h]

/-- The entry does not tell a payment from its truncation. -/
theorem entity_truncated (p : Payment) :
    Grid.CachePaymentRepository.entity p.truncated = Grid.CachePaymentRepository.entity p := rfl

theorem run_store_truncated (h : p.tokenId = some tokenId) (s : GridState) :
    run exec (Grid.CachePaymentRepository.store p.truncated) (withStored p s) =
      (.ok (), withStored p s) := by
  rw [run_store (p := p.truncated) h, entity_truncated, withStored, run_store h]
  obtain ⟨caches, tx⟩ := s
  cases tx with
  | none =>
      exact congrArg (fun payments => ((.ok (), ⟨{ caches with payments := payments }, none⟩) :
        Except JavaException Unit × GridState)) (Transaction.Versioned.put_put _ _ _)
  | some tx =>
      exact congrArg (fun a => ((.ok (), ⟨caches, some { tx with payments := a }⟩) :
        Except JavaException Unit × GridState)) (Transaction.Access.write_write _ _ _)

/-- What is read off each of the forms of the payment `p`: the server has stored it from the state
`s`, and the deployment `d` is served a task with its shopper, token and store, and ends as `d'`. -/
structure KeepsIdentity (p : Payment) (tokenId : TokenId) (s : GridState) (store : CoffeeStore)
    (amount : Money) (w : Occasion) (d d' : Deployment) : Prop where
  stored : (run exec (Grid.CachePaymentRepository.store p) s).1 = .ok ()
  loaded : run exec (Grid.CachePaymentRepository.load p.shopperId tokenId) (withStored p s) =
    (.ok (some p.truncated), withStored p s)
  response : ∃ r, PaymentTask.serve (CacheDelegateRepository.payInfo p.shopperId tokenId store
      amount) w.clock w.dropped d.caches = (.ok r, d'.caches) ∧
    responseIdentity r = identity p.truncated tokenId
  delegated : run (remote w) (CacheDelegateRepository.invoke p.shopperId tokenId store amount) d =
    (.ok (some p.truncated), d')
  notified : ∃ event, KafkaNotifyRepository.notify p.truncated = perform (RemoteOp.send event) ∧
    event.identity = identity p.truncated tokenId
  client : run (remote w) (CachePaymentRepository.load p.shopperId tokenId) d' =
    (.ok (some p.truncated), d')
  again : run exec (Grid.CachePaymentRepository.store p.truncated) (withStored p s) =
    (.ok (), withStored p s)

/-- **A payment keeps its identity** at every stage, up to the part of a second of its date: for a
task that reads its entry once the function has ended. -/
theorem keepsIdentity (htoken : p.tokenId = some tokenId) (s : GridState) {store : CoffeeStore}
    (hstore : store.id = p.storeId) (amount : Money) (w : Occasion) {d : Deployment} {c' : Caches}
    (hends : PaymentTask.FunctionEnds (CacheDelegateRepository.payInfo p.shopperId tokenId store
      amount) w.clock w.dropped d.caches c')
    (hentry : c'.payments.data (entryKey (p.shopperId, tokenId)) =
      (withStored p s).payments (entryKey (p.shopperId, tokenId))) :
    KeepsIdentity p tokenId s store amount w d (d.withCaches c') := by
  rw [payments_stored htoken] at hentry
  have hdate := LocalDateTime.ofEpochSecond_toEpochSecond p.billingDateTime zoneOffset
  -- the answer of the task is made of the entry
  have hserve : PaymentTask.serve (CacheDelegateRepository.payInfo p.shopperId tokenId store amount)
      w.clock w.dropped d.caches = (.ok ⟨store.id.value, p.shopperId.value, tokenId.value,
        p.billingAmount.value, p.billingDateTime.toEpochSecond zoneOffset⟩, c') := by
    rw [PaymentTask.serve_of_ended hends]
    change (PaymentTask.reread _ (c'.payments.data (entryKey (p.shopperId, tokenId))), c') = _
    rw [hentry]
    change (Money.new p.billingAmount.value >>= _, _) = _
    rw [Money.new_value]
    rfl
  constructor
  · rw [run_store htoken]
    rfl
  · exact run_load_stored htoken s
  · refine ⟨_, hserve, ?_⟩
    rw [responseIdentity, hdate, hstore]
    rfl
  · rw [run_invoke, hserve]
    change (Money.new p.billingAmount.value >>= _, _) = _
    rw [Money.new_value, Payment.truncated, htoken, ← hdate, ← hstore]
    rfl
  · refine ⟨KafkaNotifyRepository.event p.truncated tokenId, ?_, rfl⟩
    rw [KafkaNotifyRepository.notify]
    change (ofExcept (nonNull p.tokenId) >>= _) = _
    rw [htoken]
    rfl
  · change (CachePaymentRepository.toPayment p.shopperId tokenId
      (c'.payments.data (entryKey (p.shopperId, tokenId))), _) = _
    rw [hentry]
    exact congrArg (·, d.withCaches c') (toPayment_entity htoken)
  · exact run_store_truncated htoken s

/-- A payment before 1970, with a part of a second. -/
def early : Payment := ⟨⟨7⟩, ⟨2⟩, ⟨45, by decide⟩, ⟨-1, 500000000⟩, some ⟨"ijkl"⟩⟩

/-- It has been stored, outside of a transaction. -/
def earlyStored : GridState := withStored early ⟨Grid.oneShopper 100 0, none⟩

/-- The task finds no wallet, and so the entry as it is. -/
theorem keepsIdentity_early : KeepsIdentity early ⟨"ijkl"⟩ ⟨Grid.oneShopper 100 0, none⟩
    ⟨⟨7⟩, ⟨"Demo Store"⟩⟩ ⟨50, by decide⟩ (.calm fun _ => ⟨0, 0⟩) ⟨earlyStored.caches, []⟩
    ⟨earlyStored.caches, []⟩ :=
  keepsIdentity rfl _ rfl _ _ rfl rfl

end Quarkus

end RedHatPay
