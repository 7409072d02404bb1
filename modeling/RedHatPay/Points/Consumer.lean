/-
**The point service.**

The consumer makes a payment of an event, and has the data grid run `PointTask` with it.  The answer
may get lost on the way back: then the consumer throws although the points have been added.

* `RedHatPay.Points.ProvidePointConsumer.process`, `RedHatPay.Points.CachePointDelegateRepository` —
  the consumer and its repository;
* `RedHatPay.Points.process_cases` — **what processing an event comes to**: the points of the
  payment have been added, or nothing has changed and the consumer throws.
-/

import RedHatPay.Points.Cache
import RedHatPay.Quarkus.Client

set_option relaxedAutoImplicit false
set_option autoImplicit false

namespace RedHatPay.Points

open Program Grid Quarkus

/-! ### The consumer -/

/-- The calls that the point service makes. -/
inductive RemoteOp
  /-- `pointCache.execute("PointTask", payInfo, key)`. -/
  | executePointTask (payInfo : PayInfo) (key : ShopperKey)

/-- The result of each call. -/
abbrev RemoteOp.Res : RemoteOp → Type
  | executePointTask _ _ => PointEntity

/-- Programs of remote calls. -/
abbrev RemoteProgram (α : Type) : Type := Program RemoteOp RemoteOp.Res JavaException α

/-- What the calls do: the methods of the point cache throw what `f` says, and if `lost` is an
exception then the client throws it in place of any answer. -/
def remotePoints (f : Faults) (lost : Option JavaException) :
    Env RemoteOp RemoteOp.Res JavaException Entries
  | .executePointTask payInfo _, c =>
      let out := PointTask.serve f payInfo c
      match lost with
      | some e => (.error e, out.2)
      | none => (out.1, out.2)

namespace CachePointDelegateRepository

/-- The parameters of the task. -/
def payInfo (payment : Payment) : Except JavaException PayInfo := do
  let tokenId ← nonNull payment.tokenId
  return ⟨payment.shopperId.value, payment.billingAmount.value, payment.storeId.value,
    tokenId.value, payment.billingDateTime.toEpochSecond zoneOffset⟩

/-- `CachePointDelegateRepository.invoke`. -/
def invoke (payment : Payment) : RemoteProgram Point := do
  let payInfo ← ofExcept (payInfo payment)
  let pointEntity ← perform (RemoteOp.executePointTask payInfo ⟨payment.shopperId.value⟩)
  return ⟨payment.shopperId, pointEntity.amount⟩

end CachePointDelegateRepository

/-- `PointDelegateService.invoke`. -/
def PointDelegateService.invoke (payment : Payment) : RemoteProgram Point :=
  CachePointDelegateRepository.invoke payment

namespace ProvidePointConsumer

/-- The payment that is made of an event. -/
def payment (paymentEvent : PaymentEvent) : Except JavaException Payment := do
  let amount ← Money.new paymentEvent.amount
  return ⟨⟨paymentEvent.storeId⟩, ⟨paymentEvent.userId⟩, amount, paymentEvent.dateTime,
    some ⟨paymentEvent.tokenId⟩⟩

/-- `ProvidePointConsumer.process`. -/
def process (paymentEvent : PaymentEvent) : RemoteProgram Unit := do
  let payment ← ofExcept (payment paymentEvent)
  let _point ← PointDelegateService.invoke payment
  return ()

end ProvidePointConsumer

/-! ### What processing an event comes to -/

/-- What the consumer sees of a normal end. -/
def answered (lost : Option JavaException) : Except JavaException Unit :=
  match lost with
  | some e => .error e
  | none => .ok ()

/-- Delegating a payment with a token. -/
theorem run_invoke (f : Faults) (lost : Option JavaException) {p : Payment} {tokenId : TokenId}
    (h : p.tokenId = some tokenId) (c : Entries) :
    run (remotePoints f lost) (PointDelegateService.invoke p) c =
      let out := PointTask.serve f ⟨p.shopperId.value, p.billingAmount.value, p.storeId.value,
        tokenId.value, p.billingDateTime.toEpochSecond zoneOffset⟩ c
      (match lost with
        | some e => .error e
        | none => out.1.map fun pointEntity => ⟨p.shopperId, pointEntity.amount⟩, out.2) := by
  have hpayInfo : run (remotePoints f lost)
      (ofExcept (CachePointDelegateRepository.payInfo p)) c =
      (.ok ⟨p.shopperId.value, p.billingAmount.value, p.storeId.value, tokenId.value,
        p.billingDateTime.toEpochSecond zoneOffset⟩, c) := by
    rw [run_ofExcept, CachePointDelegateRepository.payInfo, h]
    rfl
  rw [PointDelegateService.invoke, CachePointDelegateRepository.invoke, run_bind_ok hpayInfo,
    run_bind, run_perform]
  cases lost with
  | some e => rfl
  | none =>
      simp only [remotePoints]
      rcases PointTask.serve f ⟨p.shopperId.value, p.billingAmount.value, p.storeId.value,
        tokenId.value, p.billingDateTime.toEpochSecond zoneOffset⟩ c with ⟨e | entity, c'⟩ <;> rfl

/-- **What processing an event comes to**: the points of the payment have been added; or nothing has
changed, and the consumer throws. -/
theorem process_cases (f : Faults) (e : PaymentEvent) (c : Entries) :
    (∃ m v, e.amount = Money.value m ∧ c ⟨e.userId⟩ = some v ∧
      ∀ lost, run (remotePoints f lost) (ProvidePointConsumer.process e) c =
        (answered lost, Function.update c ⟨e.userId⟩ (some (earn v m)))) ∨
    ∀ lost, ∃ err, run (remotePoints f lost) (ProvidePointConsumer.process e) c =
      (.error err, c) := by
  rcases lt_or_ge e.amount.toInt 0 with hneg | hnn
  · refine Or.inr fun lost => ⟨.runtime "Negative value set to Money", run_bind_error ?_⟩
    rw [run_ofExcept, ProvidePointConsumer.payment, Money.new_of_neg hneg]
    rfl
  · have hpayment : ∀ lost, run (remotePoints f lost)
        (ofExcept (ProvidePointConsumer.payment e)) c = (.ok ⟨⟨e.storeId⟩, ⟨e.userId⟩,
          ⟨e.amount, hnn⟩, e.dateTime, some ⟨e.tokenId⟩⟩, c) := fun lost => by
      rw [run_ofExcept, ProvidePointConsumer.payment, Money.new_of_nonneg hnn]
      rfl
    have hinvoke := fun lost => run_invoke f lost (p := ⟨⟨e.storeId⟩, ⟨e.userId⟩,
      ⟨e.amount, hnn⟩, e.dateTime, some ⟨e.tokenId⟩⟩) rfl c
    rcases PointTask.serve_cases f ⟨e.userId, e.amount, e.storeId, e.tokenId,
      e.dateTime.toEpochSecond zoneOffset⟩ c with ⟨m, v, hm, hv, hserve⟩ | ⟨err, hserve⟩
    · refine Or.inl ⟨m, v, hm, hv, fun lost => ?_⟩
      rw [ProvidePointConsumer.process, run_bind_ok (hpayment lost), run_bind, hinvoke, hserve]
      cases lost <;> rfl
    · refine Or.inr fun lost => ?_
      rw [ProvidePointConsumer.process, run_bind_ok (hpayment lost), run_bind, hinvoke, hserve]
      cases lost with
      | none => exact ⟨err, rfl⟩
      | some err' => exact ⟨err', rfl⟩

end RedHatPay.Points
