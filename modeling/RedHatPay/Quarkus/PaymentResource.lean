/-
**The Quarkus service: its payment resource, and the initialisation of the caches.**

The service delegates a payment to the data grid, sends a payment event, and then answers.  There
are two end points for payments: `pay` answers with the payment or throws; `bill` answers with a
page, and with the error page for any exception.

* `RedHatPay.Quarkus.PaymentResource.createTokenAPI`, `RedHatPay.Quarkus.PaymentResource.pay`,
  `RedHatPay.Quarkus.PaymentResource.bill`;
* `RedHatPay.Quarkus.InitializeResource.initializeCaches`;
* `RedHatPay.Quarkus.delegate_cases` — **what a payment request comes to before its event is sent**;
* `RedHatPay.Quarkus.run_pay_of_delegated`, `RedHatPay.Quarkus.run_bill_of_delegated` — what the
  end points answer then.
-/

import RedHatPay.Quarkus.Client

set_option relaxedAutoImplicit false
set_option autoImplicit false

namespace RedHatPay.Quarkus

open Program Grid

/-! ### The payment resource -/

/-- `rhpay.payment.rest.TokenResponse`. -/
structure TokenResponse where
  shopperId : Int32
  tokenId : String
  status : RedHatPay.TokenStatus
  deriving DecidableEq

/-- `rhpay.payment.rest.PaymentResponse`. -/
structure PaymentResponse where
  storeId : Int32
  shopperId : Int32
  tokenId : String
  billingAmount : Int32
  billingDateTime : LocalDateTime
  deriving DecidableEq

/-- The pages that `PaymentResource.bill` answers with. -/
inductive Page
  | billingCompleted (tokenId : String) (amount : Int32) (date : LocalDateTime)
  | error (message : String) (detail : Option String)
  deriving DecidableEq

namespace PaymentResource

/-- `PaymentResource.createTokenAPI`. -/
def createTokenAPI (userId : Int32) (uuid : UUID) : RemoteProgram TokenResponse := do
  let token ← implement repositories (TokenService.create ⟨userId⟩ uuid)
  return ⟨token.shopperId.value, token.tokenId.value, token.status⟩

/-- What `pay` and `bill` begin with: the payment, made by the data grid. -/
def delegate (req : PayRequest) : RemoteProgram (Option Payment) := do
  let store ← implement repositories (CoffeeStoreService.load ⟨req.storeId⟩)
  let amount ← ofExcept (Money.new req.amount)
  CacheDelegateRepository.invoke ⟨req.userId⟩ ⟨req.tokenId⟩ store amount

/-- `PaymentResource.pay`. -/
def pay (req : PayRequest) : RemoteProgram PaymentResponse := do
  let payment ← delegate req
  let payment ← ofExcept (nonNull payment)
  KafkaNotifyRepository.notify payment
  let tokenId ← ofExcept (nonNull payment.tokenId)
  return ⟨payment.storeId.value, payment.shopperId.value, tokenId.value,
    payment.billingAmount.value, payment.billingDateTime⟩

/-- The `try` block of `PaymentResource.bill`. -/
def billBody (req : PayRequest) : RemoteProgram Page := do
  let payment ← delegate req
  match payment with
  | none => return .error "決済処理に失敗しました" (some "")
  | some payment =>
      KafkaNotifyRepository.notify payment
      let tokenId ← ofExcept (nonNull payment.tokenId)
      return .billingCompleted tokenId.value payment.billingAmount.value payment.billingDateTime

/-- `PaymentResource.bill`. -/
def bill (req : PayRequest) : RemoteProgram Page := do
  match ← attempt (billBody req) with
  | .ok page => return page
  | .error e => return .error "決済処理に失敗しました" e.getMessage

end PaymentResource

/-! ### Initialisation -/

namespace InitializeResource

/-- `BATCH_ENTRY_NUM`. -/
def batchEntryNum : Nat := 5000

/-- `HashMap.put`. -/
def put {K V : Type} [DecidableEq K] (map : List (K × V)) (key : K) (value : V) : List (K × V) :=
  map.filter (fun e => e.1 ≠ key) ++ [(key, value)]

/-- The puts of a batch. -/
def flush (userMap : List (ShopperKey × ShopperEntity))
    (walletMap : List (ShopperKey × WalletEntity)) : RemoteProgram Unit := do
  perform (RemoteOp.putAllUser userMap)
  perform (RemoteOp.putAllWallet walletMap)

/-- The loop, from the user `i` on, with `n` users to go, and the last batch after it. -/
def fill (amount autoCharge : Int32) : Nat → Nat → Nat → List (ShopperKey × ShopperEntity) →
    List (ShopperKey × WalletEntity) → RemoteProgram Unit
  | _, 0, batchCount, userMap, walletMap =>
      if batchCount ≠ 0 then flush userMap walletMap else return ()
  | i, n + 1, batchCount, userMap, walletMap => do
      let shopperKey : ShopperKey := ⟨Int32.ofNat i⟩
      let userMap := put userMap shopperKey ⟨"user" ++ toString i⟩
      let walletMap := put walletMap shopperKey ⟨amount, autoCharge⟩
      if batchCount + 1 = batchEntryNum then do
        flush userMap walletMap
        fill amount autoCharge (i + 1) n 0 [] []
      else fill amount autoCharge (i + 1) n (batchCount + 1) userMap walletMap

/-- `InitializeResource.initialize`. -/
def initializeCaches (userNum amount autoCharge : Int32) : RemoteProgram Unit := do
  perform RemoteOp.clearPayment
  perform RemoteOp.clearUser
  perform RemoteOp.clearToken
  perform RemoteOp.clearWallet
  fill amount autoCharge 0 userNum.toInt.toNat 0 [] []

end InitializeResource

/-! ### What a payment request comes to -/

/-- The parameters of the task for a request. -/
def parameter (req : PayRequest) : PaymentDistParam :=
  ⟨req.userId, req.tokenId, req.amount, req.storeId, "Demo Store"⟩

/-- The payment that a request which has charged is answered with. -/
def payment (req : PayRequest) (amount : Money) (date : LocalDateTime) : Payment :=
  charged ⟨req.userId⟩ ⟨req.tokenId⟩ ⟨⟨req.storeId⟩, ⟨"Demo Store"⟩⟩ amount date

/-- Does the request charge the wallet, when it is served from these caches? -/
def Chargeable (c : Caches) (req : PayRequest) : Prop := PaymentTask.Chargeable c (parameter req)

/-- **What a payment request comes to before its event is sent**: it has charged the wallet, and has
the payment unless its record was dropped; or it has changed nothing, and then it has a payment only
if an earlier one is still recorded for a shopper without a wallet. -/
theorem delegate_cases (w : Occasion) (s : Deployment) (req : PayRequest) :
    (∃ m c', req.amount = Money.value m ∧
      PaymentTask.Commits (parameter req) (w.clock 1) w.dropped s.caches c' ∧
      run (remote w) (PaymentResource.delegate req) s =
        (if w.dropped (entryKey req.key) then .error (w.report .nullPointer)
          else .ok (some (payment req m (w.clock 1))), s.withCaches c')) ∨
    (¬ Chargeable s.caches req ∧ ∃ r, run (remote w) (PaymentResource.delegate req) s = (r, s) ∧
      (s.caches.wallets.data ⟨req.userId⟩ ≠ none ∨ ¬ PaymentTask.Recorded s.caches (parameter req) →
        ∃ e, r = .error e)) := by
  have hstore : run (remote w) (implement repositories (CoffeeStoreService.load ⟨req.storeId⟩)) s =
      (.ok ⟨⟨req.storeId⟩, ⟨"Demo Store"⟩⟩, s) := rfl
  rcases lt_or_ge req.amount.toInt 0 with hneg | hnn
  · have hrun : run (remote w) (PaymentResource.delegate req) s =
        (.error (.runtime "Negative value set to Money"), s) := by
      refine (run_bind_ok hstore).trans (run_bind_error ?_)
      rw [run_ofExcept, Money.new_of_neg hneg]
    refine Or.inr ⟨?_, _, hrun, fun _ => ⟨_, rfl⟩⟩
    rintro ⟨m, _, _, hm, _, _⟩
    change req.amount = m.value at hm
    rw [hm] at hneg
    exact absurd m.nonneg (not_le.2 hneg)
  · obtain ⟨m, hm⟩ : ∃ m : Money, req.amount = m.value := ⟨⟨req.amount, hnn⟩, rfl⟩
    have hamount : run (remote w) (ofExcept (Money.new req.amount)) s = (.ok m, s) := by
      rw [run_ofExcept, hm, Money.new_value]
    have hinvoke : run (remote w) (PaymentResource.delegate req) s =
        run (remote w) (CacheDelegateRepository.invoke ⟨req.userId⟩ ⟨req.tokenId⟩
          ⟨⟨req.storeId⟩, ⟨"Demo Store"⟩⟩ m) s :=
      (run_bind_ok hstore).trans (run_bind_ok hamount)
    have hparameter : CacheDelegateRepository.payInfo ⟨req.userId⟩ ⟨req.tokenId⟩
        ⟨⟨req.storeId⟩, ⟨"Demo Store"⟩⟩ m = parameter req := by
      rw [parameter, hm]
      rfl
    have hcases := invoke_cases w s ⟨req.userId⟩ ⟨req.tokenId⟩ ⟨⟨req.storeId⟩, ⟨"Demo Store"⟩⟩ m
    rw [hparameter] at hcases
    rcases hcases with ⟨c', hcommits, hrun⟩ | ⟨hnot, hentry, e, hrun⟩ | ⟨hnot, hentry, hrun⟩
    · exact Or.inl ⟨m, c', hm, hcommits, hinvoke.trans hrun⟩
    · exact Or.inr ⟨hnot, _, hinvoke.trans hrun, fun _ => ⟨e, rfl⟩⟩
    · refine Or.inr ⟨hnot, _, hinvoke.trans hrun, fun h => ?_⟩
      have hrecorded := h.resolve_left fun hne => hne hentry
      obtain ⟨e, he⟩ := PaymentTask.reread_of_not_recorded hrecorded
      rw [he]
      exact ⟨_, rfl⟩

/-- In terms of the stores: the shopper has a wallet, or there is no payment record to find. -/
theorem wallet_or_not_recorded {c : Caches} {req : PayRequest}
    (h : c.toStore.wallets ⟨req.userId⟩ ≠ none ∨ c.toStore.payments req.key = none) :
    c.wallets.data ⟨req.userId⟩ ≠ none ∨ ¬ PaymentTask.Recorded c (parameter req) := by
  rcases h with hwallet | hpayment
  · refine Or.inl fun hentry => hwallet ?_
    rw [Caches.toStore_wallets, hentry]
    rfl
  · refine Or.inr ?_
    rintro ⟨entity, hentity, -⟩
    rw [Caches.toStore_payments] at hpayment
    cases hpayment.symm.trans hentity

/-- The event of a payment that has charged. -/
def paid (req : PayRequest) (amount : Money) (date : LocalDateTime) : PaymentEvent :=
  KafkaNotifyRepository.event (payment req amount date) ⟨req.tokenId⟩

theorem run_notify {p : Payment} {tokenId : TokenId} (h : p.tokenId = some tokenId) (w : Occasion)
    (s : Deployment) : run (remote w) (KafkaNotifyRepository.notify p) s =
      remote w (.send (KafkaNotifyRepository.event p tokenId)) s := by
  rw [KafkaNotifyRepository.notify, h]
  rfl

/-- **What sending an event comes to**: the topic has the event, or nothing has changed. -/
theorem notify_cases (w : Occasion) (s : Deployment) (p : Payment) :
    (∃ tokenId, p.tokenId = some tokenId ∧ run (remote w) (KafkaNotifyRepository.notify p) s =
      (.ok (), ⟨s.caches, s.topic ++ [KafkaNotifyRepository.event p tokenId]⟩)) ∨
    ∃ e, run (remote w) (KafkaNotifyRepository.notify p) s = (.error e, s) := by
  cases htoken : p.tokenId with
  | none =>
      refine Or.inr ⟨.nullPointer, ?_⟩
      rw [KafkaNotifyRepository.notify, htoken]
      rfl
  | some tokenId =>
      rw [run_notify htoken, remote]
      cases w.sent with
      | ok u => exact Or.inl ⟨tokenId, rfl, rfl⟩
      | error e => exact Or.inr ⟨e, rfl⟩

/-- Sending an event leaves the caches alone. -/
theorem notify_caches (w : Occasion) (s : Deployment) (p : Payment) :
    (run (remote w) (KafkaNotifyRepository.notify p) s).2.caches = s.caches := by
  rcases notify_cases w s p with ⟨tokenId, -, hrun⟩ | ⟨e, hrun⟩
  · rw [hrun]
  · rw [hrun]

theorem notify_of_sent {w : Occasion} {u : Unit} (hsent : w.sent = .ok u) (s : Deployment)
    (req : PayRequest) (amount : Money) (date : LocalDateTime) :
    run (remote w) (KafkaNotifyRepository.notify (payment req amount date)) s =
      (.ok (), ⟨s.caches, s.topic ++ [paid req amount date]⟩) := by
  rw [run_notify rfl, remote, hsent]
  rfl

theorem notify_of_not_sent {w : Occasion} {e : JavaException} (hsent : w.sent = .error e)
    (s : Deployment) (req : PayRequest) (amount : Money) (date : LocalDateTime) :
    run (remote w) (KafkaNotifyRepository.notify (payment req amount date)) s = (.error e, s) := by
  rw [run_notify rfl, remote, hsent]

/-- Both end points send the event, and make their answer of the payment. -/
theorem run_answer {α : Type} (w : Occasion) (s : Deployment) (p : Payment) (f : TokenId → α) :
    (run (remote w) (do
      KafkaNotifyRepository.notify p
      let tokenId ← ofExcept (nonNull p.tokenId)
      return f tokenId) s).2 = (run (remote w) (KafkaNotifyRepository.notify p) s).2 := by
  rcases notify_cases w s p with ⟨tokenId, htoken, hrun⟩ | ⟨e, hrun⟩
  · rw [run_bind_ok hrun, htoken, hrun]
    rfl
  · rw [run_bind_error hrun, hrun]

/-- The deployment after what follows the delegation: the event is sent, if there is a payment. -/
def notified (w : Occasion) : Except JavaException (Option Payment) × Deployment → Deployment
  | (.ok (some p), s) => (run (remote w) (KafkaNotifyRepository.notify p) s).2
  | (_, s) => s

theorem notified_caches (w : Occasion) (out : Except JavaException (Option Payment) × Deployment) :
    (notified w out).caches = out.2.caches := by
  rcases out with ⟨e | - | p, s⟩
  · rfl
  · rfl
  · exact notify_caches w s p

/-- The deployment after a payment request at `pay`. -/
theorem pay_state (w : Occasion) (s : Deployment) (req : PayRequest) :
    (run (remote w) (PaymentResource.pay req) s).2 =
      notified w (run (remote w) (PaymentResource.delegate req) s) := by
  rw [PaymentResource.pay, run_bind]
  rcases run (remote w) (PaymentResource.delegate req) s with ⟨e | - | p, s'⟩
  · rfl
  · rfl
  · exact run_answer w s' p _

/-- The deployment after a payment request at `bill`. -/
theorem bill_state (w : Occasion) (s : Deployment) (req : PayRequest) :
    (run (remote w) (PaymentResource.bill req) s).2 =
      notified w (run (remote w) (PaymentResource.delegate req) s) := by
  have hbody : (run (remote w) (PaymentResource.billBody req) s).2 =
      notified w (run (remote w) (PaymentResource.delegate req) s) := by
    rw [PaymentResource.billBody, run_bind]
    rcases run (remote w) (PaymentResource.delegate req) s with ⟨e | - | p, s'⟩
    · rfl
    · rfl
    · exact run_answer w s' p _
  rw [← hbody, PaymentResource.bill, run_bind, run_attempt]
  rcases run (remote w) (PaymentResource.billBody req) s with ⟨e | page, s'⟩ <;> rfl

/-- What follows the delegation leaves the caches alone. -/
theorem pay_caches (w : Occasion) (s : Deployment) (req : PayRequest) :
    (run (remote w) (PaymentResource.pay req) s).2.caches =
      (run (remote w) (PaymentResource.delegate req) s).2.caches := by
  rw [pay_state, notified_caches]

/-! ### Once the payment has committed -/

/-- The answer of `pay` to a request that has charged. -/
def response (req : PayRequest) (date : LocalDateTime) : PaymentResponse :=
  ⟨req.storeId, req.userId, req.tokenId, req.amount,
    .ofEpochSecond (date.toEpochSecond zoneOffset) 0 zoneOffset⟩

/-- The page of `bill` for a request that has charged. -/
def completed (req : PayRequest) (date : LocalDateTime) : Page :=
  .billingCompleted req.tokenId req.amount
    (.ofEpochSecond (date.toEpochSecond zoneOffset) 0 zoneOffset)

variable {w : Occasion} {s s' : Deployment} {req : PayRequest} {m : Money} {date : LocalDateTime}

/-- **`pay`, once the data grid has answered with the payment**: it throws if the event is not
sent. -/
theorem run_pay_of_delegated (hm : req.amount = m.value)
    (h : run (remote w) (PaymentResource.delegate req) s = (.ok (some (payment req m date)), s')) :
    (run (remote w) (PaymentResource.pay req) s).1 = w.sent.map fun _ => response req date := by
  have hstart : run (remote w) (PaymentResource.pay req) s = run (remote w)
      (KafkaNotifyRepository.notify (payment req m date) >>= fun _ => _) s' := run_bind_ok h
  rw [hstart]
  rcases hsent : w.sent with e | u
  · rw [run_bind_error (notify_of_not_sent hsent s' req m date)]
    rfl
  · rw [run_bind_ok (notify_of_sent hsent s' req m date), response, hm]
    rfl

/-- **`bill`, once the data grid has answered with the payment**: it answers with the error page if
the event is not sent. -/
theorem run_bill_of_delegated (hm : req.amount = m.value)
    (h : run (remote w) (PaymentResource.delegate req) s = (.ok (some (payment req m date)), s')) :
    (run (remote w) (PaymentResource.bill req) s).1 = .ok (match w.sent with
      | .ok _ => completed req date
      | .error e => .error "決済処理に失敗しました" e.getMessage) := by
  have hstart : run (remote w) (PaymentResource.billBody req) s = run (remote w)
      (KafkaNotifyRepository.notify (payment req m date) >>= fun _ => _) s' := run_bind_ok h
  rw [PaymentResource.bill, run_bind, run_attempt, hstart]
  rcases hsent : w.sent with e | u
  · rw [run_bind_error (notify_of_not_sent hsent s' req m date)]
    rfl
  · rw [run_bind_ok (notify_of_sent hsent s' req m date), completed, hm]
    rfl

/-- What `pay` and `bill` answer when the data grid has thrown. -/
theorem run_of_not_delegated {e : JavaException}
    (h : run (remote w) (PaymentResource.delegate req) s = (.error e, s')) :
    (run (remote w) (PaymentResource.pay req) s).1 = .error e ∧
      (run (remote w) (PaymentResource.bill req) s).1 =
        .ok (.error "決済処理に失敗しました" e.getMessage) := by
  refine ⟨by rw [PaymentResource.pay, run_bind_error h], ?_⟩
  rw [PaymentResource.bill, run_bind, run_attempt, PaymentResource.billBody, run_bind_error h]
  rfl

end RedHatPay.Quarkus
