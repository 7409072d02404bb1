/-
**A visit: its calls, and its methods on the server.**

A visit calls the caches, sends events, and has a task run on the server.  What it is answered with
depends on what these calls were answered, and on the record that its task has read: this is its
course.

* `RedHatPay.Quarkus.Visit.program`, `RedHatPay.Quarkus.Visit.run_program` — a visit, call by call;
* `RedHatPay.Quarkus.expand`, `RedHatPay.Quarkus.run_expand` — a call, method by method;
* `RedHatPay.Quarkus.Course`, `RedHatPay.Quarkus.visitSpec`, `RedHatPay.Quarkus.safe_program` — what
  a visit has been through, what it may do then, and **what it is answered with**;
* `RedHatPay.Quarkus.systemSpec`, `RedHatPay.Quarkus.safe_visitor` — the same, method by method.
-/

import RedHatPay.Grid.ConcurrentTasks
import RedHatPay.Quarkus.Screens

set_option relaxedAutoImplicit false
set_option autoImplicit false

namespace RedHatPay.Quarkus

open Program Grid

/-! ### A visit, call by call -/

/-- What a visit is answered with. -/
inductive Answer
  | token (response : TokenResponse)
  | payment (response : PaymentResponse)
  | page (page : Page)
  | screen (screen : Screen)
  | text (text : String)
  deriving DecidableEq

namespace Visit

/-- The end point that a visit calls. -/
def program : Visit → RemoteProgram Answer
  | createTokenAPI userId uuid => do
      return .token (← PaymentResource.createTokenAPI userId uuid)
  | createTokenUI userId uuid => do
      return .screen (← PaymentResource.createTokenUI userId uuid)
  | pay req => do return .payment (← PaymentResource.pay req)
  | bill req => do return .page (← PaymentResource.bill req)
  | viewTokenUI shopperId tokenId => do
      return .screen (← PaymentResource.viewTokenUI shopperId tokenId)
  | userInfo userId => do return .text (← PaymentResource.userInfo userId)

/-- The payment that a visit asks for. -/
def payRequest : Visit → Option PayRequest
  | pay req | bill req => some req
  | _ => none

/-- The payment that a visit asks for; if it asks for none, any. -/
def request (v : Visit) : PayRequest := v.payRequest.getD ⟨0, "", 0, 0⟩

/-- The key of the token that a visit creates. -/
def created : Visit → Option Key
  | createTokenAPI userId uuid | createTokenUI userId uuid => some (createdKey userId uuid)
  | _ => none

/-- The program is what is served, when nothing else goes on. -/
theorem run_program (v : Visit) (w : Occasion) (s : Deployment) :
    (run (remote w) v.program s).2 = v.serve w s := by
  have hanswer : ∀ {α : Type} (p : RemoteProgram α) (f : α → Answer),
      (run (remote w) (do return f (← p)) s).2 = (run (remote w) p s).2 := by
    intro α p f
    rw [run_bind]
    rcases run (remote w) p s with ⟨e | a, s'⟩ <;> rfl
  cases v <;> exact hanswer _ _

end Visit

/-- What goes on in the service and on the server: the methods of tasks, the calls of the service
other than those that run a task, and the answers of tasks reaching the service. -/
inductive SystemOp
  | server (o : CacheOp)
  | remote (o : RemoteOp)
  | receive

/-- The result of each of them. -/
abbrev SystemOp.Res : SystemOp → Type
  | server o => o.Res
  | remote o => o.Res
  | receive => Unit

/-- Programs of these. -/
abbrev SystemProgram (α : Type) : Type := Program SystemOp SystemOp.Res JavaException α

/-- The methods of a program on the server. -/
def onServer {α : Type} (p : CacheProgram α) : SystemProgram α :=
  implement (fun o => perform (SystemOp.server o)) p

/-- A call of the service; to run a task is to run its methods, and to receive its answer. -/
def expand (w : Occasion) : (o : RemoteOp) → SystemProgram o.Res
  | .executePaymentTask parameter _ => do
      match ← attempt (onServer (PaymentTask.call parameter w.clock)) with
      | .ok response => do
          perform SystemOp.receive
          return response
      | .error e => fail (w.report e)
  | o => perform (SystemOp.remote o)

/-- What they do, when nothing else goes on; next to the deployment, there is the transaction of the
task. -/
def alone (w : Occasion) : Env SystemOp SystemOp.Res JavaException (Deployment × Option Tx)
  | .server o, (s, tx) =>
      let out := bounded w.dropped o ⟨s.caches, tx⟩
      (out.1, s.withCaches out.2.caches, out.2.tx)
  | .remote o, (s, tx) => ((remote w o s).1, (remote w o s).2, tx)
  | .receive, s => (.ok (), s)

theorem run_onServer {α : Type} (w : Occasion) (p : CacheProgram α) (s : Deployment)
    (tx : Option Tx) :
    run (alone w) (onServer p) (s, tx) =
      ((run (bounded w.dropped) p ⟨s.caches, tx⟩).1,
        s.withCaches (run (bounded w.dropped) p ⟨s.caches, tx⟩).2.caches,
        (run (bounded w.dropped) p ⟨s.caches, tx⟩).2.tx) := by
  induction p generalizing s tx with
  | ret r => rfl
  | call o k ih => exact ih _ _ _

/-- **A call, method by method**, is what the call does, when nothing else goes on. -/
theorem run_expand (w : Occasion) (o : RemoteOp) (s : Deployment) :
    (run (alone w) (expand w o) (s, none)).1 = (remote w o s).1 ∧
      (run (alone w) (expand w o) (s, none)).2.1 = (remote w o s).2 := by
  cases o with
  | executePaymentTask parameter key =>
      have hrun := run_onServer w (PaymentTask.call parameter w.clock) s none
      rw [expand, run_bind, run_attempt, hrun, remote, PaymentTask.serve]
      rcases (run (bounded w.dropped) (PaymentTask.call parameter w.clock) ⟨s.caches, none⟩).1 with
        e | response
      · exact ⟨rfl, rfl⟩
      · exact ⟨rfl, rfl⟩
  | _ => exact ⟨rfl, rfl⟩

/-! ### What a visit has been through -/

/-- What a visit has been through: what its task was told, and the calls of the service that it has
made, with their answers, the last one first. -/
structure Course where
  told : Told
  log : List ((o : RemoteOp) × Except JavaException o.Res)

/-- Nothing yet. -/
def Course.start : Course := ⟨⟨false, none⟩, []⟩

/-- A call, and its answer. -/
def Course.logged (t : Course) (o : RemoteOp) (a : Except JavaException o.Res) : Course :=
  ⟨t.told, ⟨o, a⟩ :: t.log⟩

/-- The course after a step. -/
def Course.next (t : Course) (l : Caller) : (o : SystemOp) → Except JavaException o.Res → Course
  | .server o, a => ⟨t.told.next l o a, t.log⟩
  | .remote o, a => t.logged o a
  | .receive, _ => t

/-- The event for a payment record. -/
def eventFor (req : PayRequest) (entity : PaymentEntity) : PaymentEvent :=
  ⟨.ofEpochSecond entity.billingDateTime 0 zoneOffset, req.userId, req.storeId, req.tokenId,
    entity.billingAmount⟩

/-- The calls that a visit may make: one of a task, at the start; one that puts its token, or sends
the event for the record that its task has answered with, before all others; and those that read. -/
def mayCall (v : Visit) (s : Caller × Course) : RemoteOp → Prop
  | .executePaymentTask p _ => s = (.fresh, .start) ∧
      ∃ req, v.payRequest = some req ∧ p = parameter req
  | .send event => s.2.log = [] ∧ ∃ req entity, v.payRequest = some req ∧
      s.2.told.record = some entity ∧ event = eventFor req entity
  | .putToken key value => s.2.log = [] ∧ value = ⟨.unused⟩ ∧
      ∃ key', v.created = some key' ∧ key = entryKey key'
  | o => o.reads

/-- **The discipline of a visit**, in terms of the calls of the service. -/
def visitSpec (v : Visit) : Spec RemoteOp RemoteOp.Res JavaException (Caller × Course) where
  pre s o := mayCall v s o
  post s o a s' :=
    match o, a with
    | .executePaymentTask p _, a => s'.2.log = s.2.log ∧ Answered p a (s'.1, s'.2.told)
    | o, a => s' = (s.1, s.2.logged o a)

/-- What the screen of a token is made of, in terms of the course. -/
def Shown (shopperId : Int32) (tokenId : String) (screen : Screen) (t : Course) : Prop :=
  ∃ token record payment, ⟨.getToken ⟨shopperId, tokenId⟩, .ok (some token)⟩ ∈ t.log ∧
    ⟨.getPayment ⟨shopperId, tokenId⟩, .ok record⟩ ∈ t.log ∧
    CachePaymentRepository.toPayment ⟨shopperId⟩ ⟨tokenId⟩ record = .ok payment ∧
    screen = .viewToken (some ⟨⟨shopperId⟩, ⟨tokenId⟩, token.status.toDomain, none⟩) payment false

/-- What a visit is answered with, in terms of its course. -/
def Finished (v : Visit) (r : Except JavaException Answer) (s : Caller × Course) : Prop :=
  ∀ answer, r = .ok answer → match v, answer with
    | .createTokenAPI userId uuid, .token r =>
        ⟨.putToken (entryKey (createdKey userId uuid)) ⟨.unused⟩, .ok ()⟩ ∈ s.2.log ∧
          r = ⟨userId, (TokenService.newTokenId uuid).value, .unused⟩
    | .createTokenUI userId uuid, .screen screen => (∃ e, screen = .page e) ∨
        (⟨.putToken (entryKey (createdKey userId uuid)) ⟨.unused⟩, .ok ()⟩ ∈ s.2.log ∧
          screen = .viewToken
            (some ⟨⟨userId⟩, TokenService.newTokenId uuid, .unused, none⟩) none true)
    | .pay req, .payment r => ∃ entity, s.2.told.record = some entity ∧
        ⟨.send (eventFor req entity), .ok ()⟩ ∈ s.2.log ∧
        r = ⟨req.storeId, req.userId, req.tokenId, entity.billingAmount,
          .ofEpochSecond entity.billingDateTime 0 zoneOffset⟩
    | .bill req, .page page => (∃ message detail, page = .error message detail) ∨
        ∃ entity, s.2.told.record = some entity ∧
          ⟨.send (eventFor req entity), .ok ()⟩ ∈ s.2.log ∧
          page = .billingCompleted req.tokenId entity.billingAmount
            (.ofEpochSecond entity.billingDateTime 0 zoneOffset)
    | .viewTokenUI shopperId tokenId, .screen screen => (∃ e, screen = .page e) ∨
        Shown shopperId tokenId screen s.2
    | .userInfo userId, .text text => ∃ user wallet,
        ⟨.getUser ⟨userId⟩, .ok (some user)⟩ ∈ s.2.log ∧
        ⟨.getWallet ⟨userId⟩, .ok (some wallet)⟩ ∈ s.2.log ∧
        text = user.name ++ " さんの残高は " ++ toString wallet.chargedMoney ++
          " 円です。オートチャージは " ++ toString wallet.autoChargeMoney ++ " 円に設定されています"
    | _, _ => False

/-- What is delegated comes back as this payment, for a record. -/
def delegatedFor (req : PayRequest) (entity : PaymentEntity) (m : Money) : Payment :=
  ⟨⟨req.storeId⟩, ⟨req.userId⟩, m, .ofEpochSecond entity.billingDateTime 0 zoneOffset,
    some ⟨req.tokenId⟩⟩

/-- **Delegating a payment**: what comes back is made of the record that the task has read. -/
theorem safe_delegate {v : Visit} {req : PayRequest} (hv : v.payRequest = some req) :
    Safe (visitSpec v) (fun r s => s.2.log = [] ∧ ∀ p, r = .ok p → ∃ entity m,
        s.2.told.record = some entity ∧ entity.billingAmount = m.value ∧
        p = some (delegatedFor req entity m))
      (PaymentResource.delegate req) (.fresh, .start) := by
  refine (safe_bind _ _ _ _).2 ?_
  change Safe _ _ (ofExcept (Money.new req.amount) >>= fun amount =>
    CacheDelegateRepository.invoke ⟨req.userId⟩ ⟨req.tokenId⟩
      ⟨⟨req.storeId⟩, ⟨"Demo Store"⟩⟩ amount) _
  cases hamount : Money.new req.amount with
  | error e => exact ⟨rfl, nofun⟩
  | ok amount =>
      have hparameter : CacheDelegateRepository.payInfo ⟨req.userId⟩ ⟨req.tokenId⟩
          ⟨⟨req.storeId⟩, ⟨"Demo Store"⟩⟩ amount = parameter req := by
        rw [parameter, Money.new_eq_ok_iff.1 hamount]
        rfl
      refine ⟨⟨rfl, req, hv, hparameter⟩, fun a s' hpost => ?_⟩
      obtain ⟨hlog, hanswered⟩ := hpost
      rcases a with e | response
      · exact ⟨hlog, nofun⟩
      · obtain ⟨entity, hrecord, rfl⟩ := hanswered response rfl
        change Safe _ _ (ofExcept (Money.new entity.billingAmount) >>= fun billingAmount => _) s'
        cases hm : Money.new entity.billingAmount with
        | error e => exact ⟨hlog, nofun⟩
        | ok m => exact ⟨hlog, fun p hp =>
            ⟨entity, m, hrecord, Money.new_eq_ok_iff.1 hm, (Except.ok.inj hp).symm⟩⟩

/-- **Sending the event** of a payment that was delegated, and what follows. -/
theorem safe_notify {α : Type} {v : Visit} {req : PayRequest} (hv : v.payRequest = some req)
    {s : Caller × Course} {entity : PaymentEntity} {m : Money} (hlog : s.2.log = [])
    (hrecord : s.2.told.record = some entity) (hm : entity.billingAmount = m.value)
    {Q : Except JavaException α → Caller × Course → Prop} {k : Unit → RemoteProgram α}
    (hk : ∀ s', s'.2.told.record = some entity →
      ⟨.send (eventFor req entity), .ok ()⟩ ∈ s'.2.log → Safe (visitSpec v) Q (k ()) s')
    (he : ∀ e s', Q (.error e) s') :
    Safe (visitSpec v) Q (KafkaNotifyRepository.notify (delegatedFor req entity m) >>= k) s := by
  have hevent : KafkaNotifyRepository.event (delegatedFor req entity m) ⟨req.tokenId⟩ =
      eventFor req entity := by
    rw [eventFor, hm]
    rfl
  refine (safe_bind _ _ _ _).2 ⟨⟨hlog, req, entity, hv, hrecord, hevent⟩, fun a s' hpost => ?_⟩
  obtain rfl : s' = (s.1, s.2.logged _ a) := hpost
  rcases a with e | u
  · exact he e _
  · refine hk _ hrecord ?_
    rw [← hevent]
    exact List.mem_cons_self

/-- The screen of a token: what is read is shown. -/
theorem safe_viewTokenBody (shopperId : Int32) (tokenId : String) :
    Safe (visitSpec (.viewTokenUI shopperId tokenId))
      (fun r s => ∀ screen, r = .ok screen → Shown shopperId tokenId screen s.2)
      (PaymentResource.viewTokenBody ⟨shopperId⟩ ⟨tokenId⟩) (.fresh, .start) := by
  refine (safe_bind _ _ _ _).2 ⟨trivial, fun a s₁ h₁ => ?_⟩
  obtain rfl : s₁ = (.fresh, Course.start.logged _ a) := h₁
  rcases a with e | - | token
  · exact fun _ h => by cases h
  · exact fun _ h => by cases h
  · refine (safe_bind _ _ _ _).2 ⟨trivial, fun a s₂ h₂ => ?_⟩
    obtain rfl : s₂ = (.fresh, (Course.start.logged _ _).logged _ a) := h₂
    rcases a with e | record
    · exact fun _ h => by cases h
    · change Safe _ _ (ret (CachePaymentRepository.toPayment ⟨shopperId⟩ ⟨tokenId⟩ record)) _
      cases hpayment : CachePaymentRepository.toPayment ⟨shopperId⟩ ⟨tokenId⟩ record with
      | error e => exact fun _ h => by cases h
      | ok payment =>
          rintro screen ⟨⟩
          exact ⟨token, record, payment, List.mem_cons_of_mem _ List.mem_cons_self,
            List.mem_cons_self, hpayment, rfl⟩

/-- **A visit keeps to its discipline**, and is answered with what it has been through. -/
theorem safe_program (v : Visit) : Safe (visitSpec v) (Finished v) v.program (.fresh, .start) := by
  cases v with
  | createTokenAPI userId uuid =>
      refine ⟨⟨rfl, rfl, createdKey userId uuid, rfl, rfl⟩, fun a s' hpost => ?_⟩
      obtain rfl : s' = (.fresh, Course.start.logged _ a) := hpost
      rcases a with e | u
      · exact fun _ h => by cases h
      · rintro answer ⟨⟩
        exact ⟨List.mem_cons_self, rfl⟩
  | createTokenUI userId uuid =>
      refine ⟨⟨rfl, rfl, createdKey userId uuid, rfl, rfl⟩, fun a s' hpost => ?_⟩
      obtain rfl : s' = (.fresh, Course.start.logged _ a) := hpost
      rcases a with e | u
      · rintro answer ⟨⟩
        exact Or.inl ⟨_, rfl⟩
      · rintro answer ⟨⟩
        exact Or.inr ⟨List.mem_cons_self, rfl⟩
  | pay req =>
      refine (safe_bind _ _ _ _).2 ((safe_bind _ _ _ _).2
        ((safe_delegate (v := .pay req) rfl).mono fun r s h => ?_))
      obtain ⟨hlog, hdelegated⟩ := h
      rcases r with e | p
      · exact fun _ h => by cases h
      · obtain ⟨entity, m, hrecord, hm, rfl⟩ := hdelegated p rfl
        refine safe_notify (v := .pay req) rfl hlog hrecord hm (fun s' hrecord' hsent => ?_)
          fun e s' _ h => by cases h
        rintro answer ⟨⟩
        exact ⟨entity, hrecord', hsent, by rw [hm]; rfl⟩
  | bill req =>
      refine (safe_bind _ _ _ _).2 ((safe_bind _ _ _ _).2 ((safe_attempt _ _ _).2
        ((safe_bind _ _ _ _).2 ((safe_delegate (v := .bill req) rfl).mono fun r s h => ?_))))
      obtain ⟨hlog, hdelegated⟩ := h
      rcases r with e | p
      · rintro answer ⟨⟩
        exact Or.inl ⟨_, _, rfl⟩
      · obtain ⟨entity, m, hrecord, hm, rfl⟩ := hdelegated p rfl
        refine safe_notify (v := .bill req) rfl hlog hrecord hm (fun s' hrecord' hsent => ?_)
          fun e s' => ?_
        · rintro answer ⟨⟩
          exact Or.inr ⟨entity, hrecord', hsent, by rw [hm]; rfl⟩
        · rintro answer ⟨⟩
          exact Or.inl ⟨_, _, rfl⟩
  | viewTokenUI shopperId tokenId =>
      refine (safe_bind _ _ _ _).2 ((safe_bind _ _ _ _).2 ((safe_attempt _ _ _).2
        ((safe_viewTokenBody shopperId tokenId).mono fun r s h => ?_)))
      rcases r with e | screen
      · cases e with
        | tokenException message =>
            rintro answer ⟨⟩
            exact Or.inl ⟨_, rfl⟩
        | _ => exact fun _ h => by cases h
      · rintro answer ⟨⟩
        exact Or.inr (h screen rfl)
  | userInfo userId =>
      refine (safe_bind _ _ _ _).2 ((safe_bind _ _ _ _).2 ⟨trivial, fun a s₁ h₁ => ?_⟩)
      obtain rfl : s₁ = (.fresh, Course.start.logged _ a) := h₁
      rcases a with e | - | user
      · exact fun _ h => by cases h
      · exact fun _ h => by cases h
      · refine (safe_bind _ _ _ _).2 ⟨trivial, fun a s₂ h₂ => ?_⟩
        obtain rfl : s₂ = (.fresh, (Course.start.logged _ _).logged _ a) := h₂
        rcases a with e | - | wallet
        · exact fun _ h => by cases h
        · exact fun _ h => by cases h
        · change Safe _ _ (ret (Money.new wallet.chargedMoney >>= fun charged =>
            Money.new wallet.autoChargeMoney >>= fun autoCharge =>
              .ok (⟨⟨⟨userId⟩, ⟨user.name⟩⟩, charged, autoCharge⟩ : Wallet))) _
          cases hcharged : Money.new wallet.chargedMoney with
          | error e => exact fun _ h => by cases h
          | ok charged =>
              cases hauto : Money.new wallet.autoChargeMoney with
              | error e => exact fun _ h => by cases h
              | ok autoCharge =>
                  rintro answer ⟨⟩
                  refine ⟨user, wallet, List.mem_cons_of_mem _ List.mem_cons_self,
                    List.mem_cons_self, ?_⟩
                  rw [Money.new_eq_ok_iff.1 hcharged, Money.new_eq_ok_iff.1 hauto]

/-! ### Method by method -/

/-- **The discipline of a visit, method by method.** -/
def systemSpec (users : ShopperKey → Option ShopperEntity) (v : Visit) :
    Spec SystemOp SystemOp.Res JavaException (Caller × Course) where
  pre s
    | .server o => v.payRequest.isSome ∧ Touches v.request.key o ∧
        (taskSpec users (parameter v.request).paymentFunction).pre (s.1, s.2.told) o
    | .remote o => (∀ p key, o ≠ .executePaymentTask p key) ∧ mayCall v s o
    | .receive => True
  post s
    | .server o, a, s' => s'.2.log = s.2.log ∧
        (taskSpec users (parameter v.request).paymentFunction).post (s.1, s.2.told) o a
          (s'.1, s'.2.told)
    | .remote o, a, s' => s' = (s.1, s.2.logged o a)
    | .receive, _, s' => s' = s

/-- The methods of a task keep to the discipline. -/
theorem safe_onServer (users : ShopperKey → Option ShopperEntity) {v : Visit} {req : PayRequest}
    (hv : v.payRequest = some req) (clock : Nat → LocalDateTime) :
    Safe (systemSpec users v)
      (fun r s => Answered (parameter req) r (s.1, s.2.told) ∧ s.2.log = [])
      (onServer (PaymentTask.call (parameter req) clock)) (.fresh, .start) := by
  have hrequest : v.request = req := congrArg (Option.getD · _) hv
  have hsome : v.payRequest.isSome = true := hv ▸ rfl
  -- what is demanded of a method, and what it tells
  let S : Spec CacheOp CacheOp.Res JavaException (Caller × Course) :=
    ⟨fun s o => (systemSpec users v).pre s (.server o),
      fun s o a s' => (systemSpec users v).post s (.server o) a s'⟩
  have hcall : Safe S (fun r s => Answered (parameter req) r (s.1, s.2.told))
      (PaymentTask.call (parameter req) clock) (.fresh, .start) := by
    refine Safe.comap (g := fun s : Caller × Course => (s.1, s.2.told)) (fun s o hpre => ?_)
      (fun s o a s' _ hpost => ?_)
      ((calls_call (parameter req) clock).safe_and (safe_call users (parameter req) clock))
    · rw [← hrequest] at hpre
      exact ⟨hsome, hpre.2, hpre.1⟩
    · rw [← hrequest]
      exact hpost.2
  have hlog : ∀ s o a s', s.2.log = [] → S.post s o a s' → s'.2.log = [] :=
    fun s o a s' hs hpost => hpost.1.trans hs
  have hmethod : ∀ o s, S.pre s o →
      Safe (systemSpec users v) (S.post s o) (perform (SystemOp.server o)) s :=
    fun o s hpre => ⟨hpre, fun a s' hpost => hpost⟩
  exact (hcall.keep hlog rfl).implement hmethod

/-- **A call, method by method**, does what is known of it. -/
theorem safe_expand (users : ShopperKey → Option ShopperEntity) {v : Visit} (w : Occasion)
    {o : RemoteOp} {s : Caller × Course} (h : mayCall v s o) :
    Safe (systemSpec users v) ((visitSpec v).post s o) (expand w o) s := by
  cases o with
  | executePaymentTask p key =>
      obtain ⟨rfl, req, hv, rfl⟩ := h
      refine (safe_bind _ _ _ _).2 ((safe_attempt _ _ _).2
        ((safe_onServer users hv w.clock).mono fun r s hr => ?_))
      obtain ⟨hanswered, hlog⟩ := hr
      rcases r with e | response
      · exact ⟨hlog, fun _ h => by cases h⟩
      · refine (safe_bind _ _ _ _).2 ⟨trivial, fun a s' hpost => ?_⟩
        obtain rfl : s' = s := hpost
        rcases a with e | u
        · exact ⟨hlog, fun _ h => by cases h⟩
        · exact ⟨hlog, hanswered⟩
  | _ => exact ⟨⟨nofun, h⟩, fun a s' hpost => hpost⟩

/-- The end points keep to the discipline, method by method. -/
theorem safe_visitor (users : ShopperKey → Option ShopperEntity) (v : Visit) (w : Occasion) :
    Safe (systemSpec users v) (Finished v) (implement (expand w) v.program) (.fresh, .start) :=
  (safe_program v).implement fun _ _ h => safe_expand users w h

end RedHatPay.Quarkus
