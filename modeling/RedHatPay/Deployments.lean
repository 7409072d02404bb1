/-
**The two deployments as services.**

Both deployments serve the same requests, one at a time, and both keep what the domain sees as a
store.  What a payment request may come to in either of them, in terms of the abstract payment, is
`RedHatPay.PayOutcome`.  The monolith commits what a refused payment has written, and the data grid
rolls it back; the data grid may answer with an earlier payment, if the shopper has no wallet.

* `RedHatPay.Service` — a deployment that serves requests;
* `RedHatPay.Platform`, `RedHatPay.Platform.service` — **the monolith and the data grid are
  services**;
* `RedHatPay.Quarkus.serve_pay` — what the data grid does with a payment request when nothing fails
  and nothing is dropped.
-/

import RedHatPay.Monolith.TokenLifecycle
import RedHatPay.Quarkus.PaymentResource

set_option relaxedAutoImplicit false
set_option autoImplicit false

namespace RedHatPay

open Program

/-! ### Services -/

/-- The key that a request for a token creates. -/
def createdKey (userId : Int32) (uuid : UUID) : Key := (⟨userId⟩, TokenService.newTokenId uuid)

/-- What a payment request may come to: whether it succeeds, and the contents after it. -/
inductive PayOutcome {R : Type} (record : Payment → R) (S : Store R) (req : PayRequest)
    (now : LocalDateTime) : Bool → Store R → Prop
  | charged {m : Money} {p : Payment} {S' : Store R} (hm : req.amount = m.value)
      (hpay : S.pay record (req.input m) now = (some p, S')) : PayOutcome record S req now true S'
  | failed : PayOutcome record S req now false S
  | refused (hunused : S.tokens req.key = some .unused) :
      PayOutcome record S req now false (S.setToken req.key .processing)
  | stale (hwallet : S.wallets ⟨req.userId⟩ = none) (hrecord : (S.payments req.key).isSome) :
      PayOutcome record S req now true S

/-- A deployment that serves requests, one at a time. -/
structure Service where
  /-- The states of the deployment. -/
  State : Type
  /-- What is kept of a payment. -/
  Record : Type
  record : Payment → Record
  /-- What the domain sees. -/
  view : State → Store Record
  /-- Does the request succeed, and what is the state after it? -/
  serve : State → Request → Bool × State
  createToken : ∀ s userId uuid, (serve s (.createToken userId uuid)).1 = true ∧
    view (serve s (.createToken userId uuid)).2 =
      (view s).setToken (createdKey userId uuid) .unused
  pay : ∀ s req clock, PayOutcome record (view s) req (clock 0) (serve s (.pay req clock)).1
    (view (serve s (.pay req clock)).2)

namespace Service

variable (D : Service)

/-- The state after a request. -/
def step (s : D.State) (r : Request) : D.State := (D.serve s r).2

/-- The state after a sequence of requests. -/
def run (s : D.State) (l : List Request) : D.State := Run.exec D.step s l

end Service

/-! ### The monolith -/

theorem Monolith.step_createToken (db : Monolith.Db) (userId : Int32) (uuid : UUID) :
    (Monolith.step db (.createToken userId uuid)).toStore =
      db.toStore.setToken (createdKey userId uuid) .unused := by
  have hdb : Monolith.step db (.createToken userId uuid) = db.putToken
      (Monolith.rowKey (createdKey userId uuid)) TokenStatus.unused.value :=
    congrArg Prod.snd (Monolith.createToken_eq db userId uuid)
  rw [hdb, Monolith.Db.toStore_putToken]

/-- The monolith. -/
def monolith : Service where
  State := Monolith.Db
  Record := Monolith.PaymentEntity
  record := Monolith.RdbmsPaymentRepository.entity
  view := Monolith.Db.toStore
  serve db r := ((Monolith.serve db r).1.isOk, (Monolith.serve db r).2)
  createToken db userId uuid := by
    refine ⟨?_, Monolith.step_createToken db userId uuid⟩
    rw [Monolith.serve, Monolith.createToken_eq]
    rfl
  pay db req clock := by
    change PayOutcome _ _ _ _ ((Monolith.pay db req (clock 0)).1.map Monolith.Response.payment).isOk
      (Monolith.pay db req (clock 0)).2.toStore
    rcases Monolith.pay_cases db req (clock 0) with
      ⟨⟨m, w, bill, -, hpresent, -⟩, hout, hstore, -⟩ | ⟨-, ⟨e, hout, -⟩, hstore, -⟩ |
        ⟨-, m, p, hm, hpay, hout, -⟩
    · obtain ⟨-, -, -, -, -, -, hunused, -, -⟩ := Store.present_eq_some hpresent
      rw [hout, hstore]
      exact .refused hunused
    · rw [hout, hstore]
      exact .failed
    · rw [hout]
      exact .charged hm hpay

/-! ### The data grid -/

namespace Quarkus

open Grid

/-- The answer to a request. -/
inductive Response
  | token (r : TokenResponse)
  | payment (r : PaymentResponse)
  deriving DecidableEq

/-- Serving a request when nothing else goes on, nothing fails and nothing is dropped.  The attempts
of `PaymentFunction` are counted from one. -/
def serve (s : Deployment) : Request → Except JavaException Response × Deployment
  | .createToken userId uuid =>
      let out := run (remote (.calm fun _ => ⟨0, 0⟩)) (PaymentResource.createTokenAPI userId uuid) s
      (out.1.map .token, out.2)
  | .pay req clock =>
      let out :=
        run (remote (.calm fun tryCount => clock (tryCount - 1))) (PaymentResource.pay req) s
      (out.1.map .payment, out.2)

/-- A request for a token puts an unused token under its key. -/
theorem serve_createToken (s : Deployment) (userId : Int32) (uuid : UUID) :
    serve s (.createToken userId uuid) =
      (.ok (.token ⟨userId, (TokenService.newTokenId uuid).value, .unused⟩),
        s.withCaches (exec (.putToken (entryKey (createdKey userId uuid)) ⟨.unused⟩)
          ⟨s.caches, none⟩).2.caches) := rfl

theorem toStore_createToken (s : Deployment) (userId : Int32) (uuid : UUID) :
    (serve s (.createToken userId uuid)).2.caches.toStore =
      s.caches.toStore.setToken (createdKey userId uuid) .unused := by
  rw [serve_createToken]
  exact toStore_putToken ⟨s.caches, none⟩ (createdKey userId uuid) .unused

/-- Without drops, what commits is the abstract payment. -/
theorem commits_calm {c c' : Caches} {parameter : PaymentDistParam} {now : LocalDateTime}
    (h : PaymentTask.Commits parameter now (fun _ => false) c c') :
    ∃ m p, parameter.amount = Money.value m ∧ c.toStore.pay CachePaymentRepository.entity
      (parameter.input m) now = (some p, c'.toStore) := by
  obtain ⟨m, p, c₁, hm, hpay, rfl⟩ := h
  rw [Caches.evict_none]
  exact ⟨m, p, hm, hpay⟩

/-- **What the data grid does with a payment request**: it charges the wallet and succeeds; or it
changes nothing, and then it fails unless a payment is recorded for a shopper without a wallet. -/
theorem serve_pay (s : Deployment) (req : PayRequest) (clock : Nat → LocalDateTime) :
    (Chargeable s.caches req ∧ (serve s (.pay req clock)).1.isOk = true ∧
      ∃ m p, req.amount = Money.value m ∧
        s.caches.toStore.pay CachePaymentRepository.entity (req.input m) (clock 0) =
          (some p, (serve s (.pay req clock)).2.caches.toStore)) ∨
    (¬ Chargeable s.caches req ∧ (serve s (.pay req clock)).2.caches = s.caches ∧
      (s.caches.toStore.wallets ⟨req.userId⟩ ≠ none ∨ s.caches.toStore.payments req.key = none →
        (serve s (.pay req clock)).1.isOk = false)) := by
  have hcaches := pay_caches (.calm fun tryCount => clock (tryCount - 1)) s req
  rcases delegate_cases (.calm fun tryCount => clock (tryCount - 1)) s req with
    ⟨m, c', hm, hcommits, hrun⟩ | ⟨hnot, r, hrun, hfail⟩
  · obtain ⟨m', p, hm', hpay⟩ := commits_calm hcommits
    refine Or.inl ⟨hcommits.charged.1, ?_, m', p, hm', ?_⟩
    · have hout := run_pay_of_delegated (w := .calm fun tryCount => clock (tryCount - 1)) hm hrun
      change (Except.map Response.payment (run _ (PaymentResource.pay req) s).1).isOk = true
      rw [hout]
      rfl
    · change _ = (some p, (run _ (PaymentResource.pay req) s).2.caches.toStore)
      rw [hcaches, hrun]
      exact hpay
  · refine Or.inr ⟨hnot, ?_, fun h => ?_⟩
    · change (run _ (PaymentResource.pay req) s).2.caches = s.caches
      rw [hcaches, hrun]
    · obtain ⟨e, rfl⟩ := hfail (wallet_or_not_recorded h)
      change (Except.map Response.payment (run _ (PaymentResource.pay req) s).1).isOk = false
      rw [(run_of_not_delegated hrun).1]
      rfl

end Quarkus

/-- The data grid. -/
def dataGrid : Service where
  State := Quarkus.Deployment
  Record := Grid.PaymentEntity
  record := Grid.CachePaymentRepository.entity
  view s := s.caches.toStore
  serve s r := ((Quarkus.serve s r).1.isOk, (Quarkus.serve s r).2)
  createToken s userId uuid := ⟨rfl, Quarkus.toStore_createToken s userId uuid⟩
  pay s req clock := by
    rcases Quarkus.serve_pay s req clock with ⟨-, hok, m, p, hm, hpay⟩ | ⟨-, hcaches, hfail⟩
    · rw [hok]
      exact .charged hm hpay
    · rw [hcaches]
      by_cases hwallet : s.caches.toStore.wallets ⟨req.userId⟩ = none
      · by_cases hrecord : s.caches.toStore.payments req.key = none
        · rw [hfail (Or.inr hrecord)]
          exact .failed
        · cases (Quarkus.serve s (.pay req clock)).1.isOk with
          | true => exact .stale hwallet (Option.isSome_iff_ne_none.2 hrecord)
          | false => exact .failed
      · rw [hfail (Or.inl hwallet)]
        exact .failed

/-- The two deployments. -/
inductive Platform
  | monolith
  | dataGrid

/-- The service that each of them is. -/
def Platform.service : Platform → Service
  | monolith => RedHatPay.monolith
  | dataGrid => RedHatPay.dataGrid

end RedHatPay
