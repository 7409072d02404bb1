/-
**What an answer of the data-grid deployment says about the charge.**

`PaymentTask` does not return what the payment function has done; it reads the payment record back
by its key.  So it may answer with the record of an earlier payment, if the shopper has no wallet
entry, which a payment between the first and the last `clear()` of an initialisation can bring
about.  And when the payment has committed, the steps that follow can still fail: the record may
have been dropped from the bounded cache, and the event may not be sent.

* `RedHatPay.Quarkus.AnswersTruly`, `RedHatPay.Quarkus.answersTruly_iff` — **a success answer means
  a charge** in exactly the runs in which no task finds a record but no wallet;
* `RedHatPay.Quarkus.Endpoint.serve`, `RedHatPay.Quarkus.callStep` — requests, at either end point;
* `RedHatPay.Quarkus.untouched_iff` — **a failure answer means no charge** exactly if nothing fails
  after the commit.
-/

import RedHatPay.Lib.Interleave
import RedHatPay.Lib.Run
import RedHatPay.Quarkus.PaymentResource

set_option relaxedAutoImplicit false
set_option autoImplicit false

namespace RedHatPay.Quarkus

open Program Grid

/-! ### Success answers -/

/-- One remote call of a run, of whichever client, on whatever occasion. -/
def step (s : Deployment) (i : RemoteOp × Occasion) : Deployment := (remote i.2 i.1 s).2

/-- If the call is one of the task and the task returns normally, then it has charged the wallet,
the stored record is the one that it has made, and it answers with its amount and date. -/
def AnswersTruly (s : Deployment) (i : RemoteOp × Occasion) : Prop :=
  match i.1 with
  | .executePaymentTask p _ =>
      ∀ r, (PaymentTask.serve p i.2.clock i.2.dropped s.caches).1 = .ok r →
        PaymentTask.Charged p s.caches (step s i).caches ∧
        (step s i).caches.payments.data (entryKey p.key) =
          some (PaymentTask.record p (i.2.clock 1)) ∧
        r = PaymentTask.receipt p (i.2.clock 1)
  | _ => True

/-- If the call is one of the task, then there is a wallet entry, or no payment record that can be
read. -/
def WalletOrNoRecord (s : Deployment) (i : RemoteOp × Occasion) : Prop :=
  match i.1 with
  | .executePaymentTask p _ =>
      s.caches.wallets.data ⟨p.shopperId⟩ ≠ none ∨ ¬ PaymentTask.Recorded s.caches p
  | _ => True

/-- One call of the task. -/
theorem task_answersTruly_iff (s : Deployment) (p : PaymentDistParam) (key : ShopperKey)
    (w : Occasion) : AnswersTruly s (.executePaymentTask p key, w) ↔
      WalletOrNoRecord s (.executePaymentTask p key, w) := by
  change (∀ r, (PaymentTask.serve p w.clock w.dropped s.caches).1 = .ok r →
      PaymentTask.Charged p s.caches (PaymentTask.serve p w.clock w.dropped s.caches).2 ∧
      (PaymentTask.serve p w.clock w.dropped s.caches).2.payments.data (entryKey p.key) =
        some (PaymentTask.record p (w.clock 1)) ∧ r = PaymentTask.receipt p (w.clock 1)) ↔
    s.caches.wallets.data ⟨p.shopperId⟩ ≠ none ∨ ¬ PaymentTask.Recorded s.caches p
  rcases PaymentTask.serve_cases p w.clock w.dropped s.caches with
    ⟨c', hcommits, hserve⟩ | ⟨-, hentry, e, hserve⟩ | ⟨-, hentry, hserve⟩
  · obtain ⟨-, hcharged, hrecord⟩ := hcommits.charged
    obtain ⟨entry, _, hentry, -⟩ := hcharged.debited
    refine iff_of_true (fun r hr => ?_) (Or.inl fun hnone => ?_)
    · rw [hserve] at hr ⊢
      cases hd : w.dropped (entryKey p.key) with
      | true =>
          rw [hd] at hr
          cases hr
      | false =>
          rw [hd] at hr
          cases hr
          exact ⟨hcharged, hrecord hd, rfl⟩
    · rw [hnone] at hentry
      cases hentry
  · refine iff_of_true (fun r hr => ?_) (Or.inl hentry)
    rw [hserve] at hr
    cases hr
  · rw [hserve]
    constructor
    · intro h
      refine Or.inr fun hrecorded => ?_
      obtain ⟨r, hr⟩ := PaymentTask.reread_of_recorded hrecorded
      obtain ⟨⟨-, -, _, _, hsome, -⟩, -⟩ := h r hr
      rw [hentry] at hsome
      cases hsome
    · intro h r hr
      obtain ⟨e, he⟩ := PaymentTask.reread_of_not_recorded (h.resolve_left fun hne => hne hentry)
      rw [he] at hr
      cases hr

/-- **A success answer means a charge**, at every call of the task in a run, exactly if every call
of the task finds a wallet entry or no payment record. -/
theorem answersTruly_iff (s : Deployment) (l : List (RemoteOp × Occasion)) :
    Run.Steps step AnswersTruly s l ↔ Run.Steps step WalletOrNoRecord s l := by
  refine Run.steps_iff (I := fun _ => True) (fun s i _ _ => ?_) (fun _ _ _ _ _ => trivial) trivial
  obtain ⟨o, w⟩ := i
  cases o with
  | executePaymentTask p key => exact task_answersTruly_iff s p key w
  | _ => exact Iff.rfl

/-- Clients side by side, one remote call at a time. -/
def Calls {ι : Type} : Interleave.Semantics ι RemoteOp RemoteOp.Res JavaException Unit Deployment :=
  fun _ s _ o a s' _ => ∃ w, remote w o s = (a, s')

/-- A deployment with nothing in it. -/
def Deployment.empty : Deployment :=
  ⟨⟨fun _ => none, ⟨fun _ => none, fun _ => 0⟩, ⟨fun _ => none, fun _ => 0⟩,
    ⟨fun _ => none, fun _ => 0⟩⟩, []⟩

/-- Two initialisations, a request for a token, and a payment with it. -/
def clients : Fin 4 → RemoteProgram Unit
  | 0 => InitializeResource.initializeCaches 1 100 0
  | 1 => do
      let _ ← PaymentResource.createTokenAPI 0 ⟨0x0123456789ab4def#64, 0x8edcba9876543210#64⟩
      return ()
  | 2 => InitializeResource.initializeCaches 1 100 0
  | 3 => do
      let _ ← PaymentResource.pay ⟨0, "0123", 1, 30⟩
      return ()

/-- The payment is made after the second initialisation has cleared the payment cache, and before it
clears the others. -/
def inBetween :
    Interleave.Config (Fin 4) RemoteOp RemoteOp.Res JavaException Unit Unit Deployment :=
  let w : Occasion := .calm fun _ => ⟨0, 0⟩
  [0, 0, 0, 0, 0, 0, 1, 2, 3, 3, 2, 2, 2].foldl
    (.play id fun _ o s _ => some ((remote w o s).1, (remote w o s).2, ()))
    ⟨clients, fun _ => (), .empty⟩

/-- A later request with the same token is answered with that payment, and charges nobody. -/
theorem answersTruly_stale : ∃ c : Interleave.Config (Fin 4) RemoteOp RemoteOp.Res JavaException
      Unit Unit Deployment,
    Interleave.Reachable Calls ⟨clients, fun _ => (), .empty⟩ c ∧
      ¬ AnswersTruly c.glob
        (.executePaymentTask ⟨0, "0123", 70, 2, "Demo Store"⟩ ⟨0⟩, .calm fun _ => ⟨60, 0⟩) := by
  refine ⟨inBetween, Interleave.reachable_play (fun t o g l a g' l' h => ?_) _ _, fun h => ?_⟩
  · cases h
    exact ⟨.calm fun _ => ⟨0, 0⟩, rfl⟩
  · obtain ⟨⟨hunused, -, -⟩, -⟩ := h ⟨2, 0, "0123", 30, -32400⟩ (by decide)
    exact absurd hunused (by decide)

/-! ### Failure answers -/

/-- The end points for payments. -/
inductive Endpoint
  | pay
  | bill

/-- Serving a payment request: does it succeed, that is, end neither in an exception nor in the
error page, and what is the deployment after it? -/
def Endpoint.serve (w : Occasion) (req : PayRequest) (s : Deployment) :
    Endpoint → Bool × Deployment
  | pay =>
      match run (remote w) (PaymentResource.pay req) s with
      | (.ok _, s') => (true, s')
      | (.error _, s') => (false, s')
  | bill =>
      match run (remote w) (PaymentResource.bill req) s with
      | (.ok (.billingCompleted _ _ _), s') => (true, s')
      | (.ok (.error _ _), s') => (false, s')
      | (.error _, s') => (false, s')

/-- A request to the service, on an occasion. -/
inductive Call
  | createToken (userId : Int32) (uuid : UUID) (w : Occasion)
  | pay (endpoint : Endpoint) (req : PayRequest) (w : Occasion)

/-- The deployment after a request, whatever its answer. -/
def callStep (s : Deployment) : Call → Deployment
  | .createToken userId uuid w => (run (remote w) (PaymentResource.createTokenAPI userId uuid) s).2
  | .pay endpoint req w => (endpoint.serve w req s).2

/-- The entries of the shopper are the same. -/
structure Untouched (req : PayRequest) (c c' : Caches) : Prop where
  wallet : c'.wallets.data ⟨req.userId⟩ = c.wallets.data ⟨req.userId⟩
  token : ∀ tokenId, c'.tokens.data ⟨req.userId, tokenId⟩ = c.tokens.data ⟨req.userId, tokenId⟩
  payment : ∀ tokenId,
    c'.payments.data ⟨req.userId, tokenId⟩ = c.payments.data ⟨req.userId, tokenId⟩

/-- Does something fail after the payment has committed? -/
def FailsLater (w : Occasion) (req : PayRequest) : Prop :=
  w.dropped (entryKey req.key) = true ∨ ∃ e, w.sent = .error e

/-- The deployment after a payment request, at either end point. -/
theorem serve_state (w : Occasion) (req : PayRequest) (s : Deployment) (endpoint : Endpoint) :
    (endpoint.serve w req s).2 = notified w (run (remote w) (PaymentResource.delegate req) s) := by
  cases endpoint with
  | pay =>
      rw [← pay_state, Endpoint.serve]
      rcases run (remote w) (PaymentResource.pay req) s with ⟨e | r, s'⟩ <;> rfl
  | bill =>
      rw [← bill_state, Endpoint.serve]
      rcases run (remote w) (PaymentResource.bill req) s with ⟨e | (page | page), s'⟩ <;> rfl

theorem serve_caches (w : Occasion) (req : PayRequest) (s : Deployment) (endpoint : Endpoint) :
    (endpoint.serve w req s).2.caches =
      (run (remote w) (PaymentResource.delegate req) s).2.caches := by
  rw [serve_state, notified_caches]

/-- `pay` succeeds if it answers. -/
theorem serve_at_pay {w : Occasion} {req : PayRequest} {s : Deployment}
    {r : Except JavaException PaymentResponse}
    (h : (run (remote w) (PaymentResource.pay req) s).1 = r) :
    (Endpoint.pay.serve w req s).1 = r.isOk := by
  subst h
  rw [Endpoint.serve]
  rcases run (remote w) (PaymentResource.pay req) s with ⟨e | r, s'⟩ <;> rfl

/-- Is it the page of a completed payment? -/
def Page.isCompleted : Page → Bool
  | billingCompleted _ _ _ => true
  | error _ _ => false

/-- `bill` succeeds if it answers with the page of a completed payment. -/
theorem serve_at_bill {w : Occasion} {req : PayRequest} {s : Deployment} {page : Page}
    (h : (run (remote w) (PaymentResource.bill req) s).1 = .ok page) :
    (Endpoint.bill.serve w req s).1 = page.isCompleted := by
  rw [Endpoint.serve]
  rcases hrun : run (remote w) (PaymentResource.bill req) s with ⟨r, s'⟩
  rw [hrun] at h
  obtain rfl : r = _ := h
  cases page <;> rfl

/-- The end points succeed once the data grid has answered, if the event is sent. -/
theorem serve_of_delegated {w : Occasion} {req : PayRequest} {s s' : Deployment} {m : Money}
    {date : LocalDateTime} (hm : req.amount = m.value)
    (h : run (remote w) (PaymentResource.delegate req) s = (.ok (some (payment req m date)), s'))
    (endpoint : Endpoint) :
    (endpoint.serve w req s).1 = false ↔ ∃ e, w.sent = .error e := by
  cases endpoint with
  | pay =>
      rw [serve_at_pay (run_pay_of_delegated hm h)]
      rcases w.sent with e | u
      · exact iff_of_true rfl ⟨e, rfl⟩
      · exact iff_of_false nofun nofun
  | bill =>
      rw [serve_at_bill (run_bill_of_delegated hm h)]
      rcases w.sent with e | u
      · exact iff_of_true rfl ⟨e, rfl⟩
      · exact iff_of_false nofun nofun

theorem serve_of_not_delegated {w : Occasion} {req : PayRequest} {s s' : Deployment}
    {e : JavaException}
    (h : run (remote w) (PaymentResource.delegate req) s = (.error e, s')) (endpoint : Endpoint) :
    (endpoint.serve w req s).1 = false := by
  obtain ⟨hpay, hbill⟩ := run_of_not_delegated h
  cases endpoint with
  | pay => rw [serve_at_pay hpay, isOk_error]
  | bill => rw [serve_at_bill hbill, Page.isCompleted]

/-- **A failure answer means no charge**, at both end points, exactly if it is not the case that the
payment commits and something fails after that. -/
theorem untouched_iff (w : Occasion) (req : PayRequest) (s : Deployment) (endpoint : Endpoint) :
    ((endpoint.serve w req s).1 = false →
        Untouched req s.caches (endpoint.serve w req s).2.caches) ↔
      ¬ (Chargeable s.caches req ∧ FailsLater w req) := by
  rw [serve_caches]
  rcases delegate_cases w s req with ⟨m, c', hm, hcommits, hrun⟩ | ⟨hnot, r, hrun, -⟩
  · obtain ⟨hchargeable, hcharged, -⟩ := hcommits.charged
    have htouched : ¬ Untouched req s.caches
        (run (remote w) (PaymentResource.delegate req) s).2.caches := by
      intro h
      have htoken := h.token req.tokenId
      rw [hrun] at htoken
      have hboth := hcharged.used.symm.trans (htoken.trans hcharged.unused)
      cases hboth
    cases hd : w.dropped (entryKey req.key) with
    | true =>
        rw [hd] at hrun
        have hfailed := serve_of_not_delegated hrun endpoint
        exact iff_of_false (fun h => htouched (h hfailed)) fun h => h ⟨hchargeable, Or.inl hd⟩
    | false =>
        rw [hd] at hrun
        have hfailed := serve_of_delegated hm hrun endpoint
        rw [hfailed]
        refine ⟨fun h hlater => htouched (h ?_), fun h hsent => ?_⟩
        · exact hlater.2.resolve_left (by rw [hd]; nofun)
        · exact absurd ⟨hchargeable, Or.inr hsent⟩ h
  · rw [hrun]
    exact iff_of_true (fun _ => ⟨rfl, fun _ => rfl, fun _ => rfl⟩) fun h => hnot h.1

/-- A deployment with one shopper and an unused token. -/
def oneShopper : Deployment := ⟨Grid.oneShopper 100 0, []⟩

/-- The event is not sent. -/
def notSent : Occasion := ⟨fun _ => ⟨0, 0⟩, fun _ => false, .error (.runtime "overflow"), id⟩

/-- At both end points the request fails then, and the wallet has been charged. -/
theorem untouched_notSent :
    ((Endpoint.pay.serve notSent ⟨1, "abcd", 1, 30⟩ oneShopper).1 = false ∧
      ¬ Untouched ⟨1, "abcd", 1, 30⟩ oneShopper.caches
        (Endpoint.pay.serve notSent ⟨1, "abcd", 1, 30⟩ oneShopper).2.caches) ∧
    ((Endpoint.bill.serve notSent ⟨1, "abcd", 1, 30⟩ oneShopper).1 = false ∧
      ¬ Untouched ⟨1, "abcd", 1, 30⟩ oneShopper.caches
        (Endpoint.bill.serve notSent ⟨1, "abcd", 1, 30⟩ oneShopper).2.caches) :=
  ⟨⟨by decide, fun h => absurd h.wallet (by decide)⟩,
    ⟨by decide, fun h => absurd h.wallet (by decide)⟩⟩

end RedHatPay.Quarkus
