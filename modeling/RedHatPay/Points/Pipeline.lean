/-
**From a payment to its points.**

The payment service commits a payment and then sends its event; the point service is handed events,
has the points added, and acknowledges.  Nothing ties the event to the commit, and nothing
recognises an event that has been handed over before: this is at-least-once delivery of what was
sent, and `Delivery` has its invariants.

Main definitions:

* `RedHatPay.Points.Pipeline`, `RedHatPay.Points.Pipeline.Action`,
  `RedHatPay.Points.Pipeline.step` — the payment service, the topic, the point service and the point
  cache;
* `RedHatPay.Points.Pipeline.toDelivery` — what is abstracted from all this.

Main results:

* `RedHatPay.Points.Pipeline.serve_eq` — a request whose event is sent at once is what the end
  points serve;
* `RedHatPay.Points.Pipeline.request_step`, `RedHatPay.Points.Pipeline.send_step`,
  `RedHatPay.Points.Pipeline.deliver_step`, `RedHatPay.Points.Pipeline.pointTask_step`,
  `RedHatPay.Points.Pipeline.acknowledge_step` — what each action does;
* `RedHatPay.Points.Pipeline.toDelivery_step` — **the simulation**: every action is an action of the
  delivery;
* `RedHatPay.Points.Pipeline.granted_spec` — **points are granted for the events that were sent**,
  at most as often as these are delivered.
-/

import RedHatPay.Lib.Delivery
import RedHatPay.Lib.Run
import RedHatPay.Points.Consumer
import RedHatPay.Points.Granting
import RedHatPay.Quarkus.Answers

set_option relaxedAutoImplicit false
set_option autoImplicit false

namespace RedHatPay.Points

open Program Grid Quarkus

/-! ### The pipeline -/

/-- An event that the point service is processing: its place in the topic, the payment that it is
of, and whether `process` has ended normally. -/
structure Processing where
  offset : Nat
  payment : Nat
  event : PaymentEvent
  processed : Bool
  deriving DecidableEq

/-- The payment service with the caches and the topic, the point service, and the point cache.
Payments are known by their place in the order of their commits. -/
structure Pipeline where
  deployment : Deployment
  points : Entries
  /-- The requests that have their payment, and have not sent its event yet. -/
  underway : List (Nat × Payment)
  /-- The events of the topic, with the payments that they are of. -/
  events : List (Nat × PaymentEvent)
  processing : List Processing
  /-- The places of the events that are acknowledged. -/
  acknowledged : List Nat
  /-- The payments that have committed. -/
  made : List Payment
  /-- The payments of the events that were handed to the point service, as often as they were. -/
  delivered : List Nat
  /-- The payments whose points were added, as often as they were. -/
  granted : List Nat

namespace Pipeline

/-- What may happen. -/
inductive Action
  | createToken (userId : Int32) (uuid : UUID) (w : Occasion)
  /-- A payment request, at either end point, up to the sending of its event. -/
  | request (req : PayRequest) (w : Occasion)
  | send (n : Nat) (w : Occasion)
  /-- The payment service stops before it sends the event. -/
  | stop (n : Nat)
  | deliver (offset : Nat)
  | pointTask (n : Nat) (f : Faults) (lost : Option JavaException)
  | acknowledge (n : Nat)
  /-- The point service is restarted. -/
  | restart

/-- Has the payment of the request committed?  Then its token has gone from unused to used. -/
def HasCharged (req : PayRequest) (c c' : Caches) : Prop :=
  c.tokens.data (entryKey req.key) = some ⟨.unused⟩ ∧
    c'.tokens.data (entryKey req.key) = some ⟨.used⟩

instance (req : PayRequest) (c c' : Caches) : Decidable (HasCharged req c c') :=
  inferInstanceAs (Decidable (_ ∧ _))

/-- The payment of a request, if it has committed. -/
def committed (req : PayRequest) (w : Occasion) (c c' : Caches) : List Payment :=
  match Money.new req.amount with
  | .ok m => if HasCharged req c c' then [Quarkus.payment req m (w.clock 1)] else []
  | .error _ => []

/-- The state after an action. -/
def step (s : Pipeline) : Action → Pipeline
  | .createToken userId uuid w => { s with
      deployment := (run (remote w) (PaymentResource.createTokenAPI userId uuid) s.deployment).2 }
  | .request req w =>
      let out := run (remote w) (PaymentResource.delegate req) s.deployment
      { s with
        deployment := out.2
        made := s.made ++ committed req w s.deployment.caches out.2.caches
        underway := match out.1 with
          | .ok (some p) => s.underway ++ [(s.made.length, p)]
          | _ => s.underway }
  | .send n w =>
      match s.underway[n]? with
      | some (i, p) =>
          let out := run (remote w) (KafkaNotifyRepository.notify p) s.deployment
          { s with
            deployment := out.2
            underway := s.underway.eraseIdx n
            events := s.events ++ (out.2.topic.drop s.deployment.topic.length).map (Prod.mk i) }
      | none => s
  | .stop n => { s with underway := s.underway.eraseIdx n }
  | .deliver offset =>
      match s.events[offset]? with
      | some (i, e) =>
          if offset ∈ s.acknowledged then s
          else { s with
            processing := s.processing ++ [⟨offset, i, e, false⟩]
            delivered := s.delivered ++ [i] }
      | none => s
  | .pointTask n f lost =>
      match s.processing[n]? with
      | some ⟨offset, i, e, false⟩ =>
          let out := run (remotePoints f lost) (ProvidePointConsumer.process e) s.points
          let task := run (remotePoints f none) (ProvidePointConsumer.process e) s.points
          { s with
            points := out.2
            processing := if out.1.isOk then s.processing.set n ⟨offset, i, e, true⟩
              else s.processing.eraseIdx n
            granted := if task.1.isOk then s.granted ++ [i] else s.granted }
      | _ => s
  | .acknowledge n =>
      match s.processing[n]? with
      | some ⟨offset, _, _, true⟩ => { s with
          processing := s.processing.eraseIdx n
          acknowledged := s.acknowledged ++ [offset] }
      | _ => s
  | .restart => { s with processing := [] }

/-- Caches with an empty topic, and points. -/
def start (c : Caches) (points : Entries) : Pipeline :=
  ⟨⟨c, []⟩, points, [], [], [], [], [], [], []⟩

/-- The payments of the events in the topic. -/
def sent (s : Pipeline) : List Nat := s.events.map Prod.fst

/-- No request is under way, and every event is acknowledged. -/
def Quiet (s : Pipeline) : Prop :=
  s.underway = [] ∧ ∀ j < s.events.length, j ∈ s.acknowledged

instance (s : Pipeline) : Decidable s.Quiet := inferInstanceAs (Decidable (_ ∧ _))

/-- The amounts of the payments whose points were added for a shopper, as often as they were. -/
def grantedTo (s : Pipeline) (id : ShopperId) : List Money :=
  ((s.granted.filterMap fun i => s.made[i]?).filter fun p => p.shopperId = id).map
    Payment.billingAmount

/-- An event is handed over only if no earlier delivery of it is in progress, and its points have
not been added. -/
def NotAgain (s : Pipeline) : Action → Prop
  | .deliver offset => ∀ r ∈ s.events[offset]?,
      r.1 ∉ s.granted ∧ ∀ d ∈ s.processing, d.payment ≠ r.1
  | _ => True

instance : (s : Pipeline) → (a : Action) → Decidable (NotAgain s a)
  | s, .deliver offset => inferInstanceAs (Decidable (∀ r ∈ s.events[offset]?, _))
  | _, .createToken _ _ _ | _, .request _ _ | _, .send _ _ | _, .stop _ | _, .pointTask _ _ _
  | _, .acknowledge _ | _, .restart => inferInstanceAs (Decidable True)

/-! ### The end points -/

/-- **A request whose event is sent at once** is what both end points serve. -/
theorem serve_eq (endpoint : Endpoint) (s : Pipeline) (req : PayRequest) (w : Occasion)
    (h : s.underway = []) : (step (step s (.request req w)) (.send 0 w)).deployment =
      (endpoint.serve w req s.deployment).2 := by
  rw [serve_state]
  rcases hrun : run (remote w) (PaymentResource.delegate req) s.deployment with ⟨e | - | p, d⟩
  · simp [step, hrun, h, notified]
  · simp [step, hrun, h, notified]
  · simp [step, hrun, h, notified]

/-! ### What the actions do -/

/-- No payment is recorded for a shopper without a wallet. -/
def NoneStale (c : Caches) : Prop :=
  ∀ key : Key, c.toStore.payments key ≠ none → c.toStore.wallets key.1 ≠ none

/-- **What a request comes to** when no recorded payment is stale: its payment has committed, and
the service has it unless its record was dropped; or nothing has changed, and there is none. -/
theorem request_cases (w : Occasion) {s : Deployment} (h : NoneStale s.caches) (req : PayRequest) :
    (∃ m c', PaymentTask.Commits (parameter req) (w.clock 1) w.dropped s.caches c' ∧
      (run (remote w) (PaymentResource.delegate req) s).2 = ⟨c', s.topic⟩ ∧
      committed req w s.caches c' = [Quarkus.payment req m (w.clock 1)] ∧
      ((run (remote w) (PaymentResource.delegate req) s).1 =
          .ok (some (Quarkus.payment req m (w.clock 1))) ∨
        ∃ e, (run (remote w) (PaymentResource.delegate req) s).1 = .error e)) ∨
    (committed req w s.caches s.caches = [] ∧
      ∃ e, run (remote w) (PaymentResource.delegate req) s = (.error e, s)) := by
  rcases delegate_cases w s req with ⟨m, c', hm, hcommits, hrun⟩ | ⟨-, r, hrun, hfail⟩
  · obtain ⟨-, hcharged, -⟩ := hcommits.charged
    refine Or.inl ⟨m, c', hcommits, by rw [hrun]; rfl, ?_, ?_⟩
    · rw [committed, hm, Money.new_value]
      exact if_pos ⟨hcharged.unused, hcharged.used⟩
    · rw [hrun]
      cases w.dropped (entryKey req.key) with
      | true => exact Or.inr ⟨_, rfl⟩
      | false => exact Or.inl rfl
  · refine Or.inr ⟨?_, ?_⟩
    · rw [committed]
      cases Money.new req.amount with
      | error e => rfl
      | ok m =>
          refine if_neg ?_
          rintro ⟨hunused, hused⟩
          cases hunused.symm.trans hused
    · have hnot : s.caches.toStore.wallets ⟨req.userId⟩ ≠ none ∨
          s.caches.toStore.payments req.key = none := by
        by_cases hrecord : s.caches.toStore.payments req.key = none
        · exact Or.inr hrecord
        · exact Or.inl (h req.key hrecord)
      obtain ⟨e, rfl⟩ := hfail (wallet_or_not_recorded hnot)
      exact ⟨e, hrun⟩

/-- A payment that commits leaves no record stale. -/
theorem NoneStale.commits {req : PayRequest} {now : LocalDateTime} {dropped : TokenKey → Bool}
    {c c' : Caches} (h : NoneStale c) (hc : PaymentTask.Commits (parameter req) now dropped c c') :
    NoneStale c' := by
  obtain ⟨m, p, c₁, -, hpay, rfl⟩ := hc
  obtain ⟨w, bill, m', hpresent, -, -, -, hstore⟩ := Store.pay_eq_some hpay
  intro key hkey
  -- the record was there before the drops
  have hrecord : c₁.toStore.payments key ≠ none := by
    rw [Caches.toStore_payments] at hkey ⊢
    intro hnone
    refine hkey ?_
    change (if dropped (entryKey key) then none else c₁.payments.data (entryKey key)) = none
    rw [hnone, ite_self]
  change c₁.toStore.wallets key.1 ≠ none
  obtain ⟨_, _, purse, -, -, hpurse, -, hwallet, -⟩ := Store.present_eq_some hpresent
  rw [hstore] at hrecord ⊢
  by_cases hshopper : key.1 = w.owner.id
  · rw [hshopper]
    exact (Function.update_self _ _ _).trans_ne (Option.some_ne_none _)
  · have hother : (c.toStore.charge ((parameter req).input m) { w with chargedMoney := m' }
        (CachePaymentRepository.entity p)).wallets key.1 = c.toStore.wallets key.1 :=
      Function.update_of_ne hshopper _ _
    rw [hother]
    refine h key fun hnone => hrecord ?_
    have hkey : key ≠ ((parameter req).input m).key := by
      rintro rfl
      rw [hwallet] at hshopper
      exact hshopper rfl
    exact (Function.update_of_ne hkey _ _).trans hnone

/-- **A request** adds its payment to those that have committed; or nothing has changed. -/
theorem request_step {s : Pipeline} (h : NoneStale s.deployment.caches) (req : PayRequest)
    (w : Occasion) :
    (∃ m c', PaymentTask.Commits (parameter req) (w.clock 1) w.dropped s.deployment.caches c' ∧
      (step s (.request req w) = { s with
          deployment := ⟨c', s.deployment.topic⟩
          made := s.made ++ [Quarkus.payment req m (w.clock 1)]
          underway := s.underway ++ [(s.made.length, Quarkus.payment req m (w.clock 1))] } ∨
        step s (.request req w) = { s with
          deployment := ⟨c', s.deployment.topic⟩
          made := s.made ++ [Quarkus.payment req m (w.clock 1)] })) ∨
    step s (.request req w) = s := by
  rcases request_cases w h req with ⟨m, c', hc, hstate, hmade, hout⟩ | ⟨hnone, e, hrun⟩
  · refine Or.inl ⟨m, c', hc, ?_⟩
    rcases hout with hout | ⟨e, hout⟩
    · exact Or.inl (by simp only [step, hstate, hmade, hout])
    · exact Or.inr (by simp only [step, hstate, hmade, hout])
  · refine Or.inr ?_
    simp [step, hrun, hnone]

/-- **Sending** puts the event of the payment into the topic, or drops it. -/
theorem send_step (s : Pipeline) (n : Nat) (w : Occasion) :
    (∃ i p, s.underway[n]? = some (i, p) ∧
      ((∃ tokenId, p.tokenId = some tokenId ∧ step s (.send n w) = { s with
          deployment := ⟨s.deployment.caches,
            s.deployment.topic ++ [KafkaNotifyRepository.event p tokenId]⟩
          underway := s.underway.eraseIdx n
          events := s.events ++ [(i, KafkaNotifyRepository.event p tokenId)] }) ∨
        step s (.send n w) = { s with underway := s.underway.eraseIdx n })) ∨
    step s (.send n w) = s := by
  rcases hn : s.underway[n]? with - | ⟨i, p⟩
  · refine Or.inr ?_
    simp [step, hn]
  · refine Or.inl ⟨i, p, rfl, ?_⟩
    rcases notify_cases w s.deployment p with ⟨tokenId, htoken, hrun⟩ | ⟨e, hrun⟩
    · refine Or.inl ⟨tokenId, htoken, ?_⟩
      simp [step, hn, hrun]
    · refine Or.inr ?_
      simp [step, hn, hrun]

/-- **A delivery** hands over an event that is not acknowledged. -/
theorem deliver_step (s : Pipeline) (offset : Nat) :
    (∃ i e, s.events[offset]? = some (i, e) ∧ offset ∉ s.acknowledged ∧
      step s (.deliver offset) = { s with
        processing := s.processing ++ [⟨offset, i, e, false⟩]
        delivered := s.delivered ++ [i] }) ∨
    step s (.deliver offset) = s := by
  rcases hn : s.events[offset]? with - | ⟨i, e⟩
  · refine Or.inr ?_
    simp [step, hn]
  · by_cases hack : offset ∈ s.acknowledged
    · refine Or.inr ?_
      simp [step, hn, hack]
    · refine Or.inl ⟨i, e, rfl, hack, ?_⟩
      simp [step, hn, hack]

/-- **The task** adds the points of the payment, and the consumer has an answer unless it is lost;
or the points are what they were, and the consumer gives up. -/
theorem pointTask_step (s : Pipeline) (n : Nat) (f : Faults) (lost : Option JavaException) :
    (∃ offset i e, s.processing[n]? = some ⟨offset, i, e, false⟩ ∧
      ((∃ m v, e.amount = Money.value m ∧ s.points ⟨e.userId⟩ = some v ∧
          step s (.pointTask n f lost) = { s with
            points := Function.update s.points ⟨e.userId⟩ (some (earn v m))
            processing := if (answered lost).isOk then s.processing.set n ⟨offset, i, e, true⟩
              else s.processing.eraseIdx n
            granted := s.granted ++ [i] }) ∨
        step s (.pointTask n f lost) = { s with processing := s.processing.eraseIdx n })) ∨
    step s (.pointTask n f lost) = s := by
  rcases hn : s.processing[n]? with - | ⟨offset, i, e, - | -⟩
  · refine Or.inr ?_
    simp [step, hn]
  · refine Or.inl ⟨offset, i, e, rfl, ?_⟩
    rcases process_cases f e s.points with ⟨m, v, hm, hv, hrun⟩ | hrun
    · refine Or.inl ⟨m, v, hm, hv, ?_⟩
      have hnone : (answered none).isOk = true := rfl
      simp [step, hn, hrun, hnone]
    · obtain ⟨err, herr⟩ := hrun lost
      obtain ⟨err', herr'⟩ := hrun none
      refine Or.inr ?_
      simp [step, hn, herr, herr']
  · refine Or.inr ?_
    simp [step, hn]

/-- **An acknowledgement** is for an event that has been processed. -/
theorem acknowledge_step (s : Pipeline) (n : Nat) :
    (∃ offset i e, s.processing[n]? = some ⟨offset, i, e, true⟩ ∧
      step s (.acknowledge n) = { s with
        processing := s.processing.eraseIdx n
        acknowledged := s.acknowledged ++ [offset] }) ∨
    step s (.acknowledge n) = s := by
  rcases hn : s.processing[n]? with - | ⟨offset, i, e, - | -⟩
  · refine Or.inr ?_
    simp [step, hn]
  · refine Or.inr ?_
    simp [step, hn]
  · refine Or.inl ⟨offset, i, e, rfl, ?_⟩
    simp [step, hn]

/-! ### The simulation -/

/-- The delivery of an event that is being processed. -/
def held (d : Processing) : Delivery.Held := ⟨d.offset, d.payment, d.processed⟩

/-- What is abstracted from the pipeline: the payments are the items. -/
def toDelivery (s : Pipeline) : Delivery.State where
  made := s.made.length
  underway := s.underway.map Prod.fst
  log := s.sent
  held := s.processing.map held
  acknowledged := s.acknowledged
  delivered := s.delivered
  applied := s.granted

/-- What is not handed over again is fresh. -/
theorem fresh_of_notAgain {s : Pipeline} {offset : Nat} (h : NotAgain s (.deliver offset)) :
    Delivery.Fresh s.toDelivery (.deliver offset) := by
  intro i hi
  have hi' : s.sent[offset]? = some i := hi
  rw [sent, List.getElem?_map, Option.map_eq_some_iff] at hi'
  obtain ⟨⟨_, e⟩, hevent, rfl⟩ := hi'
  obtain ⟨hgranted, hprocessing⟩ := h _ hevent
  refine fun hmem => (List.mem_append.1 hmem).elim hgranted fun hpending => ?_
  obtain ⟨d, hd, hitem⟩ := List.mem_map.1 hpending
  obtain ⟨d', hd', rfl⟩ := List.mem_map.1 (List.mem_of_mem_filter hd)
  exact hprocessing d' hd' hitem

/-- **The simulation**: every action is an action of the delivery; and if it hands over no event
again, then the delivery does not do so either. -/
theorem toDelivery_step {s : Pipeline} (h : NoneStale s.deployment.caches) (a : Action) :
    ∃ b, (step s a).toDelivery = Delivery.step s.toDelivery b ∧
      (NotAgain s a → Delivery.Fresh s.toDelivery b) := by
  have hidle : step s a = s → ∃ b, (step s a).toDelivery = Delivery.step s.toDelivery b ∧
      (NotAgain s a → Delivery.Fresh s.toDelivery b) := fun hstep =>
    ⟨.idle, congrArg toDelivery hstep, fun _ => trivial⟩
  cases a with
  | createToken userId uuid w => exact ⟨.idle, rfl, fun _ => trivial⟩
  | request req w =>
      rcases request_step h req w with ⟨m, c', -, hstep | hstep⟩ | hstep
      · refine ⟨.make true, ?_, fun _ => trivial⟩
        simp [hstep, toDelivery, sent, Delivery.step]
      · refine ⟨.make false, ?_, fun _ => trivial⟩
        simp [hstep, toDelivery, sent, Delivery.step]
      · exact hidle hstep
  | send n w =>
      rcases send_step s n w with ⟨i, p, hn, ⟨tokenId, -, hstep⟩ | hstep⟩ | hstep
      · refine ⟨.send n true, ?_, fun _ => trivial⟩
        simp [hstep, toDelivery, sent, Delivery.step, hn, List.eraseIdx_map]
      · refine ⟨.send n false, ?_, fun _ => trivial⟩
        simp [hstep, toDelivery, sent, Delivery.step, hn, List.eraseIdx_map]
      · exact hidle hstep
  | stop n =>
      refine ⟨.drop n, ?_, fun _ => trivial⟩
      simp [step, toDelivery, sent, Delivery.step, List.eraseIdx_map]
  | deliver offset =>
      rcases deliver_step s offset with ⟨i, e, hn, hack, hstep⟩ | hstep
      · refine ⟨.deliver offset, ?_, fresh_of_notAgain⟩
        simp [hstep, toDelivery, sent, Delivery.step, hn, hack, held]
      · exact hidle hstep
  | pointTask n f lost =>
      rcases pointTask_step s n f lost with ⟨offset, i, e, hn, ⟨m, v, -, -, hstep⟩ | hstep⟩ | hstep
      · refine ⟨.apply n true (answered lost).isOk, ?_, fun _ => trivial⟩
        cases lost with
        | none => simp [hstep, toDelivery, sent, Delivery.step, hn, held, answered]
        | some err => simp [hstep, toDelivery, sent, Delivery.step, hn, held, answered,
            List.eraseIdx_map]
      · refine ⟨.apply n false false, ?_, fun _ => trivial⟩
        simp [hstep, toDelivery, sent, Delivery.step, hn, held, List.eraseIdx_map]
      · exact hidle hstep
  | acknowledge n =>
      rcases acknowledge_step s n with ⟨offset, i, e, hn, hstep⟩ | hstep
      · refine ⟨.acknowledge n, ?_, fun _ => trivial⟩
        simp [hstep, toDelivery, sent, Delivery.step, hn, held, List.eraseIdx_map]
      · exact hidle hstep
  | restart => exact ⟨.restart, rfl, fun _ => trivial⟩

/-! ### The invariant -/

/-- **The invariant**: that of the delivery; requests, events and deliveries are of the payments
that they are said to be of; and the point cache holds what was granted. -/
structure Inv (points₀ : Entries) (s : Pipeline) : Prop where
  delivery : Delivery.Inv s.toDelivery
  records : NoneStale s.deployment.caches
  topic : s.deployment.topic = s.events.map Prod.snd
  underway : ∀ r ∈ s.underway, s.made[r.1]? = some r.2
  events : ∀ r ∈ s.events, ∃ p tokenId, s.made[r.1]? = some p ∧ p.tokenId = some tokenId ∧
    r.2 = KafkaNotifyRepository.event p tokenId
  processing : ∀ d ∈ s.processing, (d.payment, d.event) ∈ s.events
  points : ∀ id : ShopperId, s.points ⟨id.value⟩ =
    (points₀ ⟨id.value⟩).map fun v => (s.grantedTo id).foldl earn v

namespace Inv

variable {points₀ : Entries} {s : Pipeline}

theorem start {c : Caches} (h : NoneStale c) : Inv points₀ (start c points₀) where
  delivery := .empty
  records := h
  topic := rfl
  underway := nofun
  events := nofun
  processing := nofun
  points _ := Option.map_id'.symm

/-- Only payments that have committed are granted points for. -/
theorem lt_made (h : Inv points₀ s) {i : Nat} (hi : i ∈ s.granted) : i < s.made.length :=
  h.delivery.made i (List.mem_append_right _ (h.delivery.applied i hi))

/-- Further payments do not matter to what was granted. -/
theorem grantedTo_append (h : Inv points₀ s) (l : List Payment) (id : ShopperId) :
    grantedTo { s with made := s.made ++ l } id = s.grantedTo id := by
  have hfilter : s.granted.filterMap (fun i => (s.made ++ l)[i]?) =
      s.granted.filterMap fun i => s.made[i]? :=
    List.filterMap_congr fun i hi => List.getElem?_append_left (h.lt_made hi)
  rw [grantedTo, grantedTo, hfilter]

theorem request (h : Inv points₀ s) (req : PayRequest) (w : Occasion)
    (hd : Delivery.Inv (step s (.request req w)).toDelivery) :
    Inv points₀ (step s (.request req w)) := by
  rcases request_step h.records req w with ⟨m, c', hc, hstep⟩ | hstep
  · have hgrow : ∀ {i : Nat} {p : Payment}, s.made[i]? = some p →
        (s.made ++ [Quarkus.payment req m (w.clock 1)])[i]? = some p :=
      fun hi => Delivery.getElem?_append_of_some hi
    have hunderway : ∀ r ∈ s.underway,
        (s.made ++ [Quarkus.payment req m (w.clock 1)])[r.1]? = some r.2 :=
      fun r hr => hgrow (h.underway r hr)
    have hevents : ∀ r ∈ s.events, ∃ p tokenId,
        (s.made ++ [Quarkus.payment req m (w.clock 1)])[r.1]? = some p ∧
        p.tokenId = some tokenId ∧ r.2 = KafkaNotifyRepository.event p tokenId := by
      intro r hr
      obtain ⟨p, tokenId, hi, htoken, he⟩ := h.events r hr
      exact ⟨p, tokenId, hgrow hi, htoken, he⟩
    have hpoints : ∀ id : ShopperId, s.points ⟨id.value⟩ = (points₀ ⟨id.value⟩).map fun v =>
        (grantedTo { s with made := s.made ++ [Quarkus.payment req m (w.clock 1)] } id).foldl
          earn v := by
      intro id
      rw [h.points id, h.grantedTo_append]
    rcases hstep with hstep | hstep
    · rw [hstep] at hd ⊢
      refine ⟨hd, h.records.commits hc, h.topic, fun r hr => ?_, hevents, h.processing, hpoints⟩
      rcases List.mem_append.1 hr with hr | hr
      · exact hunderway r hr
      · obtain rfl := List.mem_singleton.1 hr
        exact List.getElem?_concat_length
    · rw [hstep] at hd ⊢
      exact ⟨hd, h.records.commits hc, h.topic, hunderway, hevents, h.processing, hpoints⟩
  · rwa [hstep]

theorem send (h : Inv points₀ s) (n : Nat) (w : Occasion)
    (hd : Delivery.Inv (step s (.send n w)).toDelivery) : Inv points₀ (step s (.send n w)) := by
  have hunderway : ∀ r ∈ s.underway.eraseIdx n, s.made[r.1]? = some r.2 :=
    fun r hr => h.underway r (List.mem_of_mem_eraseIdx hr)
  rcases send_step s n w with ⟨i, p, hn, ⟨tokenId, htoken, hstep⟩ | hstep⟩ | hstep
  · have hmade := h.underway _ (List.mem_of_getElem? hn)
    rw [hstep] at hd ⊢
    refine ⟨hd, h.records, ?_, hunderway, fun r hr => ?_,
      fun d hd => List.mem_append_left _ (h.processing d hd), h.points⟩
    · simp [h.topic]
    · rcases List.mem_append.1 hr with hr | hr
      · exact h.events r hr
      · obtain rfl := List.mem_singleton.1 hr
        exact ⟨p, tokenId, hmade, htoken, rfl⟩
  · rw [hstep] at hd ⊢
    exact { h with delivery := hd, underway := hunderway }
  · rwa [hstep]

theorem deliver (h : Inv points₀ s) (offset : Nat)
    (hd : Delivery.Inv (step s (.deliver offset)).toDelivery) :
    Inv points₀ (step s (.deliver offset)) := by
  rcases deliver_step s offset with ⟨i, e, hn, -, hstep⟩ | hstep
  · rw [hstep] at hd ⊢
    refine { h with delivery := hd, processing := fun d hd => ?_ }
    rcases List.mem_append.1 hd with hd | hd
    · exact h.processing d hd
    · obtain rfl := List.mem_singleton.1 hd
      exact List.mem_of_getElem? hn
  · rwa [hstep]

/-- Adding the points of a payment once more. -/
theorem points_granted (h : Inv points₀ s) {i : Nat} {p : Payment} {v : PointEntity}
    (hmade : s.made[i]? = some p) (hv : s.points ⟨p.shopperId.value⟩ = some v) (id : ShopperId) :
    Function.update s.points ⟨p.shopperId.value⟩ (some (earn v p.billingAmount)) ⟨id.value⟩ =
      (points₀ ⟨id.value⟩).map fun v =>
        (grantedTo { s with granted := s.granted ++ [i] } id).foldl earn v := by
  have hgranted : grantedTo { s with granted := s.granted ++ [i] } id =
      s.grantedTo id ++ if p.shopperId = id then [p.billingAmount] else [] := by
    rw [grantedTo, grantedTo, List.filterMap_append, List.filterMap_cons_some hmade,
      List.filterMap_nil, List.filter_append, List.map_append]
    by_cases hid : p.shopperId = id <;> simp [hid]
  rw [hgranted]
  by_cases hid : p.shopperId = id
  · subst hid
    have hbefore := h.points p.shopperId
    rw [hv] at hbefore
    obtain ⟨v₀, hv₀, hfold⟩ := Option.map_eq_some_iff.1 hbefore.symm
    rw [Function.update_self, hv₀, Option.map_some, if_pos rfl, List.foldl_append, hfold]
    rfl
  · have hkey : (⟨id.value⟩ : ShopperKey) ≠ ⟨p.shopperId.value⟩ := by
      intro hkey
      obtain ⟨a⟩ := id
      exact hid (congrArg ShopperId.mk (ShopperKey.mk.inj hkey).symm)
    rw [Function.update_of_ne hkey, if_neg hid, List.append_nil, h.points id]

theorem pointTask (h : Inv points₀ s) (n : Nat) (f : Faults) (lost : Option JavaException)
    (hd : Delivery.Inv (step s (.pointTask n f lost)).toDelivery) :
    Inv points₀ (step s (.pointTask n f lost)) := by
  have herase : ∀ d ∈ s.processing.eraseIdx n, (d.payment, d.event) ∈ s.events :=
    fun d hd => h.processing d (List.mem_of_mem_eraseIdx hd)
  rcases pointTask_step s n f lost with ⟨offset, i, e, hn, ⟨m, v, hm, hv, hstep⟩ | hstep⟩ | hstep
  · have hevent : (i, e) ∈ s.events := h.processing _ (List.mem_of_getElem? hn)
    obtain ⟨p, tokenId, hmade, -, rfl⟩ := h.events _ hevent
    obtain rfl : p.billingAmount = m := Money.ext_toInt (congrArg Int32.toInt hm)
    rw [hstep] at hd ⊢
    refine { h with delivery := hd, processing := fun d hd => ?_,
                    points := h.points_granted hmade hv }
    -- whether or not the consumer has the answer
    cases hanswered : (answered lost).isOk with
    | false =>
        simp only [hanswered] at hd
        exact herase d hd
    | true =>
        simp only [hanswered] at hd
        rcases List.mem_or_eq_of_mem_set hd with hd | rfl
        · exact h.processing d hd
        · exact hevent
  · rw [hstep] at hd ⊢
    exact { h with delivery := hd, processing := herase }
  · rwa [hstep]

theorem acknowledge (h : Inv points₀ s) (n : Nat)
    (hd : Delivery.Inv (step s (.acknowledge n)).toDelivery) :
    Inv points₀ (step s (.acknowledge n)) := by
  rcases acknowledge_step s n with ⟨offset, i, e, -, hstep⟩ | hstep
  · rw [hstep] at hd ⊢
    exact { h with delivery := hd,
                   processing := fun d hd => h.processing d (List.mem_of_mem_eraseIdx hd) }
  · rwa [hstep]

/-- **The step**: every action keeps the invariant. -/
theorem step (h : Inv points₀ s) (a : Action) : Inv points₀ (step s a) := by
  have hd : Delivery.Inv (Pipeline.step s a).toDelivery := by
    obtain ⟨b, hb, -⟩ := toDelivery_step h.records a
    rw [hb]
    exact h.delivery.step b
  cases a with
  | createToken userId uuid w => exact { h with delivery := hd }
  | request req w => exact h.request req w hd
  | send n w => exact h.send n w hd
  | stop n =>
      exact { h with delivery := hd,
                     underway := fun r hr => h.underway r (List.mem_of_mem_eraseIdx hr) }
  | deliver offset => exact h.deliver offset hd
  | pointTask n f lost => exact h.pointTask n f lost hd
  | acknowledge n => exact h.acknowledge n hd
  | restart => exact { h with delivery := hd, processing := nofun }

end Inv

theorem inv_exec {c : Caches} (h : NoneStale c) (points₀ : Entries) (l : List Action) :
    Inv points₀ (Run.exec step (start c points₀) l) :=
  Run.exec_invariant (fun _ a hs => hs.step a) (.start h) l

/-- In runs that hand over no event again, no payment is handled twice. -/
theorem nodup_exec {c : Caches} (h : NoneStale c) (points₀ : Entries) {l : List Action}
    (hl : Run.Steps step NotAgain (start c points₀) l) :
    (Run.exec step (start c points₀) l).toDelivery.handled.Nodup := by
  have hboth := hl.invariant (I := fun s => Inv points₀ s ∧ s.toDelivery.handled.Nodup)
    (fun s a hs ha => by
      obtain ⟨b, hb, hfresh⟩ := toDelivery_step hs.1.records a
      refine ⟨hs.1.step a, ?_⟩
      rw [hb]
      exact Delivery.nodup_step hs.2 (hfresh ha)) ⟨.start h, List.nodup_nil⟩
  exact hboth.2

/-! ### What was granted -/

/-- **Points are granted for the events that were sent**: the point cache holds what was granted;
the payments with an event have committed, and have only one; no payment is granted points for more
often than its event was handed over, and none without an event; and in the end, all with one. -/
structure Granted (points₀ : Entries) (s : Pipeline) : Prop where
  points : ∀ id : ShopperId, s.points ⟨id.value⟩ =
    (points₀ ⟨id.value⟩).map fun v => (s.grantedTo id).foldl earn v
  event : ∀ i ∈ s.sent, ∃ p tokenId, s.made[i]? = some p ∧ p.tokenId = some tokenId ∧
    KafkaNotifyRepository.event p tokenId ∈ s.deployment.topic
  nodup : s.sent.Nodup
  sent : ∀ i ∈ s.granted, i ∈ s.sent
  count : ∀ i, s.granted.count i ≤ s.delivered.count i
  quiet : s.Quiet → ∀ i ∈ s.sent, i ∈ s.granted

theorem Inv.granted {points₀ : Entries} {s : Pipeline} (h : Inv points₀ s) :
    Granted points₀ s where
  points := h.points
  event i hi := by
    obtain ⟨r, hr, rfl⟩ := List.mem_map.1 hi
    obtain ⟨p, tokenId, hmade, htoken, he⟩ := h.events r hr
    refine ⟨p, tokenId, hmade, htoken, ?_⟩
    rw [h.topic, ← he]
    exact List.mem_map_of_mem hr
  nodup := (List.nodup_append'.1 h.delivery.nodup).2.1
  sent := h.delivery.applied
  count := h.delivery.count_le
  quiet hquiet i hi := by
    refine (h.delivery.applied_iff ⟨?_, fun j hj => ?_⟩ i).2 hi
    · exact congrArg (List.map Prod.fst) hquiet.1
    · exact hquiet.2 j (by simpa [toDelivery, Pipeline.sent] using hj)

/-- **Points are granted for the events that were sent**, in every state that a run reaches; at most
once in runs that hand over no event again, and then in the end exactly once. -/
theorem granted_spec {c : Caches} (h : NoneStale c) (points₀ : Entries) (l : List Action) :
    Granted points₀ (Run.exec step (start c points₀) l) ∧
    (Run.Steps step NotAgain (start c points₀) l → ∀ i,
      (Run.exec step (start c points₀) l).granted.count i ≤ 1 ∧
      ((Run.exec step (start c points₀) l).Quiet →
        i ∈ (Run.exec step (start c points₀) l).sent →
          (Run.exec step (start c points₀) l).granted.count i = 1)) := by
  have hgranted := (inv_exec h points₀ l).granted
  refine ⟨hgranted, fun hl i => ?_⟩
  have hle := Delivery.count_le_one (nodup_exec h points₀ hl) i
  refine ⟨hle, fun hquiet hi => ?_⟩
  have hpos := List.count_pos_iff.2 (hgranted.quiet hquiet i hi)
  change (Run.exec step (start c points₀) l).granted.count i ≤ 1 at hle
  omega

/-! ### Runs -/

/-- The shopper has some points. -/
def onePoints : Entries := fun key => if key = ⟨1⟩ then some ⟨10⟩ else none

/-- One shopper with a wallet, an unused token, and points. -/
def oneShopper : Pipeline := start (Grid.oneShopper 1000 0) onePoints

/-- Nothing fails. -/
def calm : Occasion := .calm fun _ => ⟨0, 0⟩

/-- A payment, and its event is processed. -/
def processed : List Action :=
  [.request ⟨1, "abcd", 1, 300⟩ calm, .send 0 calm, .deliver 0, .pointTask 0 .none none]

/-- Nothing is recorded yet. -/
theorem noneStale_oneShopper : NoneStale (Grid.oneShopper 1000 0) := by
  intro key hkey
  rw [Caches.toStore_payments] at hkey
  exact absurd rfl hkey

/-- And it is acknowledged. -/
def completed : List Action := processed ++ [.acknowledge 0]

/-- The points of the payment are added once. -/
theorem granted_spec_completed : (Run.exec step oneShopper completed).granted.count 0 = 1 := by
  have hl : Run.Steps step NotAgain oneShopper completed := by decide
  have hquiet : (Run.exec step oneShopper completed).Quiet := by decide
  have hsent : 0 ∈ (Run.exec step oneShopper completed).sent := by decide
  exact ((granted_spec noneStale_oneShopper onePoints completed).2 hl 0).2 hquiet hsent

/-- The point service is restarted before it acknowledges, and is handed the event again. -/
def restarted : List Action :=
  processed ++ [.restart, .deliver 0, .pointTask 0 .none none, .acknowledge 0]

/-- The event is not sent. -/
def unsent : List Action := [.request ⟨1, "abcd", 1, 300⟩ calm, .send 0 notSent]

/-- The points of a payment are added twice; and the points of another are never added. -/
theorem granted_otherwise :
    ((Run.exec step oneShopper restarted).Quiet ∧
      (Run.exec step oneShopper restarted).granted.count 0 = 2 ∧
      (Run.exec step oneShopper restarted).points ⟨1⟩ = some ⟨16⟩) ∧
    ((Run.exec step oneShopper unsent).Quiet ∧ (Run.exec step oneShopper unsent).made.length = 1 ∧
      (Run.exec step oneShopper unsent).granted.count 0 = 0 ∧
      (Run.exec step oneShopper unsent).points ⟨1⟩ = some ⟨10⟩) :=
  ⟨⟨by decide, by decide, by decide⟩, by decide, by decide, by decide, by decide⟩

end Pipeline

end RedHatPay.Points
