/-
**The whole system.**

Shoppers and clerks visit the payment service, the servers run the tasks of payments, the consumers
are handed the events of the topic, and the servers run the tasks that add points: all of this side
by side, and all of it may fail at any moment.  The two halves share nothing but the topic, which
only grows, so that a run of the system is a run of the service and a run of the consumers, beside
the topic that the service has left.  Points are added for payments that have been made, and for
nothing else.

* `RedHatPay.topic_of_serving`, `RedHatPay.lasting_delivers` — the topic only grows;
* `RedHatPay.rewarded`, `RedHatPay.earnedFor` — the payments that points were added for;
* `RedHatPay.points_for_payments` — **from visits to points**.
-/

import RedHatPay.Lib.Beside
import RedHatPay.Points.Deliveries
import RedHatPay.Quarkus.ConcurrentVisits

set_option relaxedAutoImplicit false
set_option autoImplicit false

namespace RedHatPay

open Program

/-! ### The topic -/

/-- A call of the service leaves the events of the topic where they are. -/
theorem topic_of_remote (w : Quarkus.Occasion) (o : Quarkus.RemoteOp) (s : Quarkus.Deployment) :
    ∃ events, (Quarkus.remote w o s).2.topic = s.topic ++ events := by
  cases o with
  | send event =>
      rcases hsent : w.sent with e | u
      · exact ⟨[], by simp [Quarkus.remote, hsent]⟩
      · exact ⟨[event], by simp [Quarkus.remote, hsent]⟩
  | _ => exact ⟨[], (List.append_nil _).symm⟩

/-- **The topic only grows.** -/
theorem topic_of_serving {ι : Type} {i : ι} {s s' : Quarkus.Deployment} {l l' : Grid.Caller}
    {o : Quarkus.SystemOp} {a : Except JavaException o.Res}
    (h : Quarkus.Serving i s l o a s' l') : ∃ events, s'.topic = s.topic ++ events := by
  obtain ⟨records, tokens, hproceeds⟩ := h
  cases o with
  | server o =>
      cases hproceeds with
      | server hact => exact ⟨[], (List.append_nil _).symm⟩
  | receive =>
      cases hproceeds with
      | receives a => exact ⟨[], (List.append_nil _).symm⟩
  | remote o =>
      obtain ⟨-, w, ⟨rfl, -⟩ | ⟨rfl, -⟩⟩ := Quarkus.remote_cases hproceeds
      · exact topic_of_remote w o _
      · exact ⟨[], (List.append_nil _).symm⟩

/-- An event that can be handed over can be handed over later. -/
theorem lasting_delivers {ι κ : Type} :
    Interleave.Lasting (Quarkus.Serving (ι := ι))
      fun s => Points.Delivers (κ := κ) s.topic := by
  intro i g l o a g' l' hserving j c m p b c' m' hdelivers
  obtain ⟨events, htopic⟩ := topic_of_serving hserving
  cases hdelivers with
  | handsOver he =>
      refine .handsOver ?_
      rw [htopic]
      exact Delivery.getElem?_append_of_some he
  | unread offset e => exact .unread offset e
  | server hact => exact .server hact
  | receives b => exact .receives b

/-! ### From visits to points -/

/-- The visits that points were added for, by the deliveries `granted` from these places of the
topic, whose events are those of the visits `sent`. -/
def rewarded {ι κ : Type} (sent : List ι) (offset : κ → Nat) (granted : List κ) : List ι :=
  granted.filterMap fun j => sent[offset j]?

/-- What the payments of visits earn for a shopper. -/
def earnedFor {ι : Type} (visit : ι → Quarkus.Visit) (l : List ι) (id : Int32) : Int :=
  ((l.filter fun i => id = (visit i).request.userId).map fun i =>
    (visit i).request.amount.toInt / 100).sum

/-- Points are added by the deliveries `granted`, each time for a visit that has been charged, and
as many as its payment earns. -/
structure Rewarded {ι κ : Type} (visit : ι → Quarkus.Visit) (order sent : List ι)
    (points₀ : Points.SharedEntries) (offset : κ → Nat) (granted : List κ)
    (d : Interleave.Config κ Points.DeliveryOp Points.DeliveryOp.Res JavaException Unit
      Points.Worker Points.SharedEntries) : Prop where
  nodup : granted.Nodup
  committed : ∀ j, j ∈ granted ↔ (d.loc j).commits = 1
  charged : ∀ j ∈ granted, ∃ i ∈ order, sent[offset j]? = some i
  ended : ∀ j, d.prog j = .ret (.ok ()) → j ∈ granted
  /-- As long as the sum is in range, it is exact. -/
  points : ∀ id v, points₀.data ⟨id⟩ = some v →
    v.amount.toInt + earnedFor visit (rewarded sent offset granted) id < 2 ^ 31 →
    ∃ v', d.glob.data ⟨id⟩ = some v' ∧
      v'.amount.toInt = v.amount.toInt + earnedFor visit (rewarded sent offset granted) id
  /-- If no event is handed over twice, then no payment is rewarded twice. -/
  once : Function.Injective offset → (rewarded sent offset granted).Nodup
  /-- If every event has been processed, then every payment with an event is rewarded. -/
  all : (∀ n < sent.length, ∃ j, offset j = n ∧ d.prog j = .ret (.ok ())) →
    sent ⊆ rewarded sent offset granted

theorem earnedFor_cons_self {ι : Type} (visit : ι → Quarkus.Visit) (i : ι) (l : List ι) :
    earnedFor visit (i :: l) (visit i).request.userId =
      (visit i).request.amount.toInt / 100 + earnedFor visit l (visit i).request.userId := by
  simp [earnedFor]

theorem earnedFor_cons_of_ne {ι : Type} (visit : ι → Quarkus.Visit) {i : ι} (l : List ι)
    {id : Int32} (h : id ≠ (visit i).request.userId) :
    earnedFor visit (i :: l) id = earnedFor visit l id := by
  simp [earnedFor, h]

/-- The points that the deliveries add are those that the payments earn. -/
theorem earnedBy_eq {ι κ : Type} {visit : ι → Quarkus.Visit} {sent : List ι}
    {topic : List Quarkus.PaymentEvent} {date : ι → LocalDateTime} {offset : κ → Nat}
    (htopic : topic = sent.map fun i => Quarkus.paidEvent (visit i).request (date i))
    {granted : List κ} (h : ∀ j ∈ granted, ∃ i, sent[offset j]? = some i) (id : Int32) :
    Points.earnedBy (fun j => Points.payInfoAt topic (offset j)) granted ⟨id⟩ =
      earnedFor visit (rewarded sent offset granted) id := by
  induction granted with
  | nil => rfl
  | cons j granted ih =>
      obtain ⟨i, hi⟩ := h j List.mem_cons_self
      have hrest := ih fun k hk => h k (List.mem_cons_of_mem _ hk)
      have hcons : rewarded sent offset (j :: granted) = i :: rewarded sent offset granted :=
        List.filterMap_cons_some hi
      have hpayInfo : Points.payInfoAt topic (offset j) =
          Points.payInfoOf (Quarkus.paidEvent (visit i).request (date i)) := by
        refine Points.payInfoAt_of_some ?_
        rw [htopic, List.getElem?_map, hi]
        rfl
      have howner : (Points.payInfoAt topic (offset j)).ownerId = (visit i).request.userId := by
        rw [hpayInfo]
        rfl
      have hamount : (Points.payInfoAt topic (offset j)).amount = (visit i).request.amount := by
        rw [hpayInfo]
        rfl
      rw [hcons]
      by_cases hid : id = (visit i).request.userId
      · rw [hid, ← howner] at hrest ⊢
        rw [Points.earnedBy_cons_self, hrest, howner, earnedFor_cons_self, hamount]
      · rw [earnedFor_cons_of_ne visit _ hid, ← hrest]
        refine Points.earnedBy_cons_of_ne _ _ fun hkey => hid ?_
        exact (Grid.ShopperKey.mk.inj hkey).trans howner

/-- No two deliveries of different events reward the same payment. -/
theorem nodup_rewarded {ι κ : Type} {sent : List ι} {offset : κ → Nat} {granted : List κ}
    (hsent : sent.Nodup) (hgranted : granted.Nodup) (hoffset : Function.Injective offset) :
    (rewarded sent offset granted).Nodup := by
  refine hgranted.filterMap fun j k i hj hk => hoffset ?_
  obtain ⟨hlt, -⟩ := List.getElem?_eq_some_iff.1 (Option.mem_def.1 hj)
  exact (List.getElem?_inj hlt hsent).1 (hj.trans hk.symm)

/-- **From visits to points**: in every state that the whole system can reach, the service has told
the truth, and points have been added for the payments that it has made, and for nothing else. -/
theorem points_for_payments {ι κ : Type} [DecidableEq ι] [DecidableEq κ]
    {s₀ : Quarkus.Deployment} {visit : ι → Quarkus.Visit} {w : ι → Quarkus.Occasion}
    {points₀ : Points.SharedEntries} {offset : κ → Nat} (hnew : Quarkus.NewKeys s₀ visit)
    (hstale : Points.Pipeline.NoneStale s₀.caches) (hempty : s₀.topic = [])
    {c : Interleave.Config ι Quarkus.SystemOp Quarkus.SystemOp.Res JavaException Quarkus.Answer
      Grid.Caller Quarkus.Deployment}
    {d : Interleave.Config κ Points.DeliveryOp Points.DeliveryOp.Res JavaException Unit
      Points.Worker Points.SharedEntries}
    (h : Relation.ReflTransGen
      (Interleave.Beside Quarkus.Serving fun s => Points.Delivers s.topic)
      (Quarkus.visitors s₀ visit w, Points.deliveries points₀ offset) (c, d)) :
    ∃ created order sent date, Quarkus.ServedTruly s₀ visit created order sent date
      (Quarkus.visitors s₀ visit w) c ∧ ∃ granted,
        Rewarded visit order sent points₀ offset granted d := by
  obtain ⟨hvisits, hdeliveries⟩ := (Interleave.beside_iff lasting_delivers).1 h
  obtain ⟨g, hg, rfl⟩ := Interleave.exists_ghost Quarkus.Serving
    (fun _ _ l o a t => Quarkus.Course.next t l o a) Quarkus.Course.start hvisits
  obtain ⟨hsafe, hkept⟩ := Quarkus.kept_of_reachable hnew hstale hg
  obtain ⟨created, order, sent, date, htruly⟩ := hkept.servedTruly hstale hsafe
  obtain ⟨granted, hadded⟩ := Points.added_of_reachable hdeliveries
  have htopic := htruly.topic
  rw [hempty, List.nil_append] at htopic
  have hevent : ∀ j ∈ granted, ∃ i, sent[offset j]? = some i := by
    intro j hj
    obtain ⟨e, he⟩ := hadded.event j hj
    rw [htopic, List.getElem?_map] at he
    obtain ⟨i, hi, -⟩ := Option.map_eq_some_iff.1 he
    exact ⟨i, hi⟩
  refine ⟨created, order, sent, date, htruly, granted, hadded.nodup, hadded.committed,
    fun j hj => ?_, hadded.ended, fun id v hv => ?_, nodup_rewarded htruly.events.1 hadded.nodup,
    fun hall i hi => ?_⟩
  · obtain ⟨i, hi⟩ := hevent j hj
    exact ⟨i, htruly.events.2 (List.mem_of_getElem? hi), hi⟩
  · rw [← earnedBy_eq htopic hevent id]
    exact hadded.points ⟨id⟩ v hv
  · obtain ⟨n, hn⟩ := List.mem_iff_getElem?.1 hi
    obtain ⟨hlt, -⟩ := List.getElem?_eq_some_iff.1 hn
    obtain ⟨j, rfl, hended⟩ := hall n hlt
    exact List.mem_filterMap.2 ⟨j, hadded.ended j hended, hn⟩

/-! ### A run -/

/-- The next step of a delivery, beside a topic. -/
def deliveringTurn {κ : Type} (topic : List Quarkus.PaymentEvent) (_ : κ) :
    Interleave.Turn Points.DeliveryOp Points.DeliveryOp.Res JavaException Points.Worker
      Points.SharedEntries := fun o c l =>
  match o with
  | .handOver offset => topic[offset]?.map fun e => (.ok e, c, l)
  | .server o =>
      let out := Points.execute o c l.tx
      some (out.1, out.2.1, l.next o out.1 out.2.2)
  | .receive => some (.ok (), c, l)

theorem delivering_turn {κ : Type} (topic : List Quarkus.PaymentEvent) (j : κ)
    (o : Points.DeliveryOp) (c : Points.SharedEntries) (l : Points.Worker)
    (a : Except JavaException o.Res) (c' : Points.SharedEntries) (l' : Points.Worker)
    (h : deliveringTurn topic j o c l = some (a, c', l')) :
    Points.Delivers topic j c l o a c' l' := by
  cases o with
  | handOver offset =>
      obtain ⟨e, he, heq⟩ := Option.map_eq_some_iff.1 h
      cases heq
      exact .handsOver he
  | server o =>
      cases h
      exact .server .act
  | receive =>
      cases h
      exact .receives _

/-- The event of the payment is processed, twice at once. -/
def bothProcessed : Interleave.Config Bool Points.DeliveryOp Points.DeliveryOp.Res JavaException
    Unit Points.Worker Points.SharedEntries :=
  [true, false, true, false, true, false, true, false, true, false].foldl
    (.play id (deliveringTurn Quarkus.bothServed.glob.topic))
    (Points.deliveries Points.tenPoints fun _ => 0)

/-- One of the deliveries has added the points of the payment; the other one has been overtaken. -/
theorem points_for_payments_both :
    bothProcessed.prog true = .ret (.ok ()) ∧
      bothProcessed.prog false = .ret (.error (.runtime "No transaction")) ∧
      bothProcessed.glob.data ⟨1⟩ = some ⟨13⟩ ∧
      ∃ created order sent date, Quarkus.ServedTruly ⟨Grid.oneShopper 1000 0, []⟩ Quarkus.twoVisits
        created order sent date (Quarkus.visitors ⟨Grid.oneShopper 1000 0, []⟩ Quarkus.twoVisits
          fun _ => Points.Pipeline.calm) Quarkus.bothServed ∧
        ∃ granted, Rewarded Quarkus.twoVisits order sent Points.tenPoints (fun _ => 0) granted
          bothProcessed :=
  ⟨rfl, rfl, rfl, points_for_payments Quarkus.newKeys_twoVisits Points.Pipeline.noneStale_oneShopper
    rfl ((Interleave.beside_iff lasting_delivers).2
      ⟨Interleave.reachable_play Quarkus.serving_turn _ _,
        Interleave.reachable_play (delivering_turn _) _ _⟩)⟩

end RedHatPay
