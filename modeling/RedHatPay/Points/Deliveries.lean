/-
**Events, processed side by side.**

The consumers are handed events of the topic, each of them any number of times, and have the servers
run a task for each delivery.  The methods of the tasks alternate, any of them may throw, and the
answers may get lost.  Which points are added is known from the deliveries whose tasks have
committed: these tasks have been served one after the other.

* `RedHatPay.Points.delivery`, `RedHatPay.Points.expand` — a delivery, with its task method by
  method;
* `RedHatPay.Points.Delivers`, `RedHatPay.Points.deliveries` — deliveries side by side;
* `RedHatPay.Points.deliverySpec`, `RedHatPay.Points.safe_delivery` — the discipline of a delivery;
* `RedHatPay.Points.DeliveryInv`, `RedHatPay.Points.DeliveryInv.step` — the invariant, which every
  method keeps;
* `RedHatPay.Points.deliveryInv_of_reachable` — **which points have been added**.
-/

import RedHatPay.Points.ConcurrentTasks
import RedHatPay.Points.Consumer

set_option relaxedAutoImplicit false
set_option autoImplicit false

namespace RedHatPay.Points

open Program Grid Quarkus Transaction

/-! ### A delivery -/

/-- What goes on in the consumers and on the servers: an event is handed over, a method of a task is
called, and the answer of a task reaches its consumer. -/
inductive DeliveryOp
  | handOver (offset : Nat)
  | server (o : CacheOp)
  | receive

/-- The result of each of them. -/
abbrev DeliveryOp.Res : DeliveryOp → Type
  | handOver _ => PaymentEvent
  | server o => o.Res
  | receive => Unit

/-- Programs of these. -/
abbrev DeliveryProgram (α : Type) : Type := Program DeliveryOp DeliveryOp.Res JavaException α

/-- The methods of a program on the server. -/
def onServer {α : Type} (p : CacheProgram α) : DeliveryProgram α :=
  implement (fun o => perform (DeliveryOp.server o)) p

/-- A call of the consumer: to run a task is to run its methods, and to receive its answer. -/
def expand : (o : RemoteOp) → DeliveryProgram o.Res
  | .executePointTask payInfo _ => do
      let response ← onServer (PointTask.call payInfo)
      perform DeliveryOp.receive
      return response

/-- An event is handed over and processed. -/
def delivery (offset : Nat) : DeliveryProgram Unit := do
  let paymentEvent ← perform (DeliveryOp.handOver offset)
  implement expand (ProvidePointConsumer.process paymentEvent)

/-- **The step relation** beside a topic: an event of the topic is handed over, unless it can not be
read; a method acts or throws; and the answer of a task may get lost. -/
inductive Delivers {κ : Type} (topic : List PaymentEvent) (j : κ) (c : SharedEntries) (l : Worker) :
    (o : DeliveryOp) → Except JavaException o.Res → SharedEntries → Worker → Prop
  | handsOver {offset : Nat} {e : PaymentEvent} (h : topic[offset]? = some e) :
      Delivers topic j c l (.handOver offset) (.ok e) c l
  | unread (offset : Nat) (e : JavaException) :
      Delivers topic j c l (.handOver offset) (.error e) c l
  | server {o : CacheOp} {a : Except JavaException o.Res} {c' : SharedEntries} {l' : Worker}
      (h : Performs j c l o a c' l') : Delivers topic j c l (.server o) a c' l'
  | receives (a : Except JavaException Unit) : Delivers topic j c l .receive a c l

/-- All deliveries before they have begun. -/
def deliveries {κ : Type} (c₀ : SharedEntries) (offset : κ → Nat) :
    Interleave.Config κ DeliveryOp DeliveryOp.Res JavaException Unit Worker SharedEntries :=
  ⟨fun j => delivery (offset j), fun _ => .fresh, c₀⟩

/-- The parameters of the task for an event. -/
def payInfoOf (e : PaymentEvent) : PayInfo :=
  ⟨e.userId, e.amount, e.storeId, e.tokenId, e.dateTime.toEpochSecond zoneOffset⟩

/-- The parameters of the task for the event at a place of the topic; if there is none, any. -/
def payInfoAt (topic : List PaymentEvent) (offset : Nat) : PayInfo :=
  (topic[offset]?.map payInfoOf).getD ⟨0, 0, 0, "", 0⟩

theorem payInfoAt_of_some {topic : List PaymentEvent} {offset : Nat} {e : PaymentEvent}
    (h : topic[offset]? = some e) : payInfoAt topic offset = payInfoOf e := by
  rw [payInfoAt, h]
  rfl

/-! ### The discipline of a delivery -/

/-- **The discipline of a delivery**: the event is handed over first, and then the task for it may
call its methods. -/
def deliverySpec (topic : List PaymentEvent) (offset : Nat) :
    Spec DeliveryOp DeliveryOp.Res JavaException (Worker × Option PointEntity) where
  pre s
    | .handOver place => place = offset ∧ s = (.fresh, none)
    | .server o => (topic[offset]?).isSome ∧ mayCall (payInfoAt topic offset) s o
    | .receive => True
  post s
    | .handOver place, a, s' => s' = s ∧ ∀ e, a = .ok e → topic[place]? = some e
    | .server o, a, s' => (workerSpec (payInfoAt topic offset)).post s o a s'
    | .receive, _, s' => s' = s

/-- The methods of the task keep to the discipline. -/
theorem safe_onServer {topic : List PaymentEvent} {offset : Nat} {e : PaymentEvent}
    (he : topic[offset]? = some e) :
    Safe (deliverySpec topic offset) Answers (onServer (PointTask.call (payInfoOf e)))
      (.fresh, none) := by
  have hcall := safe_pointTask (payInfoOf e)
  rw [← payInfoAt_of_some he] at hcall ⊢
  refine Safe.implement (fun o s hpre => ?_) hcall
  exact ⟨⟨by rw [he]; rfl, hpre⟩, fun a s' hpost => hpost⟩

/-- **A delivery keeps to its discipline**, and ends normally only if its task has committed. -/
theorem safe_delivery (topic : List PaymentEvent) (offset : Nat) :
    Safe (deliverySpec topic offset) (fun r s => r = .ok () → s.1.commits = 1) (delivery offset)
      (.fresh, none) := by
  refine (safe_bind _ _ _ _).2 ⟨⟨rfl, rfl⟩, fun a s hpost => ?_⟩
  obtain ⟨rfl, he⟩ := hpost
  rcases a with err | e
  · exact nofun
  · change Safe _ _ (implement expand (ofExcept (ProvidePointConsumer.payment e) >>= fun payment =>
      PointDelegateService.invoke payment >>= fun _ => pure ())) _
    cases hm : Money.new e.amount with
    | error err =>
        rw [ProvidePointConsumer.payment, hm]
        exact nofun
    | ok m =>
        have hpayInfo : (⟨e.userId, m.value, e.storeId, e.tokenId,
            e.dateTime.toEpochSecond zoneOffset⟩ : PayInfo) = payInfoOf e := by
          rw [payInfoOf, Money.new_eq_ok_iff.1 hm]
        rw [ProvidePointConsumer.payment, hm]
        change Safe _ _ ((expand (.executePointTask ⟨e.userId, m.value, e.storeId, e.tokenId,
          e.dateTime.toEpochSecond zoneOffset⟩ ⟨e.userId⟩)).after _) _
        rw [hpayInfo]
        refine (safe_after _ _ _ _).2 ((safe_bind _ _ _ _).2
          ((safe_onServer (he e rfl)).mono fun r s hanswers => ?_))
        rcases r with err | entity
        · exact nofun
        · refine (safe_bind _ _ _ _).2 ⟨trivial, fun a s' hpost => ?_⟩
          obtain rfl : s' = s := hpost
          rcases a with err | u
          · exact nofun
          · exact fun _ => hanswers.1

/-! ### The invariant -/

/-- **The invariant**: the points are those of serving the tasks that have committed, one after the
other; all of these have answered, and what the others have read is consistent. -/
structure DeliveryInv {κ : Type} (c₀ : Entries) (param : κ → PayInfo) (order : List κ)
    (loc : κ → Worker × Option PointEntity) (c : SharedEntries) : Prop where
  nodup : order.Nodup
  committed : ∀ j, j ∈ order ↔ (loc j).1.commits = 1
  served : (serveAll param c₀ order).2 = c.data
  answered : ∀ e ∈ (serveAll param c₀ order).1, ∃ entity, e.2 = .ok entity
  consistent : ∀ j tx, (loc j).1.tx = some tx → tx.Consistent c

namespace DeliveryInv

variable {κ : Type} {c₀ : Entries} {param : κ → PayInfo} {order : List κ}
  {loc : κ → Worker × Option PointEntity} {c c' : SharedEntries}

/-- Deliveries that have not begun. -/
theorem start {c : SharedEntries} :
    DeliveryInv c.data param [] (fun _ => (.fresh, none)) c where
  nodup := List.nodup_nil
  committed _ := iff_of_false List.not_mem_nil nofun
  served := rfl
  answered _ he := by cases he
  consistent _ _ htx := by cases htx

variable [DecidableEq κ]

/-- **Every method of a task keeps the invariant.** -/
theorem step (h : DeliveryInv c₀ param order loc c) {j : κ} {o : CacheOp}
    {a : Except JavaException o.Res} {l : Worker × Option PointEntity}
    (hpre : mayCall (param j) (loc j) o) (hact : Performs j c (loc j).1 o a c' l.1)
    (hl : l.2 = computed (loc j).2 o a) :
    ∃ order', DeliveryInv c₀ param order' (Function.update loc j l) c' ∧
      order' ⊆ j :: order := by
  have hpost : (workerSpec (param j)).post (loc j) o a l := workerSpec_of_performs hact hl
  obtain ⟨hcommits, -, -⟩ := hpost
  have hzero : (loc j).1.commits = 0 := commits_of_mayCall hpre
  rw [hzero, Nat.zero_add] at hcommits
  have hj : j ∉ order := fun hmem => by
    have hone := (h.committed j).1 hmem
    rw [hzero] at hone
    cases hone
  have htx := consistent_performs (h.consistent j) hact
  rcases performs_cases hpre hact with
    ⟨hnone, rfl⟩ | ⟨hone, tx, entity, hread, -, hadds, hvalid, rfl⟩
  · refine ⟨order, { h with committed := ?_, consistent := ?_ }, List.subset_cons_self _ _⟩
    · refine (Function.forall_update_iff loc fun i l => i ∈ order ↔ l.1.commits = 1).2
        ⟨iff_of_false hj ?_, fun i _ => h.committed i⟩
      rw [hcommits, hnone]
      nofun
    · exact (Function.forall_update_iff loc fun _ l => ∀ tx, l.1.tx = some tx → tx.Consistent c').2
        ⟨htx, fun i _ => h.consistent i⟩
  · -- the task is served at this moment
    have hserve := hadds.serve_eq (h.consistent j tx hread) hvalid
    have hserial := serveAll_snoc h.served hserve
    refine ⟨order ++ [j], ⟨?_, ?_, by rw [hserial], fun e he => ?_, ?_⟩, fun i hi => ?_⟩
    · rw [List.nodup_append']
      refine ⟨h.nodup, List.nodup_singleton j, fun i hi hij => ?_⟩
      obtain rfl := List.mem_singleton.1 hij
      exact hj hi
    · refine (Function.forall_update_iff loc fun i l => i ∈ order ++ [j] ↔ l.1.commits = 1).2
        ⟨iff_of_true (List.mem_append_right _ List.mem_cons_self) ?_, fun i hij => ?_⟩
      · rw [hcommits, hone]
      · rw [List.mem_append, List.mem_singleton, or_iff_left hij]
        exact h.committed i
    · rw [hserial, List.mem_append, List.mem_singleton] at he
      rcases he with he | rfl
      · exact h.answered e he
      · exact ⟨entity, rfl⟩
    · exact (Function.forall_update_iff loc
        fun _ l => ∀ tx', l.1.tx = some tx' → tx'.Consistent (c.apply tx)).2
        ⟨fun tx' ht => (htx tx' ht).become _, fun i _ tx' ht => (h.consistent i tx' ht).become _⟩
    · rcases List.mem_append.1 hi with hi | hi
      · exact List.mem_cons_of_mem _ hi
      · exact List.mem_singleton.1 hi ▸ List.mem_cons_self

end DeliveryInv

/-! ### Side by side -/

/-- What the methods of a delivery have computed last. -/
def remembered (v : Option PointEntity) : (o : DeliveryOp) → Except JavaException o.Res →
    Option PointEntity
  | .server o, a => computed v o a
  | _, _ => v

variable {κ : Type} [DecidableEq κ] {topic : List PaymentEvent} {c₀ : SharedEntries}
  {offset : κ → Nat}

/-- Every reachable configuration with ghost variables: the deliveries keep to the discipline and
the invariant holds, for tasks with events. -/
theorem deliveryInv_of_reachable
    {d : Interleave.Config κ DeliveryOp DeliveryOp.Res JavaException Unit
      (Worker × Option PointEntity) SharedEntries}
    (h : Interleave.Reachable
      (Interleave.withGhost (Delivers topic) fun _ _ _ o a v => remembered v o a)
      ((deliveries c₀ offset).decorate none) d) :
    Interleave.AllSafe (fun j => deliverySpec topic (offset j))
        (fun _ r s => r = .ok () → s.1.commits = 1) d ∧
      ∃ order, DeliveryInv c₀.data (fun j => payInfoAt topic (offset j)) order d.loc d.glob ∧
        ∀ j ∈ order, (topic[offset j]?).isSome := by
  refine Interleave.invariant_safe (J := fun d => ∃ order,
      DeliveryInv c₀.data (fun j => payInfoAt topic (offset j)) order d.loc d.glob ∧
        ∀ j ∈ order, (topic[offset j]?).isSome)
    (fun j => safe_delivery topic (offset j)) ⟨[], .start, fun _ hj => by cases hj⟩ ?_ h
  rintro d hsafe ⟨order, hinv, hevents⟩ j o k a g ⟨l, v⟩ hp ⟨hdelivers, hv⟩
  have hj := hsafe j
  rw [hp] at hj
  obtain rfl : v = remembered (d.loc j).2 o a := hv
  have hsame : DeliveryInv c₀.data (fun j => payInfoAt topic (offset j)) order
      (Function.update d.loc j (d.loc j)) d.glob := by
    rw [Function.update_eq_self]
    exact hinv
  cases hdelivers with
  | handsOver he => exact ⟨⟨rfl, fun e ha => Except.ok.inj ha ▸ he⟩, order, hsame, hevents⟩
  | unread place e => exact ⟨⟨rfl, nofun⟩, order, hsame, hevents⟩
  | receives a => exact ⟨rfl, order, hsame, hevents⟩
  | @server o a c' l' hact =>
      obtain ⟨⟨hevent, hmay⟩, -⟩ := hj
      have hpost : (workerSpec (payInfoAt topic (offset j))).post (d.loc j) o a
          (l, remembered (d.loc j).2 (.server o) a) := workerSpec_of_performs hact rfl
      obtain ⟨order', hinv', hsub⟩ := hinv.step (l := (l, _)) hmay hact rfl
      refine ⟨hpost, order', hinv', fun i hi => ?_⟩
      rcases List.mem_cons.1 (hsub hi) with rfl | hi
      · exact hevent
      · exact hevents i hi

/-- The points that have been added are those of the deliveries `order`, each of an event of the
topic; and a delivery that has ended normally is one of them. -/
structure Added (topic : List PaymentEvent) (c₀ : SharedEntries) (offset : κ → Nat)
    (order : List κ)
    (d : Interleave.Config κ DeliveryOp DeliveryOp.Res JavaException Unit Worker SharedEntries) :
    Prop where
  nodup : order.Nodup
  committed : ∀ j, j ∈ order ↔ (d.loc j).commits = 1
  event : ∀ j ∈ order, ∃ e, topic[offset j]? = some e
  ended : ∀ j, d.prog j = .ret (.ok ()) → j ∈ order
  points : ∀ key v, c₀.data key = some v →
    v.amount.toInt + earnedBy (fun j => payInfoAt topic (offset j)) order key < 2 ^ 31 →
    ∃ v', d.glob.data key = some v' ∧ v'.amount.toInt =
      v.amount.toInt + earnedBy (fun j => payInfoAt topic (offset j)) order key

/-- **Which points have been added**, in every state that deliveries side by side can reach. -/
theorem added_of_reachable
    {d : Interleave.Config κ DeliveryOp DeliveryOp.Res JavaException Unit Worker SharedEntries}
    (h : Interleave.Reachable (Delivers topic) (deliveries c₀ offset) d) :
    ∃ order, Added topic c₀ offset order d := by
  obtain ⟨d, hd, rfl⟩ := Interleave.exists_ghost (Delivers topic)
    (fun _ _ _ o a v => remembered v o a) none h
  obtain ⟨hsafe, order, hinv, hevents⟩ := deliveryInv_of_reachable hd
  refine ⟨order, hinv.nodup, hinv.committed, fun j hj => Option.isSome_iff_exists.1 (hevents j hj),
    fun j hr => ?_, fun key v hv hrange => ?_⟩
  · have hj := hsafe j
    have hr' : d.prog j = .ret (.ok ()) := hr
    rw [hr'] at hj
    exact (hinv.committed j).2 (hj rfl)
  · obtain ⟨v', hv', hsum⟩ := (serveAll_points hinv.answered key).2 v hv hrange
    exact ⟨v', (congrFun hinv.served key).symm.trans hv', hsum⟩

end RedHatPay.Points
