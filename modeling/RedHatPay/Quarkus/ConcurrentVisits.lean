/-
**The whole service, side by side.**

Any number of shoppers and clerks visit the service at once.  Their visits call the caches, send
events, and have tasks run on the server; the methods of the tasks alternate with all of this, any
call and any method may fail, before or after it has taken effect, an answer of the server may get
lost, and the bounded caches drop records and tokens at any moment.  Still, whatever the service
answers is true, every event in the topic is that of a payment, and no payment is made twice.

* `RedHatPay.Quarkus.Serving`, `RedHatPay.Quarkus.visitors` — visits side by side;
* `RedHatPay.Quarkus.VisitInv`, `RedHatPay.Quarkus.VisitInv.step` — the invariant, which every step
  keeps;
* `RedHatPay.Quarkus.Visit.Tells` — what an answer tells;
* `RedHatPay.Quarkus.served_truly` — **what is answered, sent and charged**.
-/

import RedHatPay.Points.Pipeline
import RedHatPay.Quarkus.VisitPrograms

set_option relaxedAutoImplicit false
set_option autoImplicit false

namespace RedHatPay.Quarkus

open Program Grid

/-! ### Visits side by side -/

/-- What the steps of a visit do: a method of its task acts or throws; a call of the service
returns, or it throws, before or after it has taken effect; and the answer of the task may get
lost. -/
inductive Proceeds {ι : Type} (i : ι) (s : Deployment) (l : Caller) :
    (o : SystemOp) → Except JavaException o.Res → Deployment → Caller → Prop
  | server {o : CacheOp} {a : Except JavaException o.Res} {c : Caches} {l' : Caller}
      (h : Acts i s.caches l o a c l') : Proceeds i s l (.server o) a (s.withCaches c) l'
  | returns (o : RemoteOp) (w : Occasion) :
      Proceeds i s l (.remote o) (remote w o s).1 (remote w o s).2 l
  | throws (o : RemoteOp) (w : Occasion) (e : JavaException) (s' : Deployment)
      (h : s' = s ∨ s' = (remote w o s).2) : Proceeds i s l (.remote o) (.error e) s' l
  | receives (a : Except JavaException Unit) : Proceeds i s l .receive a s l

/-- **The step relation**: the bounded caches may drop entries, and a visit makes a step. -/
def Serving {ι : Type} :
    Interleave.Semantics ι SystemOp SystemOp.Res JavaException Caller Deployment :=
  fun i s l o a s' l' => ∃ records tokens,
    Proceeds i (s.withCaches (s.caches.drop records tokens)) l o a s' l'

/-- All visits before they have begun. -/
def visitors {ι : Type} (s₀ : Deployment) (visit : ι → Visit) (w : ι → Occasion) :
    Interleave.Config ι SystemOp SystemOp.Res JavaException Answer Caller Deployment :=
  ⟨fun i => implement (expand (w i)) (visit i).program, fun _ => .fresh, s₀⟩

/-! ### The calls that a visit has made -/

section Local

variable {ι : Type} [DecidableEq ι] {loc : ι → Caller × Course} {i j : ι} {o : RemoteOp}
  {a : Except JavaException o.Res}

/-- What a step of one visit does to what the tasks have. -/
theorem tasks_update (l : Caller × Course) :
    (fun j => ((Function.update loc i l j).1, (Function.update loc i l j).2.told)) =
      Function.update (fun j => ((loc j).1, (loc j).2.told)) i (l.1, l.2.told) :=
  Function.comp_update (fun l : Caller × Course => (l.1, l.2.told)) loc i l

/-- The local states after a call of one visit. -/
def afterCall (loc : ι → Caller × Course) (i : ι) (o : RemoteOp) (a : Except JavaException o.Res) :
    ι → Caller × Course :=
  Function.update loc i ((loc i).1, (loc i).2.logged o a)

/-- The calls of the service do not matter to the tasks. -/
@[simp] theorem task_afterCall : ((afterCall loc i o a j).1, (afterCall loc i o a j).2.told) =
    ((loc j).1, (loc j).2.told) := by
  by_cases hj : j = i
  · subst hj
    rw [afterCall, Function.update_self]
    rfl
  · rw [afterCall, Function.update_of_ne hj]

theorem mem_afterCall {x : (o : RemoteOp) × Except JavaException o.Res} :
    x ∈ (afterCall loc i o a j).2.log ↔ (j = i ∧ x = ⟨o, a⟩) ∨ x ∈ (loc j).2.log := by
  by_cases hj : j = i
  · subst hj
    simp only [afterCall, Function.update_self, Course.logged, List.mem_cons, true_and]
  · rw [afterCall, Function.update_of_ne hj, iff_or_self]
    exact fun h => absurd h.1 hj

theorem afterCall_self_ne_nil : (afterCall loc i o a i).2.log ≠ [] :=
  List.ne_nil_of_mem (mem_afterCall.2 (Or.inl ⟨rfl, rfl⟩))

theorem afterCall_ne_nil (h : (loc j).2.log ≠ []) : (afterCall loc i o a j).2.log ≠ [] := by
  obtain ⟨x, hx⟩ := List.exists_mem_of_ne_nil _ h
  exact List.ne_nil_of_mem (mem_afterCall.2 (Or.inr hx))

end Local

/-! ### The invariant -/

/-- Every visit that creates a token creates a new one.  The id of a token is four hexadecimal
digits of a random identifier, and nothing in the service sees to this. -/
structure NewKeys {ι : Type} (s₀ : Deployment) (visit : ι → Visit) : Prop where
  fresh : ∀ i key, (visit i).created = some key → s₀.caches.toStore.tokens key = none
  distinct : ∀ i j key, (visit i).created = some key → (visit j).created = some key → i = j

/-- **The invariant**: the tasks are as tasks side by side are, when the tokens `created` are put
meanwhile; and the events of the topic are those of the start, and `sent`, of visits that have
paid. -/
structure VisitInv {ι : Type} (s₀ : Deployment) (visit : ι → Visit) (created : List Key)
    (order : List ι) (L : List (Key × Payment)) (T : Store PaymentEntity)
    (sent : List (ι × PaymentEvent)) (loc : ι → Caller × Course) (s : Deployment) : Prop where
  users : s.caches.users = s₀.caches.users
  tasks : TaskInv s₀.caches (fun i => parameter (visit i).request) created order L T
    (fun i => ((loc i).1, (loc i).2.told)) s.caches
  asked : ∀ i ∈ order, (visit i).payRequest.isSome
  creates : ∀ key ∈ created, ∃ i, (visit i).created = some key ∧ (loc i).2.log ≠ []
  topic : s.topic = s₀.topic ++ sent.map Prod.snd
  nodup : (sent.map Prod.fst).Nodup
  events : ∀ e ∈ sent, (loc e.1).2.log ≠ [] ∧ e.1 ∈ order ∧
    ∃ p, ((visit e.1).request.key, p) ∈ L ∧
      e.2 = eventFor (visit e.1).request (CachePaymentRepository.entity p)
  sends : ∀ i event, ⟨.send event, .ok ()⟩ ∈ (loc i).2.log → i ∈ sent.map Prod.fst

namespace VisitInv

variable {ι : Type} {s₀ s : Deployment} {visit : ι → Visit} {created : List Key} {order : List ι}
  {L : List (Key × Payment)} {T : Store PaymentEntity} {sent : List (ι × PaymentEvent)}
  {loc : ι → Caller × Course} {i : ι}

/-- Visits that have not begun. -/
theorem start : VisitInv s₀ visit [] [] [] s₀.caches.toStore [] (fun _ => (.fresh, .start)) s₀ where
  users := rfl
  tasks := .start
  asked _ hi := by cases hi
  creates _ hkey := by cases hkey
  topic := (List.append_nil _).symm
  nodup := List.nodup_nil
  events _ he := by cases he
  sends _ _ hlog := by cases hlog

/-- Dropped entries keep the invariant. -/
theorem drop (h : VisitInv s₀ visit created order L T sent loc s)
    (records tokens : TokenKey → Bool) : VisitInv s₀ visit created order L T sent loc
      (s.withCaches (s.caches.drop records tokens)) :=
  { h with tasks := h.tasks.drop records tokens }

/-- **The record that a task has read is that of its payment**, if no record of the start is
stale. -/
theorem paid (h : VisitInv s₀ visit created order L T sent loc s)
    (hstale : Points.Pipeline.NoneStale s₀.caches) {entity : PaymentEntity}
    (hrecord : (loc i).2.told.record = some entity) :
    i ∈ order ∧ ∃ p, ((visit i).request.key, p) ∈ L ∧
      entity = CachePaymentRepository.entity p := by
  rcases (h.tasks.truthful i).record entity hrecord with ⟨hcommits, hp⟩ | ⟨habsent, hentity⟩
  · exact ⟨(h.tasks.committed i).2 hcommits, hp⟩
  · refine absurd ?_ (hstale (visit i).request.key ?_)
    · rw [Caches.toStore_wallets]
      change (s₀.caches.wallets.data ⟨(visit i).request.userId⟩).bind _ = none
      rw [show s₀.caches.wallets.data ⟨(visit i).request.userId⟩ = none from habsent]
      rfl
    · rw [Caches.toStore_payments]
      change s₀.caches.payments.data (entryKey (parameter (visit i).request).key) ≠ none
      rw [hentity]
      nofun

variable [DecidableEq ι]

/-! A further call changes nothing about what was put and sent before. -/

theorem creates_afterCall (h : VisitInv s₀ visit created order L T sent loc s) {o : RemoteOp}
    {a : Except JavaException o.Res} : ∀ key ∈ created, ∃ j, (visit j).created = some key ∧
      (afterCall loc i o a j).2.log ≠ [] := by
  intro key hkey
  obtain ⟨j, hj, hlog⟩ := h.creates key hkey
  exact ⟨j, hj, afterCall_ne_nil hlog⟩

theorem events_afterCall (h : VisitInv s₀ visit created order L T sent loc s) {o : RemoteOp}
    {a : Except JavaException o.Res} : ∀ e ∈ sent, (afterCall loc i o a e.1).2.log ≠ [] ∧
      e.1 ∈ order ∧ ∃ p, ((visit e.1).request.key, p) ∈ L ∧
        e.2 = eventFor (visit e.1).request (CachePaymentRepository.entity p) := by
  intro e he
  obtain ⟨hlog, hpaid⟩ := h.events e he
  exact ⟨afterCall_ne_nil hlog, hpaid⟩

/-- A call that leaves no trace keeps the invariant. -/
theorem look (h : VisitInv s₀ visit created order L T sent loc s) {o : RemoteOp}
    {a : Except JavaException o.Res} (hquiet : o.reads ∨ ∃ e, a = .error e) :
    VisitInv s₀ visit created order L T sent (afterCall loc i o a) s where
  users := h.users
  tasks := by
    simp only [task_afterCall]
    exact h.tasks
  asked := h.asked
  creates := h.creates_afterCall
  topic := h.topic
  nodup := h.nodup
  events := h.events_afterCall
  sends j event hmem := by
    rcases mem_afterCall.1 hmem with ⟨-, heq⟩ | hmem
    · cases heq
      rcases hquiet with hreads | ⟨e, he⟩
      · exact hreads.elim
      · cases he
    · exact h.sends j event hmem

/-- A token that is put keeps the invariant. -/
theorem put (h : VisitInv s₀ visit created order L T sent loc s) (hnew : NewKeys s₀ visit)
    {key : Key} (hkey : (visit i).created = some key) (hlog : (loc i).2.log = [])
    (a : Except JavaException Unit) :
    VisitInv s₀ visit (key :: created) order L (T.setToken key .unused) sent
      (afterCall loc i (.putToken (entryKey key) ⟨.unused⟩) a)
      (s.withCaches { s.caches with tokens := s.caches.tokens.put (entryKey key) ⟨.unused⟩ }) where
  users := h.users
  tasks := by
    simp only [task_afterCall]
    refine h.tasks.create (fun hmem => ?_) (hnew.fresh i key hkey)
    obtain ⟨j, hj, hne⟩ := h.creates key hmem
    obtain rfl := hnew.distinct i j key hkey hj
    exact hne hlog
  asked := h.asked
  creates k hk := by
    rcases List.mem_cons.1 hk with rfl | hk
    · exact ⟨i, hkey, afterCall_self_ne_nil⟩
    · exact h.creates_afterCall k hk
  topic := h.topic
  nodup := h.nodup
  events := h.events_afterCall
  sends j event hmem := by
    rcases mem_afterCall.1 hmem with ⟨-, heq⟩ | hmem
    · cases heq
    · exact h.sends j event hmem

/-- An event that is sent keeps the invariant. -/
theorem send (h : VisitInv s₀ visit created order L T sent loc s)
    (hstale : Points.Pipeline.NoneStale s₀.caches) {req : PayRequest} {entity : PaymentEntity}
    (hreq : (visit i).payRequest = some req) (hlog : (loc i).2.log = [])
    (hrecord : (loc i).2.told.record = some entity) (a : Except JavaException Unit) :
    VisitInv s₀ visit created order L T (sent ++ [(i, eventFor req entity)])
      (afterCall loc i (.send (eventFor req entity)) a)
      ⟨s.caches, s.topic ++ [eventFor req entity]⟩ where
  users := h.users
  tasks := by
    simp only [task_afterCall]
    exact h.tasks
  asked := h.asked
  creates := h.creates_afterCall
  topic := by rw [List.map_append, ← List.append_assoc, ← h.topic]; rfl
  nodup := by
    rw [List.map_append, List.nodup_append']
    refine ⟨h.nodup, List.nodup_singleton _, fun j hj hji => ?_⟩
    obtain rfl : j = i := List.mem_singleton.1 hji
    obtain ⟨e, he, rfl⟩ := List.mem_map.1 hj
    exact (h.events e he).1 hlog
  events e he := by
    rcases List.mem_append.1 he with he | he
    · exact h.events_afterCall e he
    · obtain rfl := List.mem_singleton.1 he
      obtain ⟨hi, p, hp, rfl⟩ := h.paid hstale hrecord
      have hrequest : (visit i).request = req := congrArg (Option.getD · _) hreq
      exact ⟨afterCall_self_ne_nil, hi, p, hp, by rw [hrequest]⟩
  sends j event hmem := by
    rw [List.map_append, List.mem_append]
    rcases mem_afterCall.1 hmem with ⟨rfl, -⟩ | hmem
    · exact Or.inr List.mem_cons_self
    · exact Or.inl (h.sends j event hmem)

/-- **A method of a task** keeps the invariant. -/
theorem server (h : VisitInv s₀ visit created order L T sent loc s) {o : CacheOp}
    {a : Except JavaException o.Res} {c' : Caches} {l' : Caller}
    (hpre : (systemSpec s₀.caches.users (visit i)).pre (loc i) (.server o))
    (hact : Acts i s.caches (loc i).1 o a c' l') :
    ∃ order' L' T', VisitInv s₀ visit created order' L' T' sent
      (Function.update loc i (l', (loc i).2.next (loc i).1 (.server o) a)) (s.withCaches c') := by
  obtain ⟨hasked, htouches, htask⟩ := hpre
  rw [← h.users] at htask
  obtain ⟨order', L', T', htasks, horder, horder', hL⟩ :=
    h.tasks.step (l := (l', (loc i).2.told.next (loc i).1 o a)) htask htouches hact rfl
  have hlog : ∀ j, (Function.update loc i (l', (loc i).2.next (loc i).1 (.server o) a) j).2.log =
      (loc j).2.log :=
    (Function.forall_update_iff loc fun j l => l.2.log = (loc j).2.log).2 ⟨rfl, fun _ _ => rfl⟩
  refine ⟨order', L', T', (users_of_acts hact).trans h.users, ?_, fun j hj => ?_,
    fun key hkey => ?_, h.topic, h.nodup, fun e he => ?_, fun j event hmem => ?_⟩
  · rw [tasks_update]
    exact htasks
  · rcases List.mem_cons.1 (horder' hj) with rfl | hj
    · exact hasked
    · exact h.asked j hj
  · obtain ⟨j, hj, hne⟩ := h.creates key hkey
    exact ⟨j, hj, by rwa [hlog]⟩
  · obtain ⟨hne, hmem, p, hp, hevent⟩ := h.events e he
    exact ⟨by rwa [hlog], horder hmem, p, hL hp, hevent⟩
  · rw [hlog] at hmem
    exact h.sends j event hmem

end VisitInv

/-! ### One step -/

/-- What a call of the service does: what it should, or nothing; and only if it does what it should,
it returns. -/
theorem remote_cases {ι : Type} {i : ι} {s s' : Deployment} {l l' : Caller} {o : RemoteOp}
    {a : Except JavaException o.Res} (h : Proceeds i s l (.remote o) a s' l') :
    l' = l ∧ ∃ w, (s' = (remote w o s).2 ∧ ∀ v, a = .ok v → (remote w o s).1 = .ok v) ∨
      (s' = s ∧ ∃ e, a = .error e) := by
  cases h with
  | returns o w => exact ⟨rfl, w, Or.inl ⟨rfl, fun _ h => h⟩⟩
  | throws o w e s' h =>
      rcases h with rfl | rfl
      · exact ⟨rfl, w, Or.inr ⟨rfl, e, rfl⟩⟩
      · exact ⟨rfl, w, Or.inl ⟨rfl, nofun⟩⟩

/-- **A call of the service** keeps the invariant. -/
theorem VisitInv.remote {ι : Type} [DecidableEq ι] {s₀ s s' : Deployment} {visit : ι → Visit}
    {created : List Key} {order : List ι} {L : List (Key × Payment)} {T : Store PaymentEntity}
    {sent : List (ι × PaymentEvent)} {loc : ι → Caller × Course} {i : ι}
    (h : VisitInv s₀ visit created order L T sent loc s) (hnew : NewKeys s₀ visit)
    (hstale : Points.Pipeline.NoneStale s₀.caches) {o : RemoteOp} {a : Except JavaException o.Res}
    {l' : Caller} (hpre : (systemSpec s₀.caches.users (visit i)).pre (loc i) (.remote o))
    (hp : Proceeds i s (loc i).1 (.remote o) a s' l') :
    l' = (loc i).1 ∧ ∃ created' T' sent', VisitInv s₀ visit created' order L T' sent'
      (afterCall loc i o a) s' ∧ ∀ key ∈ created', key ∈ created ∨
        s'.caches.tokens.data (entryKey key) = some ⟨.unused⟩ := by
  obtain ⟨hnot, hmay⟩ := hpre
  obtain ⟨hl, w, ⟨rfl, hanswer⟩ | ⟨rfl, herror⟩⟩ := remote_cases hp
  · refine ⟨hl, ?_⟩
    cases o with
    | getUser _ | getWallet _ | getToken _ | getPayment _ =>
        exact ⟨created, T, sent, h.look (Or.inl trivial), fun _ hkey => Or.inl hkey⟩
    | putToken key value =>
        obtain ⟨hlog, rfl, key', hkey, rfl⟩ := hmay
        refine ⟨_, _, sent, h.put hnew hkey hlog a, fun k hk => ?_⟩
        rcases List.mem_cons.1 hk with rfl | hk
        · exact Or.inr (Function.update_self _ _ _)
        · exact Or.inl hk
    | send event =>
        obtain ⟨hlog, req, entity, hreq, hrecord, rfl⟩ := hmay
        rcases hsent : w.sent with e | u
        · -- the emitter has refused the event
          have hremote : Quarkus.remote w (.send (eventFor req entity)) s = (.error e, s) := by
            rw [Quarkus.remote, hsent]
          rw [hremote] at hanswer ⊢
          refine ⟨created, T, sent, h.look (Or.inr ?_), fun _ hkey => Or.inl hkey⟩
          rcases a with e' | v
          · exact ⟨e', rfl⟩
          · cases hanswer v rfl
        · have hremote : Quarkus.remote w (.send (eventFor req entity)) s =
              (.ok (), ⟨s.caches, s.topic ++ [eventFor req entity]⟩) := by
            rw [Quarkus.remote, hsent]
          rw [hremote]
          exact ⟨created, T, _, h.send hstale hreq hlog hrecord a, fun _ hkey => Or.inl hkey⟩
    | executePaymentTask p key => exact absurd rfl (hnot p key)
    | _ => exact hmay.elim
  · exact ⟨hl, created, T, sent, h.look (Or.inr herror), fun _ hkey => Or.inl hkey⟩

/-- **Every step of a visit** keeps to the discipline, and keeps the invariant; and a token that it
creates is there. -/
theorem VisitInv.step {ι : Type} [DecidableEq ι] {s₀ s s' : Deployment} {visit : ι → Visit}
    {created : List Key} {order : List ι} {L : List (Key × Payment)} {T : Store PaymentEntity}
    {sent : List (ι × PaymentEvent)} {loc : ι → Caller × Course} {i : ι}
    (h : VisitInv s₀ visit created order L T sent loc s) (hnew : NewKeys s₀ visit)
    (hstale : Points.Pipeline.NoneStale s₀.caches) {o : SystemOp} {a : Except JavaException o.Res}
    {l : Caller × Course} (hpre : (systemSpec s₀.caches.users (visit i)).pre (loc i) o)
    (hp : Proceeds i s (loc i).1 o a s' l.1) (hl : l.2 = (loc i).2.next (loc i).1 o a) :
    (systemSpec s₀.caches.users (visit i)).post (loc i) o a l ∧
      ∃ created' order' L' T' sent',
        VisitInv s₀ visit created' order' L' T' sent' (Function.update loc i l) s' ∧
          ∀ key ∈ created', key ∈ created ∨
            s'.caches.tokens.data (entryKey key) = some ⟨.unused⟩ := by
  obtain ⟨l₁, t⟩ := l
  obtain rfl : t = (loc i).2.next (loc i).1 o a := hl
  cases o with
  | server o =>
      cases hp with
      | server hact =>
          obtain ⟨order', L', T', hnext⟩ := h.server hpre hact
          exact ⟨⟨rfl, taskSpec_of_acts h.users hact rfl⟩, created, order', L', T', sent, hnext,
            fun _ hkey => Or.inl hkey⟩
  | remote o =>
      obtain ⟨rfl, created', T', sent', hnext⟩ := h.remote hnew hstale hpre hp
      exact ⟨rfl, created', order, L, T', sent', hnext⟩
  | receive =>
      cases hp with
      | receives a =>
          refine ⟨rfl, created, order, L, T, sent, ?_, fun _ hkey => Or.inl hkey⟩
          rw [show ((loc i).1, (loc i).2.next (loc i).1 .receive a) = loc i from rfl,
            Function.update_eq_self]
          exact h

/-- What is seen of the answer to a call in the deployment right after it. -/
def Evident : (o : RemoteOp) → o.Res → Deployment → Prop
  | .getUser key, user, s => s.caches.users key = user
  | .getWallet key, wallet, s => s.caches.wallets.data key = wallet
  | .getToken key, token, s => s.caches.tokens.data key = token
  | .getPayment key, payment, s => s.caches.payments.data key = payment
  | .putToken key value, _, s => s.caches.tokens.data key = some value
  | _, _, _ => True

theorem evident_of_remote {w : Occasion} {o : RemoteOp} {s : Deployment} {v : o.Res}
    (h : (remote w o s).1 = .ok v) : Evident o v (remote w o s).2 := by
  cases o with
  | getUser _ | getWallet _ | getToken _ | getPayment _ => exact Except.ok.inj h
  | putToken key value => exact Function.update_self _ _ _
  | _ => trivial

/-- What a visit has been answered by a call, it has been answered before, or it is seen now. -/
theorem answer_cases {ι : Type} [DecidableEq ι] {s s' : Deployment} {loc : ι → Caller × Course}
    {i j : ι} {o : SystemOp} {a : Except JavaException o.Res} {l : Caller × Course}
    (hp : Proceeds i s (loc i).1 o a s' l.1) (hl : l.2 = (loc i).2.next (loc i).1 o a)
    {o' : RemoteOp} {v : o'.Res} (h : ⟨o', .ok v⟩ ∈ (Function.update loc i l j).2.log) :
    ⟨o', .ok v⟩ ∈ (loc j).2.log ∨ Evident o' v s' := by
  by_cases hj : j = i
  · subst hj
    rw [Function.update_self, hl] at h
    cases o with
    | server o => exact Or.inl h
    | receive => exact Or.inl h
    | remote o =>
        rcases List.mem_cons.1 h with heq | h
        · cases heq
          obtain ⟨-, w, ⟨rfl, hanswer⟩ | ⟨-, e, he⟩⟩ := remote_cases hp
          · exact Or.inr (evident_of_remote (hanswer v rfl))
          · cases he
        · exact Or.inl h
  · rw [Function.update_of_ne hj] at h
    exact Or.inl h

/-! ### What is answered, sent and charged -/

/-- The event of the payment of a request, at its date. -/
def paidEvent (req : PayRequest) (date : LocalDateTime) : PaymentEvent :=
  eventFor req (PaymentTask.record (parameter req) date)

/-- **What an answer tells**: that a token has been created, that a payment has been made and its
event sent, or what was in the caches at some moment. -/
def Visit.Tells (v : Visit) (sent : Prop) (date : LocalDateTime)
    (past : (Deployment → Prop) → Prop) (answer : Answer) : Prop :=
  match v, answer with
  | createTokenAPI userId uuid, .token r =>
      past (fun s => s.caches.tokens.data (entryKey (createdKey userId uuid)) = some ⟨.unused⟩) ∧
        r = ⟨userId, (TokenService.newTokenId uuid).value, .unused⟩
  | createTokenUI userId uuid, .screen screen => (∃ e, screen = .page e) ∨
      (past (fun s =>
          s.caches.tokens.data (entryKey (createdKey userId uuid)) = some ⟨.unused⟩) ∧
        screen = .viewToken
          (some ⟨⟨userId⟩, TokenService.newTokenId uuid, .unused, none⟩) none true)
  | pay req, .payment r => sent ∧ r = response req date
  | bill req, .page page => (∃ message detail, page = .error message detail) ∨
      (sent ∧ page = completed req date)
  | viewTokenUI shopperId tokenId, .screen screen => (∃ e, screen = .page e) ∨
      ∃ token record payment,
        past (fun s => s.caches.tokens.data ⟨shopperId, tokenId⟩ = some token) ∧
        past (fun s => s.caches.payments.data ⟨shopperId, tokenId⟩ = record) ∧
        CachePaymentRepository.toPayment ⟨shopperId⟩ ⟨tokenId⟩ record = .ok payment ∧
        screen = .viewToken (some ⟨⟨shopperId⟩, ⟨tokenId⟩, token.status.toDomain, none⟩) payment
          false
  | userInfo userId, .text text => ∃ user wallet,
      past (fun s => s.caches.users ⟨userId⟩ = some user) ∧
      past (fun s => s.caches.wallets.data ⟨userId⟩ = some wallet) ∧
      text = user.name ++ " さんの残高は " ++ toString wallet.chargedMoney ++
        " 円です。オートチャージは " ++ toString wallet.autoChargeMoney ++ " 円に設定されています"
  | _, _ => False

/-- **A visit that has ended tells the truth**, if what its calls were answered is true. -/
theorem tells_of_finished {v : Visit} {answer : Answer} {s : Caller × Course} {sent : Prop}
    {date : LocalDateTime} {past : (Deployment → Prop) → Prop} (h : Finished v (.ok answer) s)
    (hsent : ∀ req entity, v.payRequest = some req → s.2.told.record = some entity →
      ⟨.send (eventFor req entity), .ok ()⟩ ∈ s.2.log →
      sent ∧ entity = PaymentTask.record (parameter req) date)
    (hpast : ∀ o a, ⟨o, .ok a⟩ ∈ s.2.log → past (Evident o a)) :
    v.Tells sent date past answer := by
  have htold := h answer rfl
  cases v with
  | createTokenAPI userId uuid =>
      cases answer with
      | token r => exact ⟨hpast _ _ htold.1, htold.2⟩
      | _ => exact htold
  | createTokenUI userId uuid =>
      cases answer with
      | screen screen => exact htold.imp_right fun ⟨hmem, heq⟩ => ⟨hpast _ _ hmem, heq⟩
      | _ => exact htold
  | pay req =>
      cases answer with
      | payment r =>
          obtain ⟨entity, hrecord, hmem, rfl⟩ := htold
          obtain ⟨hyes, rfl⟩ := hsent req entity rfl hrecord hmem
          exact ⟨hyes, rfl⟩
      | _ => exact htold
  | bill req =>
      cases answer with
      | page page =>
          refine htold.imp_right fun ⟨entity, hrecord, hmem, heq⟩ => ?_
          obtain ⟨hyes, rfl⟩ := hsent req entity rfl hrecord hmem
          exact ⟨hyes, heq⟩
      | _ => exact htold
  | viewTokenUI shopperId tokenId =>
      cases answer with
      | screen screen =>
          refine htold.imp_right fun ⟨token, record, payment, htoken, hpayment, hshown⟩ => ?_
          exact ⟨token, record, payment, hpast _ _ htoken, hpast _ _ hpayment, hshown⟩
      | _ => exact htold
  | userInfo userId =>
      cases answer with
      | text text =>
          obtain ⟨user, wallet, huser, hwallet, htext⟩ := htold
          exact ⟨user, wallet, hpast _ _ huser, hpast _ _ hwallet, htext⟩
      | _ => exact htold

section Runs

variable {ι : Type} [DecidableEq ι] {s₀ : Deployment} {visit : ι → Visit} {w : ι → Occasion}

/-- What holds of every reachable configuration, with the courses of the visits: the invariant, and
that what the calls were answered was true. -/
structure Kept (s₀ : Deployment) (visit : ι → Visit) (w : ι → Occasion)
    (d : Interleave.Config ι SystemOp SystemOp.Res JavaException Answer (Caller × Course)
      Deployment) : Prop where
  inv : ∃ created order L T sent, VisitInv s₀ visit created order L T sent d.loc d.glob ∧
    ∀ key ∈ created, Interleave.Past Serving (visitors s₀ visit w) d.erase
      fun s => s.caches.tokens.data (entryKey key) = some ⟨.unused⟩
  reached : Interleave.Reachable Serving (visitors s₀ visit w) d.erase
  past : ∀ i (o : RemoteOp) (v : o.Res), ⟨o, .ok v⟩ ∈ (d.loc i).2.log →
    Interleave.Past Serving (visitors s₀ visit w) d.erase (Evident o v)

/-- It holds of every reachable configuration, and all visits keep to the discipline. -/
theorem kept_of_reachable (hnew : NewKeys s₀ visit) (hstale : Points.Pipeline.NoneStale s₀.caches)
    {d : Interleave.Config ι SystemOp SystemOp.Res JavaException Answer (Caller × Course)
      Deployment}
    (h : Interleave.Reachable (Interleave.withGhost Serving fun _ _ l o a t => Course.next t l o a)
      ((visitors s₀ visit w).decorate .start) d) :
    Interleave.AllSafe (fun i => systemSpec s₀.caches.users (visit i)) (fun i => Finished (visit i))
      d ∧ Kept s₀ visit w d := by
  have hstart : Kept s₀ visit w ((visitors s₀ visit w).decorate .start) :=
    ⟨⟨[], [], [], _, [], .start, nofun⟩, .refl, fun _ _ _ hmem => by cases hmem⟩
  refine Interleave.invariant_safe (fun i => safe_visitor s₀.caches.users (visit i) (w i)) hstart
    ?_ h
  rintro d hsafe ⟨⟨created, order, L, T, sent, hinv, hcreated⟩, hreach, hpast⟩ i o k a g l hp
    ⟨⟨records, tokens, hproceeds⟩, hl⟩
  have hi := hsafe i
  rw [hp] at hi
  obtain ⟨hpost, created', order', L', T', sent', hinv', hnow⟩ :=
    (hinv.drop records tokens).step hnew hstale hi.1 hproceeds hl
  have hghost : Interleave.Step
      (Interleave.withGhost Serving fun _ _ l o a t => Course.next t l o a) d
      (d.next i (k a) l g) := .of i o k a g l hp ⟨⟨records, tokens, hproceeds⟩, hl⟩
  have hstep := Interleave.step_erase hghost
  have hreach' := hreach.tail hstep
  refine ⟨hpost, ⟨created', order', L', T', sent', hinv', fun key hkey => ?_⟩, hreach',
    fun j o' v hmem => ?_⟩
  · rcases hnow key hkey with hbefore | hthere
    · exact (hcreated key hbefore).step hstep
    · exact .now hreach' hthere
  · rcases answer_cases hproceeds hl hmem with hbefore | hseen
    · exact (hpast j o' v hbefore).step hstep
    · exact .now hreach' hseen

/-- The visits `order` have been charged, each of them once, at its date; the events of the visits
`sent` are in the topic; and the visits that have been answered have been told the truth. -/
structure ServedTruly (s₀ : Deployment) (visit : ι → Visit) (created : List Key)
    (order sent : List ι) (date : ι → LocalDateTime)
    (c₀ c : Interleave.Config ι SystemOp SystemOp.Res JavaException Answer Caller Deployment) :
    Prop where
  nodup : order.Nodup
  committed : ∀ i, i ∈ order ↔ (c.loc i).commits = 1
  asked : ∀ i ∈ order, (visit i).payRequest = some (visit i).request
  /-- The token of a visit was there, unused, when it was created. -/
  creates : ∀ key ∈ created, (∃ i, (visit i).created = some key) ∧
    Interleave.Past Serving c₀ c fun s => s.caches.tokens.data (entryKey key) = some ⟨.unused⟩
  /-- No two visits have been charged with the same token. -/
  once : ∀ i ∈ order, ∀ j ∈ order, (visit i).request.key = (visit j).request.key → i = j
  /-- The token of a charge was unused, at the start or when it was created, and is used or has been
  dropped; its record is that of the payment, or has been dropped. -/
  charged : ∀ i ∈ order, unpaidStatus s₀.caches created (visit i).request.key = some .unused ∧
    (∀ status, c.glob.caches.toStore.tokens (visit i).request.key = some status →
      status = .used) ∧
    ∀ entity, c.glob.caches.payments.data (entryKey (visit i).request.key) = some entity →
      entity = PaymentTask.record (parameter (visit i).request) (date i)
  /-- Nothing has happened to the other tokens and to their records, but that tokens have been
  created, and that entries may have been dropped. -/
  others : ∀ key, (∀ i ∈ order, (visit i).request.key ≠ key) →
    (∀ status, c.glob.caches.toStore.tokens key = some status →
      unpaidStatus s₀.caches created key = some status) ∧
      ∀ entity, c.glob.caches.payments.data (entryKey key) = some entity →
        s₀.caches.payments.data (entryKey key) = some entity
  /-- No update of a wallet is lost. -/
  wallets : ∀ id, match s₀.caches.toStore.wallets id with
    | none => c.glob.caches.toStore.wallets id = none
    | some purse₀ => ∃ purse, ∃ k : Nat, c.glob.caches.toStore.wallets id = some purse ∧
        purse.autoCharge = purse₀.autoCharge ∧ (purse₀.autoCharge.toInt = 0 → k = 0) ∧
        purse.charged.toInt = purse₀.charged.toInt + k * purse₀.autoCharge.toInt -
          Store.requested (fun i => (visit i).request) order id
  /-- There is at most one event for each charge, and none without one. -/
  events : sent.Nodup ∧ sent ⊆ order
  topic : c.glob.topic = s₀.topic ++ sent.map fun i => paidEvent (visit i).request (date i)
  answered : ∀ i answer, c.prog i = .ret (.ok answer) →
    (visit i).Tells (i ∈ sent) (date i) (Interleave.Past Serving c₀ c) answer

/-- What is kept, without the courses of the visits. -/
theorem Kept.servedTruly (hstale : Points.Pipeline.NoneStale s₀.caches)
    {d : Interleave.Config ι SystemOp SystemOp.Res JavaException Answer (Caller × Course)
      Deployment} (h : Kept s₀ visit w d)
    (hsafe : Interleave.AllSafe (fun i => systemSpec s₀.caches.users (visit i))
      (fun i => Finished (visit i)) d) :
    ∃ created order sent date,
      ServedTruly s₀ visit created order sent date (visitors s₀ visit w) d.erase := by
  obtain ⟨⟨created, order, L, T, sent, hinv, hcreated⟩, -, hpast⟩ := h
  obtain ⟨date, hdate⟩ := hinv.tasks.exists_date
  have htasks := hinv.tasks
  refine ⟨created, order, sent.map Prod.fst, date, htasks.nodup, htasks.committed, fun i hi => ?_,
    fun key hkey => ?_, fun i hi j hj hij => htasks.once hi hj hij,
    fun i hi => ⟨htasks.unused _ (htasks.mem_keys.2 ⟨i, hi, rfl⟩), fun status hs =>
      htasks.used hi hs, fun entity he => (hdate i hi entity).1 (htasks.record_of_paid hi he)⟩,
    fun key hkey => ⟨fun status hs => htasks.status_eq hkey hs,
      fun entity he => htasks.record_of_unpaid hkey he⟩,
    htasks.balanced, ⟨hinv.nodup, fun i hi => ?_⟩, ?_, fun i answer hr => ?_⟩
  · obtain ⟨req, hreq⟩ := Option.isSome_iff_exists.1 (hinv.asked i hi)
    rw [Visit.request, hreq]
    rfl
  · obtain ⟨i, hi, -⟩ := hinv.creates key hkey
    exact ⟨⟨i, hi⟩, hcreated key hkey⟩
  · obtain ⟨e, he, rfl⟩ := List.mem_map.1 hi
    exact (hinv.events e he).2.1
  · have hevents : ∀ e ∈ sent, e.2 = paidEvent (visit e.1).request (date e.1) := by
      intro e he
      obtain ⟨-, hi, p, hp, hevent⟩ := hinv.events e he
      rw [hevent, (hdate e.1 hi _).1 ⟨p, hp, rfl⟩]
      rfl
    change d.glob.topic = _
    rw [hinv.topic, List.map_map, List.map_congr_left hevents]
    rfl
  · have hi := hsafe i
    have hr' : d.prog i = .ret (.ok answer) := hr
    rw [hr'] at hi
    refine tells_of_finished hi
      (fun req entity hreq hrecord hmem => ⟨hinv.sends i _ hmem, ?_⟩) (hpast i)
    obtain ⟨hin, hp⟩ := hinv.paid hstale hrecord
    have hrequest : (visit i).request = req := congrArg (Option.getD · _) hreq
    rw [← hrequest]
    exact (hdate i hin entity).1 hp

/-- **The whole service, side by side**: in every state that any number of visits can reach,
whichever calls and methods fail, in whatever order they are made, and whichever entries are
dropped. -/
theorem served_truly (hnew : NewKeys s₀ visit) (hstale : Points.Pipeline.NoneStale s₀.caches)
    {c : Interleave.Config ι SystemOp SystemOp.Res JavaException Answer Caller Deployment}
    (h : Interleave.Reachable Serving (visitors s₀ visit w) c) :
    ∃ created order sent date,
      ServedTruly s₀ visit created order sent date (visitors s₀ visit w) c := by
  obtain ⟨d, hd, rfl⟩ := Interleave.exists_ghost Serving (fun _ _ l o a t => Course.next t l o a)
    Course.start h
  obtain ⟨hsafe, hkept⟩ := kept_of_reachable hnew hstale hd
  exact hkept.servedTruly hstale hsafe

end Runs

/-! ### A run -/

/-- The next step of a visit, on an occasion, when no entry is dropped. -/
def servingTurn {ι : Type} (t : ι × Occasion) :
    Interleave.Turn SystemOp SystemOp.Res JavaException Caller Deployment := fun o s l =>
  let kept := s.withCaches (s.caches.drop (fun _ => false) fun _ => false)
  match o with
  | .server o =>
      let out := exec o (l.on kept.caches)
      some (out.1, kept.withCaches out.2.caches, l.next o out.1 out.2.tx)
  | .remote o => some ((remote t.2 o kept).1, (remote t.2 o kept).2, l)
  | .receive => some (.ok (), kept, l)

theorem serving_turn {ι : Type} (t : ι × Occasion) (o : SystemOp) (s : Deployment) (l : Caller)
    (a : Except JavaException o.Res) (s' : Deployment) (l' : Caller)
    (h : servingTurn t o s l = some (a, s', l')) : Serving t.1 s l o a s' l' := by
  cases o with
  | server o =>
      cases h
      exact ⟨_, _, .server .act⟩
  | remote o =>
      cases h
      exact ⟨_, _, .returns o t.2⟩
  | receive =>
      cases h
      exact ⟨_, _, .receives _⟩

/-- A shopper asks for a token, and a clerk pays with it. -/
def twoVisits : Bool → Visit
  | true => .createTokenAPI 1 ⟨0, 0⟩
  | false => .pay ⟨1, "0000", 1, 300⟩

theorem newKeys_twoVisits : NewKeys ⟨Grid.oneShopper 1000 0, []⟩ twoVisits where
  fresh i key h := by
    cases i with
    | true =>
        obtain rfl : createdKey 1 ⟨0, 0⟩ = key := Option.some.inj h
        decide
    | false => cases h
  distinct i j key hi hj := by
    cases i with
    | true =>
        cases j with
        | true => rfl
        | false => cases hj
    | false => cases hi

/-- One after the other. -/
def bothServed : Interleave.Config Bool SystemOp SystemOp.Res JavaException Answer Caller
    Deployment :=
  ((true, Points.Pipeline.calm) :: List.replicate 13 (false, Points.Pipeline.calm)).foldl
    (.play Prod.fst servingTurn)
    (visitors ⟨Grid.oneShopper 1000 0, []⟩ twoVisits fun _ => Points.Pipeline.calm)

/-- The shopper has the token, the clerk has the payment, and its event is in the topic. -/
theorem served_truly_both :
    bothServed.prog true = .ret (.ok (.token ⟨1, "0000", .unused⟩)) ∧
      bothServed.prog false = .ret (.ok (.payment (response ⟨1, "0000", 1, 300⟩ ⟨0, 0⟩))) ∧
      bothServed.glob.topic = [paidEvent ⟨1, "0000", 1, 300⟩ ⟨0, 0⟩] ∧
      ∃ created order sent date, ServedTruly ⟨Grid.oneShopper 1000 0, []⟩ twoVisits created order
        sent date (visitors ⟨Grid.oneShopper 1000 0, []⟩ twoVisits fun _ => Points.Pipeline.calm)
        bothServed :=
  ⟨rfl, rfl, rfl, served_truly newKeys_twoVisits Points.Pipeline.noneStale_oneShopper
    (Interleave.reachable_play serving_turn _ _)⟩

end RedHatPay.Quarkus
