/-
**The data grid: no double charge and no lost update.**

The commits of concurrent calls, in the order in which they happen, are a history of the ledger:
the check at commit lets a charge through only if the wallet and the token still are what the
transaction has read, and so it is the abstract payment from the caches at that moment.  Failed
attempts, wherever they fail, leave nothing behind.

* `RedHatPay.Grid.acts_cases` — what a method of a disciplined call does to the committed caches:
  nothing, or it commits a charge;
* `RedHatPay.Grid.Inv` — the invariant of concurrent calls;
* `RedHatPay.Grid.charged_once` — **no double charge, no lost update**: in every reachable state.
-/

import Mathlib.Data.List.Nodup
import RedHatPay.Grid.Attempts
import RedHatPay.Ledger

set_option relaxedAutoImplicit false
set_option autoImplicit false

namespace RedHatPay.Grid

open Program Transaction

/-! ### One method -/

/-- **What a method of a disciplined call does to the committed caches**: nothing, or it commits a
transaction that charges a wallet. -/
theorem acts_cases {ι : Type} {i : ι} {users : ShopperKey → Option ShopperEntity}
    {f : PaymentFunction} {c c' : Caches} {l l' : Caller} {o : CacheOp}
    {a : Except JavaException o.Res} (hpre : mayDo users f l o) (h : Acts i c l o a c' l') :
    (o.committed a = 0 ∧ c' = c) ∨ (o.committed a = 1 ∧ l.commits = 0 ∧ l'.tx = none ∧
      ∃ tx, l.tx = some tx ∧ Charges users f tx ∧ c.valid tx = true ∧ c' = c.apply tx) := by
  obtain ⟨tx, begins, commits⟩ := l
  cases h with
  | fault e tx' htx => exact Or.inl ⟨by cases o <;> rfl, rfl⟩
  | act =>
      cases o with
      | commit =>
          obtain ⟨hcommits, tx', rfl, hcharges⟩ := hpre
          cases hvalid : c.valid tx' with
          | false =>
              have hexec : exec .commit ⟨c, some tx'⟩ =
                  (.error (.transaction "The transaction has been rolled back"), ⟨c, none⟩) :=
                if_neg (by rw [hvalid]; exact Bool.false_ne_true)
              rw [Caller.on, hexec]
              exact Or.inl ⟨rfl, rfl⟩
          | true =>
              have hexec : exec .commit ⟨c, some tx'⟩ = (.ok (), ⟨c.apply tx', none⟩) :=
                if_pos hvalid
              rw [Caller.on, hexec]
              exact Or.inr ⟨rfl, hcommits, rfl, tx', rfl, hcharges, hvalid, rfl⟩
      | begin => cases tx <;> exact Or.inl ⟨rfl, rfl⟩
      | rollback => cases tx <;> exact Or.inl ⟨rfl, rfl⟩
      | getUser key => exact Or.inl ⟨rfl, rfl⟩
      | getWallet key | getToken key | getPayment key => exact Or.inl ⟨rfl, rfl⟩
      | putWallet key v | putToken key v | putPayment key v =>
          obtain ⟨t, rfl⟩ := hpre
          exact Or.inl ⟨rfl, rfl⟩

theorem Tx.consistent_empty (c : Caches) : Tx.empty.Consistent c := ⟨.empty, .empty, .empty⟩

/-- A transaction stays consistent when another one commits. -/
theorem Tx.Consistent.apply {tx : Tx} {c : Caches} (h : tx.Consistent c) (tx' : Tx) :
    tx.Consistent (c.apply tx') :=
  ⟨h.1.become _, h.2.1.become _, h.2.2.become _⟩

/-- A transaction stays consistent through its own methods. -/
theorem consistent_exec {c : Caches} {tx : Option Tx} (o : CacheOp)
    (h : ∀ t, tx = some t → t.Consistent c) :
    ∀ t, (exec o ⟨c, tx⟩).2.tx = some t → t.Consistent c := by
  intro t ht
  cases tx with
  | none =>
      cases o with
      | begin =>
          cases ht
          exact Tx.consistent_empty c
      | _ => cases ht
  | some tx =>
      have htx := h tx rfl
      cases o with
      | begin =>
          cases ht
          exact htx
      | commit =>
          rw [exec] at ht
          dsimp only at ht
          split at ht <;> cases ht
      | rollback => cases ht
      | getUser key =>
          cases ht
          exact htx
      | getWallet key =>
          cases ht
          exact ⟨htx.1.read key, htx.2⟩
      | getToken key =>
          cases ht
          exact ⟨htx.1, htx.2.1.read key, htx.2.2⟩
      | getPayment key =>
          cases ht
          exact ⟨htx.1, htx.2.1, htx.2.2.read key⟩
      | putWallet key v | putToken key v | putPayment key v =>
          cases ht
          exact htx

theorem consistent_of_acts {ι : Type} {i : ι} {c c' : Caches} {l l' : Caller} {o : CacheOp}
    {a : Except JavaException o.Res} (hl : ∀ t, l.tx = some t → t.Consistent c)
    (h : Acts i c l o a c' l') : ∀ t, l'.tx = some t → t.Consistent c := by
  cases h with
  | act => exact consistent_exec o hl
  | fault e tx htx =>
      rcases htx with rfl | rfl
      · exact hl
      · exact consistent_exec o hl

/-! ### The invariant -/

variable {ι : Type} [DecidableEq ι] (caches₀ : Caches) (f : ι → PaymentFunction)
  (clock : ι → Nat → LocalDateTime)

/-- All calls before they have begun. -/
def initial : Interleave.Config ι CacheOp CacheOp.Res JavaException Unit Caller Caches :=
  ⟨fun i => (f i).accept (clock i), fun _ => .fresh, caches₀⟩

/-- The payment is what the request asks for. -/
def Made (req : PayRequest) (p : Payment) : Prop :=
  p.storeId.value = req.storeId ∧ p.shopperId.value = req.userId ∧
    p.billingAmount.value = req.amount ∧ p.tokenId = some ⟨req.tokenId⟩

/-- **The invariant of concurrent calls**: the committed caches are those of a history of the
ledger, whose payments `L` are those of the calls `order` that have committed, the last one first;
and what a running transaction has read is consistent with them. -/
structure Inv (order : List ι) (L : List (Key × Payment))
    (c : Interleave.Config ι CacheOp CacheOp.Res JavaException Unit Caller Caches) : Prop where
  nodup : order.Nodup
  committed : ∀ i, i ∈ order ↔ (c.loc i).commits = 1
  counts : ∀ i, (c.loc i).commits ≤ 1 ∧ (c.loc i).begins ≤ PaymentFunction.maxRetryCount
  reached : Store.Reached CachePaymentRepository.entity caches₀.toStore L c.glob.toStore
  made : List.Forall₂ (fun i e => e.1 = (f i).request.key ∧ Made (f i).request e.2) order L
  unpaid : ∀ key, key ∉ L.map Prod.fst → c.glob.toStore.tokens key = caches₀.toStore.tokens key
  unused : ∀ key ∈ L.map Prod.fst, caches₀.toStore.tokens key = some .unused
  consistent : ∀ i tx, (c.loc i).tx = some tx → tx.Consistent c.glob

variable {caches₀ f clock}

omit [DecidableEq ι] in
theorem inv_initial : Inv caches₀ f [] [] (initial caches₀ f clock) where
  nodup := List.nodup_nil
  committed i := iff_of_false (by simp) (by simp [initial, Caller.fresh])
  counts i := ⟨by simp [initial, Caller.fresh], by simp [initial, Caller.fresh]⟩
  reached := .start
  made := .nil
  unpaid key _ := rfl
  unused key hkey := by cases hkey
  consistent i tx htx := by cases htx

/-- What the abstract payment makes of a request in the data grid. -/
theorem made_of_pay {req : PayRequest} {amount : Money} {now : LocalDateTime} {p : Payment}
    {c : Caches} {S : Store PaymentEntity} (hamount : req.amount = amount.value)
    (h : c.toStore.pay CachePaymentRepository.entity (req.input amount) now = (some p, S)) :
    Made req p := by
  obtain ⟨w, bill, m, hpresent, -, -, rfl, -⟩ := Store.pay_eq_some h
  obtain ⟨name, store, purse, -, hstore, -, -, -, rfl⟩ := Store.present_eq_some hpresent
  obtain rfl : store = ⟨⟨req.storeId⟩, ⟨"Demo Store"⟩⟩ := (Option.some.inj hstore).symm
  exact ⟨rfl, rfl, hamount.symm, rfl⟩

/-- A method that does not commit keeps the invariant. -/
theorem inv_act {order : List ι} {L : List (Key × Payment)}
    {c : Interleave.Config ι CacheOp CacheOp.Res JavaException Unit Caller Caches}
    (h : Inv caches₀ f order L c) {i : ι} {p : CacheProgram Unit} {l : Caller}
    (hcommits : l.commits = (c.loc i).commits) (hbegins : l.begins ≤ PaymentFunction.maxRetryCount)
    (htx : ∀ tx, l.tx = some tx → tx.Consistent c.glob) :
    Inv caches₀ f order L (c.next i p l c.glob) := by
  refine ⟨h.nodup, ?_, ?_, h.reached, h.made, h.unpaid, h.unused, ?_⟩
  · refine c.forall_next (P := fun j _ l => j ∈ order ↔ l.commits = 1) ?_ fun j _ => h.committed j
    rw [hcommits]
    exact h.committed i
  · refine c.forall_next
      (P := fun _ _ l => l.commits ≤ 1 ∧ l.begins ≤ PaymentFunction.maxRetryCount) ⟨?_, hbegins⟩
      fun j _ => h.counts j
    rw [hcommits]
    exact (h.counts i).1
  · exact c.forall_next (P := fun _ _ l => ∀ tx, l.tx = some tx → tx.Consistent c.glob) htx
      fun j _ => h.consistent j

/-- A commit keeps the invariant, with one more call in the order. -/
theorem inv_commit {order : List ι} {L : List (Key × Payment)}
    {c : Interleave.Config ι CacheOp CacheOp.Res JavaException Unit Caller Caches}
    (h : Inv caches₀ f order L c) {i : ι} {p : CacheProgram Unit} {l : Caller} {tx : Tx}
    (hfirst : (c.loc i).commits = 0) (hcommits : l.commits = 1)
    (hbegins : l.begins ≤ PaymentFunction.maxRetryCount) (hnone : l.tx = none)
    (htx : (c.loc i).tx = some tx) (hcharges : Charges c.glob.users (f i) tx)
    (hvalid : c.glob.valid tx = true) :
    ∃ e, Inv caches₀ f (i :: order) (e :: L) (c.next i p l (c.glob.apply tx)) := by
  obtain ⟨amount, now, payment, hamount, hpay⟩ := hcharges.pay_eq (h.consistent i tx htx) hvalid
  have hunused : c.glob.toStore.tokens (f i).request.key = some .unused := Store.unused_of_pay hpay
  have hi : i ∉ order := fun hi => by
    have hone := (h.committed i).1 hi
    rw [hfirst] at hone
    cases hone
  -- the token that was read as unused is still unused, so that nobody has paid with it
  have hfresh : (f i).request.key ∉ L.map Prod.fst := fun hmem => by
    have hused := (h.reached.used_iff _).2 (Or.inr hmem)
    rw [hunused] at hused
    cases hused
  refine ⟨((f i).request.key, payment), List.nodup_cons.2 ⟨hi, h.nodup⟩, ?_, ?_,
    h.reached.charged hpay, .cons ⟨rfl, made_of_pay hamount hpay⟩ h.made, fun key hkey => ?_,
    fun key hkey => ?_, ?_⟩
  · refine c.forall_next (P := fun j _ l => j ∈ i :: order ↔ l.commits = 1)
      (iff_of_true List.mem_cons_self hcommits) fun j hji => ?_
    rw [List.mem_cons, or_iff_right hji]
    exact h.committed j
  · exact c.forall_next
      (P := fun _ _ l => l.commits ≤ 1 ∧ l.begins ≤ PaymentFunction.maxRetryCount)
      ⟨hcommits.le, hbegins⟩ fun j _ => h.counts j
  · rw [List.map_cons, List.mem_cons, not_or] at hkey
    exact (Store.pay_tokens_of_ne hpay hkey.1).trans (h.unpaid key hkey.2)
  · rcases List.mem_cons.1 hkey with rfl | hkey
    · exact (h.unpaid _ hfresh).symm.trans hunused
    · exact h.unused key hkey
  · refine c.forall_next
      (P := fun _ _ l => ∀ tx', l.tx = some tx' → tx'.Consistent (c.glob.apply tx))
      (fun tx' ht => ?_) fun j _ tx' ht => (h.consistent j tx' ht).apply tx
    rw [hnone] at ht
    cases ht

/-- Every reachable configuration satisfies the invariant, and all calls keep to the discipline. -/
theorem inv_of_reachable
    {c : Interleave.Config ι CacheOp CacheOp.Res JavaException Unit Caller Caches}
    (h : Interleave.Reachable Acts (initial caches₀ f clock) c) :
    (∃ order L, Inv caches₀ f order L c) ∧
      Interleave.AllSafe (fun i => callerSpec caches₀.users (f i)) (fun _ => Settled) c := by
  have hK : ∀ i g l o a g' l', g.users = caches₀.users → Acts (i : ι) g l o a g' l' →
      g'.users = caches₀.users :=
    fun _ _ _ _ _ _ _ hg hact => (users_of_acts hact).trans hg
  have hR : ∀ i g l o a g' l', g.users = caches₀.users → Acts i g l o a g' l' →
      (callerSpec caches₀.users (f i)).pre l o → (callerSpec caches₀.users (f i)).post l o a l' :=
    fun _ _ _ _ _ _ _ hg hact _ => callerSpec_of_acts hg hact
  have h₀ : Interleave.AllSafe (fun i => callerSpec caches₀.users (f i)) (fun _ => Settled)
      (initial caches₀ f clock) := fun i => safe_accept caches₀.users (f i) (clock i)
  refine ⟨Interleave.invariant (K := fun g : Caches => g.users = caches₀.users)
    (J := fun c => ∃ order L, Inv caches₀ f order L c) hK hR rfl h₀ ⟨[], [], inv_initial⟩ ?_ h,
    Interleave.safe_of_reachable (K := fun g : Caches => g.users = caches₀.users) hK hR rfl h₀ h⟩
  rintro c husers hsafe ⟨order, L, hinv⟩ i o k a g l hp hact
  have hi := hsafe i
  rw [hp] at hi
  have hpre : mayDo caches₀.users (f i) (c.loc i) o := hi.1
  obtain ⟨hbegins, hcommits, -⟩ := callerSpec_of_acts (f := f i) husers hact
  -- `begin` is called only while fewer than three attempts have been made
  have hbegins' : l.begins ≤ PaymentFunction.maxRetryCount := by
    have hle := (hinv.counts i).2
    cases o with
    | begin =>
        have hlt : (c.loc i).begins < PaymentFunction.maxRetryCount := hpre.2
        rw [hbegins]
        exact hlt
    | _ =>
        rw [hbegins]
        exact hle
  rcases acts_cases hpre hact with ⟨hzero, rfl⟩ |
    ⟨hone, hfirst, hnone, tx, htx, hcharges, hvalid, rfl⟩
  · refine ⟨order, L, inv_act hinv ?_ hbegins' (consistent_of_acts (hinv.consistent i) hact)⟩
    rw [hcommits, hzero, Nat.add_zero]
  · have hcommits' : l.commits = 1 := by rw [hcommits, hone, hfirst]
    have hcharges' : Charges c.glob.users (f i) tx := by rw [husers]; exact hcharges
    obtain ⟨e, hinv'⟩ := inv_commit (p := k a) hinv hfirst hcommits' hbegins' hnone htx hcharges'
      hvalid
    exact ⟨i :: order, e :: L, hinv'⟩

/-! ### No double charge, no lost update -/

/-- The calls `order` have committed, and each of them has charged its wallet once. -/
structure ChargedOnce (caches₀ : Caches) (f : ι → PaymentFunction) (order : List ι)
    (c : Interleave.Config ι CacheOp CacheOp.Res JavaException Unit Caller Caches) : Prop where
  nodup : order.Nodup
  committed : ∀ i, i ∈ order ↔ (c.loc i).commits = 1
  /-- A call makes at most three attempts, and commits at most one of them. -/
  attempts : ∀ i, (c.loc i).commits ≤ 1 ∧ (c.loc i).begins ≤ PaymentFunction.maxRetryCount
  /-- It returns normally exactly if it has committed. -/
  outcome : ∀ i r, c.prog i = .ret r → (r = .ok () ↔ (c.loc i).commits = 1)
  /-- No two calls have committed a payment with the same token. -/
  once : ∀ i ∈ order, ∀ j ∈ order, (f i).request.key = (f j).request.key → i = j
  /-- The token of a call that has committed was unused and is used, with the payment on record. -/
  charged : ∀ i ∈ order, caches₀.toStore.tokens (f i).request.key = some .unused ∧
    c.glob.toStore.tokens (f i).request.key = some .used ∧
    ∃ entity, c.glob.toStore.payments (f i).request.key = some entity ∧
      entity.storeId = (f i).request.storeId ∧ entity.billingAmount = (f i).request.amount
  /-- Nothing has happened to the other tokens and to their records. -/
  others : ∀ key, (∀ i ∈ order, (f i).request.key ≠ key) →
    c.glob.toStore.tokens key = caches₀.toStore.tokens key ∧
      c.glob.toStore.payments key = caches₀.toStore.payments key
  /-- No update of a wallet is lost. -/
  wallets : ∀ id, match caches₀.toStore.wallets id with
    | none => c.glob.toStore.wallets id = none
    | some purse₀ => ∃ purse, ∃ k : Nat, c.glob.toStore.wallets id = some purse ∧
        purse.autoCharge = purse₀.autoCharge ∧ (purse₀.autoCharge.toInt = 0 → k = 0) ∧
        purse.charged.toInt = purse₀.charged.toInt + k * purse₀.autoCharge.toInt -
          Store.requested (fun i => (f i).request) order id

omit [DecidableEq ι] in
/-- Calls, and the payments in the ledger that they have made. -/
theorem keys_of_made {order : List ι} {L : List (Key × Payment)}
    (hmade : List.Forall₂ (fun i e => e.1 = (f i).request.key ∧ Made (f i).request e.2) order L) :
    L.map Prod.fst = order.map (fun i => (f i).request.key) ∧
      (∀ id, Store.debits L id = Store.requested (fun i => (f i).request) order id) ∧
      ∀ i ∈ order, ∃ p, ((f i).request.key, p) ∈ L ∧ Made (f i).request p := by
  induction hmade with
  | nil => exact ⟨rfl, fun id => rfl, nofun⟩
  | @cons i e order L he _ ih =>
      obtain ⟨hkeys, hsum, hpaid⟩ := ih
      obtain ⟨key, p⟩ := e
      obtain ⟨rfl, hmade⟩ := he
      refine ⟨by rw [List.map_cons, List.map_cons, hkeys], fun id => ?_, fun j hj => ?_⟩
      · obtain ⟨-, -, hamount, -⟩ := hmade
        have hp : p.billingAmount.toInt = (f i).request.amount.toInt := congrArg Int32.toInt hamount
        have hcons := Store.requested_cons_debits (fun i => (f i).request) (l := order)
          (L := L) hp id
        rw [hsum id] at hcons
        exact Int.add_left_cancel (hcons.trans (Int.add_comm _ _))
      · rcases List.mem_cons.1 hj with rfl | hj
        · exact ⟨p, List.mem_cons_self, hmade⟩
        · obtain ⟨p', hp', hmade'⟩ := hpaid j hj
          exact ⟨p', List.mem_cons_of_mem _ hp', hmade'⟩

omit [DecidableEq ι] in
/-- The calls in the order, and the payments in the ledger. -/
theorem Inv.keys {order : List ι} {L : List (Key × Payment)}
    {c : Interleave.Config ι CacheOp CacheOp.Res JavaException Unit Caller Caches}
    (h : Inv caches₀ f order L c) : L.map Prod.fst = order.map (fun i => (f i).request.key) ∧
      (∀ id, Store.debits L id = Store.requested (fun i => (f i).request) order id) ∧
      ∀ i ∈ order, ∃ p, ((f i).request.key, p) ∈ L ∧ Made (f i).request p :=
  keys_of_made h.made

/-- **No double charge and no lost update**: in every state that any number of concurrent calls can
reach, whichever methods throw and in whatever order they are called. -/
theorem charged_once
    {c : Interleave.Config ι CacheOp CacheOp.Res JavaException Unit Caller Caches}
    (h : Interleave.Reachable Acts (initial caches₀ f clock) c) :
    ∃ order, ChargedOnce caches₀ f order c := by
  obtain ⟨⟨order, L, hinv⟩, hsafe⟩ := inv_of_reachable h
  obtain ⟨hkeys, hsum, hpaid⟩ := hinv.keys
  have hmem : ∀ {i}, i ∈ order → (f i).request.key ∈ L.map Prod.fst := by
    intro i hi
    rw [hkeys]
    exact List.mem_map_of_mem (f := fun i => (f i).request.key) hi
  refine ⟨order, hinv.nodup, hinv.committed, hinv.counts, fun i r hr => ?_, fun i hi j hj hij => ?_,
    fun i hi => ?_, fun key hkey => ?_, fun id => ?_⟩
  · have hsettled := hsafe i
    rw [hr] at hsettled
    cases r with
    | ok u => exact iff_of_true rfl hsettled
    | error e =>
        have hzero : (c.loc i).commits = 0 := hsettled
        rw [hzero]
        exact iff_of_false nofun nofun
  · have hnodup := hinv.reached.nodup.1
    rw [hkeys] at hnodup
    exact List.inj_on_of_nodup_map hnodup hi hj hij
  · refine ⟨hinv.unused _ (hmem hi), (hinv.reached.used_iff _).2 (Or.inr (hmem hi)), ?_⟩
    obtain ⟨p, hp, hstore, -, hamount, -⟩ := hpaid i hi
    exact ⟨CachePaymentRepository.entity p, hinv.reached.payments_of_mem hp, hstore, hamount⟩
  · have hnot : key ∉ L.map Prod.fst := by
      rw [hkeys, List.mem_map]
      rintro ⟨i, hi, hik⟩
      exact hkey i hi hik
    exact ⟨hinv.unpaid key hnot, hinv.reached.payments_eq hnot⟩
  · cases hw : caches₀.toStore.wallets id with
    | none => exact hinv.reached.wallets_none hw
    | some purse₀ =>
        obtain ⟨purse, k, hpurse, hauto, hk, hcharged⟩ := hinv.reached.balanced hw
        rw [hsum id] at hcharged
        exact ⟨purse, k, hpurse, hauto, hk, hcharged⟩

/-! ### A schedule -/

/-- The next method of a call; with a fault, it throws before it has any effect. -/
def turn (t : ι × Option JavaException) :
    Interleave.Turn CacheOp CacheOp.Res JavaException Caller Caches := fun o c l =>
  match t.2 with
  | none =>
      let out := exec o (l.on c)
      some (out.1, out.2.caches, l.next o out.1 out.2.tx)
  | some e => some (.error e, c, l.next o (.error e) l.tx)

omit [DecidableEq ι] in
theorem acts_turn (t : ι × Option JavaException) (o : CacheOp) (c : Caches) (l : Caller)
    (a : Except JavaException o.Res) (c' : Caches) (l' : Caller)
    (h : turn t o c l = some (a, c', l')) : Acts t.1 c l o a c' l' := by
  rw [turn] at h
  split at h
  · cases h
    exact .act
  · cases h
    exact .fault _ _ (Or.inl rfl)

/-- Two calls that pay out of the same wallet, each with its own token. -/
def twoTokens : Bool → PaymentFunction
  | true => ⟨⟨1, "abcd", 1, 30⟩, "Demo Store"⟩
  | false => ⟨⟨1, "efgh", 1, 20⟩, "Demo Store"⟩

/-- Their methods alternate; then the second one goes on alone. -/
def sideBySide : Interleave.Config Bool CacheOp CacheOp.Res JavaException Unit Caller Caches :=
  ((List.replicate 9 [(true, none), (false, none)]).flatten ++
    List.replicate 10 (false, none)).foldl (.play Prod.fst turn)
      (initial (oneShopper 100 0) twoTokens fun _ _ => ⟨0, 0⟩)

/-- The second call loses its first attempt to the check at commit, and both have committed. -/
theorem charged_once_sideBySide :
    (∀ i, (sideBySide.loc i).commits = 1) ∧ (sideBySide.loc false).begins = 2 ∧
      ∃ order, ChargedOnce (oneShopper 100 0) twoTokens order sideBySide :=
  ⟨by decide, by decide, charged_once (Interleave.reachable_play acts_turn _ _)⟩

end RedHatPay.Grid
