/-
**The monolith: concurrent payments are serializable.**

The lock of the shopper's wallet orders the payments of a shopper: whoever holds it is the only
one whose writes can reach the rows of that shopper, although the point account is read without a
lock, and failed payments commit their writes too.  So the answers that a request has received are
those that it would receive if it ran alone from the tables committed at its end.

* `RedHatPay.Monolith.Agree`, `RedHatPay.Monolith.OwnWrites` — the rows that a request depends on,
  and those that it writes;
* `RedHatPay.Monolith.exec_agree`, `RedHatPay.Monolith.agree_onto` — a statement does not see the
  other rows, and the writes of one request do not touch the rows of another;
* `RedHatPay.Monolith.Inv` — the invariant of concurrent requests;
* `RedHatPay.Monolith.serializable` — **serializability**: the tables and the outcomes are those of
  running the finished requests one after the other, in the order in which they have ended.
-/

import Mathlib.Data.List.Nodup
import RedHatPay.Ledger
import RedHatPay.Lib.Replay
import RedHatPay.Monolith.RowLocks
import RedHatPay.Monolith.TokenLifecycle

set_option relaxedAutoImplicit false
set_option autoImplicit false

namespace RedHatPay.Monolith

open Program Transaction

/-! ### The rows that a request depends on -/

/-- The rows of a shopper are the same in both. -/
structure SameRows (shopper : Int32) (db db' : Db) : Prop where
  wallets : db'.wallets shopper = db.wallets shopper
  tokens : ∀ key : TokenKey, key.ownerId = shopper → db'.tokens key = db.tokens key
  payments : ∀ key : TokenKey, key.ownerId = shopper → db'.payments key = db.payments key
  points : db'.points shopper = db.points shopper

/-- The tables look the same to a request of the shopper that holds the lock of the wallet, or
that does not hold it yet. -/
structure Agree (shopper : Int32) (held : Prop) (db db' : Db) : Prop where
  shoppers : db'.shoppers = db.shoppers
  stores : db'.stores = db.stores
  present : (db'.wallets shopper).isSome = (db.wallets shopper).isSome
  own : held → SameRows shopper db db'

namespace Agree

variable {shopper : Int32} {held held' : Prop} {db db' db'' : Db}

theorem refl : Agree shopper held db db :=
  ⟨rfl, rfl, rfl, fun _ => ⟨rfl, fun _ _ => rfl, fun _ _ => rfl, rfl⟩⟩

theorem trans (h : Agree shopper held db db') (h' : Agree shopper held db' db'') :
    Agree shopper held db db'' := by
  refine ⟨h'.shoppers.trans h.shoppers, h'.stores.trans h.stores, h'.present.trans h.present, ?_⟩
  intro hheld
  have h₁ := h.own hheld
  have h₂ := h'.own hheld
  exact ⟨h₂.wallets.trans h₁.wallets, fun k hk => (h₂.tokens k hk).trans (h₁.tokens k hk),
    fun k hk => (h₂.payments k hk).trans (h₁.payments k hk), h₂.points.trans h₁.points⟩

theorem mono (h : Agree shopper held db db') (hh : held' → held) : Agree shopper held' db db' :=
  ⟨h.shoppers, h.stores, h.present, fun hheld => h.own (hh hheld)⟩

end Agree

/-- Equal rows are seen as equal rows. -/
theorem overlay_congr {K V : Type} {w t t' : K → Option V} {k : K} (h : t' k = t k) :
    overlay w t' k = overlay w t k := by
  rw [overlay, overlay, h]

/-- The wallet of the shopper is seen with the same row, if it is found and then locked. -/
theorem Agree.wallets_view {id : Int32} {l : Session} {db db' : Db}
    (h : Agree id (.wallet id ∈ (l.next db (.findWalletWithLock id)).locked) db db') :
    (l.on db').view.wallets id = (l.on db).view.wallets id := by
  cases hrow : (l.on db).view.wallets id with
  | some row =>
      rw [← hrow]
      exact overlay_congr (h.own (Session.wallet_mem_next hrow)).wallets
  | none =>
      -- there is no such wallet, pending or committed, on either side
      obtain ⟨hw, ht⟩ := Option.or_eq_none_iff.1 hrow
      have ht' : db.wallets id = none := ht
      have hnone := h.present
      rw [ht', Option.isSome_none, Option.isSome_eq_false_iff, Option.isNone_iff_eq_none] at hnone
      exact Option.or_eq_none_iff.2 ⟨hw, hnone⟩

/-- **A statement of a request does not see the rows of others**: on tables that look the same to
the request it gives the same answer and makes the same writes. -/
theorem exec_agree {shopper : Int32} {l : Session} {o : DbOp} {db db' : Db}
    (hends : o.ends = false) (hissue : mayIssue shopper l o)
    (h : Agree shopper (.wallet shopper ∈ (l.next db o).locked) db db') :
    exec o (l.on db') = ((exec o (l.on db)).1, ⟨db', (exec o (l.on db)).2.pending⟩) := by
  -- every statement but the first ones is issued with the wallet locked
  have hown : .wallet shopper ∈ l.locked → SameRows shopper db db' :=
    fun hmem => h.own (Session.mem_next hends hmem)
  cases o with
  | commit | rollback => cases hends
  | begin => rfl
  | findShopper id =>
      have hview : (l.on db').view.shoppers id = (l.on db).view.shoppers id :=
        overlay_congr (congrFun h.shoppers id)
      rw [exec, exec, hview]
      rfl
  | findStore id =>
      have hview : (l.on db').view.stores id = (l.on db).view.stores id :=
        overlay_congr (congrFun h.stores id)
      rw [exec, exec, hview]
      rfl
  | findWalletWithLock id =>
      obtain rfl : id = shopper := hissue
      rw [exec, exec, h.wallets_view]
      rfl
  | findTokenWithLock key =>
      have hview : (l.on db').view.tokens key = (l.on db).view.tokens key :=
        overlay_congr ((hown hissue.2).tokens key hissue.1)
      rw [exec, exec, hview]
      rfl
  | findPayment key =>
      have hview : (l.on db').view.payments key = (l.on db).view.payments key :=
        overlay_congr ((hown hissue.2).payments key hissue.1)
      rw [exec, exec, hview]
      rfl
  | findPoint id =>
      obtain ⟨rfl, hmem⟩ := hissue
      have hview : (l.on db').view.points id = (l.on db).view.points id :=
        overlay_congr (hown hmem).points
      rw [exec, exec, hview]
      rfl
  | saveToken key status => rfl
  | savePayment key row => rfl
  | updateChargedMoney id charged =>
      obtain ⟨rfl, hmem⟩ := hissue
      have hview : (l.on db').view.wallets id = (l.on db).view.wallets id :=
        overlay_congr (hown hmem).wallets
      rw [exec, exec, hview]
      cases (l.on db).view.wallets id <;> rfl
  | updateStatus key status =>
      have hview : (l.on db').view.tokens key = (l.on db).view.tokens key :=
        overlay_congr ((hown hissue.2).tokens key hissue.1)
      rw [exec, exec, hview]
      cases (l.on db).view.tokens key <;> rfl
  | updatePoint id amount =>
      obtain ⟨rfl, hmem⟩ := hissue
      have hview : (l.on db').view.points id = (l.on db).view.points id :=
        overlay_congr (hown hmem).points
      rw [exec, exec, hview]
      cases (l.on db).view.points id <;> rfl

/-! ### The rows that a request writes -/

/-- The pending writes of a request of the shopper: only rows of the shopper, of the wallets only
one that is there, and nothing at all before the wallet is locked. -/
structure OwnWrites (shopper : Int32) (held : Prop) (db w : Db) : Prop where
  shoppers : ∀ id, w.shoppers id = none
  stores : ∀ id, w.stores id = none
  wallets : ∀ id, w.wallets id ≠ none → id = shopper ∧ db.wallets id ≠ none
  tokens : ∀ key, w.tokens key ≠ none → key.ownerId = shopper
  payments : ∀ key, w.payments key ≠ none → key.ownerId = shopper
  points : ∀ id, w.points id ≠ none → id = shopper
  idle : ¬ held → w = Db.empty

theorem ownWrites_empty (shopper : Int32) (held : Prop) (db : Db) :
    OwnWrites shopper held db Db.empty :=
  ⟨fun _ => rfl, fun _ => rfl, fun _ h => absurd rfl h, fun _ h => absurd rfl h,
    fun _ h => absurd rfl h, fun _ h => absurd rfl h, fun _ => rfl⟩

/-- **The writes of one request do not touch the rows of another**, unless both hold the lock of
the same wallet. -/
theorem agree_onto {shopper shopper' : Int32} {held held' : Prop} {db w : Db}
    (h : OwnWrites shopper held db w) (hne : held → held' → shopper ≠ shopper') :
    Agree shopper' held' db (w.onto db) := by
  refine ⟨funext fun id => overlay_of_none (h.shoppers id),
    funext fun id => overlay_of_none (h.stores id), ?_, fun hheld' => ?_⟩
  · by_cases hw : w.wallets shopper' = none
    · exact congrArg Option.isSome (overlay_of_none hw)
    · obtain ⟨row, hrow⟩ := Option.ne_none_iff_exists'.1 hw
      obtain ⟨row', hrow'⟩ := Option.ne_none_iff_exists'.1 (h.wallets shopper' hw).2
      have honto : (w.onto db).wallets shopper' = some row := overlay_of_some hrow
      rw [honto, hrow']
      rfl
  · by_cases hheld : held
    · have hshopper := hne hheld hheld'
      refine ⟨overlay_of_none ?_, fun key hkey => overlay_of_none ?_,
        fun key hkey => overlay_of_none ?_, overlay_of_none ?_⟩
      · exact Classical.not_not.1 fun hw => hshopper (h.wallets shopper' hw).1.symm
      · exact Classical.not_not.1 fun hw => hshopper ((h.tokens key hw).symm.trans hkey)
      · exact Classical.not_not.1 fun hw => hshopper ((h.payments key hw).symm.trans hkey)
      · exact Classical.not_not.1 fun hw => hshopper (h.points shopper' hw).symm
    -- a request without the lock has nothing to publish
    · rw [h.idle hheld, Db.onto_empty]
      exact Agree.refl.own hheld'

namespace OwnWrites

variable {shopper : Int32} {held : Prop} {db w : Db}

/-- One more key in a table of pending writes. -/
theorem of_update {K V : Type} [DecidableEq K] {P : K → Prop} {t : K → Option V} {key : K} {v : V}
    (ht : ∀ k, t k ≠ none → P k) (hkey : P key) :
    ∀ k, Function.update t key (some v) k ≠ none → P k := by
  intro k hk
  by_cases h : k = key
  · rw [h]
    exact hkey
  · rw [Function.update_of_ne h] at hk
    exact ht k hk

theorem putWallet (h : OwnWrites shopper held db w) (hheld : held)
    (hrow : db.wallets shopper ≠ none) (row : WalletEntity) :
    OwnWrites shopper held db (w.putWallet shopper row) :=
  { h with
    wallets := of_update h.wallets ⟨rfl, hrow⟩
    idle := fun hnot => absurd hheld hnot }

theorem putToken (h : OwnWrites shopper held db w) (hheld : held) {key : TokenKey}
    (hkey : key.ownerId = shopper) (status : Int32) :
    OwnWrites shopper held db (w.putToken key status) :=
  { h with
    tokens := of_update h.tokens hkey
    idle := fun hnot => absurd hheld hnot }

theorem putPayment (h : OwnWrites shopper held db w) (hheld : held) {key : TokenKey}
    (hkey : key.ownerId = shopper) (row : PaymentEntity) :
    OwnWrites shopper held db (w.putPayment key row) :=
  { h with
    payments := of_update h.payments hkey
    idle := fun hnot => absurd hheld hnot }

theorem putPoint (h : OwnWrites shopper held db w) (hheld : held) (amount : Int32) :
    OwnWrites shopper held db (w.putPoint shopper amount) :=
  { h with
    points := of_update h.points rfl
    idle := fun hnot => absurd hheld hnot }

/-- A wallet that the request sees is in the tables. -/
theorem wallets_ne (h : OwnWrites shopper held db w) {row : WalletEntity}
    (hrow : (w.onto db).wallets shopper = some row) : db.wallets shopper ≠ none := by
  by_cases hw : w.wallets shopper = none
  · have hdb : db.wallets shopper = some row := (overlay_of_none hw).symm.trans hrow
    rw [hdb]
    nofun
  · exact (h.wallets shopper hw).2

end OwnWrites

/-- A request keeps writing only its own rows. -/
theorem OwnWrites.next {shopper : Int32} {l : Session} {o : DbOp} {db : Db} (hends : o.ends = false)
    (hissue : mayIssue shopper l o)
    (h : OwnWrites shopper (.wallet shopper ∈ l.locked) db l.pending) :
    OwnWrites shopper (.wallet shopper ∈ (l.next db o).locked) db (l.next db o).pending := by
  have hmono : .wallet shopper ∈ l.locked → .wallet shopper ∈ (l.next db o).locked :=
    Session.mem_next hends
  have hnext : OwnWrites shopper (.wallet shopper ∈ (l.next db o).locked) db l.pending :=
    { h with idle := fun hnot => h.idle fun hmem => hnot (hmono hmem) }
  cases o with
  | commit | rollback => cases hends
  | begin => exact ownWrites_empty _ _ _
  | findShopper id | findStore id | findWalletWithLock id => exact hnext
  | findTokenWithLock key | findPayment key | findPoint id => exact hnext
  | saveToken key status => exact hnext.putToken (hmono hissue.2) hissue.1 status
  | savePayment key row => exact hnext.putPayment (hmono hissue.2) hissue.1 row
  | updateChargedMoney id charged =>
      obtain ⟨rfl, hmem⟩ := hissue
      change OwnWrites _ _ _ (exec (.updateChargedMoney id charged) (l.on db)).2.pending
      rw [exec]
      cases hrow : (l.on db).view.wallets id with
      | none => exact hnext
      | some row => exact hnext.putWallet (hmono hmem) (h.wallets_ne hrow) _
  | updateStatus key status =>
      change OwnWrites _ _ _ (exec (.updateStatus key status) (l.on db)).2.pending
      rw [exec]
      cases (l.on db).view.tokens key with
      | none => exact hnext
      | some row => exact hnext.putToken (hmono hissue.2) hissue.1 status
  | updatePoint id amount =>
      obtain ⟨rfl, hmem⟩ := hissue
      change OwnWrites _ _ _ (exec (.updatePoint id amount) (l.on db)).2.pending
      rw [exec]
      cases (l.on db).view.points id with
      | none => exact hnext
      | some row => exact hnext.putPoint (hmono hmem) amount

/-! ### The invariant -/

variable {ι : Type} [DecidableEq ι] (db₀ : Db) (req : ι → PayRequest) (now : ι → LocalDateTime)

/-- All requests before they have begun. -/
def initial : Interleave.Config ι DbOp DbOp.Res JavaException PaymentResponse Session (Shared ι) :=
  ⟨fun i => payRequest (req i) (now i), fun _ => .fresh, ⟨db₀, fun _ => none⟩⟩

/-- Running requests one after the other. -/
def serially (db : Db) (order : List ι) :
    List (ι × Except JavaException PaymentResponse) × Db :=
  Replay.serial (fun i db => pay db (req i) (now i)) db order

/-- The wallet of the shopper is locked. -/
def Locked (req : ι → PayRequest) (i : ι) (l : Session) : Prop :=
  .wallet (req i).userId ∈ l.locked

/-- **The invariant of concurrent requests**: the requests that have ended are those of `order`,
and the committed tables and their outcomes are those of running them in this order; what remains
of another request ends as the whole request would end when run alone from the committed tables;
its writes are its own; and no two requests hold the same lock. -/
structure Inv (order : List ι)
    (c : Interleave.Config ι DbOp DbOp.Res JavaException PaymentResponse Session (Shared ι)) :
    Prop where
  nodup : order.Nodup
  ended : ∀ i, i ∈ order ↔ (c.loc i).ended = true
  result : ∀ i, i ∈ order →
    ∃ r, c.prog i = .ret r ∧ (i, r) ∈ (serially req now db₀ order).1
  committed : c.glob.committed = (serially req now db₀ order).2
  replay : ∀ i, (c.loc i).ended = false → Replay.Replays exec DbState.mk Db.empty
    (payRequest (req i) (now i)) (Agree (req i).userId (Locked req i (c.loc i)) c.glob.committed)
    (c.prog i) (c.loc i).pending
  writes : ∀ i, (c.loc i).ended = false →
    OwnWrites (req i).userId (Locked req i (c.loc i)) c.glob.committed (c.loc i).pending
  locks : ∀ i row, row ∈ (c.loc i).locked → c.glob.holder row = some i

variable {db₀ req now}

omit [DecidableEq ι] in
theorem inv_initial : Inv db₀ req now [] (initial db₀ req now) where
  nodup := List.nodup_nil
  ended i := iff_of_false (by simp) (by simp [initial, Session.fresh])
  result i hi := by cases hi
  committed := rfl
  replay i _ := .start
  writes i _ := ownWrites_empty _ _ _
  locks i row hrow := by cases hrow

/-- A lock that is held stays held through a statement of another request. -/
theorem lock_of_ne {g : Shared ι} {i j : ι} {o : DbOp} {view : Db} {row : Row} (hij : j ≠ i)
    (hfree : ∀ row, o.locks view = some row → g.holder row = none ∨ g.holder row = some i)
    (hrow : g.holder row = some j) : g.lock i o view row = some j := by
  have hne : g.holder row ≠ some i := by
    rw [hrow]
    exact fun heq => hij (Option.some.inj heq)
  rw [Shared.lock]
  split
  · change (if g.holder row = some i then none else g.holder row) = some j
    rw [if_neg hne, hrow]
  · cases hlocks : o.locks view with
    | none => exact hrow
    | some row' =>
        have hrow' : row ≠ row' := by
          rintro rfl
          rcases hfree row hlocks with hnone | hsome
          · rw [hrow] at hnone
            cases hnone
          · exact hne hsome
        change Function.update g.holder row' (some i) row = some j
        rw [Function.update_of_ne hrow', hrow]

/-- The locks of a request are in the table of locks after each of its statements. -/
theorem lock_self {g : Shared ι} {i : ι} {o : DbOp} {view : Db} {l : List Row}
    (hends : o.ends = false) (hl : ∀ row ∈ l, g.holder row = some i) {row : Row}
    (hrow : row ∈ (o.locks view).toList ++ l) : g.lock i o view row = some i := by
  rw [Shared.lock, if_neg (Bool.eq_false_iff.1 hends)]
  rcases List.mem_append.1 hrow with hrow | hrow
  · have hlocks : o.locks view = some row := Option.mem_toList.1 hrow
    rw [hlocks]
    exact Function.update_self _ _ _
  · cases o.locks view with
    | none => exact hl row hrow
    | some row' =>
        change Function.update g.holder row' (some i) row = some i
        by_cases heq : row = row'
        · rw [heq, Function.update_self]
        · rw [Function.update_of_ne heq, hl row hrow]

/-- A statement within a transaction keeps the invariant. -/
theorem inv_statement {order : List ι}
    {c : Interleave.Config ι DbOp DbOp.Res JavaException PaymentResponse Session (Shared ι)}
    (h : Inv db₀ req now order c) {i : ι} {o : DbOp}
    {k : Except JavaException o.Res → DbProgram PaymentResponse}
    {a : Except JavaException o.Res} {g : Shared ι} {l : Session} (hp : c.prog i = .call o k)
    (hpre : (rowSpec (req i).userId).pre (c.loc i) o) (hact : Acts i c.glob (c.loc i) o a g l)
    (hends : o.ends = false) : Inv db₀ req now order (c.next i (k a) l g) := by
  obtain ⟨hended, hissue⟩ := hpre
  obtain ⟨hfree, rfl, rfl, rfl⟩ := hact
  have hi : i ∉ order := fun hi => by
    have hend := (h.ended i).1 hi
    rw [hended] at hend
    cases hend
  have hcommitted : (exec o ((c.loc i).on c.glob.committed)).2.committed = c.glob.committed :=
    congrArg (fun r => r.2.committed) (exec_agree hends hissue Agree.refl)
  have hreplay := h.replay i hended
  rw [hp] at hreplay
  refine ⟨h.nodup, ?_, ?_, hcommitted.trans h.committed, ?_, ?_, ?_⟩
  · refine c.forall_next (P := fun j _ l => j ∈ order ↔ l.ended = true) (iff_of_false hi ?_)
      fun j _ => h.ended j
    rw [Session.next_ended, hends]
    nofun
  · exact c.forall_next (P := fun j p _ => j ∈ order →
        ∃ r, p = .ret r ∧ (j, r) ∈ (serially req now db₀ order).1)
      (fun hmem => absurd hmem hi) fun j _ => h.result j
  · change ∀ j, _ → Replay.Replays exec DbState.mk Db.empty _ (Agree _ _
      (exec o ((c.loc i).on c.glob.committed)).2.committed) _ _
    rw [hcommitted]
    refine c.forall_next (P := fun j p l => l.ended = false →
      Replay.Replays exec DbState.mk Db.empty (payRequest (req j) (now j))
        (Agree (req j).userId (Locked req j l) c.glob.committed) p l.pending) (fun _ => ?_)
      fun j _ => h.replay j
    exact hreplay.step (fun db hdb => hdb.mono (Session.mem_next hends)) fun db hdb =>
      exec_agree hends hissue hdb
  · change ∀ j, _ → OwnWrites _ _ (exec o ((c.loc i).on c.glob.committed)).2.committed _
    rw [hcommitted]
    exact c.forall_next (P := fun j _ l => l.ended = false →
        OwnWrites (req j).userId (Locked req j l) c.glob.committed l.pending)
      (fun _ => (h.writes i hended).next hends hissue) fun j _ => h.writes j
  · refine c.forall_next (P := fun j _ l => ∀ row, row ∈ l.locked →
        c.glob.lock i o ((c.loc i).on c.glob.committed).view row = some j) (fun row hrow => ?_)
      fun j hji row hrow => lock_of_ne hji hfree (h.locks j row hrow)
    rw [Session.next_locked hends] at hrow
    exact lock_self hends (h.locks i) hrow

omit [DecidableEq ι] in
/-- The end of a request: run alone from the present tables it ends in the same way, so that it is
the next one in the order. -/
theorem serially_end {order : List ι}
    {c : Interleave.Config ι DbOp DbOp.Res JavaException PaymentResponse Session (Shared ι)}
    (h : Inv db₀ req now order c) {i : ι} {o : DbOp}
    {k : Except JavaException o.Res → DbProgram PaymentResponse} (hp : c.prog i = .call o k)
    (hended : (c.loc i).ended = false) {r : Except JavaException PaymentResponse}
    (hret : k (exec o ((c.loc i).on c.glob.committed)).1 = .ret r) :
    serially req now db₀ (order ++ [i]) = ((serially req now db₀ order).1 ++ [(i, r)],
      (exec o ((c.loc i).on c.glob.committed)).2.committed) := by
  have hreplay := h.replay i hended
  rw [hp] at hreplay
  have hrun := hreplay.finish Agree.refl hret
  have hresult : (pay c.glob.committed (req i) (now i)).1 = r := congrArg Prod.fst hrun
  have htables : (pay c.glob.committed (req i) (now i)).2 =
      (exec o ((c.loc i).on c.glob.committed)).2.committed :=
    congrArg DbState.committed (congrArg Prod.snd hrun)
  rw [← hresult, ← htables, h.committed]
  exact Replay.serial_append _ _ _ _

omit [DecidableEq ι] in
/-- What a request publishes at its end does not touch the rows of the others. -/
theorem agree_end {order : List ι}
    {c : Interleave.Config ι DbOp DbOp.Res JavaException PaymentResponse Session (Shared ι)}
    (h : Inv db₀ req now order c) {i : ι} {o : DbOp} (hended : (c.loc i).ended = false)
    (hends : o.ends = true) {j : ι} (hji : j ≠ i) :
    Agree (req j).userId (Locked req j (c.loc j)) c.glob.committed
      (exec o ((c.loc i).on c.glob.committed)).2.committed := by
  -- only one of them holds the lock of a wallet
  have hexclusive : Locked req i (c.loc i) → Locked req j (c.loc j) →
      (req i).userId ≠ (req j).userId := by
    intro hlocked hlocked' heq
    have hi := h.locks i _ hlocked
    have hj := h.locks j _ hlocked'
    rw [← heq, hi] at hj
    exact hji (Option.some.inj hj).symm
  cases o with
  | commit => exact agree_onto (h.writes i hended) hexclusive
  | rollback => exact Agree.refl
  | _ => cases hends

/-- The end of a transaction keeps the invariant, with one more request in the order. -/
theorem inv_end {order : List ι}
    {c : Interleave.Config ι DbOp DbOp.Res JavaException PaymentResponse Session (Shared ι)}
    (h : Inv db₀ req now order c) {i : ι} {o : DbOp}
    {k : Except JavaException o.Res → DbProgram PaymentResponse}
    {a : Except JavaException o.Res} {g : Shared ι} {l : Session} (hp : c.prog i = .call o k)
    (hpre : (rowSpec (req i).userId).pre (c.loc i) o) (hact : Acts i c.glob (c.loc i) o a g l)
    (hends : o.ends = true) {r : Except JavaException PaymentResponse} (hret : k a = .ret r) :
    Inv db₀ req now (order ++ [i]) (c.next i (k a) l g) := by
  obtain ⟨hended, -⟩ := hpre
  obtain ⟨hfree, rfl, rfl, rfl⟩ := hact
  have hi : i ∉ order := fun hi => by
    have hend := (h.ended i).1 hi
    rw [hended] at hend
    cases hend
  have hserial := serially_end h hp hended hret
  have hnot : ((c.loc i).next c.glob.committed o).ended ≠ false := by
    rw [Session.next_ended, hends]
    nofun
  refine ⟨?_, ?_, ?_, (congrArg Prod.snd hserial).symm, ?_, ?_, ?_⟩
  · exact List.nodup_append.2 ⟨h.nodup, List.pairwise_singleton _ i, by
      rintro j hj _ (_ | ⟨_, ⟨⟩⟩) rfl
      exact hi hj⟩
  · refine c.forall_next (P := fun j _ l => j ∈ order ++ [i] ↔ l.ended = true)
      (iff_of_true (List.mem_append_right _ List.mem_cons_self) hends) fun j hji => ?_
    rw [List.mem_append, List.mem_singleton, or_iff_left hji]
    exact h.ended j
  · rw [hserial]
    refine c.forall_next (P := fun j p _ => j ∈ order ++ [i] →
        ∃ r', p = .ret r' ∧ (j, r') ∈ (serially req now db₀ order).1 ++ [(i, r)])
      (fun _ => ⟨r, hret, List.mem_append_right _ List.mem_cons_self⟩) fun j hji hj => ?_
    rw [List.mem_append, List.mem_singleton, or_iff_left hji] at hj
    obtain ⟨r', hprog, hr'⟩ := h.result j hj
    exact ⟨r', hprog, List.mem_append_left _ hr'⟩
  · exact c.forall_next (P := fun j p l => l.ended = false → Replay.Replays exec DbState.mk Db.empty
        (payRequest (req j) (now j)) (Agree (req j).userId (Locked req j l)
          (exec o ((c.loc i).on c.glob.committed)).2.committed) p l.pending)
      (fun hfalse => absurd hfalse hnot) fun j hji hj =>
        (h.replay j hj).mono fun db hdb => (agree_end h hended hends hji).trans hdb
  · refine c.forall_next (P := fun j _ l => l.ended = false → OwnWrites (req j).userId
        (Locked req j l) (exec o ((c.loc i).on c.glob.committed)).2.committed l.pending)
      (fun hfalse => absurd hfalse hnot) fun j hji hj => ?_
    have hw := h.writes j hj
    refine { hw with wallets := fun id hid => ⟨(hw.wallets id hid).1, ?_⟩ }
    obtain ⟨rfl, hrow⟩ := hw.wallets id hid
    have hpresent := (agree_end h hended hends hji).present
    rw [Option.isSome_iff_ne_none.2 hrow] at hpresent
    exact Option.isSome_iff_ne_none.1 hpresent
  · refine c.forall_next (P := fun j _ l => ∀ row, row ∈ l.locked →
        c.glob.lock i o ((c.loc i).on c.glob.committed).view row = some j) (fun row hrow => ?_)
      fun j hji row hrow => lock_of_ne hji hfree (h.locks j row hrow)
    rw [Session.next_locked_of_ends hends] at hrow
    cases hrow

/-- Every reachable configuration satisfies the invariant, for the order in which the requests have
ended; and all requests keep to their discipline. -/
theorem inv_of_reachable
    {c : Interleave.Config ι DbOp DbOp.Res JavaException PaymentResponse Session (Shared ι)}
    (h : Interleave.Reachable Acts (initial db₀ req now) c) :
    (∃ order, Inv db₀ req now order c) ∧ Interleave.AllSafe (fun i => rowSpec (req i).userId)
      (fun _ _ l => l.ended = true) c := by
  have hR : ∀ i g l o a g' l', True → Acts i g l o a g' l' → (rowSpec (req i).userId).pre l o →
      (rowSpec (req i).userId).post l o a l' :=
    fun _ _ _ _ _ _ _ _ hact _ => rowSpec_of_acts hact
  have h₀ : Interleave.AllSafe (fun i => rowSpec (req i).userId) (fun _ _ l => l.ended = true)
      (initial db₀ req now) :=
    fun i => safe_payRequest (req i) (now i)
  refine ⟨Interleave.invariant (K := fun _ => True) (J := fun c => ∃ order, Inv db₀ req now order c)
    (fun _ _ _ _ _ _ _ hg _ => hg) hR trivial h₀ ⟨[], inv_initial⟩ ?_ h,
    Interleave.safe_of_reachable (fun _ _ _ _ _ _ _ hg _ => hg) hR trivial h₀ h⟩
  rintro c - hsafe ⟨order, hinv⟩ i o k a g l hp hact
  have hi := hsafe i
  rw [hp] at hi
  obtain ⟨hpre, hnext⟩ := hi
  cases hends : o.ends with
  | false => exact ⟨order, inv_statement hinv hp hpre hact hends⟩
  | true =>
      -- nothing can follow the end of the transaction
      have hrest := hnext a l (rowSpec_of_acts hact)
      cases hk : k a with
      | ret r =>
          rw [← hk]
          exact ⟨_, inv_end hinv hp hpre hact hends hk⟩
      | call o' k' =>
          rw [hk] at hrest
          have hended : l.ended = true := by
            rw [hact.session, Session.next_ended, hends]
          have hnot : l.ended = false := hrest.1.1
          rw [hended] at hnot
          cases hnot

/-! ### What the order says about wallets and tokens -/

/-- The requests that have succeeded. -/
def succeeded (results : List (ι × Except JavaException PaymentResponse)) : List ι :=
  (results.filter fun result => result.2.isOk).map Prod.fst

omit [DecidableEq ι] in
/-- Running requests one after the other is a history of the ledger. -/
theorem reached_serially {S₀ : Store PaymentEntity} (req : ι → PayRequest)
    (now : ι → LocalDateTime) (order : List ι) :
    ∀ {db : Db} {L : List (Key × Payment)},
      Store.Reached RdbmsPaymentRepository.entity S₀ L db.toStore →
      ∃ L', Store.Reached RdbmsPaymentRepository.entity S₀ L'
          (serially req now db order).2.toStore ∧
        L'.map Prod.fst =
          ((succeeded (serially req now db order).1).map fun i => (req i).key).reverse ++
            L.map Prod.fst ∧
        ∀ id, Store.debits L' id =
          Store.requested req (succeeded (serially req now db order).1) id + Store.debits L id := by
  induction order with
  | nil => exact fun {db L} h => ⟨L, h, rfl, fun id => (zero_add _).symm⟩
  | cons i order ih =>
      intro db L h
      have hcons : serially req now db (i :: order) =
          ((i, (pay db (req i) (now i)).1) ::
              (serially req now (pay db (req i) (now i)).2 order).1,
            (serially req now (pay db (req i) (now i)).2 order).2) := rfl
      rw [hcons]
      rcases pay_cases db (req i) (now i) with ⟨⟨m, w, bill, -, hpresent, -⟩, hout, hstore, -⟩ |
        ⟨-, ⟨e, hout, -⟩, hstore, -⟩ | ⟨-, m, p, hm, hpay, hout, -⟩
      · have hunused : db.toStore.tokens (req i).key = some .unused := by
          obtain ⟨-, -, -, -, -, -, ht, -⟩ := Store.present_eq_some hpresent
          exact ht
        obtain ⟨L', hL', hkeys, hsum⟩ := ih (hstore ▸ h.refused (req i).key hunused)
        rw [hout]
        exact ⟨L', hL', hkeys, hsum⟩
      · obtain ⟨L', hL', hkeys, hsum⟩ := ih (hstore ▸ h)
        rw [hout]
        exact ⟨L', hL', hkeys, hsum⟩
      · obtain ⟨L', hL', hkeys, hsum⟩ := ih (h.charged hpay)
        obtain ⟨-, -, -, -, -, hamount, -⟩ := Store.pay_wallets hpay
        have hp : p.billingAmount.toInt = (req i).amount.toInt := by
          rw [hamount, hm]
          rfl
        have hcons : ∀ rest : List (ι × Except JavaException PaymentResponse),
            succeeded ((i, .ok (response p ⟨(req i).tokenId⟩)) :: rest) = i :: succeeded rest :=
          fun _ => rfl
        rw [hout, hcons]
        refine ⟨L', hL', ?_, fun id => ?_⟩
        · rw [hkeys, List.map_cons, List.map_cons, List.reverse_cons, List.append_assoc]
          rfl
        · exact (hsum id).trans (Store.requested_cons_debits req hp id)

/-- The tables and the outcomes of the requests that have ended are those of running these requests
one after the other. -/
structure SerializedBy (db₀ : Db) (req : ι → PayRequest) (now : ι → LocalDateTime)
    (order : List ι)
    (c : Interleave.Config ι DbOp DbOp.Res JavaException PaymentResponse Session (Shared ι)) :
    Prop where
  /-- The order lists the requests that have ended, each of them once. -/
  nodup : order.Nodup
  ended : ∀ i, i ∈ order ↔ ∃ r, c.prog i = .ret r
  /-- The tables are the same. -/
  tables : c.glob.committed = (serially req now db₀ order).2
  /-- Each request has the same outcome. -/
  outcomes : ∀ i r, c.prog i = .ret r → (i, r) ∈ (serially req now db₀ order).1
  /-- At most one request succeeds for a shopper and a token. -/
  once : ∀ i j r r', c.prog i = .ret (.ok r) → c.prog j = .ret (.ok r') →
    (req i).key = (req j).key → i = j
  /-- No update of a wallet is lost. -/
  wallets : ∀ id purse₀, db₀.toStore.wallets id = some purse₀ → ∃ purse, ∃ k : Nat,
    c.glob.committed.toStore.wallets id = some purse ∧ purse.autoCharge = purse₀.autoCharge ∧
      (purse₀.autoCharge.toInt = 0 → k = 0) ∧
      purse.charged.toInt = purse₀.charged.toInt + k * purse₀.autoCharge.toInt -
        Store.requested req (succeeded (serially req now db₀ order).1) id

/-- **Serializability**: however the statements of any number of payment requests interleave, the
tables and the outcomes are those of running the requests one after the other in some order. -/
theorem serializable
    {c : Interleave.Config ι DbOp DbOp.Res JavaException PaymentResponse Session (Shared ι)}
    (h : Interleave.Reachable Acts (initial db₀ req now) c) :
    ∃ order, SerializedBy db₀ req now order c := by
  -- the order is that in which the transactions have ended
  obtain ⟨⟨order, hinv⟩, hsafe⟩ := inv_of_reachable h
  have hended : ∀ i, i ∈ order ↔ ∃ r, c.prog i = .ret r := by
    intro i
    refine ⟨fun hi => ?_, fun ⟨r, hr⟩ => ?_⟩
    · obtain ⟨r, hr, -⟩ := hinv.result i hi
      exact ⟨r, hr⟩
    · have hret := hsafe i
      rw [hr] at hret
      exact (hinv.ended i).2 hret
  have houtcomes : ∀ i r, c.prog i = .ret r → (i, r) ∈ (serially req now db₀ order).1 := by
    intro i r hr
    obtain ⟨r', hr', hmem⟩ := hinv.result i ((hended i).2 ⟨r, hr⟩)
    rw [hr] at hr'
    cases hr'
    exact hmem
  obtain ⟨L, hL, hkeys, hsum⟩ := reached_serially req now order
    (.start : Store.Reached RdbmsPaymentRepository.entity db₀.toStore [] db₀.toStore)
  refine ⟨order, hinv.nodup, hended, hinv.committed, houtcomes, ?_, ?_⟩
  · intro i j r r' hi hj hkey
    have hsucceeded : ∀ {i r}, c.prog i = .ret (.ok r) →
        i ∈ succeeded (serially req now db₀ order).1 := by
      intro i r hi
      exact List.mem_map_of_mem (List.mem_filter.2 ⟨houtcomes i _ hi, rfl⟩)
    have hnodup := hL.nodup.1
    rw [hkeys, List.map_nil, List.append_nil, List.nodup_reverse] at hnodup
    exact List.inj_on_of_nodup_map hnodup (hsucceeded hi) (hsucceeded hj) hkey
  · intro id purse₀ h₀
    obtain ⟨purse, k, hpurse, hauto, hk, hcharged⟩ := hL.balanced h₀
    rw [hsum id, Store.debits_nil, add_zero] at hcharged
    rw [hinv.committed]
    exact ⟨purse, k, hpurse, hauto, hk, hcharged⟩

/-! ### A schedule -/

/-- The next statement of request `i`, if it need not wait. -/
def turn (i : ι) : Interleave.Turn DbOp DbOp.Res JavaException Session (Shared ι) := fun o g l =>
  let s := l.on g.committed
  if ∀ row ∈ o.locks s.view, g.holder row = none ∨ g.holder row = some i then
    some ((exec o s).1, ⟨(exec o s).2.committed, g.lock i o s.view⟩, l.next g.committed o)
  else none

theorem acts_turn (i : ι) (o : DbOp) (g : Shared ι) (l : Session) (a : Except JavaException o.Res)
    (g' : Shared ι) (l' : Session) (h : turn i o g l = some (a, g', l')) :
    Acts i g l o a g' l' := by
  rw [turn] at h
  split at h
  · rename_i hfree
    cases h
    exact ⟨hfree, rfl, rfl, rfl⟩
  · cases h

/-- Two requests of the same shopper side by side, for the same token. -/
def sideBySide :
    Interleave.Config Bool DbOp DbOp.Res JavaException PaymentResponse Session (Shared Bool) :=
  (List.replicate 20 [false, true]).flatten.foldl (.play id turn)
    (initial (oneShopper 100 0 .unused) (fun _ => presented 40) fun _ => ⟨0, 0⟩)

/-- Both requests have ended, and the second one has waited for the first one. -/
theorem serializable_sideBySide :
    (∀ i, (sideBySide.loc i).ended = true) ∧
      ∃ order, SerializedBy (oneShopper 100 0 .unused) (fun _ => presented 40) (fun _ => ⟨0, 0⟩)
        order sideBySide :=
  ⟨by decide, serializable (Interleave.reachable_play acts_turn _ _)⟩

end RedHatPay.Monolith
