/-
**The monolith: every request is answered.**

A payment first locks the wallet of its shopper, and other rows only while it holds this one; a
request for a token locks the row of its token, and no other.  So a payment waits for its wallet
while another payment of the shopper holds it, and once it holds the wallet itself only for a
request for its token; a request for a token waits for whoever holds this row, and for nobody when
it holds the row itself.  No circle can come of that: finitely many requests all come to their
ends, with all locks given up, whichever of their statements the database refuses.

* `RedHatPay.Monolith.program`, `RedHatPay.Monolith.starting` — the requests with their
  transactions, side by side;
* `RedHatPay.Monolith.Attempts` — the step relation, with statements that are refused;
* `RedHatPay.Monolith.lockSpec` — the order in which a request asks for locks;
* `RedHatPay.Monolith.LockInv` — the locks that are held, and by whom;
* `RedHatPay.Monolith.all_answered` — **no deadlock, and no run without an end**.
-/

import RedHatPay.Lib.Termination
import RedHatPay.Monolith.Serializability

set_option relaxedAutoImplicit false
set_option autoImplicit false

namespace RedHatPay.Monolith

open Program Interleave

/-! ### Requests side by side -/

/-- A request with its transaction. -/
def program : Request → DbProgram Response
  | .createToken userId uuid => do
      let response ← createRequest userId uuid
      return .token response
  | .pay req clock => do
      let response ← payRequest req (clock 0)
      return .payment response

/-- When nothing else is going on, the request is served. -/
theorem run_program (db : Db) (r : Request) :
    serve db r = ((Program.run exec (program r) db.idle).1,
      (Program.run exec (program r) db.idle).2.committed) := by
  cases r with
  | createToken userId uuid =>
      rw [serve, program, run_bind, createToken]
      cases (Program.run exec (createRequest userId uuid) db.idle).1 <;> rfl
  | pay req clock =>
      rw [serve, program, run_bind, pay]
      cases (Program.run exec (payRequest req (clock 0)) db.idle).1 <;> rfl

/-- Any number of requests, before they have begun. -/
def starting {ι : Type} (db₀ : Db) (r : ι → Request) :
    Config ι DbOp DbOp.Res JavaException Response Session (Shared ι) :=
  ⟨fun i => program (r i), fun _ => .fresh, ⟨db₀, fun _ => none⟩⟩

/-! ### Statements that are refused -/

/-- Does the statement begin or end the transaction? -/
def DbOp.boundary : DbOp → Bool
  | .begin | .commit | .rollback => true
  | _ => false

theorem DbOp.ends_of_boundary {o : DbOp} (h : o.boundary = false) : o.ends = false := by
  cases o with
  | begin | commit | rollback => cases h
  | _ => rfl

/-- **The step relation, with statements that are refused**: a statement acts when it need not wait
any more; or the database refuses it, such as a key that another transaction has inserted in the
meantime.  Then the transaction loses its writes, and keeps its locks up to its end. -/
inductive Attempts {ι : Type} [DecidableEq ι] (i : ι) (g : Shared ι) (l : Session) (o : DbOp) :
    Except JavaException o.Res → Shared ι → Session → Prop
  | acts {a : Except JavaException o.Res} {g' : Shared ι} {l' : Session}
      (h : Acts i g l o a g' l') : Attempts i g l o a g' l'
  | refused (e : JavaException) (h : o.boundary = false) :
      Attempts i g l o (.error e) g { l with pending := Db.empty }

/-! ### The order of the locks -/

/-- The shopper of a request. -/
def shopperOf : Request → Int32
  | .createToken userId _ => userId
  | .pay req _ => req.userId

/-- The shopper of a row. -/
def Row.shopper : Row → Int32
  | .wallet id | .point id => id
  | .token key | .payment key => key.ownerId

/-- The row that a statement asks for, be it there or not. -/
def DbOp.asks : DbOp → Option Row
  | .findWalletWithLock id | .updateChargedMoney id _ => some (.wallet id)
  | .findTokenWithLock key | .updateStatus key _ | .saveToken key _ => some (.token key)
  | .savePayment key _ => some (.payment key)
  | .updatePoint id _ => some (.point id)
  | _ => none

theorem DbOp.asks_of_locks {o : DbOp} {view : Db} {row : Row} (h : o.locks view = some row) :
    o.asks = some row := by
  cases o with
  | findWalletWithLock id | updateChargedMoney id charged | findTokenWithLock key
  | updateStatus key status | updatePoint id amount =>
      obtain ⟨_, -, rfl⟩ := Option.map_eq_some_iff.1 h
      rfl
  | saveToken key status | savePayment key row => exact h
  | _ => cases h

theorem DbOp.asks_of_ends {o : DbOp} (h : o.ends = true) : o.asks = none := by
  cases o with
  | commit | rollback => rfl
  | _ => cases h

/-- When a request asks for the lock of a row: one for a token, when it holds none; a payment, when
it holds the wallet of its shopper, or asks for this one. -/
def InTurn : Request → List Row → Row → Prop
  | .createToken _ _, locked, _ => locked = []
  | .pay req _, locked, row => .wallet req.userId ∈ row :: locked

/-- The rows that a request may ask for: those of its shopper, in turn. -/
structure MayLock (r : Request) (locked : List Row) (row : Row) : Prop where
  shopper : row.shopper = shopperOf r
  turn : InTurn r locked row

/-- **The order of the locks**, for a request up to the end of its transaction. -/
def lockSpec (r : Request) : Spec DbOp DbOp.Res JavaException Session where
  pre l o := l.ended = false ∧ ∀ row, o.asks = some row → MayLock r l.locked row
  post l o a l' := (rowSpec (shopperOf r)).post l o a l' ∧ (o.asks = none → l'.locked ⊆ l.locked)

/-- A statement that asks for no lock takes none. -/
theorem locked_next_subset {o : DbOp} (h : o.asks = none) (l : Session) (db : Db) :
    (l.next db o).locked ⊆ l.locked := by
  cases hends : o.ends with
  | true =>
      rw [Session.next_locked_of_ends hends]
      exact List.nil_subset _
  | false =>
      rcases Session.next_locked_cases hends l db with hsame | ⟨row, hlocks, -⟩
      · rw [hsame]
        exact List.Subset.refl _
      · rw [DbOp.asks_of_locks hlocks] at h
        cases h

/-- The order is kept to, whether the statements are executed or refused. -/
theorem lockSpec_of_attempts {ι : Type} [DecidableEq ι] {r : Request} {i : ι} {g g' : Shared ι}
    {l l' : Session} {o : DbOp} {a : Except JavaException o.Res} (h : Attempts i g l o a g' l')
    (hl : l.ended = false) : (lockSpec r).post l o a l' := by
  cases h with
  | acts h =>
      refine ⟨rowSpec_of_acts h, fun hnone => ?_⟩
      rw [h.session]
      exact locked_next_subset hnone _ _
  | refused e h =>
      refine ⟨⟨hl.trans (DbOp.ends_of_boundary h).symm, fun _ _ hrow => hrow, ?_⟩,
        fun _ _ hrow => hrow⟩
      cases o with
      | begin | commit | rollback => cases h
      | findWalletWithLock id => exact nofun
      | _ => trivial

theorem mayLock_of_mayIssue {req : PayRequest} {clock : Nat → LocalDateTime} {l : Session}
    {o : DbOp} {row : Row} (hissue : mayIssue req.userId l o) (hrow : o.asks = some row) :
    MayLock (.pay req clock) l.locked row := by
  cases o with
  | findWalletWithLock id =>
      cases hrow
      obtain rfl : id = req.userId := hissue
      exact ⟨rfl, List.mem_cons_self⟩
  | updateChargedMoney id charged | updatePoint id amount | findTokenWithLock key
  | updateStatus key status | saveToken key status | savePayment key entity =>
      cases hrow
      exact ⟨hissue.1, List.mem_cons_of_mem _ hissue.2⟩
  | _ => cases hrow

/-- A payment keeps to the order. -/
theorem safe_payRequest_locks (req : PayRequest) (clock : Nat → LocalDateTime) :
    Safe (lockSpec (.pay req clock)) (fun _ l => l.ended = true) (payRequest req (clock 0))
      .fresh := by
  refine Safe.weaken ?_ ?_ (safe_payRequest req (clock 0))
  · exact fun l o h => ⟨h.1, fun row hrow => mayLock_of_mayIssue h.2 hrow⟩
  · exact fun _ _ _ _ _ hpost => hpost.1

/-- A statement that asks for no lock keeps to the order. -/
theorem MayLock.of_none {r : Request} {l : Session} {o : DbOp} (h : o.asks = none) (row : Row)
    (hrow : o.asks = some row) : MayLock r l.locked row := by
  rw [h] at hrow
  cases hrow

/-- A request for a token asks for the lock of its row, when it has begun. -/
theorem safe_createRequest_locks (userId : Int32) (uuid : UUID) :
    Safe (lockSpec (.createToken userId uuid)) (fun _ l => l.ended = true)
      (createRequest userId uuid) .fresh := by
  refine (safe_bind _ _ _ _).2 ⟨⟨rfl, MayLock.of_none rfl⟩, fun a l h => ?_⟩
  obtain ⟨⟨hended, -, rfl⟩, hlocked⟩ := h
  have hnone : l.locked = [] := List.subset_nil.1 (hlocked rfl)
  have hsave : ∀ row, (DbOp.saveToken (RdbmsTokenRepository.tokenKey ⟨userId⟩
      (TokenService.newTokenId uuid)) TokenStatus.unused.value).asks = some row →
      MayLock (.createToken userId uuid) l.locked row := by
    rintro row ⟨⟩
    exact ⟨rfl, hnone⟩
  refine (safe_after _ _ _ l).2 ⟨⟨hended, hsave⟩, fun a l' h => ?_⟩
  have hpre : ∀ o : DbOp, o.ends = true → (lockSpec (.createToken userId uuid)).pre l' o :=
    fun o ho => ⟨h.1.1, MayLock.of_none (DbOp.asks_of_ends ho)⟩
  cases a with
  | ok v => exact safe_finish _ hpre fun _ _ _ h => h.1
  | error e => exact safe_finish (.error e) hpre fun _ _ _ h => h.1

/-- **Every request keeps to the order**, and ends its transaction. -/
theorem safe_program (r : Request) :
    Safe (lockSpec r) (fun _ l => l.ended = true) (program r) .fresh := by
  cases r with
  | createToken userId uuid =>
      refine (safe_bind _ _ _ _).2 ((safe_createRequest_locks userId uuid).mono fun a l h => ?_)
      cases a <;> exact h
  | pay req clock =>
      refine (safe_bind _ _ _ _).2 ((safe_payRequest_locks req clock).mono fun a l h => ?_)
      cases a <;> exact h

/-! ### The locks that are held -/

variable {ι : Type} [DecidableEq ι]

/-- A statement does not touch the locks of other requests. -/
theorem lock_iff_of_ne {g : Shared ι} {i j : ι} {o : DbOp} {view : Db} {row : Row} (hij : j ≠ i)
    (hfree : ∀ row, o.locks view = some row → g.holder row = none ∨ g.holder row = some i) :
    g.lock i o view row = some j ↔ g.holder row = some j := by
  refine ⟨fun h => ?_, lock_of_ne hij hfree⟩
  rw [Shared.lock] at h
  split at h
  · change (if g.holder row = some i then none else g.holder row) = some j at h
    split at h
    · cases h
    · exact h
  · cases hlocks : o.locks view with
    | none =>
        rw [hlocks] at h
        exact h
    | some row' =>
        rw [hlocks] at h
        change Function.update g.holder row' (some i) row = some j at h
        by_cases hrow : row = row'
        · rw [hrow, Function.update_self] at h
          exact absurd (Option.some.inj h).symm hij
        · rw [Function.update_of_ne hrow] at h
          exact h

/-- The locks that a request holds after a statement within its transaction. -/
theorem lock_self_iff {g : Shared ι} {i : ι} {o : DbOp} {view : Db} {l : List Row}
    (hends : o.ends = false) (hl : ∀ row, g.holder row = some i ↔ row ∈ l) {row : Row} :
    g.lock i o view row = some i ↔ row ∈ (o.locks view).toList ++ l := by
  refine ⟨fun h => ?_, lock_self hends fun row hrow => (hl row).2 hrow⟩
  rw [Shared.lock, if_neg (Bool.eq_false_iff.1 hends)] at h
  cases hlocks : o.locks view with
  | none =>
      rw [hlocks] at h
      exact List.mem_append_right _ ((hl row).1 h)
  | some row' =>
      rw [hlocks] at h
      change Function.update g.holder row' (some i) row = some i at h
      by_cases hrow : row = row'
      · rw [hrow]
        exact List.mem_append_left _ List.mem_cons_self
      · rw [Function.update_of_ne hrow] at h
        exact List.mem_append_right _ ((hl row).1 h)

/-- It holds none after the end of its transaction. -/
theorem lock_ends_ne {g : Shared ι} {i : ι} {o : DbOp} {view : Db} (hends : o.ends = true)
    (row : Row) : g.lock i o view row ≠ some i := by
  rw [Shared.lock, if_pos hends]
  split
  · intro hnone
    cases hnone
  · assumption

/-- **The locks that a request holds**: those that it has recorded; all of them are those of rows
of its shopper; a payment that holds any of them holds the wallet; and there are none after the end
of the transaction. -/
structure HoldsInOrder (r : Request) (holder : Row → Option ι) (i : ι) (l : Session) : Prop where
  holder : ∀ row, holder row = some i ↔ row ∈ l.locked
  shopper : ∀ row, row ∈ l.locked → row.shopper = shopperOf r
  first : ∀ req clock, r = .pay req clock → ∀ row, row ∈ l.locked → .wallet req.userId ∈ l.locked
  ended : l.ended = true → l.locked = []

/-- The invariant of requests side by side. -/
def LockInv (r : ι → Request)
    (c : Config ι DbOp DbOp.Res JavaException Response Session (Shared ι)) : Prop :=
  ∀ i, HoldsInOrder (r i) c.glob.holder i (c.loc i)

/-- The locks of a request after one of its statements. -/
theorem HoldsInOrder.next {r : Request} {i : ι} {g : Shared ι} {l : Session} {o : DbOp}
    (h : HoldsInOrder r g.holder i l) (hpre : (lockSpec r).pre l o) :
    HoldsInOrder r (g.lock i o (l.on g.committed).view) i (l.next g.committed o) := by
  cases hends : o.ends with
  | true =>
      have hnone : (l.next g.committed o).locked = [] := Session.next_locked_of_ends hends _ _
      have hmem : ∀ row, row ∉ (l.next g.committed o).locked := fun row => by
        rw [hnone]
        exact List.not_mem_nil
      exact ⟨fun row => iff_of_false (lock_ends_ne hends row) (hmem row),
        fun row hrow => absurd hrow (hmem row), fun _ _ _ row hrow => absurd hrow (hmem row),
        fun _ => hnone⟩
  | false =>
      have hnot : (l.next g.committed o).ended = true → (l.next g.committed o).locked = [] := by
        intro htrue
        rw [Session.next_ended, hends] at htrue
        cases htrue
      have hholder : ∀ row, g.lock i o (l.on g.committed).view row = some i ↔
          row ∈ (l.next g.committed o).locked := by
        intro row
        rw [Session.next_locked hends]
        exact lock_self_iff hends h.holder
      rcases Session.next_locked_cases hends l g.committed with hsame | ⟨row, hlocks, hmore⟩
      · refine ⟨hholder, ?_, ?_, hnot⟩
        · rw [hsame]
          exact h.shopper
        · rw [hsame]
          exact h.first
      · obtain ⟨hshopper, hturn⟩ := hpre.2 row (DbOp.asks_of_locks hlocks)
        refine ⟨hholder, ?_, ?_, hnot⟩
        · rw [hmore]
          exact List.forall_mem_cons.2 ⟨hshopper, h.shopper⟩
        · rw [hmore]
          rintro req clock rfl _ _
          exact hturn

/-- **The step**: a statement keeps the invariant. -/
theorem LockInv.next {r : ι → Request}
    {c : Config ι DbOp DbOp.Res JavaException Response Session (Shared ι)} (h : LockInv r c) {i : ι}
    {o : DbOp} {a : Except JavaException o.Res} {g : Shared ι} {l : Session}
    (hpre : (lockSpec (r i)).pre (c.loc i) o) (hact : Attempts i c.glob (c.loc i) o a g l)
    (p : DbProgram Response) : LockInv r (c.next i p l g) := by
  cases hact with
  | acts hact =>
      obtain ⟨hfree, -, rfl, rfl⟩ := hact
      refine c.forall_next (P := fun j _ l => HoldsInOrder (r j) (c.glob.lock i o _) j l)
        ((h i).next hpre) fun j hji =>
          ⟨fun row => ?_, (h j).shopper, (h j).first, (h j).ended⟩
      exact (lock_iff_of_ne hji hfree).trans ((h j).holder row)
  | refused e hboundary =>
      -- the locks are those of before
      exact c.forall_next (P := fun j _ l => HoldsInOrder (r j) c.glob.holder j l)
        ⟨(h i).holder, (h i).shopper, (h i).first, (h i).ended⟩ fun j _ => h j

variable {db₀ : Db} {r : ι → Request}
  {c : Config ι DbOp DbOp.Res JavaException Response Session (Shared ι)}

/-- Requests that keep to the order of the locks. -/
structure Ordered (r : ι → Request)
    (c : Config ι DbOp DbOp.Res JavaException Response Session (Shared ι)) : Prop where
  locks : LockInv r c
  next : ∀ {i o k}, c.prog i = .call o k → (lockSpec (r i)).pre (c.loc i) o
  ended : ∀ {i v}, c.prog i = .ret v → (c.loc i).ended = true

/-- **The run**: in every reachable configuration all requests keep to the order. -/
theorem ordered_of_reachable (h : Reachable Attempts (starting db₀ r) c) : Ordered r c := by
  have h₀ : AllSafe (fun i => lockSpec (r i)) (fun _ _ l => l.ended = true) (starting db₀ r) :=
    fun i => safe_program (r i)
  have hstart : LockInv r (starting db₀ r) := by
    refine fun i => ⟨fun row => iff_of_false nofun List.not_mem_nil, fun row hrow => ?_,
      fun _ _ _ row hrow => ?_, fun _ => rfl⟩
    · cases hrow
    · cases hrow
  obtain ⟨hsafe, hinv⟩ := Interleave.invariant_safe (J := LockInv r) h₀ hstart
    (fun c hsafe hinv i o k a g l hp hact => by
      have hi := hsafe i
      rw [hp] at hi
      exact ⟨lockSpec_of_attempts hact hi.1.1, hinv.next hi.1 hact (k a)⟩) h
  refine ⟨hinv, fun {i o k} hp => ?_, fun {i v} hv => ?_⟩
  · have hi := hsafe i
    rw [hp] at hi
    exact hi.1
  · have hi := hsafe i
    rw [hv] at hi
    exact hi

/-! ### Who waits for whom -/

/-- Request `i` waits for request `j`: this one holds the lock that `i` needs. -/
def WaitsFor (c : Config ι DbOp DbOp.Res JavaException Response Session (Shared ι)) (i j : ι) :
    Prop :=
  j ≠ i ∧ ∃ o k row, c.prog i = .call o k ∧
    o.locks ((c.loc i).on c.glob.committed).view = some row ∧ c.glob.holder row = some j

/-- A request that has not ended and waits for nobody can move. -/
theorem canMove_of_not_waitsFor {i : ι} {o : DbOp}
    {k : Except JavaException o.Res → DbProgram Response} (hp : c.prog i = .call o k)
    (hnot : ∀ j, ¬ WaitsFor c i j) : CanMove Acts c i := by
  refine ⟨o, k, _, _, _, hp, fun row hrow => ?_, rfl, rfl, rfl⟩
  cases hheld : c.glob.holder row with
  | none => exact Or.inl rfl
  | some j =>
      by_cases hji : j = i
      · exact Or.inr (congrArg some hji)
      · exact absurd ⟨hji, o, k, row, hp, hrow, hheld⟩ (hnot j)

/-- A request that waits can not move. -/
theorem WaitsFor.not_canMove {i j : ι} (h : WaitsFor c i j) : ¬ CanMove Acts c i := by
  rintro ⟨o', k', a, g, l, hp', hact⟩
  obtain ⟨hji, o, k, row, hp, hrow, hheld⟩ := h
  rw [hp'] at hp
  cases hp
  have hfree := hact.free row hrow
  rw [hheld] at hfree
  rcases hfree with hnone | hself
  · cases hnone
  · exact hji (Option.some.inj hself)

namespace Ordered

omit [DecidableEq ι] in
/-- What is waited for: a row that the one may ask for, and the other has locked. -/
theorem row_of_waitsFor (h : Ordered r c) {i j : ι} (hw : WaitsFor c i j) :
    ∃ row, MayLock (r i) (c.loc i).locked row ∧ row ∈ (c.loc j).locked := by
  obtain ⟨-, o, k, row, hp, hrow, hheld⟩ := hw
  exact ⟨row, (h.next hp).2 row (DbOp.asks_of_locks hrow), ((h.locks j).holder row).1 hheld⟩

omit [DecidableEq ι] in
/-- Only requests of the same shopper wait for each other. -/
theorem shopper_of_waitsFor (h : Ordered r c) {i j : ι} (hw : WaitsFor c i j) :
    shopperOf (r j) = shopperOf (r i) := by
  obtain ⟨row, hmay, hmem⟩ := h.row_of_waitsFor hw
  exact ((h.locks j).shopper row hmem).symm.trans hmay.shopper

omit [DecidableEq ι] in
/-- A request for a token that holds a lock waits for nobody. -/
theorem not_waitsFor_of_creation (h : Ordered r c) {i : ι} {userId : Int32} {uuid : UUID}
    (hr : r i = .createToken userId uuid) {row : Row} (hrow : row ∈ (c.loc i).locked) (j : ι) :
    ¬ WaitsFor c i j := by
  intro hw
  obtain ⟨row', hmay, -⟩ := h.row_of_waitsFor hw
  have hturn := hmay.turn
  rw [hr] at hturn
  have hnone : (c.loc i).locked = [] := hturn
  rw [hnone] at hrow
  cases hrow

omit [DecidableEq ι] in
/-- A payment that holds the wallet of its shopper waits only for requests for a token. -/
theorem creation_of_waitsFor (h : Ordered r c) {i j : ι} {req : PayRequest}
    {clock : Nat → LocalDateTime} (hr : r i = .pay req clock)
    (hwallet : .wallet req.userId ∈ (c.loc i).locked) (hw : WaitsFor c i j) :
    ∃ userId uuid, r j = .createToken userId uuid := by
  cases hr' : r j with
  | createToken userId uuid => exact ⟨userId, uuid, rfl⟩
  | pay req' clock' =>
      -- both would hold the wallet
      obtain ⟨row, -, hmem⟩ := h.row_of_waitsFor hw
      have hfirst := (h.locks j).first req' clock' hr' row hmem
      have hshopper := h.shopper_of_waitsFor hw
      rw [hr, hr'] at hshopper
      have huser : req'.userId = req.userId := hshopper
      rw [huser] at hfirst
      have hj := ((h.locks j).holder _).2 hfirst
      have hi := ((h.locks i).holder _).2 hwallet
      rw [hi] at hj
      exact absurd (Option.some.inj hj).symm hw.1

omit [DecidableEq ι] in
/-- A request that has ended holds no lock. -/
theorem unlocked (h : Ordered r c) {i : ι} {v : Except JavaException Response}
    (hv : c.prog i = .ret v) (row : Row) : c.glob.holder row ≠ some i := by
  intro hrow
  have hmem := ((h.locks i).holder row).1 hrow
  rw [(h.locks i).ended (h.ended hv)] at hmem
  cases hmem

/-- A request for a token that holds a lock can move. -/
theorem canMove_of_creation (h : Ordered r c) {i : ι} {userId : Int32} {uuid : UUID}
    (hr : r i = .createToken userId uuid) {row : Row} (hrow : row ∈ (c.loc i).locked) :
    CanMove Acts c i := by
  cases hp : c.prog i with
  | ret v => exact absurd (((h.locks i).holder row).2 hrow) (h.unlocked hp row)
  | call o k => exact canMove_of_not_waitsFor hp (h.not_waitsFor_of_creation hr hrow)

/-- **Waiting ends after two steps**: a request that waits and is waited for is a payment, which
waits for a request for a token, and this one can move. -/
theorem chain (h : Ordered r c) {i j k : ι} (hij : WaitsFor c i j) (hjk : WaitsFor c j k) :
    (∃ req clock, r j = .pay req clock) ∧ (∃ userId uuid, r k = .createToken userId uuid) ∧
      CanMove Acts c k := by
  obtain ⟨row, -, hj⟩ := h.row_of_waitsFor hij
  obtain ⟨row', -, hk⟩ := h.row_of_waitsFor hjk
  cases hr : r j with
  | createToken userId uuid => exact absurd hjk (h.not_waitsFor_of_creation hr hj k)
  | pay req clock =>
      obtain ⟨userId, uuid, hr'⟩ :=
        h.creation_of_waitsFor hr ((h.locks j).first req clock hr row hj) hjk
      exact ⟨⟨req, clock, rfl⟩, ⟨userId, uuid, hr'⟩, h.canMove_of_creation hr' hk⟩

end Ordered

/-! ### No deadlock -/

/-- What is to be shown of a reachable configuration. -/
structure Lively (r : ι → Request)
    (c : Config ι DbOp DbOp.Res JavaException Response Session (Shared ι)) : Prop where
  /-- A request has ended, or it can move, or it waits for another one. -/
  moves : ∀ i, (∃ v, c.prog i = .ret v) ∨ CanMove Acts c i ∨ ∃ j, WaitsFor c i j
  /-- It waits only for requests of its own shopper. -/
  shopper : ∀ i j, WaitsFor c i j → shopperOf (r j) = shopperOf (r i)
  /-- Who waits and is waited for is a payment, and waits for a request for a token; this one can
  move. -/
  chain : ∀ i j k, WaitsFor c i j → WaitsFor c j k → (∃ req clock, r j = .pay req clock) ∧
    (∃ userId uuid, r k = .createToken userId uuid) ∧ CanMove Acts c k
  /-- Requests do not wait in a circle. -/
  acyclic : ∀ i, ¬ Relation.TransGen (WaitsFor c) i i
  /-- A request that has ended has given up its locks. -/
  unlocked : ∀ i v, c.prog i = .ret v → ∀ row, c.glob.holder row ≠ some i

/-- **No deadlock**: whoever waits, waits for a request that can move, or for one that waits for
such a request. -/
theorem lively_of_reachable (h : Reachable Attempts (starting db₀ r) c) : Lively r c := by
  have hordered := ordered_of_reachable h
  refine ⟨fun i => ?_, fun i j => hordered.shopper_of_waitsFor,
    fun i j k => hordered.chain, fun i hcircle => ?_, fun i v => hordered.unlocked⟩
  · cases hp : c.prog i with
    | ret v => exact Or.inl ⟨v, rfl⟩
    | call o k =>
        refine Or.inr (or_iff_not_imp_right.2 fun hnot => ?_)
        exact canMove_of_not_waitsFor hp (not_exists.1 hnot)
  · -- the third one of the circle waits, and can move
    obtain ⟨j, hij, hji⟩ := Relation.TransGen.head'_iff.1 hcircle
    obtain ⟨k, hjk, hki⟩ := Relation.TransGen.head'_iff.1 (hcircle.trans_right hji)
    obtain ⟨l, hkl, -⟩ := Relation.TransGen.head'_iff.1 (hcircle.trans_right hki)
    exact hkl.not_canMove (hordered.chain hij hjk).2.2

/-- Somebody can move, until all requests have ended. -/
theorem Lively.done_or_canMove (h : Lively r c) : Done c ∨ ∃ i, CanMove Acts c i := by
  refine or_iff_not_imp_left.2 fun hnot => ?_
  obtain ⟨i, hi⟩ := not_forall.1 hnot
  rcases h.moves i with hend | hmove | ⟨j, hij⟩
  · exact absurd hend hi
  · exact ⟨i, hmove⟩
  · rcases h.moves j with ⟨v, hv⟩ | hmove | ⟨k, hjk⟩
    · obtain ⟨-, -, -, row, -, -, hheld⟩ := hij
      exact absurd hheld (h.unlocked j v hv row)
    · exact ⟨j, hmove⟩
    · exact ⟨k, (h.chain i j k hij hjk).2.2⟩

/-- **All requests are answered**: in every configuration that finitely many requests can reach,
whichever of their statements are refused, nobody is blocked for good, the run can be completed,
and it can not go on for ever. -/
theorem all_answered [Finite ι] (h : Reachable Attempts (starting db₀ r) c) :
    Lively r c ∧ (∃ c', Reachable Acts c c' ∧ Done c' ∧ ∀ row, c'.glob.holder row = none) ∧
      ∀ run : Nat → Config ι DbOp DbOp.Res JavaException Response Session (Shared ι),
        ¬ ∀ n, Step Attempts (run n) (run (n + 1)) := by
  have hlively : ∀ c', Reachable Acts c c' → Lively r c' := fun c' hc' =>
    lively_of_reachable (h.trans (hc'.mono fun _ _ _ _ _ _ _ => .acts))
  refine ⟨lively_of_reachable h, ?_, no_infinite_run⟩
  obtain ⟨c', hc', hdone⟩ := exists_done (fun c' hc' => (hlively c' hc').done_or_canMove) .refl
  refine ⟨c', hc', hdone, fun row => ?_⟩
  cases hheld : c'.glob.holder row with
  | none => rfl
  | some i =>
      obtain ⟨v, hv⟩ := hdone i
      exact absurd hheld ((hlively c' hc').unlocked i v hv row)

/-- Two payments of the same shopper with a used token, and a request for a token that has drawn
the same id and has saved it.  The first payment has locked the wallet and waits for the token, and
the second payment waits for the wallet. -/
def contended :
    Config (Option Bool) DbOp DbOp.Res JavaException Response Session (Shared (Option Bool)) :=
  (List.replicate 2 none ++ List.replicate 5 (some true) ++ List.replicate 4 (some false)).foldl
    (.play id turn) (starting (oneShopper 100 0 .used) fun
      | some _ => .pay (presented 40) fun _ => ⟨0, 0⟩
      | none => .createToken 1 ⟨0xabcd <<< 48, 0⟩)

theorem all_answered_contended :
    WaitsFor contended (some false) (some true) ∧ WaitsFor contended (some true) none ∧
      ∃ c', Reachable Acts contended c' ∧ Done c' ∧ ∀ row, c'.glob.holder row = none :=
  ⟨⟨by decide, .findWalletWithLock 1, _, .wallet 1, rfl, by decide, by decide⟩,
    ⟨by decide, .findTokenWithLock ⟨1, "abcd"⟩, _, .token ⟨1, "abcd"⟩, rfl, by decide, by decide⟩,
    (all_answered ((reachable_play acts_turn _ _).mono fun _ _ _ _ _ _ _ => .acts)).2.1⟩

end RedHatPay.Monolith
