/-
**The monolith: concurrent requests and row locks.**

Any number of requests run side by side, one statement at a time.  A transaction sees its own
writes over the committed tables, as they are at that moment.  Whatever finds a row with its lock,
changes it or saves it takes the lock of this row, and waits while another transaction holds it;
plain reads lock nothing and never wait.  The end of a transaction publishes or drops its writes
and gives up its locks.

The second half of the module shows what a payment request does whatever the database answers: it
first locks the wallet of its shopper, and then touches only rows of this shopper.

* `RedHatPay.Monolith.Session`, `RedHatPay.Monolith.Shared`, `RedHatPay.Monolith.Acts` — a
  transaction, the committed tables with their locks, and the step relation;
* `RedHatPay.Monolith.rowSpec` — the discipline of a request of a given shopper;
* `RedHatPay.Monolith.safe_payRequest` — **a payment request keeps to the discipline**.
-/

import RedHatPay.Lib.Interleave
import RedHatPay.Monolith.PaymentResource

set_option relaxedAutoImplicit false
set_option autoImplicit false

namespace RedHatPay.Monolith

open Program

/-! ### Transactions side by side -/

/-- The rows that can be locked. -/
inductive Row
  | wallet (id : Int32)
  | token (key : TokenKey)
  | payment (key : TokenKey)
  | point (id : Int32)
  deriving DecidableEq

/-- The transaction of a request: its writes, the rows that it has locked, and has it ended? -/
structure Session where
  pending : Db
  locked : List Row
  ended : Bool

/-- A request that has not begun its transaction. -/
def Session.fresh : Session := ⟨Db.empty, [], false⟩

/-- The committed tables, and the holders of the locks. -/
structure Shared (ι : Type) where
  committed : Db
  holder : Row → Option ι

/-- The row that a statement locks.  A `SELECT` with a lock and an `UPDATE` lock the row of their
key, if there is one.  A `save` locks its row in any case: the second transaction that inserts a
key waits for the end of the first one. -/
def DbOp.locks (view : Db) : DbOp → Option Row
  | .findWalletWithLock id => (view.wallets id).map fun _ => .wallet id
  | .updateChargedMoney id _ => (view.wallets id).map fun _ => .wallet id
  | .findTokenWithLock key => (view.tokens key).map fun _ => .token key
  | .updateStatus key _ => (view.tokens key).map fun _ => .token key
  | .saveToken key _ => some (.token key)
  | .savePayment key _ => some (.payment key)
  | .updatePoint id _ => (view.points id).map fun _ => .point id
  | _ => none

/-- Does the statement end the transaction? -/
def DbOp.ends : DbOp → Bool
  | .commit | .rollback => true
  | _ => false

/-- What a transaction works on. -/
def Session.on (l : Session) (db : Db) : DbState := ⟨db, l.pending⟩

/-- The transaction after a statement. -/
def Session.next (l : Session) (db : Db) (o : DbOp) : Session where
  pending := (exec o (l.on db)).2.pending
  locked := if o.ends then [] else (o.locks (l.on db).view).toList ++ l.locked
  ended := o.ends

@[simp] theorem Session.next_ended (l : Session) (db : Db) (o : DbOp) :
    (l.next db o).ended = o.ends := rfl

theorem Session.next_locked {o : DbOp} (hends : o.ends = false) (l : Session) (db : Db) :
    (l.next db o).locked = (o.locks (l.on db).view).toList ++ l.locked := by
  rw [next, hends]
  rfl

/-- A statement within a transaction takes one lock, or none. -/
theorem Session.next_locked_cases {o : DbOp} (hends : o.ends = false) (l : Session) (db : Db) :
    (l.next db o).locked = l.locked ∨
      ∃ row, o.locks (l.on db).view = some row ∧ (l.next db o).locked = row :: l.locked := by
  have hlocked := next_locked hends l db
  cases hlocks : o.locks (l.on db).view with
  | none =>
      rw [hlocks] at hlocked
      exact Or.inl hlocked
  | some row =>
      rw [hlocks] at hlocked
      exact Or.inr ⟨row, rfl, hlocked⟩

theorem Session.next_locked_of_ends {o : DbOp} (hends : o.ends = true) (l : Session) (db : Db) :
    (l.next db o).locked = [] := by
  rw [next, hends]
  rfl

/-- A lock is kept to the end of the transaction. -/
theorem Session.mem_next {l : Session} {db : Db} {o : DbOp} (hends : o.ends = false) {row : Row}
    (h : row ∈ l.locked) : row ∈ (l.next db o).locked := by
  rw [next_locked hends]
  exact List.mem_append_right _ h

/-- A wallet that is found is locked. -/
theorem Session.wallet_mem_next {l : Session} {db : Db} {id : Int32} {row : WalletEntity}
    (h : (l.on db).view.wallets id = some row) :
    .wallet id ∈ (l.next db (.findWalletWithLock id)).locked := by
  have hlocks : DbOp.locks (l.on db).view (.findWalletWithLock id) = some (.wallet id) := by
    rw [DbOp.locks, h]
    rfl
  rw [next_locked rfl, hlocks]
  exact List.mem_cons_self

variable {ι : Type} [DecidableEq ι]

/-- The holders of the locks after a statement of `i`. -/
def Shared.lock (g : Shared ι) (i : ι) (o : DbOp) (view : Db) : Row → Option ι :=
  if o.ends then fun row => if g.holder row = some i then none else g.holder row
  else match o.locks view with
    | some row => Function.update g.holder row (some i)
    | none => g.holder

/-- **The step relation**: a statement of request `i`.  It has to wait while another request holds
the lock that it needs. -/
structure Acts (i : ι) (g : Shared ι) (l : Session) (o : DbOp)
    (a : Except JavaException o.Res) (g' : Shared ι) (l' : Session) : Prop where
  free : ∀ row, o.locks (l.on g.committed).view = some row →
    g.holder row = none ∨ g.holder row = some i
  answer : a = (exec o (l.on g.committed)).1
  shared : g' = ⟨(exec o (l.on g.committed)).2.committed, g.lock i o (l.on g.committed).view⟩
  session : l' = l.next g.committed o

/-! ### The discipline of a request -/

/-- The statement reads or writes a row of the shopper that others may write, and is not the one
that locks the wallet. -/
def DbOp.ofShopper (shopper : Int32) : DbOp → Prop
  | .updateChargedMoney id _ | .findPoint id | .updatePoint id _ => id = shopper
  | .findTokenWithLock key | .updateStatus key _ | .saveToken key _ => key.ownerId = shopper
  | .findPayment key | .savePayment key _ => key.ownerId = shopper
  | _ => False

/-- The statements that a request of the shopper may issue: until it has locked the shopper's
wallet, only reads of shoppers and stores. -/
def mayIssue (shopper : Int32) (l : Session) : DbOp → Prop
  | .begin | .commit | .rollback | .findShopper _ | .findStore _ => True
  | .findWalletWithLock id => id = shopper
  | o => o.ofShopper shopper ∧ .wallet shopper ∈ l.locked

/-- What the answer of a statement tells about the transaction after it. -/
def answered (l' : Session) : (o : DbOp) → Except JavaException o.Res → Prop
  | .findWalletWithLock id, a => ∀ row, a = .ok (some row) → .wallet id ∈ l'.locked
  | .begin, a => a = .ok ()
  | .commit, a => a = .ok ()
  | .rollback, a => a = .ok ()
  | _, _ => True

/-- **The discipline** of a request of the shopper, up to the end of its transaction. -/
def rowSpec (shopper : Int32) : Spec DbOp DbOp.Res JavaException Session where
  pre l o := l.ended = false ∧ mayIssue shopper l o
  post l o a l' := l'.ended = o.ends ∧ (o.ends = false → l.locked ⊆ l'.locked) ∧ answered l' o a

theorem rowSpec_of_acts {shopper : Int32} {i : ι} {g g' : Shared ι} {l l' : Session} {o : DbOp}
    {a : Except JavaException o.Res} (h : Acts i g l o a g' l') :
    (rowSpec shopper).post l o a l' := by
  rw [h.answer, h.session]
  refine ⟨rfl, fun hends row hrow => Session.mem_next hends hrow, ?_⟩
  cases o with
  | findWalletWithLock id =>
      intro row hrow
      have hfound : (l.on g.committed).view.wallets id = some row := Except.ok.inj hrow
      exact Session.wallet_mem_next hfound
  | begin | commit | rollback => rfl
  | _ => trivial

/-! ### The repositories keep to the discipline -/

/-- The calls that a request of the shopper may make. -/
def mayCall (shopper : Int32) (l : Session) : RepoOp → Prop
  | .loadShopper _ | .loadStore _ => True
  | .loadWallet owner => owner.id.value = shopper
  | .loadToken id _ | .loadPoint id => id.value = shopper ∧ .wallet shopper ∈ l.locked
  | .storeToken token => token.shopperId.value = shopper ∧ .wallet shopper ∈ l.locked
  | .storeWallet w => w.owner.id.value = shopper ∧ .wallet shopper ∈ l.locked
  | .storePayment p => p.shopperId.value = shopper ∧ .wallet shopper ∈ l.locked
  | .storePoint point => point.ownerId.value = shopper ∧ .wallet shopper ∈ l.locked
  | .createToken _ | .loadPayment _ _ => False

/-- What the answer of a call tells. -/
def returned (shopper : Int32) (l' : Session) : (o : RepoOp) → Except JavaException o.Res → Prop
  | .loadShopper id, a => ∀ s, a = .ok s → s.id = id
  | .loadWallet owner, a => ∀ w, a = .ok w → w.owner = owner ∧ .wallet shopper ∈ l'.locked
  | .loadToken id _, a => ∀ token, a = .ok (some token) → token.shopperId = id
  | .loadPoint id, a => ∀ point, a = .ok point → point.ownerId = id
  | _, _ => True

/-- The discipline in terms of repository calls. -/
def callSpec (shopper : Int32) : Spec RepoOp RepoOp.Res JavaException Session where
  pre l o := l.ended = false ∧ mayCall shopper l o
  post l o a l' := l'.ended = false ∧ l.locked ⊆ l'.locked ∧ returned shopper l' o a

/-- A repository method that issues one statement, which does not end the transaction. -/
theorem safe_callSpec_query {shopper : Int32} {l : Session} {o : RepoOp} {q : DbOp}
    {f : q.Res → Except JavaException o.Res} (hends : q.ends = false) (hl : l.ended = false)
    (hissue : mayIssue shopper l q)
    (hret : ∀ a l', answered l' q a → l.locked ⊆ l'.locked → returned shopper l' o (a.bind f)) :
    Safe (rowSpec shopper) ((callSpec shopper).post l o) (query q f) l := by
  refine ⟨⟨hl, hissue⟩, fun a l' h => ?_⟩
  obtain ⟨hended, hlocked, ha⟩ := h
  exact ⟨hended.trans hends, hlocked hends, hret a l' ha (hlocked hends)⟩

/-- **The repositories keep to the discipline**, if the use case does. -/
theorem safe_rdbms {shopper : Int32} (o : RepoOp) (l : Session) (h : (callSpec shopper).pre l o) :
    Safe (rowSpec shopper) ((callSpec shopper).post l o) (rdbms o) l := by
  obtain ⟨hl, hcall⟩ := h
  cases o with
  | loadShopper id =>
      refine safe_callSpec_query rfl hl trivial fun a l' _ _ s hs => ?_
      obtain ⟨entity, -, hs⟩ := bind_eq_ok.1 hs
      obtain ⟨name, -, hs⟩ := bind_eq_ok.1 hs
      cases hs
      rfl
  | loadStore id => exact safe_callSpec_query rfl hl trivial fun _ _ _ _ => trivial
  | loadWallet owner =>
      refine safe_callSpec_query rfl hl hcall fun a l' ha _ w hw => ?_
      obtain ⟨entity, hentity, hw⟩ := bind_eq_ok.1 hw
      obtain ⟨row, hrow, hw⟩ := bind_eq_ok.1 hw
      obtain ⟨chargedMoney, -, hw⟩ := bind_eq_ok.1 hw
      obtain ⟨autoChargeMoney, -, hw⟩ := bind_eq_ok.1 hw
      cases hw
      cases entity with
      | none => cases hrow
      | some row' =>
          have hmem := ha row' hentity
          have howner : owner.id.value = shopper := hcall
          rw [howner] at hmem
          exact ⟨rfl, hmem⟩
  | loadToken id tokenId =>
      refine safe_callSpec_query rfl hl hcall fun a l' _ _ token htoken => ?_
      obtain ⟨entity, -, htoken⟩ := bind_eq_ok.1 htoken
      obtain ⟨v, -, htoken⟩ := bind_eq_ok.1 htoken
      obtain ⟨status, -, htoken⟩ := bind_eq_ok.1 htoken
      cases htoken
      rfl
  | loadPoint id =>
      refine safe_callSpec_query rfl hl hcall fun a l' _ _ point hpoint => ?_
      obtain ⟨entity, -, hpoint⟩ := bind_eq_ok.1 hpoint
      obtain ⟨amount, -, hpoint⟩ := bind_eq_ok.1 hpoint
      cases hpoint
      rfl
  | storeToken token => exact safe_callSpec_query rfl hl hcall fun _ _ _ _ => trivial
  | storeWallet w => exact safe_callSpec_query rfl hl hcall fun _ _ _ _ => trivial
  | storePayment p =>
      change Safe _ _ (RdbmsPaymentRepository.store p) l
      rw [RdbmsPaymentRepository.store]
      cases p.tokenId with
      | none => exact ⟨hl, fun _ h => h, trivial⟩
      | some tokenId =>
          exact ⟨⟨hl, hcall⟩, fun a l' h => ⟨h.1, h.2.1 rfl, trivial⟩⟩
  | storePoint point => exact safe_callSpec_query rfl hl hcall fun _ _ _ _ => trivial
  | createToken token => exact hcall.elim
  | loadPayment id tokenId => exact hcall.elim

/-! ### The request keeps to the discipline -/

/-- The wallet of the shopper is locked. -/
def Holds (shopper : Int32) (l : Session) : Prop :=
  l.ended = false ∧ .wallet shopper ∈ l.locked

theorem Holds.next {shopper : Int32} {l l' : Session} {o : RepoOp} {a : Except JavaException o.Res}
    (h : Holds shopper l) (hpost : (callSpec shopper).post l o a l') : Holds shopper l' :=
  ⟨hpost.1, hpost.2.1 h.2⟩

/-- The outline of a payment of the shopper. -/
def lockOutline (input : TokenPayInput) (now : LocalDateTime) :
    PayOutline (callSpec input.shopperId.value) input now fun r l => l.ended = false ∧
      ∀ p, r = .ok p → p.shopperId = input.shopperId ∧ Holds input.shopperId.value l where
  start l := l.ended = false
  shopperLoaded shopper l := l.ended = false ∧ shopper.id = input.shopperId
  storeLoaded shopper _ l := l.ended = false ∧ shopper.id = input.shopperId
  walletLoaded w _ l := w.owner.id = input.shopperId ∧ Holds input.shopperId.value l
  tokenLoaded w _ token l := w.owner.id = input.shopperId ∧ Holds input.shopperId.value l ∧
    ∀ t, token = some t → t.shopperId = input.shopperId
  processingStored w _ token l := w.owner.id = input.shopperId ∧
    token.shopperId = input.shopperId ∧ Holds input.shopperId.value l
  walletStored p token l := p.shopperId = input.shopperId ∧ token.shopperId = input.shopperId ∧
    Holds input.shopperId.value l
  usedStored p token l := p.shopperId = input.shopperId ∧ token.shopperId = input.shopperId ∧
    Holds input.shopperId.value l
  caught token l := l.ended = false ∧
    ∀ t, token = some t → t.shopperId = input.shopperId ∧ Holds input.shopperId.value l
  loadShopper := by
    refine triple_perform (fun l hl => ⟨hl, trivial⟩) ?_ ?_
    · intro l shopper l' _ h
      exact ⟨h.1, h.2.2 shopper rfl⟩
    · intro l e l' _ h
      exact ⟨h.1, nofun⟩
  loadStore shopper := by
    refine triple_perform (fun l hl => ⟨hl.1, trivial⟩) ?_ ?_
    · intro l store l' hl h
      exact ⟨h.1, hl.2⟩
    · intro l e l' _ h
      exact ⟨h.1, nofun⟩
  loadWallet shopper store := by
    refine triple_perform (fun l hl => ⟨hl.1, congrArg ShopperId.value hl.2⟩) ?_ ?_
    · intro l w l' hl h
      obtain ⟨howner, hmem⟩ := h.2.2 w rfl
      exact ⟨by rw [howner, hl.2], h.1, hmem⟩
    · intro l e l' _ h
      exact ⟨h.1, nofun⟩
  loadToken w bill := by
    refine triple_perform (fun l hl => ⟨hl.2.1, rfl, hl.2.2⟩) ?_ ?_
    · intro l token l' hl h
      exact ⟨hl.1, hl.2.next h, fun t ht => h.2.2 t (congrArg Except.ok ht)⟩
    · intro l e l' _ h
      exact ⟨h.1, nofun⟩
  absent w bill l h := ⟨h.2.1.1, nofun⟩
  refused w bill token l _ h := by
    refine ⟨h.2.1.1, ?_⟩
    rintro t ⟨⟩
    exact ⟨h.2.2 token rfl, h.2.1⟩
  storeProcessing w bill token _ := by
    refine triple_perform (fun l hl => ⟨hl.2.1.1, ?_, hl.2.1.2⟩) ?_ ?_
    · exact congrArg ShopperId.value (hl.2.2 token rfl)
    · intro l _ l' hl h
      exact ⟨hl.1, hl.2.2 token rfl, hl.2.1.next h⟩
    · intro l e l' hl h
      refine ⟨h.1, ?_⟩
      rintro t ⟨⟩
      exact ⟨hl.2.2 token rfl, hl.2.1.next h⟩
  insufficient w bill token l _ h := by
    refine ⟨h.2.2.1, ?_⟩
    rintro t ⟨⟩
    exact ⟨h.2.1, h.2.2⟩
  storeWallet w bill token p w' hpay := by
    obtain ⟨-, hp, hw', -⟩ := Wallet.pay_eq_ok hpay
    have howner : w'.owner = w.owner := by rw [hw']
    refine triple_perform (fun l hl => ⟨hl.2.2.1, ?_, hl.2.2.2⟩) ?_ ?_
    · rw [howner, hl.1]
    · intro l _ l' hl h
      exact ⟨by rw [hp]; exact hl.1, hl.2.1, hl.2.2.next h⟩
    · intro l e l' hl h
      refine ⟨h.1, ?_⟩
      rintro t ⟨⟩
      exact ⟨hl.2.1, hl.2.2.next h⟩
  storeUsed p token := by
    refine triple_perform (fun l hl => ⟨hl.2.2.1, ?_, hl.2.2.2⟩) ?_ ?_
    · exact congrArg ShopperId.value hl.2.1
    · intro l _ l' hl h
      exact ⟨hl.1, hl.2.1, hl.2.2.next h⟩
    · intro l e l' hl h
      refine ⟨h.1, ?_⟩
      rintro t ⟨⟩
      exact ⟨hl.2.1, hl.2.2.next h⟩
  storePayment p token := by
    refine triple_perform (fun l hl => ⟨hl.2.2.1, ?_, hl.2.2.2⟩) ?_ ?_
    · exact congrArg ShopperId.value hl.1
    · intro l _ l' hl h
      refine ⟨h.1, ?_⟩
      rintro p' ⟨⟩
      exact ⟨hl.1, hl.2.2.next h⟩
    · intro l e l' hl h
      refine ⟨h.1, ?_⟩
      rintro t ⟨⟩
      exact ⟨hl.2.1, hl.2.2.next h⟩
  catchNone l h := ⟨h.1, nofun⟩
  catchSome token := by
    refine triple_perform (fun l hl => ⟨hl.1, ?_, (hl.2 token rfl).2.2⟩) ?_ ?_
    · exact congrArg ShopperId.value (hl.2 token rfl).1
    · intro l _ l' _ h
      exact ⟨h.1, nofun⟩
    · intro l e l' _ h
      exact ⟨h.1, nofun⟩

/-- Adding points to the shopper's account. -/
theorem safe_addPoint {p : Payment} {l : Session} (hl : Holds p.shopperId.value l) :
    Safe (callSpec p.shopperId.value) (fun _ l => l.ended = false) (PointUsecase.addPoint p) l := by
  refine (safe_bind _ _ _ l).2 ⟨⟨hl.1, rfl, hl.2⟩, fun a l' h => ?_⟩
  cases a with
  | error e => exact h.1
  | ok point =>
      have howner : point.ownerId = p.shopperId := h.2.2 point rfl
      refine (safe_bind _ _ _ l').2 ⟨⟨h.1, congrArg ShopperId.value howner, h.2.1 hl.2⟩, ?_⟩
      intro a l'' h'
      cases a with
      | error e => exact h'.1
      | ok u => exact h'.1

/-- The resource keeps to the discipline. -/
theorem safe_resource (req : PayRequest) (now : LocalDateTime) {l : Session}
    (hl : l.ended = false) :
    Safe (callSpec req.userId) (fun _ l => l.ended = false) (PaymentResource.pay req now) l := by
  refine (safe_bind _ _ _ l).2 ?_
  cases Money.new req.amount with
  | error e => exact hl
  | ok amount =>
      refine (safe_bind _ _ _ l).2 (((lockOutline (req.input amount) now).safe hl).mono ?_)
      intro r l' h
      cases r with
      | error e => exact h.1
      | ok p =>
          obtain ⟨hid, hholds⟩ := h.2 p rfl
          have hadd : Safe (callSpec req.userId) (fun _ l => l.ended = false)
              (PointUsecase.addPoint p) l' := by
            have hval : req.userId = p.shopperId.value := congrArg ShopperId.value hid.symm
            rw [hval]
            refine safe_addPoint ?_
            rw [hid]
            exact hholds
          refine (safe_bind _ _ _ l').2 (hadd.mono fun r l'' h'' => ?_)
          cases r with
          | error e => exact h''
          | ok point =>
              cases p.tokenId with
              | none => exact h''
              | some tokenId => exact h''

theorem mayIssue_of_ends {shopper : Int32} {o : DbOp} (h : o.ends = true) (l : Session) :
    mayIssue shopper l o := by
  cases o with
  | commit | rollback => trivial
  | _ => cases h

/-- The end of a transaction keeps to every discipline that allows it to end there. -/
theorem safe_finish {α : Type} {shopper : Int32} {S : Spec DbOp DbOp.Res JavaException Session}
    (r : Except JavaException α) {l : Session} (hpre : ∀ o : DbOp, o.ends = true → S.pre l o)
    (hpost : ∀ o a l', S.post l o a l' → (rowSpec shopper).post l o a l') :
    Safe S (fun _ l => l.ended = true) (finish r) l := by
  rw [finish]
  cases commits r with
  | true =>
      refine ⟨hpre .commit rfl, fun a l' h => ?_⟩
      obtain ⟨hended, -, rfl⟩ := hpost _ _ _ h
      exact hended
  | false =>
      refine ⟨hpre .rollback rfl, fun a l' h => ?_⟩
      obtain ⟨hended, -, rfl⟩ := hpost _ _ _ h
      exact hended

/-- **A payment request keeps to the discipline**, and ends its transaction. -/
theorem safe_payRequest (req : PayRequest) (now : LocalDateTime) :
    Safe (rowSpec req.userId) (fun _ l => l.ended = true) (payRequest req now) .fresh := by
  refine (safe_bind _ _ _ _).2 ⟨⟨rfl, trivial⟩, fun a l h => ?_⟩
  obtain ⟨hended, -, rfl⟩ := h
  refine (safe_after _ _ _ l).2 (((safe_resource req now hended).implement safe_rdbms).mono ?_)
  intro r l' hl'
  exact safe_finish r (fun o ho => ⟨hl', mayIssue_of_ends ho l'⟩) fun _ _ _ h => h

end RedHatPay.Monolith
