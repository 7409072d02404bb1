/-
**Stored wallets can be loaded.**

`Money` refuses a negative value, so that a wallet whose row or entry holds one cannot be loaded any
more.  The rows themselves are not checked.  A payment writes amounts that it has from `Money`; the
initialisation writes its path parameters.

Main definitions:

* `RedHatPay.Monolith.Db.Loadable`, `RedHatPay.Grid.Loadable` — no stored amount is negative;
* `RedHatPay.Monolith.Db.WalletsLoad`, `RedHatPay.Quarkus.Deployment.WalletsLoad` — and every stored
  wallet can be loaded.

Main results:

* `RedHatPay.Monolith.step_loadable`, `RedHatPay.Quarkus.callStep_loadable` — **requests keep it**;
* `RedHatPay.loadable_iff` — **after an initialisation every stored wallet can be loaded**, whatever
  requests follow, exactly for the parameters that `Money` accepts.
-/

import RedHatPay.Lib.Run
import RedHatPay.Monolith.InitializeResource
import RedHatPay.Monolith.TokenLifecycle
import RedHatPay.Quarkus.Initialization
import RedHatPay.Quarkus.Answers

set_option relaxedAutoImplicit false
set_option autoImplicit false

namespace RedHatPay

open Program

/-! ### The monolith -/

namespace Monolith

/-- Neither amount of the row is negative. -/
def WalletEntity.Loadable (row : WalletEntity) : Prop :=
  0 ≤ row.chargedMoney.toInt ∧ 0 ≤ row.autoChargeMoney.toInt

/-- No stored amount is negative. -/
def Db.Loadable (db : Db) : Prop := ∀ id row, db.wallets id = some row → row.Loadable

/-- The statement does not write a negative balance. -/
def DbOp.KeepsLoadable : DbOp → Prop
  | updateChargedMoney _ chargedMoney => 0 ≤ chargedMoney.toInt
  | _ => True

/-- The repositories write balances that they have from `Money`. -/
theorem calls_rdbms (o : RepoOp) : Calls DbOp.KeepsLoadable (rdbms o) := by
  cases o with
  | storeWallet w =>
      refine Calls.query (P := DbOp.KeepsLoadable) ?_ _
      exact w.chargedMoney.nonneg
  | storePayment p =>
      rw [rdbms, RdbmsPaymentRepository.store]
      cases p.tokenId with
      | none => trivial
      | some tokenId => exact .perform trivial
  | createToken token => exact .perform trivial
  | _ => exact .query trivial _

theorem calls_transactional {α : Type} (p : Usecase α) :
    Calls DbOp.KeepsLoadable (transactional (implement rdbms p)) := by
  refine .bind (.perform trivial) fun _ => .after (.implement calls_rdbms p) fun r => ?_
  rw [finish]
  refine .after ?_ fun a => ?_
  · cases commits r <;> exact .perform trivial
  · cases a <;> trivial

/-- Without a running transaction, the seen rows are those of the tables. -/
theorem Db.Loadable.idle {db : Db} (h : db.Loadable) : db.idle.view.Loadable := by
  rwa [Db.idle_view]

/-- The statements keep committed and seen rows free of negative amounts. -/
theorem exec_loadable (o : DbOp) (s : DbState) (ho : o.KeepsLoadable)
    (h : s.committed.Loadable ∧ s.view.Loadable) :
    (exec o s).2.committed.Loadable ∧ (exec o s).2.view.Loadable := by
  obtain ⟨hcommitted, hview⟩ := h
  cases o with
  | begin => exact ⟨hcommitted, hcommitted.idle⟩
  | commit => exact ⟨hview, hview.idle⟩
  | rollback => exact ⟨hcommitted, hcommitted.idle⟩
  | updateChargedMoney id chargedMoney =>
      rw [exec]
      cases hrow : s.view.wallets id with
      | none => exact ⟨hcommitted, hview⟩
      | some row =>
          refine ⟨hcommitted, fun id' row' hrow' => ?_⟩
          change ((s.pending.putWallet id ⟨chargedMoney, row.autoChargeMoney⟩).onto
            s.committed).wallets id' = some row' at hrow'
          rw [Db.putWallet_onto, Db.putWallet_wallets] at hrow'
          by_cases hid : id' = id
          · rw [hid, Function.update_self] at hrow'
            cases hrow'
            exact ⟨ho, (hview id row hrow).2⟩
          · rw [Function.update_of_ne hid] at hrow'
            exact hview id' row' hrow'
  | updateStatus key newStatus =>
      rw [exec]
      cases s.view.tokens key with
      | none => exact ⟨hcommitted, hview⟩
      | some status => exact ⟨hcommitted, hview⟩
  | updatePoint id amount =>
      rw [exec]
      cases s.view.points id with
      | none => exact ⟨hcommitted, hview⟩
      | some q => exact ⟨hcommitted, hview⟩
  | _ => exact ⟨hcommitted, hview⟩

/-- **The step**: a request leaves no negative amount behind. -/
theorem step_loadable {db : Db} (h : db.Loadable) (r : Request) : (step db r).Loadable := by
  have hidle : db.idle.committed.Loadable ∧ db.idle.view.Loadable := ⟨h, h.idle⟩
  cases r with
  | createToken userId uuid =>
      exact ((calls_transactional _).run_invariant exec_loadable hidle).1
  | pay req clock => exact ((calls_transactional _).run_invariant exec_loadable hidle).1

/-- A wallet without negative amounts is loaded. -/
theorem load_of_loadable {db : Db} (h : db.Loadable) {owner : Shopper}
    (hrow : db.wallets owner.id.value ≠ none) :
    ∃ w, (run exec (RdbmsWalletRepository.load owner) db.idle).1 = .ok w := by
  obtain ⟨row, hrow⟩ := Option.ne_none_iff_exists'.1 hrow
  obtain ⟨hc, ha⟩ := h _ row hrow
  rw [RdbmsWalletRepository.load, run_query, exec, Db.idle_view, hrow]
  exact ⟨_, Wallet.of_amounts hc ha owner⟩

end Monolith

/-! ### The data grid -/

namespace Grid

/-- Neither amount of the entry is negative. -/
def WalletEntity.Loadable (entity : WalletEntity) : Prop :=
  0 ≤ entity.chargedMoney.toInt ∧ 0 ≤ entity.autoChargeMoney.toInt

/-- No stored amount is negative. -/
def Loadable (wallets : ShopperKey → Option WalletEntity) : Prop :=
  ∀ key entity, wallets key = some entity → entity.Loadable

/-- The method does not write a negative amount. -/
def CacheOp.KeepsLoadable : CacheOp → Prop
  | putWallet _ value => value.Loadable
  | _ => True

theorem Loadable.update {wallets : ShopperKey → Option WalletEntity} (h : Loadable wallets)
    (key : ShopperKey) {entity : WalletEntity} (he : entity.Loadable) :
    Loadable (Function.update wallets key (some entity)) := by
  intro key' entity' hentity
  by_cases hkey : key' = key
  · rw [hkey, Function.update_self] at hentity
    cases hentity
    exact he
  · rw [Function.update_of_ne hkey] at hentity
    exact h key' entity' hentity

/-- The repositories write wallets, and the amounts of a wallet are not negative. -/
theorem calls_repositories (store : CoffeeStore) (o : RepoOp) :
    Calls CacheOp.KeepsLoadable (repositories store o) := by
  cases o with
  | storeWallet w =>
      refine Calls.perform (P := CacheOp.KeepsLoadable) ?_
      exact ⟨w.chargedMoney.nonneg, w.autoChargeMoney.nonneg⟩
  | loadToken shopperId tokenId => exact .orThrow (.query trivial _) _
  | storeToken token => exact .orThrow (.perform trivial) _
  | storePayment payment =>
      refine .bind trivial fun tokenId => ?_
      exact .perform trivial
  | loadShopper _ | loadWallet _ | loadPayment _ _ => exact .query trivial _
  | loadStore _ | createToken _ | loadPoint _ | storePoint _ => trivial

theorem PaymentFunction.calls_tryLoop (f : PaymentFunction) (amount : Money)
    (clock : Nat → LocalDateTime) (tryCount n : Nat) :
    Calls CacheOp.KeepsLoadable (f.tryLoop amount clock tryCount n) := by
  induction n generalizing tryCount with
  | zero => trivial
  | succ n ih =>
      have htry : Calls CacheOp.KeepsLoadable (f.tryPay amount (clock tryCount)) := by
        refine .bind (.perform trivial) fun _ => ?_
        exact .bind (.implement (calls_repositories f.store) _) fun _ => .perform trivial
      refine .bind htry.attempt fun r => ?_
      cases r with
      | ok u => trivial
      | error e => exact .bind (Calls.perform trivial).attempt fun _ => ih (tryCount + 1)

theorem PaymentTask.calls_call (parameter : PaymentDistParam) (clock : Nat → LocalDateTime) :
    Calls CacheOp.KeepsLoadable (PaymentTask.call parameter clock) := by
  have haccept : Calls CacheOp.KeepsLoadable (parameter.paymentFunction.accept clock) := by
    refine .bind trivial fun amount => ?_
    refine .bind (PaymentFunction.calls_tryLoop _ _ _ _ _) fun success => ?_
    cases success <;> trivial
  refine .bind (.bind (.perform trivial) fun entry => ?_) fun _ => ?_
  · cases entry with
    | none => trivial
    | some entry => exact haccept
  · refine .bind (.query trivial _) fun payment => ?_
    cases payment <;> trivial

/-- The wallets that are committed, and those that the caller sees, hold no negative amount. -/
def GridState.Loadable (s : GridState) : Prop :=
  Grid.Loadable s.caches.wallets.data ∧ Grid.Loadable s.wallets

theorem loadable_idle {c : Caches} (h : Loadable c.wallets.data) :
    GridState.Loadable ⟨c, none⟩ := by
  refine ⟨h, ?_⟩
  rw [(seen_idle c).1]
  exact h

theorem loadable_note {s : GridState} {f : Tx → Tx}
    (hf : ∀ tx, (f tx).wallets.writes = tx.wallets.writes) (h : s.Loadable) :
    (s.note f).Loadable := by
  refine ⟨h.1, ?_⟩
  obtain ⟨caches, tx⟩ := s
  cases tx with
  | none => exact h.2
  | some tx =>
      have hwallets : (GridState.note ⟨caches, some tx⟩ f).wallets =
          GridState.wallets ⟨caches, some tx⟩ := congrArg (Transaction.overlay · _) (hf tx)
      rw [hwallets]
      exact h.2

/-- The methods keep committed and seen wallets free of negative amounts. -/
theorem exec_loadable (o : CacheOp) (s : GridState) (ho : o.KeepsLoadable) (h : s.Loadable) :
    (exec o s).2.Loadable := by
  obtain ⟨caches, tx⟩ := s
  cases o with
  | begin =>
      cases tx with
      | none => exact ⟨h.1, (loadable_idle h.1).2⟩
      | some tx => exact h
  | commit =>
      cases tx with
      | none => exact h
      | some tx =>
          rw [exec]
          dsimp only
          split
          -- the commit makes the seen wallets those of the cache
          · exact loadable_idle h.2
          · exact loadable_idle h.1
  | rollback =>
      cases tx with
      | none => exact h
      | some tx => exact loadable_idle h.1
  | putWallet key value =>
      refine ⟨?_, ?_⟩
      · cases tx with
        | none => exact Loadable.update h.1 key ho
        | some tx => exact h.1
      · rw [wallets_putWallet]
        exact Loadable.update h.2 key ho
  | getWallet key => exact loadable_note (fun tx => Transaction.Versioned.read_writes _ _ _) h
  | getToken key => exact loadable_note (fun _ => rfl) h
  | getPayment key => exact loadable_note (fun _ => rfl) h
  | getUser key => exact h
  | putToken key value => cases tx <;> exact h
  | putPayment key value => cases tx <;> exact h

theorem bounded_loadable (dropped : TokenKey → Bool) (o : CacheOp) (s : GridState)
    (ho : o.KeepsLoadable) (h : s.Loadable) : (bounded dropped o s).2.Loadable := by
  have hexec := exec_loadable o s ho h
  cases o with
  | commit =>
      rw [bounded]
      rcases hcommit : exec .commit s with ⟨e | u, s'⟩
      · rw [hcommit] at hexec
        exact hexec
      · rw [hcommit] at hexec
        exact hexec
  | _ => exact hexec

/-- The task leaves no negative amount behind. -/
theorem PaymentTask.serve_loadable (parameter : PaymentDistParam) (clock : Nat → LocalDateTime)
    (dropped : TokenKey → Bool) {c : Caches} (h : Loadable c.wallets.data) :
    Loadable (PaymentTask.serve parameter clock dropped c).2.wallets.data :=
  ((calls_call parameter clock).run_invariant (bounded_loadable dropped) (loadable_idle h)).1

/-- A wallet without negative amounts is loaded. -/
theorem load_of_loadable {c : Caches} (h : Loadable c.wallets.data) {owner : Shopper}
    (hentry : c.wallets.data ⟨owner.id.value⟩ ≠ none) :
    ∃ w, (run exec (CacheWalletRepository.load owner) ⟨c, none⟩).1 = .ok w := by
  obtain ⟨entity, hentry⟩ := Option.ne_none_iff_exists'.1 hentry
  obtain ⟨hc, ha⟩ := h _ entity hentry
  rw [CacheWalletRepository.load, run_query, exec, (seen_idle c).1, hentry]
  exact ⟨_, Wallet.of_amounts hc ha owner⟩

end Grid

/-! ### The service -/

namespace Quarkus

open Grid

/-- The call does not put wallets. -/
def RemoteOp.PutsNoWallet : RemoteOp → Prop
  | putAllWallet _ => False
  | _ => True

/-- Requests put no wallets; only the task writes them. -/
theorem calls_delegate (req : PayRequest) :
    Program.Calls RemoteOp.PutsNoWallet (PaymentResource.delegate req) := by
  refine .bind trivial fun store => .bind ?_ fun amount => ?_
  · cases Money.new req.amount <;> trivial
  · refine .bind (.perform trivial) fun paymentEntity => .bind ?_ fun billingAmount => trivial
    cases Money.new paymentEntity.pillingAmount <;> trivial

theorem remote_loadable (w : Occasion) (o : RemoteOp) (s : Deployment) (ho : o.PutsNoWallet)
    (h : Loadable s.caches.wallets.data) : Loadable (remote w o s).2.caches.wallets.data := by
  cases o with
  | putAllWallet map => exact ho.elim
  | clearWallet => nofun
  | executePaymentTask parameter key =>
      exact PaymentTask.serve_loadable parameter w.clock w.dropped h
  | send event =>
      rw [remote]
      cases w.sent <;> exact h
  | _ => exact h

/-- **The step**: a request leaves no negative amount behind. -/
theorem callStep_loadable {s : Deployment} (h : Loadable s.caches.wallets.data) (i : Call) :
    Loadable (callStep s i).caches.wallets.data := by
  cases i with
  | createToken userId uuid w => exact h
  | pay endpoint req w =>
      rw [callStep, serve_caches]
      exact (calls_delegate req).run_invariant
        (I := fun s : Deployment => Loadable s.caches.wallets.data) (remote_loadable w) h

/-- The client loads such a wallet as well. -/
theorem load_of_loadable {s : Deployment} (h : Loadable s.caches.wallets.data) {owner : Shopper}
    (hentry : s.caches.wallets.data ⟨owner.id.value⟩ ≠ none) (w : Occasion) :
    ∃ wallet, (run (remote w) (CacheWalletRepository.load owner) s).1 = .ok wallet := by
  obtain ⟨entity, hentry⟩ := Option.ne_none_iff_exists'.1 hentry
  obtain ⟨hc, ha⟩ := h _ entity hentry
  rw [CacheWalletRepository.load, run_query, remote, hentry]
  exact ⟨_, Wallet.of_amounts hc ha owner⟩

end Quarkus

/-! ### After an initialisation -/

/-- No stored amount of the monolith is negative, and every wallet that is there can be loaded. -/
def Monolith.Db.WalletsLoad (db : Monolith.Db) : Prop :=
  db.Loadable ∧ ∀ owner : Shopper, db.wallets owner.id.value ≠ none → ∃ w,
    (run Monolith.exec (Monolith.RdbmsWalletRepository.load owner) db.idle).1 = .ok w

/-- No stored amount of the data grid is negative, and every wallet that is there can be loaded, by
the server and by the client. -/
def Quarkus.Deployment.WalletsLoad (s : Quarkus.Deployment) : Prop :=
  Grid.Loadable s.caches.wallets.data ∧
  ∀ owner : Shopper, s.caches.wallets.data ⟨owner.id.value⟩ ≠ none →
    (∃ w, (run Grid.exec (Grid.CacheWalletRepository.load owner) ⟨s.caches, none⟩).1 = .ok w) ∧
    ∀ occasion, ∃ w, (run (Quarkus.remote occasion)
      (Quarkus.CacheWalletRepository.load owner) s).1 = .ok w

/-- `Money` accepts the amounts, or there is no wallet to write them to. -/
def AmountsAccepted (userNum amount autoCharge : Int32) : Prop :=
  userNum.toInt ≤ 0 ∨ 0 ≤ amount.toInt ∧ 0 ≤ autoCharge.toInt

instance (userNum amount autoCharge : Int32) :
    Decidable (AmountsAccepted userNum amount autoCharge) :=
  inferInstanceAs (Decidable (_ ∨ _))

theorem Monolith.walletsLoad_iff (db : Monolith.Db) : db.WalletsLoad ↔ db.Loadable :=
  ⟨fun h => h.1, fun h => ⟨h, fun _ hrow => Monolith.load_of_loadable h hrow⟩⟩

theorem Quarkus.walletsLoad_iff (s : Quarkus.Deployment) :
    s.WalletsLoad ↔ Grid.Loadable s.caches.wallets.data := by
  refine ⟨fun h => h.1, fun h => ⟨h, fun owner hentry => ⟨?_, fun w => ?_⟩⟩⟩
  · exact Grid.load_of_loadable h hentry
  · exact Quarkus.load_of_loadable h hentry w

/-- The rows that the initialisation writes. -/
theorem Monolith.initializeTables_loadable_iff (db : Monolith.Db)
    (userNum amount autoCharge : Int32) :
    (Monolith.InitializeResource.initializeTables db userNum amount autoCharge).Loadable ↔
      AmountsAccepted userNum amount autoCharge := by
  have hrows := Monolith.initializeTables_spec db userNum amount autoCharge
  constructor
  · intro h
    by_cases huser : userNum.toInt ≤ 0
    · exact Or.inl huser
    -- the first user has a row with these amounts
    · exact Or.inr (h 0 _ ((hrows 0).1 ⟨le_rfl, not_le.1 huser⟩).1)
  · intro h id row hrow
    by_cases hid : 0 ≤ id.toInt ∧ id.toInt < userNum.toInt
    · rw [((hrows id).1 hid).1] at hrow
      cases hrow
      exact h.resolve_left (by omega)
    · rw [((hrows id).2 hid).1] at hrow
      cases hrow

/-- The entries that the initialisation puts. -/
theorem Quarkus.initializeCaches_loadable_iff (w : Quarkus.Occasion) (s : Quarkus.Deployment)
    (userNum amount autoCharge : Int32) :
    Grid.Loadable (run (Quarkus.remote w) (Quarkus.InitializeResource.initializeCaches userNum
        amount autoCharge) s).2.caches.wallets.data ↔
      AmountsAccepted userNum amount autoCharge := by
  have hentries := fun key =>
    (Quarkus.initializeCaches_spec w s userNum amount autoCharge key).2
  constructor
  · intro h
    by_cases huser : userNum.toInt ≤ 0
    · exact Or.inl huser
    · exact Or.inr (h ⟨0⟩ _ ((hentries ⟨0⟩).trans (if_pos ⟨le_rfl, not_le.1 huser⟩)))
  · intro h key entity hentity
    rw [hentries] at hentity
    by_cases hkey : 0 ≤ key.ownerId.toInt ∧ key.ownerId.toInt < userNum.toInt
    · rw [if_pos hkey] at hentity
      cases hentity
      exact h.resolve_left (by omega)
    · rw [if_neg hkey] at hentity
      cases hentity

/-- **Stored wallets can be loaded**: in both deployments, every stored wallet can be loaded after
an initialisation and after each request of any sequence that follows it, exactly if `Money`
accepts the amounts of the initialisation, or there are no users. -/
theorem loadable_iff (userNum amount autoCharge : Int32) :
    (∀ (db : Monolith.Db) (l : List Request),
      (∀ l', l' <+: l → (Run.exec Monolith.step (Monolith.InitializeResource.initializeTables db
        userNum amount autoCharge) l').WalletsLoad) ↔
      AmountsAccepted userNum amount autoCharge) ∧
    ∀ (w : Quarkus.Occasion) (s : Quarkus.Deployment) (l : List Quarkus.Call),
      (∀ l', l' <+: l → (Run.exec Quarkus.callStep (run (Quarkus.remote w)
        (Quarkus.InitializeResource.initializeCaches userNum amount autoCharge) s).2
          l').WalletsLoad) ↔
      AmountsAccepted userNum amount autoCharge := by
  refine ⟨fun db l => ?_, fun w s l => ?_⟩
  · rw [← Monolith.initializeTables_loadable_iff db]
    refine ⟨fun h => (h [] l.nil_prefix).1, fun h l' _ => ?_⟩
    rw [Monolith.walletsLoad_iff]
    exact Run.exec_invariant (I := Monolith.Db.Loadable)
      (fun db r hdb => Monolith.step_loadable hdb r) h l'
  · rw [← Quarkus.initializeCaches_loadable_iff w s]
    refine ⟨fun h => (h [] l.nil_prefix).1, fun h l' _ => ?_⟩
    rw [Quarkus.walletsLoad_iff]
    exact Run.exec_invariant
      (I := fun s : Quarkus.Deployment => Grid.Loadable s.caches.wallets.data)
      (fun s i hs => Quarkus.callStep_loadable hs i) h l'

/-- One user, with a negative amount. -/
def negativeRow : Monolith.Db :=
  Monolith.InitializeResource.initializeTables Monolith.Db.empty 1 (-1) 0

/-- One user, with a negative amount. -/
def negativeEntry : Quarkus.Deployment :=
  (run (Quarkus.remote (.calm fun _ => ⟨0, 0⟩))
    (Quarkus.InitializeResource.initializeCaches 1 (-1) 0) .empty).2

/-- The wallet of this user can not be loaded, in either deployment. -/
theorem not_loadable :
    (¬ negativeRow.WalletsLoad ∧ negativeRow.wallets 0 = some ⟨-1, 0⟩ ∧
      (run Monolith.exec (Monolith.RdbmsWalletRepository.load ⟨⟨0⟩, ⟨"User0"⟩⟩)
        negativeRow.idle).1 = .error (.runtime "Negative value set to Money")) ∧
    (¬ negativeEntry.WalletsLoad ∧
      negativeEntry.caches.wallets.data ⟨0⟩ = some ⟨-1, 0⟩ ∧
      (run Grid.exec (Grid.CacheWalletRepository.load ⟨⟨0⟩, ⟨"user0"⟩⟩)
        ⟨negativeEntry.caches, none⟩).1 = .error (.runtime "Negative value set to Money")) := by
  refine ⟨⟨fun h => ?_, by decide, by decide⟩, fun h => ?_, by decide, by decide⟩
  · rw [Monolith.walletsLoad_iff, negativeRow, Monolith.initializeTables_loadable_iff] at h
    exact absurd h (by decide)
  · rw [Quarkus.walletsLoad_iff, negativeEntry, Quarkus.initializeCaches_loadable_iff] at h
    exact absurd h (by decide)

end RedHatPay
