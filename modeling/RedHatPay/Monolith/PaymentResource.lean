/-
**The monolith: its payment resource.**

Each request runs in a Spring transaction around the whole method.  When the method throws, the
class of the exception decides what happens to its writes: a checked exception commits them, any
other rolls them back.

* `RedHatPay.Monolith.transactional` — the transaction around a method;
* `RedHatPay.Monolith.PaymentResource.createTokenAPI`, `RedHatPay.Monolith.PaymentResource.pay`;
* `RedHatPay.Monolith.pay`, `RedHatPay.Monolith.createToken` — serving a request from the committed
  tables, with nothing else going on;
* `RedHatPay.Monolith.pay_cases` — **what a payment request does to the tables**, in terms of the
  abstract payment.
-/

import RedHatPay.Monolith.Database

set_option relaxedAutoImplicit false
set_option autoImplicit false

namespace RedHatPay.Monolith

open Program

/-! ### The resource -/

/-- `rhpay.monolith.rest.TokenResponse`. -/
structure TokenResponse where
  shopperId : Int32
  tokenId : String
  status : TokenStatus
  deriving DecidableEq

/-- `rhpay.monolith.rest.PaymentResponse`. -/
structure PaymentResponse where
  storeId : Int32
  shopperId : Int32
  tokenId : String
  billingAmount : Int32
  billingDateTime : LocalDateTime
  deriving DecidableEq

namespace PaymentResource

/-- `PaymentResource.createTokenAPI`, without its transaction. -/
def createTokenAPI (userId : Int32) (uuid : UUID) : Usecase TokenResponse := do
  let token ← TokenUsecaseImpl.createToken ⟨userId⟩ uuid
  return ⟨token.shopperId.value, token.tokenId.value, token.status⟩

/-- `PaymentResource.pay`, without its transaction.  Only the payment can throw a checked
exception. -/
def pay (req : PayRequest) (now : LocalDateTime) : Usecase PaymentResponse := do
  let amount ← ofExcept (Money.new req.amount)
  let payment ← TokenUsecaseImpl.pay (req.input amount) now
  let _ ← PointUsecase.addPoint payment
  let tokenId ← ofExcept (nonNull payment.tokenId)
  return ⟨payment.storeId.value, payment.shopperId.value, tokenId.value,
    payment.billingAmount.value, payment.billingDateTime⟩

end PaymentResource

/-- Does a transaction around a method with this outcome commit? -/
def commits {α : Type} : Except JavaException α → Bool
  | .ok _ => true
  | .error e => e.checked

/-- The end of the transaction around a method with this outcome. -/
def finish {α : Type} (r : Except JavaException α) : DbProgram α :=
  (if commits r then perform DbOp.commit else perform DbOp.rollback).after fun
    | .ok _ => ret r
    | .error e => fail e

/-- `@Transactional`. -/
def transactional {α : Type} (body : DbProgram α) : DbProgram α := do
  perform DbOp.begin
  body.after finish

/-- A payment request, with its transaction and over the relational repositories. -/
def payRequest (req : PayRequest) (now : LocalDateTime) : DbProgram PaymentResponse :=
  transactional (implement rdbms (PaymentResource.pay req now))

/-- A request for a token, with its transaction and over the relational repositories. -/
def createRequest (userId : Int32) (uuid : UUID) : DbProgram TokenResponse :=
  transactional (implement rdbms (PaymentResource.createTokenAPI userId uuid))

/-- Serving a payment request: the outcome, and the committed tables after it. -/
def pay (db : Db) (req : PayRequest) (now : LocalDateTime) :
    Except JavaException PaymentResponse × Db :=
  let out := run exec (payRequest req now) db.idle
  (out.1, out.2.committed)

/-- Serving a request for a token. -/
def createToken (db : Db) (userId : Int32) (uuid : UUID) :
    Except JavaException TokenResponse × Db :=
  let out := run exec (createRequest userId uuid) db.idle
  (out.1, out.2.committed)

/-! ### Serving one request -/

theorem rdbmsEnv_committed (o : RepoOp) (s : DbState) :
    (rdbmsEnv o s).2.committed = s.committed := by
  cases o with
  | storeWallet w => exact s.update_committed _ _
  | storeToken token => exact s.update_committed _ _
  | storePoint point => exact s.update_committed _ _
  | storePayment p =>
      change (run exec (RdbmsPaymentRepository.store p) s).2.committed = s.committed
      rw [RdbmsPaymentRepository.store]
      cases p.tokenId <;> rfl
  | _ => rfl

/-- A payment does not touch the points. -/
theorem rdbmsEnv_points {o : RepoOp} (ho : o.ofPayment) (s : DbState) :
    (rdbmsEnv o s).2.view.points = s.view.points := by
  cases o with
  | storeWallet w =>
      change (exec (.updateChargedMoney _ _) s).2.view.points = s.view.points
      rw [exec]
      cases s.view.wallets w.owner.id.value <;> rfl
  | storeToken token =>
      change (exec (.updateStatus _ _) s).2.view.points = s.view.points
      rw [exec]
      cases s.view.tokens (RdbmsTokenRepository.tokenKey token.shopperId token.tokenId) <;> rfl
  | storePayment p =>
      change (run exec (RdbmsPaymentRepository.store p) s).2.view.points = s.view.points
      rw [RdbmsPaymentRepository.store]
      cases p.tokenId <;> rfl
  | createToken token | loadPayment shopperId tokenId | loadPoint id | storePoint point =>
      exact ho.elim
  | _ => rfl

/-- The outcome of a transaction, and the tables that it leaves, over any environment in which the
transaction boundaries do what they should and the repositories leave the committed tables
alone. -/
theorem run_transactional {σ α : Type} {h : Env DbOp DbOp.Res JavaException σ} {f : σ → DbState}
    (hkeep : ∀ o s, (f (h.above rdbms o s).2).committed = (f s).committed)
    (hcommit : ∀ s, (h .commit s).1 = .ok () ∧ (f (h .commit s).2).committed = (f s).view)
    (hrollback : ∀ s, (h .rollback s).1 = .ok () ∧
      (f (h .rollback s).2).committed = (f s).committed)
    (p : Usecase α) {s : σ} (hbegin : h .begin s = (.ok (), s)) :
    (run h (transactional (implement rdbms p)) s).1 = (run (h.above rdbms) p s).1 ∧
      (f (run h (transactional (implement rdbms p)) s).2).committed =
        if commits (run (h.above rdbms) p s).1 then (f (run (h.above rdbms) p s).2).view
        else (f s).committed := by
  have hrun : run h (transactional (implement rdbms p)) s =
      run h (finish (run (h.above rdbms) p s).1) (run (h.above rdbms) p s).2 := by
    rw [transactional, run_bind, run_perform, hbegin, onValue_ok, run_after, run_implement]
  rw [hrun, finish, run_after]
  cases commits (run (h.above rdbms) p s).1 with
  | true =>
      obtain ⟨hout, htables⟩ := hcommit (run (h.above rdbms) p s).2
      rw [if_pos rfl, if_pos rfl, run_perform, hout]
      exact ⟨rfl, htables⟩
  | false =>
      obtain ⟨hout, htables⟩ := hrollback (run (h.above rdbms) p s).2
      rw [if_neg Bool.false_ne_true, if_neg Bool.false_ne_true, run_perform, hout]
      have hrun' := run_keeps (f := fun s => (f s).committed) hkeep p s
      exact ⟨rfl, htables.trans hrun'⟩

/-- Running a payment over the relational repositories. -/
theorem run_pay (db : Db) (input : TokenPayInput) (now : LocalDateTime) :
    (run rdbmsEnv (TokenUsecaseImpl.pay input now) db.idle).1 =
        Store.outcome (db.toStore.pay RdbmsPaymentRepository.entity input now).1 ∧
      (run rdbmsEnv (TokenUsecaseImpl.pay input now) db.idle).2.toStore =
        (db.toStore.pay RdbmsPaymentRepository.entity input now).2 ∧
      (run rdbmsEnv (TokenUsecaseImpl.pay input now) db.idle).2.view.points = db.points := by
  obtain ⟨hout, hview⟩ := Backend.run_pay (B := rdbmsBackend) input now db.idle
  have hstore : rdbmsBackend.view db.idle = db.toStore := congrArg Db.toStore db.idle_view
  rw [hstore] at hout hview
  refine ⟨hout, hview, ?_⟩
  have hsafe : Safe (Spec.ofEnv rdbmsEnv) (fun _ s => s.view.points = db.points)
      (TokenUsecaseImpl.pay input now) db.idle := by
    refine PayOutline.safe_frame (fun _ _ _ _ => trivial) (fun o s a s' ho hs hpost => ?_)
      (congrArg Db.points db.idle_view)
    obtain rfl : s' = (rdbmsEnv o s).2 := congrArg Prod.snd hpost
    rw [rdbmsEnv_points ho, hs]
  exact hsafe.run_ofEnv

theorem run_addPoint_none {s : DbState} {p : Payment} (h : s.view.points p.shopperId.value = none) :
    run rdbmsEnv (PointUsecase.addPoint p) s = (.error (.noSuchElement "No value present"), s) := by
  have hload : run rdbmsEnv (PointService.load p.shopperId) s =
      (.error (.noSuchElement "No value present"), s) := by
    change run exec (RdbmsPointRepository.load p.shopperId) s = _
    rw [RdbmsPointRepository.load, run_query, exec, h]
    rfl
  exact run_bind_error hload

/-- Adding points writes the points that were there: the sum is dropped. -/
theorem run_addPoint_some {s : DbState} {p : Payment} {q : Int32}
    (h : s.view.points p.shopperId.value = some q) :
    ∃ s', run rdbmsEnv (PointUsecase.addPoint p) s = (.ok ⟨p.shopperId, q⟩, s') ∧
      s'.view = s.view := by
  have hload : rdbmsEnv (.loadPoint p.shopperId) s = (.ok ⟨p.shopperId, q⟩, s) := by
    change run exec (RdbmsPointRepository.load p.shopperId) s = _
    rw [RdbmsPointRepository.load, run_query, exec, h]
    rfl
  have hstore : rdbmsEnv (.storePoint ⟨p.shopperId, q⟩) s =
      (.ok (), ⟨s.committed, s.pending.putPoint p.shopperId.value q⟩) := by
    change run exec (RdbmsPointRepository.store ⟨p.shopperId, q⟩) s = _
    rw [RdbmsPointRepository.store, run_query, exec, h]
    rfl
  refine ⟨_, PointUsecase.run_addPoint hload hstore, ?_⟩
  rw [DbState.view, Db.putPoint_onto, ← DbState.view, Db.putPoint, ← h, Function.update_eq_self]

/-- The answer of the resource to a payment. -/
def response (p : Payment) (tokenId : TokenId) : PaymentResponse :=
  ⟨p.storeId.value, p.shopperId.value, tokenId.value, p.billingAmount.value, p.billingDateTime⟩

theorem pay_eq (db : Db) (req : PayRequest) (now : LocalDateTime) :
    pay db req now = ((run rdbmsEnv (PaymentResource.pay req now) db.idle).1,
      if commits (run rdbmsEnv (PaymentResource.pay req now) db.idle).1 then
        (run rdbmsEnv (PaymentResource.pay req now) db.idle).2.view else db) := by
  have h := run_transactional (f := (id : DbState → DbState)) rdbmsEnv_committed
    (fun _ => ⟨rfl, rfl⟩) (fun _ => ⟨rfl, rfl⟩) (PaymentResource.pay req now) (s := db.idle) rfl
  exact Prod.ext h.1 h.2

/-- A negative amount is refused before anything is done. -/
theorem pay_of_negative {db : Db} {req : PayRequest} {now : LocalDateTime}
    (h : req.amount.toInt < 0) :
    pay db req now = (.error (.runtime "Negative value set to Money"), db) := by
  have hrun : run rdbmsEnv (PaymentResource.pay req now) db.idle =
      (.error (.runtime "Negative value set to Money"), db.idle) := by
    refine run_bind_error ?_
    rw [run_ofExcept, Money.new_of_neg h]
  rw [pay_eq, hrun]
  rfl

/-- A payment that fails commits what it has written. -/
theorem pay_of_failed {db : Db} {req : PayRequest} (now : LocalDateTime) {m : Money}
    (hm : req.amount = m.value)
    (h : (db.toStore.pay RdbmsPaymentRepository.entity (req.input m) now).1 = none) :
    (pay db req now).1 = .error failToPay ∧ (pay db req now).2.toStore =
        (db.toStore.pay RdbmsPaymentRepository.entity (req.input m) now).2 ∧
      (pay db req now).2.points = db.points := by
  obtain ⟨hout, hview, hpoints⟩ := run_pay db (req.input m) now
  rw [h] at hout
  have hrun : run rdbmsEnv (PaymentResource.pay req now) db.idle =
      (.error failToPay, (run rdbmsEnv (TokenUsecaseImpl.pay (req.input m) now) db.idle).2) := by
    rw [PaymentResource.pay, hm, Money.new_value]
    exact (run_bind_ok rfl).trans (run_bind_error (Prod.ext hout rfl))
  rw [pay_eq, hrun]
  exact ⟨rfl, hview, hpoints⟩

/-- A payment without a point account is rolled back. -/
theorem pay_of_no_point {db : Db} {req : PayRequest} {now : LocalDateTime} {m : Money} {p : Payment}
    (hm : req.amount = m.value)
    (h : (db.toStore.pay RdbmsPaymentRepository.entity (req.input m) now).1 = some p)
    (hq : db.points req.userId = none) :
    pay db req now = (.error (.noSuchElement "No value present"), db) := by
  obtain ⟨hout, -, hpoints⟩ := run_pay db (req.input m) now
  have hid : p.shopperId = ⟨req.userId⟩ := by
    obtain ⟨_, _, _, _, _, _, rfl, _⟩ := Store.pay_eq_some (Prod.ext h rfl)
    rfl
  rw [h] at hout
  have hrun : run rdbmsEnv (PaymentResource.pay req now) db.idle =
      (.error (.noSuchElement "No value present"),
        (run rdbmsEnv (TokenUsecaseImpl.pay (req.input m) now) db.idle).2) := by
    rw [PaymentResource.pay, hm, Money.new_value]
    refine (run_bind_ok rfl).trans ((run_bind_ok (Prod.ext hout rfl)).trans
      (run_bind_error (run_addPoint_none ?_)))
    rw [hpoints, hid, hq]
  rw [pay_eq, hrun]
  rfl

/-- A payment that succeeds. -/
theorem pay_of_charged {db : Db} {req : PayRequest} (now : LocalDateTime) {m : Money} {p : Payment}
    {q : Int32} (hm : req.amount = m.value)
    (h : (db.toStore.pay RdbmsPaymentRepository.entity (req.input m) now).1 = some p)
    (hq : db.points req.userId = some q) :
    (pay db req now).1 = .ok (response p ⟨req.tokenId⟩) ∧ (pay db req now).2.toStore =
        (db.toStore.pay RdbmsPaymentRepository.entity (req.input m) now).2 ∧
      (pay db req now).2.points = db.points := by
  obtain ⟨hout, hview, hpoints⟩ := run_pay db (req.input m) now
  have hid : p.shopperId = ⟨req.userId⟩ ∧ p.tokenId = some ⟨req.tokenId⟩ := by
    obtain ⟨_, _, _, _, _, _, rfl, _⟩ := Store.pay_eq_some (Prod.ext h rfl)
    exact ⟨rfl, rfl⟩
  rw [h] at hout
  obtain ⟨s', hadd, hs'⟩ := run_addPoint_some (p := p)
    (s := (run rdbmsEnv (TokenUsecaseImpl.pay (req.input m) now) db.idle).2) (q := q)
    (by rw [hpoints, hid.1, hq])
  have hrun : run rdbmsEnv (PaymentResource.pay req now) db.idle =
      (.ok (response p ⟨req.tokenId⟩), s') := by
    rw [PaymentResource.pay, hm, Money.new_value]
    refine (run_bind_ok rfl).trans ((run_bind_ok (Prod.ext hout rfl)).trans
      ((run_bind_ok hadd).trans ?_))
    rw [hid.2]
    rfl
  rw [pay_eq, hrun]
  change _ ∧ s'.view.toStore = _ ∧ s'.view.points = _
  rw [hs']
  exact ⟨rfl, hview, hpoints⟩

/-- Does the request find everything that it needs, and an unused token, and does the wallet then
refuse the bill? -/
def Refused (db : Db) (req : PayRequest) : Prop :=
  ∃ m w bill, req.amount = m.value ∧ db.toStore.present (req.input m) = some (w, bill) ∧
    ¬ w.Covers m

/-- **What a payment request does**: it is refused by the wallet, and leaves the token in
processing; it fails for another reason, and leaves everything as it was; or it succeeds, with the
effects of the abstract payment. -/
theorem pay_cases (db : Db) (req : PayRequest) (now : LocalDateTime) :
    (Refused db req ∧ (pay db req now).1 = .error failToPay ∧
      (pay db req now).2.toStore = db.toStore.setToken req.key .processing ∧
      (pay db req now).2.points = db.points) ∨
    (¬ Refused db req ∧ (∃ e, (pay db req now).1 = .error e ∧ (e = failToPay →
        ∀ m, req.amount = m.value → db.toStore.present (req.input m) = none)) ∧
      (pay db req now).2.toStore = db.toStore ∧ (pay db req now).2.points = db.points) ∨
    (¬ Refused db req ∧ ∃ m p, req.amount = m.value ∧
      db.toStore.pay RdbmsPaymentRepository.entity (req.input m) now =
        (some p, (pay db req now).2.toStore) ∧
      (pay db req now).1 = .ok (response p ⟨req.tokenId⟩) ∧
      (pay db req now).2.points = db.points) := by
  rcases lt_or_ge req.amount.toInt 0 with hneg | hnn
  · have hrefused : ¬ Refused db req := by
      rintro ⟨m, _, _, hm, _, _⟩
      rw [hm] at hneg
      exact absurd m.nonneg (not_le.2 hneg)
    rw [pay_of_negative hneg]
    exact Or.inr (Or.inl ⟨hrefused, ⟨_, rfl, nofun⟩, rfl, rfl⟩)
  · obtain ⟨m, hm⟩ : ∃ m : Money, req.amount = m.value := ⟨⟨req.amount, hnn⟩, rfl⟩
    have huniq : ∀ {m' : Money}, req.amount = m'.value → m' = m := fun hm' =>
      Money.ext_toInt (congrArg Int32.toInt (hm'.symm.trans hm))
    rcases Store.pay_cases RdbmsPaymentRepository.entity db.toStore (req.input m) now with
      ⟨hw, hp⟩ | ⟨w, bill, hw, hc, hp⟩ | ⟨w, bill, m', hw, hc, -, hp⟩
    · obtain ⟨hout, hstore, hpoints⟩ := pay_of_failed now hm (by rw [hp])
      have hnone : ∀ m', req.amount = m'.value → db.toStore.present (req.input m') = none :=
        fun m' hm' => by rw [huniq hm', hw]
      refine Or.inr (Or.inl ⟨?_, ⟨_, hout, fun _ => hnone⟩, by rw [hstore, hp], hpoints⟩)
      rintro ⟨m', w, bill, hm', hw', -⟩
      rw [hnone m' hm'] at hw'
      cases hw'
    · obtain ⟨hout, hstore, hpoints⟩ := pay_of_failed now hm (by rw [hp])
      exact Or.inl ⟨⟨m, w, bill, hm, hw, hc⟩, hout, by rw [hstore, hp]; rfl, hpoints⟩
    · have hrefused : ¬ Refused db req := by
        rintro ⟨m', w', bill', hm', hw', hc'⟩
        rw [huniq hm', hw] at hw'
        cases hw'
        rw [huniq hm'] at hc'
        exact hc' hc
      cases hq : db.points req.userId with
      | none =>
          rw [pay_of_no_point hm (congrArg Prod.fst hp) hq]
          exact Or.inr (Or.inl ⟨hrefused, ⟨_, rfl, nofun⟩, rfl, rfl⟩)
      | some q =>
          obtain ⟨hout, hstore, hpoints⟩ := pay_of_charged now hm (congrArg Prod.fst hp) hq
          exact Or.inr (Or.inr ⟨hrefused, m, _, hm, by rw [hstore, hp], hout, hpoints⟩)

/-- A request for a token writes the row of the drawn id. -/
theorem createToken_eq (db : Db) (userId : Int32) (uuid : UUID) :
    createToken db userId uuid =
      (.ok ⟨userId, (TokenService.newTokenId uuid).value, .unused⟩,
        db.putToken (rowKey (⟨userId⟩, TokenService.newTokenId uuid))
          TokenStatus.unused.value) := by
  change (_, Db.onto (Db.empty.putToken _ _) db) = _
  rw [Db.putToken_onto, Db.onto_empty]
  rfl

end RedHatPay.Monolith
