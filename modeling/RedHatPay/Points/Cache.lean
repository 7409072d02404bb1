/-
**The point cache, and the task that adds points.**

The data grid keeps the points of a shopper in a transactional cache of their own.  The server adds
to them in a task: `PointTask` begins a transaction, has `CachePointRepository` compute the new
entry from the old one, and commits.  `Points.CacheOp` lists the methods of the cache and of the
transaction manager that it calls; `Points.exec` is their meaning without faults, and
`Points.faulty` lets any of them throw.

* `RedHatPay.Points.PointAddFunction`, `RedHatPay.Points.CachePointRepository.addPoint`,
  `RedHatPay.Points.PointTask.call`;
* `RedHatPay.Points.run_addPoint_some`, `RedHatPay.Points.run_addPoint_none` — adding points to an
  entry, and to one that is missing;
* `RedHatPay.Points.PointTask.serve_cases` — **the task adds the points, or changes nothing**.
-/

import RedHatPay.Domain.Point
import RedHatPay.Grid.Caches

set_option relaxedAutoImplicit false
set_option autoImplicit false

namespace RedHatPay.Points

open Program Grid

/-! ### The cache -/

/-- `rhpay.point.cache.PointEntity`. -/
structure PointEntity where
  amount : Int32
  deriving DecidableEq

/-- `rhpay.point.repository.function.PointAddFunction`. -/
structure PointAddFunction where
  paidAmount : Int32
  deriving DecidableEq

/-- `PointAddFunction.apply`. -/
def PointAddFunction.apply (f : PointAddFunction) (pointKey : ShopperKey)
    (cachedPointData : PointEntity) : Except JavaException PointEntity := do
  let currentPoint : Point := ⟨⟨pointKey.ownerId⟩, cachedPointData.amount⟩
  let paidAmount ← Money.new f.paidAmount
  let newPoint := currentPoint.addPoint paidAmount
  return ⟨newPoint.point⟩

/-- The methods of the transaction manager and of the point cache that the server calls. -/
inductive CacheOp
  | begin
  | commit
  | rollback
  | computeIfPresent (key : ShopperKey) (f : PointAddFunction)

/-- The result of each method. -/
abbrev CacheOp.Res : CacheOp → Type
  | computeIfPresent _ _ => Option PointEntity
  | begin | commit | rollback => Unit

/-- Programs of cache methods. -/
abbrev CacheProgram (α : Type) : Type := Program CacheOp CacheOp.Res JavaException α

/-- The entries of the point cache. -/
abbrev Entries : Type := ShopperKey → Option PointEntity

/-- The committed entries, and those that the running transaction sees. -/
structure PointCache where
  committed : Entries
  tx : Option Entries

/-- What the caller sees. -/
def PointCache.view (s : PointCache) : Entries := s.tx.getD s.committed

/-- A write: in the running transaction, or else at once. -/
def PointCache.write (s : PointCache) (key : ShopperKey) (v : PointEntity) : PointCache :=
  match s.tx with
  | some t => ⟨s.committed, some (Function.update t key (some v))⟩
  | none => ⟨Function.update s.committed key (some v), none⟩

/-- The methods, without faults. -/
def exec : Env CacheOp CacheOp.Res JavaException PointCache
  | .begin, s =>
      match s.tx with
      | none => (.ok (), ⟨s.committed, some s.committed⟩)
      | some _ => (.error (.transaction "Nested transactions are not supported"), s)
  | .commit, s =>
      match s.tx with
      | none => (.error (.runtime "No transaction"), s)
      | some t => (.ok (), ⟨t, none⟩)
  | .rollback, s =>
      match s.tx with
      | none => (.error (.runtime "No transaction"), s)
      | some _ => (.ok (), ⟨s.committed, none⟩)
  | .computeIfPresent key f, s =>
      match s.view key with
      | none => (.ok none, s)
      | some v =>
          match f.apply key v with
          | .ok v' => (.ok (some v'), s.write key v')
          | .error e => (.error e, s)

/-- The exceptions that the methods throw instead, if any.  A commit that throws has rolled the
transaction back. -/
structure Faults where
  begin : Option JavaException
  commit : Option JavaException
  rollback : Option JavaException
  computeIfPresent : Option JavaException

/-- No method throws. -/
def Faults.none : Faults := ⟨.none, .none, .none, .none⟩

/-- The methods, with faults. -/
def faulty (f : Faults) : Env CacheOp CacheOp.Res JavaException PointCache
  | .begin, s =>
      match f.begin with
      | some e => (.error e, s)
      | none => exec .begin s
  | .commit, s =>
      match f.commit with
      | some e => (.error e, ⟨s.committed, none⟩)
      | none => exec .commit s
  | .rollback, s =>
      match f.rollback with
      | some e => (.error e, ⟨s.committed, none⟩)
      | none => exec .rollback s
  | .computeIfPresent key g, s =>
      match f.computeIfPresent with
      | some e => (.error e, s)
      | none => exec (.computeIfPresent key g) s

/-! ### The repository and the task -/

/-- `CachePointRepository.addPoint`. -/
def CachePointRepository.addPoint (shopperId : ShopperId) (paidAmount : Money) :
    CacheProgram Point :=
  query (.computeIfPresent ⟨shopperId.value⟩ ⟨paidAmount.value⟩) fun newCachedData => do
    let newCachedData ← nonNull newCachedData
    return ⟨shopperId, newCachedData.amount⟩

/-- `PointAddService.addPoint`. -/
def PointAddService.addPoint (shopperId : ShopperId) (paidAmount : Money) : CacheProgram Point :=
  CachePointRepository.addPoint shopperId paidAmount

/-- The parameters of `PointTask`. -/
structure PayInfo where
  ownerId : Int32
  amount : Int32
  storeId : Int32
  tokenId : String
  epoch : Int
  deriving DecidableEq

namespace PointTask

/-- The payment that `PointTask.setTaskContext` makes of the parameters. -/
def setTaskContext (param : PayInfo) : Except JavaException Payment := do
  let billAmount ← Money.new param.amount
  return ⟨⟨param.storeId⟩, ⟨param.ownerId⟩, billAmount, .ofEpochSecond param.epoch 0 zoneOffset,
    none⟩

/-- The `try` block of `PointTask.call`. -/
def body (payment : Payment) : CacheProgram PointEntity := do
  perform CacheOp.begin
  let newPoint ← PointAddService.addPoint payment.shopperId payment.billingAmount
  perform CacheOp.commit
  return ⟨newPoint.point⟩

/-- `PointTask.call`, after `PointTask.setTaskContext`. -/
def call (param : PayInfo) : CacheProgram PointEntity := do
  let payment ← ofExcept (setTaskContext param)
  (body payment).after fun
    | .ok entity => ret (.ok entity)
    | .error e => do
        perform CacheOp.rollback
        fail e

/-- Serving the task: the outcome, and the committed entries after it. -/
def serve (f : Faults) (param : PayInfo) (c : Entries) :
    Except JavaException PointEntity × Entries :=
  let out := run (faulty f) (call param) ⟨c, none⟩
  (out.1, out.2.committed)

end PointTask

/-! ### Adding points -/

/-- The points after a payment. -/
def earn (v : PointEntity) (m : Money) : PointEntity :=
  ⟨v.amount + m.value * Point.ratePerCent / 100⟩

/-- The new points are the exact sum, as long as it is in range. -/
theorem earn_exact_iff (v : PointEntity) (m : Money) :
    (earn v m).amount.toInt = v.amount.toInt + Point.earned m ↔
      v.amount.toInt + Point.earned m < 2 ^ 31 :=
  Point.addPoint_exact_iff ⟨⟨0⟩, v.amount⟩ m

/-- The function accepts every amount that `Money` accepts. -/
theorem PointAddFunction.apply_eq (m : Money) (key : ShopperKey) (v : PointEntity) :
    PointAddFunction.apply ⟨m.value⟩ key v = .ok (earn v m) := by
  change (Money.new m.value >>= fun paidAmount => _) = _
  rw [Money.new_value]
  rfl

@[simp] theorem PointCache.view_write (s : PointCache) (key : ShopperKey) (v : PointEntity) :
    (s.write key v).view = Function.update s.view key (some v) := by
  obtain ⟨committed, - | t⟩ := s <;> rfl

/-- Adding points to an entry. -/
theorem run_addPoint_some {s : PointCache} {id : ShopperId} {v : PointEntity}
    (h : s.view ⟨id.value⟩ = some v) (m : Money) :
    run exec (CachePointRepository.addPoint id m) s =
      (.ok ⟨id, (earn v m).amount⟩, s.write ⟨id.value⟩ (earn v m)) := by
  rw [CachePointRepository.addPoint, run_query, exec, h]
  simp only [PointAddFunction.apply_eq]
  rfl

/-- Adding points where there is no entry dereferences `null`. -/
theorem run_addPoint_none {s : PointCache} {id : ShopperId} (h : s.view ⟨id.value⟩ = none)
    (m : Money) : run exec (CachePointRepository.addPoint id m) s = (.error .nullPointer, s) := by
  rw [CachePointRepository.addPoint, run_query, exec, h]
  rfl

namespace PointTask

/-- What the `try` block does: it commits the added points, or it throws and has committed
nothing. -/
theorem run_body (f : Faults) (payment : Payment) (c : Entries) :
    (∃ v, c ⟨payment.shopperId.value⟩ = some v ∧
      run (faulty f) (body payment) ⟨c, none⟩ = (.ok (earn v payment.billingAmount),
        ⟨Function.update c ⟨payment.shopperId.value⟩ (some (earn v payment.billingAmount)),
          none⟩)) ∨
    ∃ e t, run (faulty f) (body payment) ⟨c, none⟩ = (.error e, ⟨c, t⟩) := by
  obtain ⟨fbegin, fcommit, frollback, fcompute⟩ := f
  cases fbegin with
  | some e => exact Or.inr ⟨e, none, rfl⟩
  | none =>
      have hbegin : run (faulty ⟨none, fcommit, frollback, fcompute⟩) (perform CacheOp.begin)
          ⟨c, none⟩ = (.ok (), ⟨c, some c⟩) := rfl
      rw [body, run_bind_ok hbegin]
      cases fcompute with
      | some e => exact Or.inr ⟨e, some c, rfl⟩
      | none =>
          -- what `CachePointRepository.addPoint` does without faults
          have hadd : run (faulty ⟨none, fcommit, frollback, none⟩)
              (PointAddService.addPoint payment.shopperId payment.billingAmount) ⟨c, some c⟩ =
              run exec (CachePointRepository.addPoint payment.shopperId payment.billingAmount)
                ⟨c, some c⟩ := rfl
          cases hentry : c ⟨payment.shopperId.value⟩ with
          | none =>
              rw [run_addPoint_none (s := ⟨c, some c⟩) hentry] at hadd
              exact Or.inr ⟨.nullPointer, some c, run_bind_error hadd⟩
          | some v =>
              rw [run_addPoint_some (s := ⟨c, some c⟩) hentry] at hadd
              rw [run_bind_ok hadd]
              cases fcommit with
              | some e => exact Or.inr ⟨e, none, rfl⟩
              | none => exact Or.inl ⟨v, rfl, rfl⟩

/-- **The task adds the points, or changes nothing.** -/
theorem serve_cases (f : Faults) (param : PayInfo) (c : Entries) :
    (∃ m v, param.amount = Money.value m ∧ c ⟨param.ownerId⟩ = some v ∧
      serve f param c =
        (.ok (earn v m), Function.update c ⟨param.ownerId⟩ (some (earn v m)))) ∨
    ∃ e, serve f param c = (.error e, c) := by
  rcases lt_or_ge param.amount.toInt 0 with hneg | hnn
  · have hcontext : setTaskContext param = .error (.runtime "Negative value set to Money") := by
      rw [setTaskContext, Money.new_of_neg hneg]
      rfl
    exact Or.inr ⟨_, by rw [serve, call, hcontext]; rfl⟩
  · have hcontext : setTaskContext param = .ok ⟨⟨param.storeId⟩, ⟨param.ownerId⟩,
        ⟨param.amount, hnn⟩, .ofEpochSecond param.epoch 0 zoneOffset, none⟩ := by
      rw [setTaskContext, Money.new_of_nonneg hnn]
      rfl
    rcases run_body f ⟨⟨param.storeId⟩, ⟨param.ownerId⟩, ⟨param.amount, hnn⟩,
      .ofEpochSecond param.epoch 0 zoneOffset, none⟩ c with ⟨v, hentry, hrun⟩ | ⟨e, t, hrun⟩
    · refine Or.inl ⟨⟨param.amount, hnn⟩, v, rfl, hentry, ?_⟩
      rw [serve, call, hcontext]
      change ((run (faulty f) ((body _).after _) ⟨c, none⟩).1,
        (run (faulty f) ((body _).after _) ⟨c, none⟩).2.committed) = _
      rw [run_after, hrun]
      rfl
    · -- the `catch` block rolls back, or throws itself
      obtain ⟨e', t', hcatch⟩ : ∃ e' t', run (faulty f) (do
          perform CacheOp.rollback
          fail e : CacheProgram PointEntity) ⟨c, t⟩ = (.error e', ⟨c, t'⟩) := by
        obtain ⟨fbegin, fcommit, frollback, fcompute⟩ := f
        cases frollback with
        | some e' => exact ⟨e', none, rfl⟩
        | none =>
            cases t with
            | none => exact ⟨_, none, rfl⟩
            | some t => exact ⟨e, none, rfl⟩
      refine Or.inr ⟨e', ?_⟩
      rw [serve, call, hcontext]
      change ((run (faulty f) ((body _).after _) ⟨c, none⟩).1,
        (run (faulty f) ((body _).after _) ⟨c, none⟩).2.committed) = _
      rw [run_after, hrun]
      simp only [hcatch]

end PointTask

end RedHatPay.Points
