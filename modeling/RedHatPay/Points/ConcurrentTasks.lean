/-
**Points, added side by side.**

The point cache is shared by any number of tasks, which the consumers have the servers run for the
events that they are handed.  Each task adds its points in a transaction of its own, which the check
at commit refuses if another one has changed the entry in between, and it does not try again.  What
happens to the points between two moments is that the tasks that answer in between are served one
after the other; so no points are lost and none are added twice, and what a task answers are the
points right after its own.

* `RedHatPay.Points.execute`, `RedHatPay.Points.Performs` — the methods on shared entries, and the
  step relation;
* `RedHatPay.Points.workerSpec`, `RedHatPay.Points.safe_pointTask` — the discipline of a task;
* `RedHatPay.Points.performs_cases` — a commit is the task, served at that moment;
* `RedHatPay.Points.no_points_lost` — **one after the other**, between any two points of a run.
-/

import Mathlib.Data.List.Nodup
import RedHatPay.Lib.Ghost
import RedHatPay.Lib.Replay
import RedHatPay.Lib.Transaction
import RedHatPay.Points.Granting

set_option relaxedAutoImplicit false
set_option autoImplicit false

namespace RedHatPay.Points

open Program Grid Transaction

/-! ### Shared entries -/

/-- The entries that the tasks share, with their versions. -/
abbrev SharedEntries : Type := Versioned ShopperKey PointEntity

/-- What a transaction has read and written of them. -/
abbrev PointTx : Type := Access ShopperKey PointEntity

/-- The methods, on shared entries and on the running transaction, if there is one. -/
def execute : (o : CacheOp) → SharedEntries → Option PointTx →
    Except JavaException o.Res × SharedEntries × Option PointTx
  | .begin, c, none => (.ok (), c, some .empty)
  | .begin, c, some tx =>
      (.error (.transaction "Nested transactions are not supported"), c, some tx)
  | .commit, c, none => (.error (.runtime "No transaction"), c, none)
  | .commit, c, some tx =>
      if c.valid tx then (.ok (), c.apply tx, none)
      else (.error (.transaction "The transaction has been rolled back"), c, none)
  | .rollback, c, none => (.error (.runtime "No transaction"), c, none)
  | .rollback, c, some _ => (.ok (), c, none)
  | .computeIfPresent key f, c, none =>
      match c.data key with
      | none => (.ok none, c, none)
      | some v =>
          match f.apply key v with
          | .ok v' => (.ok (some v'), c.put key v', none)
          | .error e => (.error e, c, none)
  | .computeIfPresent key f, c, some tx =>
      match c.see tx key with
      | none => (.ok none, c, some (c.read tx key))
      | some v =>
          match f.apply key v with
          | .ok v' => (.ok (some v'), c, some ((c.read tx key).write key v'))
          | .error e => (.error e, c, some (c.read tx key))

/-- A task that is running: its transaction, and how often it has committed. -/
structure Worker where
  tx : Option PointTx
  commits : Nat

/-- A task that has not begun. -/
def Worker.fresh : Worker := ⟨none, 0⟩

/-- Does the method commit? -/
def CacheOp.committed : (o : CacheOp) → Except JavaException o.Res → Nat
  | .commit, .ok _ => 1
  | _, _ => 0

/-- The task after a method. -/
def Worker.next (l : Worker) (o : CacheOp) (a : Except JavaException o.Res)
    (tx : Option PointTx) : Worker :=
  ⟨tx, l.commits + o.committed a⟩

/-- **The step relation**: a method acts; or it throws, before or after it has done its work on the
transaction, and has not changed the shared entries. -/
inductive Performs {ι : Type} (i : ι) (c : SharedEntries) (l : Worker) (o : CacheOp) :
    Except JavaException o.Res → SharedEntries → Worker → Prop
  | act : Performs i c l o (execute o c l.tx).1 (execute o c l.tx).2.1
      (l.next o (execute o c l.tx).1 (execute o c l.tx).2.2)
  | fault (e : JavaException) (tx : Option PointTx)
      (htx : tx = l.tx ∨ tx = (execute o c l.tx).2.2) :
      Performs i c l o (.error e) c (l.next o (.error e) tx)

/-- All tasks before they have begun. -/
def pointTasks {ι : Type} (c₀ : SharedEntries) (param : ι → PayInfo) :
    Interleave.Config ι CacheOp CacheOp.Res JavaException PointEntity Worker SharedEntries :=
  ⟨fun i => PointTask.call (param i), fun _ => .fresh, c₀⟩

/-! ### The discipline of a task -/

/-- What the method has computed last. -/
def computed (v : Option PointEntity) : (o : CacheOp) → Except JavaException o.Res →
    Option PointEntity
  | .computeIfPresent _ _, .ok entity => entity
  | _, _ => v

/-- The transaction has read an entry, and has written it with the points of the payment added. -/
def Adds (param : PayInfo) (tx : PointTx) (entity : PointEntity) : Prop :=
  ∃ (m : Money) (v : PointEntity) (n : Nat), param.amount = m.value ∧ entity = earn v m ∧
    tx = ⟨[(⟨param.ownerId⟩, some v, n)],
      Function.update (fun _ => none) ⟨param.ownerId⟩ (some entity)⟩

/-- The methods that a task may call: `commit` only for points that it has added, and nothing after
that. -/
def mayCall (param : PayInfo) (l : Worker × Option PointEntity) : CacheOp → Prop
  | .begin | .rollback => l.1.commits = 0
  | .computeIfPresent _ _ => l.1.commits = 0 ∧ l.1.tx = some .empty
  | .commit => l.1.commits = 0 ∧ ∃ tx entity, l.1.tx = some tx ∧ l.2 = some entity ∧
      Adds param tx entity

/-- A task that has committed calls nothing more. -/
theorem commits_of_mayCall {param : PayInfo} {l : Worker × Option PointEntity} {o : CacheOp}
    (h : mayCall param l o) : l.1.commits = 0 := by
  cases o with
  | begin | rollback => exact h
  | computeIfPresent key f | commit => exact h.1

/-- What the answer of a method tells about the transaction before and after it. -/
def tells (tx tx' : Option PointTx) : (o : CacheOp) → Except JavaException o.Res → Prop
  | .begin, a => a = .ok () → tx = none → tx' = some .empty
  | .computeIfPresent key f, a => ∀ entity, a = .ok (some entity) → tx = some .empty →
      ∃ v n, f.apply key v = .ok entity ∧
        tx' = some ⟨[(key, some v, n)], Function.update (fun _ => none) key (some entity)⟩
  | _, _ => True

/-- **The discipline** of a task. -/
def workerSpec (param : PayInfo) :
    Spec CacheOp CacheOp.Res JavaException (Worker × Option PointEntity) where
  pre l o := mayCall param l o
  post l o a l' := l'.1.commits = l.1.commits + o.committed a ∧ l'.2 = computed l.2 o a ∧
    tells l.1.tx l'.1.tx o a

/-- A task that answers has committed the points that it answers; one that throws has not. -/
def Answers (r : Except JavaException PointEntity) (l : Worker × Option PointEntity) : Prop :=
  match r with
  | .ok entity => l.1.commits = 1 ∧ l.2 = some entity
  | .error _ => l.1.commits = 0

/-- Computing an entry in a transaction that has just begun. -/
theorem execute_compute (c : SharedEntries) (key : ShopperKey) (f : PointAddFunction)
    {entity : PointEntity}
    (h : (execute (.computeIfPresent key f) c (some .empty)).1 = .ok (some entity)) :
    ∃ v n, f.apply key v = .ok entity ∧
      (execute (.computeIfPresent key f) c (some .empty)).2.2 =
        some ⟨[(key, some v, n)], Function.update (fun _ => none) key (some entity)⟩ := by
  have hsee : c.see .empty key = c.data key := Versioned.see_empty c key
  rw [execute, hsee] at h ⊢
  cases hv : c.data key with
  | none =>
      rw [hv] at h
      cases h
  | some v =>
      rw [hv] at h
      dsimp only at h ⊢
      cases hf : f.apply key v with
      | error e =>
          rw [hf] at h
          cases h
      | ok v' =>
          rw [hf] at h
          obtain rfl : v' = entity := Option.some.inj (Except.ok.inj h)
          refine ⟨v, c.version key, hf, ?_⟩
          rw [← hv]
          rfl

/-- The methods keep to what the discipline expects of them. -/
theorem workerSpec_of_performs {ι : Type} {param : PayInfo} {i : ι} {c c' : SharedEntries}
    {l l' : Worker × Option PointEntity} {o : CacheOp} {a : Except JavaException o.Res}
    (h : Performs i c l.1 o a c' l'.1) (hv : l'.2 = computed l.2 o a) :
    (workerSpec param).post l o a l' := by
  obtain ⟨⟨tx, commits⟩, v⟩ := l
  obtain ⟨l', v'⟩ := l'
  cases h with
  | fault e tx' htx => exact ⟨rfl, hv, by cases o <;> first | trivial | nofun⟩
  | act =>
      refine ⟨rfl, hv, ?_⟩
      cases o with
      | begin =>
          rintro - ⟨⟩
          rfl
      | commit | rollback => trivial
      | computeIfPresent key f =>
          rintro entity ha ⟨⟩
          exact execute_compute c key f ha

/-- Adding points in a transaction that has just begun. -/
theorem safe_addPoint {param : PayInfo} {m : Money} (hm : param.amount = m.value)
    {l : Worker × Option PointEntity} (hcommits : l.1.commits = 0) (htx : l.1.tx = some .empty) :
    Safe (workerSpec param) (fun r l' => l'.1.commits = 0 ∧ ∀ newPoint, r = .ok newPoint →
        ∃ tx, l'.1.tx = some tx ∧ l'.2 = some ⟨newPoint.point⟩ ∧ Adds param tx ⟨newPoint.point⟩)
      (PointAddService.addPoint ⟨param.ownerId⟩ m) l := by
  refine ⟨⟨hcommits, htx⟩, fun a l' hpost => ?_⟩
  obtain ⟨hcommits', hcomputed, htells⟩ := hpost
  rw [hcommits] at hcommits'
  rcases a with e | - | entity
  · exact ⟨hcommits', fun _ h => by cases h⟩
  · exact ⟨hcommits', fun _ h => by cases h⟩
  · refine ⟨hcommits', fun newPoint h => ?_⟩
    cases h
    obtain ⟨v, n, happly, htx'⟩ := htells entity rfl htx
    rw [PointAddFunction.apply_eq] at happly
    exact ⟨_, htx', hcomputed, m, v, n, hm, (Except.ok.inj happly).symm, rfl⟩

/-- The `try` block keeps to the discipline. -/
theorem safe_body {param : PayInfo} {payment : Payment}
    (hid : payment.shopperId = ⟨param.ownerId⟩) (hm : param.amount = payment.billingAmount.value) :
    Safe (workerSpec param) Answers (PointTask.body payment) (.fresh, none) := by
  obtain ⟨storeId, shopperId, billingAmount, date, tokenId⟩ := payment
  obtain rfl : shopperId = ⟨param.ownerId⟩ := hid
  refine (safe_bind _ _ _ _).2 ⟨rfl, fun a l₁ h₁ => ?_⟩
  obtain ⟨hcommits₁, -, htells₁⟩ := h₁
  rcases a with e | u
  · exact hcommits₁
  · refine (safe_bind _ _ _ _).2
      ((safe_addPoint hm hcommits₁ (htells₁ rfl rfl)).mono fun r l₂ h₂ => ?_)
    obtain ⟨hcommits₂, hadds⟩ := h₂
    rcases r with e | newPoint
    · exact hcommits₂
    · obtain ⟨tx, htx, hcomputed, htx'⟩ := hadds newPoint rfl
      refine (safe_bind _ _ _ _).2 ⟨⟨hcommits₂, tx, _, htx, hcomputed, htx'⟩, fun a l₃ h₃ => ?_⟩
      obtain ⟨hcommits₃, hcomputed₃, -⟩ := h₃
      rw [hcommits₂] at hcommits₃
      rcases a with e | u
      · exact hcommits₃
      · exact ⟨hcommits₃, hcomputed₃.trans hcomputed⟩

/-- **A task keeps to the discipline.** -/
theorem safe_pointTask (param : PayInfo) :
    Safe (workerSpec param) Answers (PointTask.call param) (.fresh, none) := by
  refine (safe_bind _ _ _ _).2 ?_
  cases hcontext : PointTask.setTaskContext param with
  | error e => rfl
  | ok payment =>
      obtain ⟨m, hm, hpayment⟩ := bind_eq_ok.1 hcontext
      cases hpayment
      refine (safe_after _ _ _ _).2 ((safe_body rfl (Money.new_eq_ok_iff.1 hm)).mono
        fun r l h => ?_)
      cases r with
      | ok entity => exact h
      | error e =>
          -- the `catch` block rolls back, or throws itself
          refine (safe_bind _ _ _ _).2 ⟨h, fun a l' hpost => ?_⟩
          have hcommits : l'.1.commits = l.1.commits + 0 := hpost.1
          rw [h] at hcommits
          rcases a with e | u <;> exact hcommits

/-! ### One method -/

/-- **What a method of a task does to the shared entries**: nothing; or it commits what the
transaction has written, which has passed the check. -/
theorem performs_cases {ι : Type} {param : PayInfo} {i : ι} {c c' : SharedEntries}
    {l : Worker × Option PointEntity} {l' : Worker} {o : CacheOp} {a : Except JavaException o.Res}
    (hpre : mayCall param l o) (h : Performs i c l.1 o a c' l') :
    (o.committed a = 0 ∧ c' = c) ∨ (o.committed a = 1 ∧ ∃ tx entity, l.1.tx = some tx ∧
      l.2 = some entity ∧ Adds param tx entity ∧ c.valid tx = true ∧ c' = c.apply tx) := by
  obtain ⟨⟨tx, commits⟩, v⟩ := l
  cases h with
  | fault e tx' htx => exact Or.inl ⟨by cases o <;> rfl, rfl⟩
  | act =>
      cases o with
      | begin | rollback => cases tx <;> exact Or.inl ⟨rfl, rfl⟩
      | computeIfPresent key f =>
          obtain ⟨-, rfl⟩ := hpre
          refine Or.inl ⟨rfl, ?_⟩
          rw [execute]
          split
          · rfl
          · split <;> rfl
      | commit =>
          obtain ⟨-, tx', entity, rfl, rfl, hadds⟩ := hpre
          cases hvalid : c.valid tx' with
          | false =>
              have hexec : execute .commit c (some tx') =
                  (.error (.transaction "The transaction has been rolled back"), c, none) :=
                if_neg (by rw [hvalid]; exact Bool.false_ne_true)
              rw [hexec]
              exact Or.inl ⟨rfl, rfl⟩
          | true =>
              have hexec : execute .commit c (some tx') = (.ok (), c.apply tx', none) :=
                if_pos hvalid
              rw [hexec]
              exact Or.inr ⟨rfl, tx', entity, rfl, rfl, hadds, hvalid, rfl⟩

/-- A transaction stays consistent through its own methods. -/
theorem consistent_execute {c : SharedEntries} {tx : Option PointTx} (o : CacheOp)
    (h : ∀ t, tx = some t → t.Consistent c) :
    ∀ t, (execute o c tx).2.2 = some t → t.Consistent c := by
  intro t ht
  cases tx with
  | none =>
      cases o with
      | begin =>
          cases ht
          exact .empty
      | commit | rollback => cases ht
      | computeIfPresent key f =>
          rw [execute] at ht
          split at ht
          · cases ht
          · split at ht <;> cases ht
  | some tx =>
      have htx := h tx rfl
      cases o with
      | begin =>
          cases ht
          exact htx
      | rollback => cases ht
      | commit =>
          rw [execute] at ht
          split at ht <;> cases ht
      | computeIfPresent key f =>
          rw [execute] at ht
          split at ht
          · cases ht
            exact htx.read key
          · split at ht
            · cases ht
              exact (htx.read key).write key _
            · cases ht
              exact htx.read key

theorem consistent_performs {ι : Type} {i : ι} {c c' : SharedEntries} {l l' : Worker} {o : CacheOp}
    {a : Except JavaException o.Res} (hl : ∀ t, l.tx = some t → t.Consistent c)
    (h : Performs i c l o a c' l') : ∀ t, l'.tx = some t → t.Consistent c := by
  cases h with
  | act => exact consistent_execute o hl
  | fault e tx htx =>
      rcases htx with rfl | rfl
      · exact hl
      · exact consistent_execute o hl

/-! ### Serving a task -/

/-- A task that is served alone and without faults, for an entry that is there. -/
theorem serve_some {param : PayInfo} {m : Money} {c : Entries} {v : PointEntity}
    (hm : param.amount = m.value) (hv : c ⟨param.ownerId⟩ = some v) :
    PointTask.serve .none param c =
      (.ok (earn v m), Function.update c ⟨param.ownerId⟩ (some (earn v m))) := by
  have hcontext : PointTask.setTaskContext param = .ok ⟨⟨param.storeId⟩, ⟨param.ownerId⟩, m,
      .ofEpochSecond param.epoch 0 zoneOffset, none⟩ := by
    rw [PointTask.setTaskContext, hm, Money.new_value]
    rfl
  have hview : (PointCache.mk c (some c)).view ⟨(ShopperId.mk param.ownerId).value⟩ = some v := hv
  have hadd : run (faulty .none) (PointAddService.addPoint ⟨param.ownerId⟩ m) ⟨c, some c⟩ =
      (.ok ⟨⟨param.ownerId⟩, (earn v m).amount⟩,
        ⟨c, some (Function.update c ⟨param.ownerId⟩ (some (earn v m)))⟩) :=
    run_addPoint_some hview m
  have hbody : run (faulty .none) (PointTask.body ⟨⟨param.storeId⟩, ⟨param.ownerId⟩, m,
      .ofEpochSecond param.epoch 0 zoneOffset, none⟩) ⟨c, none⟩ =
      (.ok (earn v m), ⟨Function.update c ⟨param.ownerId⟩ (some (earn v m)), none⟩) := by
    have hbegin : run (faulty .none) (perform CacheOp.begin) ⟨c, none⟩ =
        (.ok (), ⟨c, some c⟩) := rfl
    rw [PointTask.body, run_bind_ok hbegin, run_bind_ok hadd]
    rfl
  rw [PointTask.serve, PointTask.call, hcontext]
  change ((run (faulty .none) ((PointTask.body _).after _) ⟨c, none⟩).1,
    (run (faulty .none) ((PointTask.body _).after _) ⟨c, none⟩).2.committed) = _
  rw [run_after, hbody]
  rfl

/-- **A commit is the task, served at that moment.** -/
theorem Adds.serve_eq {param : PayInfo} {tx : PointTx} {entity : PointEntity} {c : SharedEntries}
    (h : Adds param tx entity) (hc : tx.Consistent c) (hvalid : c.valid tx = true) :
    PointTask.serve .none param c.data = (.ok entity, (c.apply tx).data) := by
  obtain ⟨m, v, n, hm, rfl, rfl⟩ := h
  -- the entry that was read is still there
  have hdata : c.data ⟨param.ownerId⟩ = some v :=
    hc.data_eq hvalid List.mem_cons_self (by simp)
  rw [serve_some hm hdata, Versioned.apply_data, overlay_update, overlay_empty]

/-! ### Side by side -/

variable {ι : Type} [DecidableEq ι] {c₀ : SharedEntries} {param : ι → PayInfo}
  {c c' : Interleave.Config ι CacheOp CacheOp.Res JavaException PointEntity Worker SharedEntries}

/-- The task has answered, and has not thrown. -/
def HasAnswered
    (c : Interleave.Config ι CacheOp CacheOp.Res JavaException PointEntity Worker SharedEntries)
    (i : ι) : Prop :=
  ∃ entity, c.prog i = .ret (.ok entity)

/-- Every reachable configuration with ghost variables: the tasks keep to the discipline, and what
their transactions have read is consistent with the shared entries. -/
theorem consistent_of_reachable
    {d : Interleave.Config ι CacheOp CacheOp.Res JavaException PointEntity
      (Worker × Option PointEntity) SharedEntries}
    (h : Interleave.Reachable (Interleave.withGhost Performs fun _ _ _ o a v => computed v o a)
      ((pointTasks c₀ param).decorate none) d) :
    Interleave.AllSafe (fun i => workerSpec (param i)) (fun _ => Answers) d ∧
      ∀ i tx, (d.loc i).1.tx = some tx → tx.Consistent d.glob := by
  have hR : ∀ i g l o a g' l', True →
      Interleave.withGhost Performs (fun _ _ _ o a v => computed v o a) (i : ι) g l o a g' l' →
      (workerSpec (param i)).pre l o → (workerSpec (param i)).post l o a l' :=
    fun _ _ _ _ _ _ _ _ hstep _ => workerSpec_of_performs hstep.1 hstep.2
  have h₀ : Interleave.AllSafe (fun i => workerSpec (param i)) (fun _ => Answers)
      ((pointTasks c₀ param).decorate none) := fun i => safe_pointTask (param i)
  refine ⟨Interleave.safe_of_reachable (K := fun _ => True) (fun _ _ _ _ _ _ _ _ _ => trivial) hR
    trivial h₀ h, Interleave.invariant (K := fun _ => True)
    (J := fun d => ∀ i tx, (d.loc i).1.tx = some tx → tx.Consistent d.glob)
    (fun _ _ _ _ _ _ _ _ _ => trivial) hR trivial h₀ (fun _ _ htx => by cases htx) ?_ h⟩
  rintro d - hsafe hinv i o k a g l hp ⟨hperforms, -⟩
  have hi := hsafe i
  rw [hp] at hi
  have hl := consistent_performs (hinv i) hperforms
  rcases performs_cases hi.1 hperforms with ⟨-, rfl⟩ | ⟨-, tx, entity, -, -, -, -, rfl⟩
  · exact d.forall_next (P := fun _ _ l => ∀ tx, l.1.tx = some tx → tx.Consistent d.glob) hl
      fun j _ => hinv j
  · exact d.forall_next
      (P := fun _ _ l => ∀ tx', l.1.tx = some tx' → tx'.Consistent (d.glob.apply tx))
      (fun tx' ht => (hl tx' ht).become _) fun j _ tx' ht => (hinv j tx' ht).become _

/-- **What a step of the tasks does**: nothing to the shared entries, and nobody answers; or it is
the commit of a task that answers at once, as if it had been served at this moment. -/
theorem performs_step (h : Interleave.Reachable Performs (pointTasks c₀ param) c) {i : ι}
    {o : CacheOp} {k : Except JavaException o.Res → CacheProgram PointEntity}
    {a : Except JavaException o.Res} {g : SharedEntries} {l : Worker} (hp : c.prog i = .call o k)
    (hperforms : Performs i c.glob (c.loc i) o a g l) :
    (g = c.glob ∧ ∀ entity, k a ≠ .ret (.ok entity)) ∨
    ∃ entity, k a = .ret (.ok entity) ∧
      PointTask.serve .none (param i) c.glob.data = (.ok entity, g.data) := by
  obtain ⟨d, hd, rfl⟩ :=
    Interleave.exists_ghost Performs (fun _ _ _ o a v => computed v o a) none h
  obtain ⟨hsafe, hconsistent⟩ := consistent_of_reachable hd
  have hi := hsafe i
  have hp' : d.prog i = .call o k := hp
  rw [hp'] at hi
  obtain ⟨hpre, hcont⟩ := hi
  have hpost : (workerSpec (param i)).post (d.loc i) o a (l, computed (d.loc i).2 o a) :=
    workerSpec_of_performs hperforms rfl
  have hnext := hcont a _ hpost
  obtain ⟨hcommits, -, -⟩ := hpost
  have hzero : (d.loc i).1.commits = 0 := commits_of_mayCall hpre
  rcases performs_cases hpre hperforms with
    ⟨hnone, rfl⟩ | ⟨hone, tx, entity, htx, hentity, hadds, hvalid, rfl⟩
  · refine Or.inl ⟨rfl, fun entity hret => ?_⟩
    rw [hret] at hnext
    have hone : l.commits = 1 := hnext.1
    rw [hzero, hnone, hone] at hcommits
    cases hcommits
  · refine Or.inr ⟨entity, ?_, hadds.serve_eq (hconsistent i tx htx) hvalid⟩
    have hcommits' : l.commits = 1 := by rw [hcommits, hzero, hone]
    have hcomputed : computed (d.loc i).2 o a = some entity := by
      rw [← hentity]
      cases o with
      | commit => rfl
      | begin | rollback | computeIfPresent key f => cases hone
    -- nothing is called after the commit
    cases hk : k a with
    | call o' k' =>
        rw [hk] at hnext
        have hzero' : l.commits = 0 := commits_of_mayCall hnext.1
        rw [hcommits'] at hzero'
        cases hzero'
    | ret r =>
        rw [hk] at hnext
        cases r with
        | error e =>
            have hzero' : l.commits = 0 := hnext
            rw [hcommits'] at hzero'
            cases hzero'
        | ok answer =>
            have hanswer : some entity = some answer := hcomputed.symm.trans hnext.2
            cases hanswer
            rfl

/-! ### One after the other -/

omit [DecidableEq ι] in
/-- The points that the payments of these tasks earn for the owner of the key. -/
def earnedBy (param : ι → PayInfo) (order : List ι) (key : ShopperKey) : Int :=
  ((order.filter fun i => key = ⟨(param i).ownerId⟩).map fun i => (param i).amount.toInt / 100).sum

omit [DecidableEq ι] in
theorem earnedBy_cons_self (param : ι → PayInfo) (i : ι) (order : List ι) :
    earnedBy param (i :: order) ⟨(param i).ownerId⟩ =
      (param i).amount.toInt / 100 + earnedBy param order ⟨(param i).ownerId⟩ := by
  simp [earnedBy]

omit [DecidableEq ι] in
theorem earnedBy_cons_of_ne (param : ι → PayInfo) {i : ι} (order : List ι) {key : ShopperKey}
    (h : key ≠ ⟨(param i).ownerId⟩) :
    earnedBy param (i :: order) key = earnedBy param order key := by
  simp [earnedBy, h]

/-- Serving the tasks one after the other: what each of them answers, and the entries at the end. -/
def serveAll (param : ι → PayInfo) (c : Entries) (order : List ι) :
    List (ι × Except JavaException PointEntity) × Entries :=
  Replay.serial (fun i c => PointTask.serve .none (param i) c) c order

omit [DecidableEq ι] in
theorem serveAll_cons (param : ι → PayInfo) (c : Entries) (i : ι) (order : List ι) :
    serveAll param c (i :: order) =
      ((i, (PointTask.serve .none (param i) c).1) ::
        (serveAll param (PointTask.serve .none (param i) c).2 order).1,
        (serveAll param (PointTask.serve .none (param i) c).2 order).2) := rfl

omit [DecidableEq ι] in
/-- Serving one more task, which answers. -/
theorem serveAll_snoc {c e g : Entries} {order : List ι} {i : ι} {entity : PointEntity}
    (he : (serveAll param c order).2 = e)
    (hserve : PointTask.serve .none (param i) e = (.ok entity, g)) :
    serveAll param c (order ++ [i]) = ((serveAll param c order).1 ++ [(i, .ok entity)], g) := by
  have happend := Replay.serial_append (fun i c => PointTask.serve .none (param i) c) c order i
  change serveAll param c (order ++ [i]) =
    ((serveAll param c order).1 ++
      [(i, (PointTask.serve .none (param i) (serveAll param c order).2).1)],
      (PointTask.serve .none (param i) (serveAll param c order).2).2) at happend
  rw [happend, he, hserve]

omit [DecidableEq ι] in
/-- The answers are those of the tasks of the order. -/
theorem mem_order_of_mem_serveAll {c : Entries} {order : List ι}
    {e : ι × Except JavaException PointEntity} (h : e ∈ (serveAll param c order).1) :
    e.1 ∈ order := by
  induction order generalizing c with
  | nil => cases h
  | cons i order ih =>
      rw [serveAll_cons] at h
      rcases List.mem_cons.1 h with rfl | h
      · exact List.mem_cons_self
      · exact List.mem_cons_of_mem _ (ih h)

omit [DecidableEq ι] in
/-- If all tasks answer, then the points are exact as long as the sum is in range. -/
theorem serveAll_points {c : Entries} {order : List ι}
    (hok : ∀ e ∈ (serveAll param c order).1, ∃ entity, e.2 = .ok entity) (key : ShopperKey) :
    0 ≤ earnedBy param order key ∧ ∀ v, c key = some v →
      v.amount.toInt + earnedBy param order key < 2 ^ 31 →
      ∃ v', (serveAll param c order).2 key = some v' ∧
        v'.amount.toInt = v.amount.toInt + earnedBy param order key := by
  induction order generalizing c with
  | nil => exact ⟨le_rfl, fun v hv _ => ⟨v, hv, (Int.add_zero _).symm⟩⟩
  | cons i order ih =>
      rw [serveAll_cons] at hok ⊢
      obtain ⟨entity, hentity⟩ := hok _ List.mem_cons_self
      obtain ⟨hnonneg, hpoints⟩ := ih fun e he => hok e (List.mem_cons_of_mem _ he)
      rcases PointTask.serve_cases .none (param i) c with ⟨m, w, hm, hw, hserve⟩ | ⟨e, hserve⟩
      · have hearned : (param i).amount.toInt / 100 = Point.earned m :=
          congrArg (fun n : Int32 => n.toInt / 100) hm
        have hm' := Point.earned_nonneg m
        rw [hserve] at hpoints ⊢
        by_cases hkey : key = ⟨(param i).ownerId⟩
        · subst hkey
          rw [earnedBy_cons_self, hearned]
          refine ⟨by omega, fun v hv hrange => ?_⟩
          obtain rfl : w = v := Option.some.inj (hw.symm.trans hv)
          have hexact : (earn w m).amount.toInt = w.amount.toInt + Point.earned m :=
            (earn_exact_iff w m).2 (by omega)
          obtain ⟨v', hv', hsum⟩ := hpoints (earn w m) (Function.update_self _ _ _) (by omega)
          exact ⟨v', hv', by omega⟩
        · rw [earnedBy_cons_of_ne param order hkey]
          refine ⟨hnonneg, fun v hv hrange => hpoints v ?_ hrange⟩
          rw [← hv]
          exact Function.update_of_ne hkey _ _
      · rw [hserve] at hentity
        cases hentity

/-- **One after the other**: from `c` to `c'`, the tasks `order` have answered, and no others; and
the points are those of serving them in this order, each of them with the answer that it has
given. -/
structure OneByOne (param : ι → PayInfo)
    (c c' : Interleave.Config ι CacheOp CacheOp.Res JavaException PointEntity Worker SharedEntries)
    (order : List ι) : Prop where
  nodup : order.Nodup
  answered : ∀ i, i ∈ order ↔ ¬ HasAnswered c i ∧ HasAnswered c' i
  served : (serveAll param c.glob.data order).2 = c'.glob.data
  answers : ∀ i r, (i, r) ∈ (serveAll param c.glob.data order).1 → c'.prog i = .ret r
  /-- The points of a shopper have grown by what the payments earn. -/
  exact : ∀ key v, c.glob.data key = some v →
    v.amount.toInt + earnedBy param order key < 2 ^ 31 →
    ∃ v', c'.glob.data key = some v' ∧
      v'.amount.toInt = v.amount.toInt + earnedBy param order key

/-- The tasks that have answered between two points of a run, in the order of their commits. -/
theorem exists_order (h₀ : Interleave.Reachable Performs (pointTasks c₀ param) c)
    (h : Interleave.Reachable Performs c c') :
    ∃ order : List ι, order.Nodup ∧ (∀ i, i ∈ order ↔ ¬ HasAnswered c i ∧ HasAnswered c' i) ∧
      (serveAll param c.glob.data order).2 = c'.glob.data ∧
      ∀ i r, (i, r) ∈ (serveAll param c.glob.data order).1 → c'.prog i = .ret r := by
  induction h with
  | refl =>
      refine ⟨[], List.nodup_nil, fun i => iff_of_false List.not_mem_nil fun h => h.1 h.2, rfl, ?_⟩
      exact fun _ _ h => by cases h
  | @tail c₁ c₂ hreach hs ih =>
      obtain ⟨order, hnodup, hanswered, hserved, hanswers⟩ := ih
      cases hs with
      | of i o k a g l hp hperforms =>
          have hnot : ¬ HasAnswered c₁ i := by
            rintro ⟨entity, hentity⟩
            rw [hp] at hentity
            cases hentity
          have hother : ∀ j, j ≠ i → (c₁.next i (k a) l g).prog j = c₁.prog j :=
            fun j hj => c₁.next_prog_of_ne hj _ _ _
          -- whose answer has been recorded is not the one that is still calling
          have hanswers' : ∀ j r, (j, r) ∈ (serveAll param c.glob.data order).1 →
              (c₁.next i (k a) l g).prog j = .ret r := fun j r hr => by
            have hj := hanswers j r hr
            rw [hother j, hj]
            rintro rfl
            rw [hp] at hj
            cases hj
          have hanswered' : ∀ j, j ≠ i →
              (j ∈ order ↔ ¬ HasAnswered c j ∧ HasAnswered (c₁.next i (k a) l g) j) :=
            fun j hj => by
              rw [HasAnswered, HasAnswered, hother j hj]
              exact hanswered j
          rcases performs_step (h₀.trans hreach) hp hperforms with
            ⟨rfl, hquiet⟩ | ⟨entity, hanswer, hserve⟩
          · refine ⟨order, hnodup, fun j => ?_, hserved, hanswers'⟩
            by_cases hj : j = i
            · subst hj
              refine iff_of_false (fun hmem => hnot ((hanswered j).1 hmem).2) ?_
              rintro ⟨-, entity, hentity⟩
              rw [c₁.next_prog_self] at hentity
              exact hquiet entity hentity
            · exact hanswered' j hj
          · have hi : i ∉ order := fun hmem => hnot ((hanswered i).1 hmem).2
            have hserial := serveAll_snoc hserved hserve
            have hstart : ¬ HasAnswered c i := fun ⟨entity, hentity⟩ =>
              hnot ⟨entity, Interleave.ret_of_reachable hentity hreach⟩
            refine ⟨order ++ [i], ?_, fun j => ?_, by rw [hserial]; rfl, fun j r hr => ?_⟩
            · rw [List.nodup_append]
              refine ⟨hnodup, List.nodup_singleton i, fun j hj j' hj' => ?_⟩
              rw [List.mem_singleton.1 hj']
              rintro rfl
              exact hi hj
            · rw [List.mem_append, List.mem_singleton]
              by_cases hj : j = i
              · subst hj
                refine iff_of_true (Or.inr rfl) ⟨hstart, entity, ?_⟩
                rw [c₁.next_prog_self, hanswer]
              · rw [or_iff_left hj]
                exact hanswered' j hj
            · rw [hserial, List.mem_append, List.mem_singleton] at hr
              rcases hr with hr | hr
              · exact hanswers' j r hr
              · cases hr
                rw [c₁.next_prog_self, hanswer]

/-- **No points are lost, and none are added twice**: between any two points of a run of any number
of tasks, whichever methods throw and in whatever order they are called. -/
theorem no_points_lost (h₀ : Interleave.Reachable Performs (pointTasks c₀ param) c)
    (h : Interleave.Reachable Performs c c') : ∃ order, OneByOne param c c' order := by
  obtain ⟨order, hnodup, hanswered, hserved, hanswers⟩ := exists_order h₀ h
  refine ⟨order, hnodup, hanswered, hserved, hanswers, fun key v hv hrange => ?_⟩
  have hok : ∀ e ∈ (serveAll param c.glob.data order).1, ∃ entity, e.2 = .ok entity := by
    rintro ⟨i, r⟩ he
    obtain ⟨-, entity, hentity⟩ := (hanswered i).1 (mem_order_of_mem_serveAll he)
    rw [hanswers i r he] at hentity
    cases hentity
    exact ⟨entity, rfl⟩
  rw [← hserved]
  exact (serveAll_points hok key).2 v hv hrange

/-! ### A schedule -/

/-- The next method of a task. -/
def pointTurn (_ : ι) :
    Interleave.Turn CacheOp CacheOp.Res JavaException Worker SharedEntries := fun o c l =>
  let out := execute o c l.tx
  some (out.1, out.2.1, l.next o out.1 out.2.2)

omit [DecidableEq ι] in
theorem performs_turn (i : ι) (o : CacheOp) (c : SharedEntries) (l : Worker)
    (a : Except JavaException o.Res) (c' : SharedEntries) (l' : Worker)
    (h : pointTurn i o c l = some (a, c', l')) : Performs i c l o a c' l' := by
  cases h
  exact .act

/-- Points for two payments of one shopper. -/
def twoPayments : Bool → PayInfo
  | true => ⟨1, 500, 1, "abcd", 0⟩
  | false => ⟨1, 300, 1, "efgh", 0⟩

/-- The shopper has ten points. -/
def tenPoints : SharedEntries := ⟨fun key => if key = ⟨1⟩ then some ⟨10⟩ else none, fun _ => 0⟩

/-- Both tasks have read the entry, and the first one has committed. -/
def overlapping :
    Interleave.Config Bool CacheOp CacheOp.Res JavaException PointEntity Worker SharedEntries :=
  [true, false, true, false, true].foldl (.play id pointTurn) (pointTasks tenPoints twoPayments)

/-- The second one fails at its commit, and so does its `rollback`; the points are those of the
first one. -/
theorem no_points_lost_overlapping :
    let later := [false, false].foldl (.play id pointTurn) overlapping
    overlapping.prog true = .ret (.ok ⟨15⟩) ∧
      later.prog false = .ret (.error (.runtime "No transaction")) ∧
      later.glob.data ⟨1⟩ = some ⟨15⟩ ∧
      (∃ order, OneByOne twoPayments (pointTasks tenPoints twoPayments) overlapping order) ∧
      ∃ order, OneByOne twoPayments overlapping later order :=
  ⟨rfl, rfl, rfl, no_points_lost .refl (Interleave.reachable_play performs_turn _ _),
    no_points_lost (Interleave.reachable_play performs_turn _ _)
      (Interleave.reachable_play performs_turn _ _)⟩

end RedHatPay.Points
