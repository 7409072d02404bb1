/-
**Granting points, payment after payment.**

There are two implementations.  The monolith loads the points of the shopper, computes the new ones
and stores; the data grid has the server compute the new entry from the old one.  Both add in 32-bit
arithmetic, and `Point`, other than `Money`, has no check of its own; and the monolith stores the
points that it has loaded, not those that it has computed.

Main definitions:

* `RedHatPay.Points.total` — the points that a list of payments earns, exactly;
* `RedHatPay.Points.NeverWraps` — every payment of a list leaves the exact points, or fails;
* `RedHatPay.Points.PointBackend`, `RedHatPay.Points.Agree` — map-like point repositories, and both
  implementations leaving and returning the exact points.

Main results:

* `RedHatPay.Points.view_addAll` — the entry after a list of payments;
* `RedHatPay.Points.neverWraps_iff` — **points are exact** as long as the total is in range;
* `RedHatPay.Points.bothExact_iff` — **the implementations agree** exactly on amounts that earn
  nothing.
-/

import RedHatPay.Lib.Run
import RedHatPay.Monolith.Database
import RedHatPay.Points.Cache

set_option relaxedAutoImplicit false
set_option autoImplicit false

namespace RedHatPay.Points

open Program Grid

/-! ### Sums -/

/-- The points that payments of these amounts earn. -/
def total (l : List Money) : Int := (l.map Point.earned).sum

@[simp] theorem total_nil : total [] = 0 := rfl

@[simp] theorem total_cons (m : Money) (l : List Money) :
    total (m :: l) = Point.earned m + total l := by
  simp [total]

@[simp] theorem total_append (l l' : List Money) : total (l ++ l') = total l + total l' := by
  simp [total]

theorem total_nonneg (l : List Money) : 0 ≤ total l := by
  induction l with
  | nil => exact le_rfl
  | cons m l ih =>
      have hm := Point.earned_nonneg m
      rw [total_cons]
      omega

/-- A list of payments earns nothing exactly if each of them does. -/
theorem total_eq_zero_iff {l : List Money} : total l = 0 ↔ ∀ m ∈ l, m.toInt < 100 := by
  induction l with
  | nil => simp
  | cons m l ih =>
      have hm := Point.earned_nonneg m
      have hl := total_nonneg l
      rw [List.forall_mem_cons, ← ih, ← Point.earned_eq_zero_iff, total_cons]
      omega

/-- As long as the total is in range, the entry holds the exact points. -/
theorem foldl_earn {l : List Money} {v : PointEntity} (h : v.amount.toInt + total l < 2 ^ 31) :
    (l.foldl earn v).amount.toInt = v.amount.toInt + total l := by
  induction l generalizing v with
  | nil => simp
  | cons m l ih =>
      have hl := total_nonneg l
      rw [total_cons] at h ⊢
      have hm := (earn_exact_iff v m).2 (by omega)
      rw [List.foldl_cons, ih (by omega), hm]
      omega

/-! ### The data grid -/

/-- The cache after points have been added for these amounts, one after another. -/
def addAll (id : ShopperId) (c : PointCache) (l : List Money) : PointCache :=
  Run.exec (fun c m => (run exec (CachePointRepository.addPoint id m) c).2) c l

/-- **The entry after a list of payments**; no other entry is touched. -/
theorem view_addAll {id : ShopperId} {c : PointCache} {v : PointEntity}
    (h : c.view ⟨id.value⟩ = some v) (l : List Money) :
    (addAll id c l).view = Function.update c.view ⟨id.value⟩ (some (l.foldl earn v)) := by
  induction l generalizing c v with
  | nil =>
      rw [List.foldl_nil, ← h, Function.update_eq_self]
      rfl
  | cons m l ih =>
      have hstep := run_addPoint_some h m
      have hview : (c.write ⟨id.value⟩ (earn v m)).view ⟨id.value⟩ = some (earn v m) := by simp
      change (addAll id (run exec (CachePointRepository.addPoint id m) c).2 l).view = _
      rw [hstep, ih hview, PointCache.view_write, Function.update_idem, List.foldl_cons]

/-- Every payment of the list either fails and leaves the entry as it is, or leaves the exact points
of all the payments so far; and these are not negative, and not less than before. -/
def NeverWraps (id : ShopperId) (p : Int32) (c : PointCache) (l : List Money) : Prop :=
  ∀ l₁ m l₂, l = l₁ ++ m :: l₂ → ∀ v, (addAll id c l₁).view ⟨id.value⟩ = some v →
    ((∃ e, (run exec (CachePointRepository.addPoint id m) (addAll id c l₁)).1 = .error e) ∧
      (addAll id c (l₁ ++ [m])).view ⟨id.value⟩ = some v) ∨
    ∃ v', (addAll id c (l₁ ++ [m])).view ⟨id.value⟩ = some v' ∧
      v'.amount.toInt = p.toInt + total (l₁ ++ [m]) ∧ 0 ≤ v'.amount.toInt ∧
      v.amount.toInt ≤ v'.amount.toInt

/-- **Points are exact** for a list of payments exactly if the total is in range. -/
theorem neverWraps_iff {id : ShopperId} {p : Int32} {c : PointCache} (hp : 0 ≤ p.toInt)
    (hc : c.view ⟨id.value⟩ = some ⟨p⟩) (l : List Money) :
    NeverWraps id p c l ↔ p.toInt + total l < 2 ^ 31 := by
  have hview : ∀ l, (addAll id c l).view ⟨id.value⟩ = some (l.foldl earn ⟨p⟩) := fun l => by
    rw [view_addAll hc, Function.update_self]
  constructor
  · intro h
    rcases List.eq_nil_or_concat l with rfl | ⟨l₁, m, rfl⟩
    · simpa using p.toInt_lt
    -- the last payment leaves the exact points, since none fails
    · rw [List.concat_eq_append] at h ⊢
      rcases h l₁ m [] rfl _ (hview l₁) with ⟨⟨e, he⟩, -⟩ | ⟨v', -, hv', -, -⟩
      · rw [run_addPoint_some (hview l₁)] at he
        cases he
      · rw [← hv']
        exact v'.amount.toInt_lt
  · rintro h l₁ m l₂ rfl v hv
    have hpre := total_nonneg l₁
    have hpost := total_nonneg l₂
    have hm := Point.earned_nonneg m
    rw [total_append, total_cons] at h
    have hbefore : (l₁.foldl earn ⟨p⟩).amount.toInt = p.toInt + total l₁ :=
      foldl_earn (v := ⟨p⟩) (by simp only; omega)
    have hafter : ((l₁ ++ [m]).foldl earn ⟨p⟩).amount.toInt = p.toInt + total (l₁ ++ [m]) :=
      foldl_earn (v := ⟨p⟩) (by simp; omega)
    cases (hview l₁).symm.trans hv
    refine Or.inr ⟨_, hview _, hafter, ?_, ?_⟩
    · rw [hafter]
      simp
      omega
    · rw [hafter, hbefore]
      simp
      omega

/-- The cache with the points of one shopper. -/
def onePoint (p : Int32) : PointCache :=
  ⟨fun key => if key = ⟨1⟩ then some ⟨p⟩ else none, none⟩

/-- Three payments, with 7 points to begin with. -/
theorem neverWraps_small : NeverWraps ⟨1⟩ 7 (onePoint 7)
    [⟨99, by decide⟩, ⟨100, by decide⟩, ⟨12345, by decide⟩] :=
  (neverWraps_iff (p := 7) (c := onePoint 7) (by decide) (by decide) _).2 (by decide)

/-- A payment of 100, when the points are the greatest `int`: they wrap to the least one. -/
theorem wraps_large :
    (addAll ⟨1⟩ (onePoint 2147483647) [⟨100, by decide⟩]).view ⟨1⟩ = some ⟨-2147483648⟩ ∧
      ¬ NeverWraps ⟨1⟩ 2147483647 (onePoint 2147483647) [⟨100, by decide⟩] := by
  have hwrap : (addAll ⟨1⟩ (onePoint 2147483647) [⟨100, by decide⟩]).view ⟨1⟩ =
      some ⟨-2147483648⟩ := by decide
  refine ⟨hwrap, fun h => ?_⟩
  rcases h [] ⟨100, by decide⟩ [] rfl ⟨2147483647⟩ (by decide) with ⟨-, hsame⟩ | ⟨v, hv, -, hnn, -⟩
  · exact absurd (hwrap.symm.trans hsame) (by decide)
  · cases hwrap.symm.trans hv
    exact absurd hnn (by decide)

/-! ### The monolith -/

/-- Point repositories that behave like finite maps and are free of faults. -/
structure PointBackend where
  /-- The states of the repositories. -/
  State : Type
  /-- The answer to every repository call. -/
  env : Env RepoOp RepoOp.Res JavaException State
  /-- The points that are stored. -/
  points : State → ShopperId → Option Int32
  load : ∀ s id, (env (.loadPoint id) s).1.toOption = (points s id).map (Point.mk id) ∧
    points (env (.loadPoint id) s).2 = points s
  store : ∀ s p, (points s p.ownerId).isSome → (env (.storePoint p) s).1 = .ok () ∧
    points (env (.storePoint p) s).2 = Function.update (points s) p.ownerId (some p.point)

namespace PointBackend

variable (B : PointBackend)

/-- The state after points have been granted for some payments, one after another. -/
def addAll (s : B.State) (l : List Payment) : B.State :=
  Run.exec (fun s p => (run B.env (PointUsecase.addPoint p) s).2) s l

variable {B}

/-- Adding points stores and returns the points that were there: the sum is dropped. -/
theorem run_addPoint {s : B.State} {p : Payment} {q : Int32}
    (h : B.points s p.shopperId = some q) :
    (run B.env (PointUsecase.addPoint p) s).1 = .ok ⟨p.shopperId, q⟩ ∧
      B.points (run B.env (PointUsecase.addPoint p) s).2 = B.points s := by
  obtain ⟨hload, hpoints⟩ := B.load s p.shopperId
  rw [h, Option.map_some] at hload
  rcases hout : B.env (.loadPoint p.shopperId) s with ⟨e | point, s₁⟩
  · rw [hout] at hload
    cases hload
  · rw [hout] at hload hpoints
    cases hload
    obtain ⟨hok, hstored⟩ := B.store s₁ ⟨p.shopperId, q⟩ (by rw [hpoints, h]; rfl)
    have hstore : B.env (.storePoint ⟨p.shopperId, q⟩) s₁ =
        (.ok (), (B.env (.storePoint ⟨p.shopperId, q⟩) s₁).2) := Prod.ext hok rfl
    rw [PointUsecase.run_addPoint hout hstore]
    refine ⟨rfl, ?_⟩
    change B.points (B.env (.storePoint ⟨p.shopperId, q⟩) s₁).2 = _
    rw [hstored, hpoints, ← h, Function.update_eq_self]

/-- After any number of payments the stored points are what they were. -/
theorem points_addAll {s : B.State} {id : ShopperId} {q : Int32} (h : B.points s id = some q)
    {l : List Payment} (hl : ∀ payment ∈ l, payment.shopperId = id) :
    B.points (B.addAll s l) = B.points s := by
  induction l generalizing s with
  | nil => rfl
  | cons payment l ih =>
      obtain ⟨hid, hl⟩ := List.forall_mem_cons.1 hl
      obtain ⟨-, hpoints⟩ := run_addPoint (by rw [hid, h])
      change B.points (B.addAll (run B.env (PointUsecase.addPoint payment) s).2 l) = _
      rw [ih (by rw [hpoints, h]) hl, hpoints]

/-- At every payment the points that were there at the beginning are returned, and left. -/
theorem run_addPoint_addAll {s : B.State} {id : ShopperId} {q : Int32} (h : B.points s id = some q)
    {l : List Payment} (hl : ∀ payment ∈ l, payment.shopperId = id) {payment : Payment}
    (hid : payment.shopperId = id) :
    (run B.env (PointUsecase.addPoint payment) (B.addAll s l)).1 = .ok ⟨id, q⟩ ∧
      B.points (run B.env (PointUsecase.addPoint payment) (B.addAll s l)).2 = B.points s := by
  have hpoints := points_addAll h hl
  obtain ⟨hout, hsame⟩ := run_addPoint (s := B.addAll s l) (p := payment)
    (by rw [hpoints, hid, h])
  rw [hid] at hout
  exact ⟨hout, hsame.trans hpoints⟩

end PointBackend

/-! ### Both together -/

/-- At every payment of the list both implementations store and return the exact points of all the
payments so far, and touch no other shopper's. -/
def Agree (B : PointBackend) (s : B.State) (c : PointCache) (id : ShopperId) (p : Int32)
    (l : List Payment) : Prop :=
  ∀ l₁ payment l₂, l = l₁ ++ payment :: l₂ → ∃ v : Int32,
    v.toInt = p.toInt + total ((l₁ ++ [payment]).map Payment.billingAmount) ∧
    ((run B.env (PointUsecase.addPoint payment) (B.addAll s l₁)).1 = .ok ⟨id, v⟩ ∧
      B.points (run B.env (PointUsecase.addPoint payment) (B.addAll s l₁)).2 =
        Function.update (B.points s) id (some v)) ∧
    (run exec (CachePointRepository.addPoint id payment.billingAmount)
        (addAll id c (l₁.map Payment.billingAmount))).1 = .ok ⟨id, v⟩ ∧
    (run exec (CachePointRepository.addPoint id payment.billingAmount)
        (addAll id c (l₁.map Payment.billingAmount))).2.view =
      Function.update c.view ⟨id.value⟩ (some ⟨v⟩)

/-- The data grid does its part. -/
theorem grid_exact {id : ShopperId} {p : Int32} {c : PointCache}
    (hc : c.view ⟨id.value⟩ = some ⟨p⟩) {l : List Money} {m : Money}
    (h : p.toInt + total (l ++ [m]) < 2 ^ 31) :
    ∃ v : Int32, v.toInt = p.toInt + total (l ++ [m]) ∧
      (run exec (CachePointRepository.addPoint id m) (addAll id c l)).1 = .ok ⟨id, v⟩ ∧
      (run exec (CachePointRepository.addPoint id m) (addAll id c l)).2.view =
        Function.update c.view ⟨id.value⟩ (some ⟨v⟩) := by
  have hentry : (addAll id c l).view ⟨id.value⟩ = some (l.foldl earn ⟨p⟩) := by
    rw [view_addAll hc, Function.update_self]
  have hrun := run_addPoint_some hentry m
  refine ⟨((l ++ [m]).foldl earn ⟨p⟩).amount, foldl_earn (v := ⟨p⟩) h, ?_, ?_⟩
  · rw [hrun, List.foldl_append]
    rfl
  · rw [hrun, PointCache.view_write, view_addAll hc, Function.update_idem, List.foldl_append]
    rfl

/-- **The implementations agree** on a list of payments exactly if none of them earns a point. -/
theorem bothExact_iff {B : PointBackend} {s : B.State} {c : PointCache} {id : ShopperId} {p : Int32}
    {l : List Payment} (hl : ∀ payment ∈ l, payment.shopperId = id)
    (hs : B.points s id = some p) (hc : c.view ⟨id.value⟩ = some ⟨p⟩)
    (hrange : p.toInt + total (l.map Payment.billingAmount) < 2 ^ 31) :
    Agree B s c id p l ↔ ∀ payment ∈ l, payment.billingAmount.toInt < 100 := by
  have hprefix : ∀ l₁ payment l₂, l = l₁ ++ payment :: l₂ →
      (∀ q ∈ l₁, q.shopperId = id) ∧ payment.shopperId = id := by
    rintro l₁ payment l₂ rfl
    exact ⟨fun q hq => hl q (List.mem_append_left _ hq), hl payment (by simp)⟩
  constructor
  · intro h
    rcases List.eq_nil_or_concat l with rfl | ⟨l₁, payment, rfl⟩
    · nofun
    · rw [List.concat_eq_append] at h hprefix ⊢
      obtain ⟨hpre, hid⟩ := hprefix l₁ payment [] rfl
      obtain ⟨v, hv, ⟨-, hstored⟩, -⟩ := h l₁ payment [] rfl
      -- what the monolith has stored after the last payment is what it has found
      obtain ⟨-, hsame⟩ := PointBackend.run_addPoint_addAll hs hpre hid
      rw [hsame] at hstored
      have hpv : some p = some v := by
        rw [← hs, hstored, Function.update_self]
      cases hpv
      have hzero : total ((l₁ ++ [payment]).map Payment.billingAmount) = 0 := by omega
      rw [total_eq_zero_iff, List.forall_mem_map] at hzero
      exact hzero
  · intro h l₁ payment l₂ hsplit
    obtain ⟨hpre, hid⟩ := hprefix l₁ payment l₂ hsplit
    have hzero : total ((l₁ ++ [payment]).map Payment.billingAmount) = 0 := by
      rw [total_eq_zero_iff, List.forall_mem_map]
      intro q hq
      refine h q ?_
      rw [hsplit, List.append_cons]
      exact List.mem_append_left _ hq
    obtain ⟨hout, hsame⟩ := PointBackend.run_addPoint_addAll hs hpre hid
    rw [List.map_append, List.map_singleton] at hzero ⊢
    obtain ⟨v, hv, hgrid⟩ := grid_exact hc (l := l₁.map Payment.billingAmount)
      (m := payment.billingAmount) (by rw [hzero]; simpa using p.toInt_lt)
    have hvp : v = p := Int32.toInt_inj.1 (by rw [hv, hzero, add_zero])
    subst hvp
    refine ⟨v, hv, ⟨hout, ?_⟩, hgrid⟩
    rw [hsame, ← hs, Function.update_eq_self]

/-! ### The relational point repository -/

theorem rdbmsEnv_loadPoint (s : Monolith.DbState) (id : ShopperId) :
    (Monolith.rdbmsEnv (.loadPoint id) s).1.toOption =
        (s.view.points id.value).map (Point.mk id) ∧
      (Monolith.rdbmsEnv (.loadPoint id) s).2 = s := by
  change (run Monolith.exec (Monolith.RdbmsPointRepository.load id) s).1.toOption =
      (s.view.points id.value).map (Point.mk id) ∧
    (run Monolith.exec (Monolith.RdbmsPointRepository.load id) s).2 = s
  rw [Monolith.RdbmsPointRepository.load, run_query, Monolith.exec]
  cases s.view.points id.value with
  | none => exact ⟨rfl, rfl⟩
  | some amount => exact ⟨rfl, rfl⟩

theorem rdbmsEnv_storePoint {s : Monolith.DbState} {p : Point}
    (h : (s.view.points p.ownerId.value).isSome) :
    (Monolith.rdbmsEnv (.storePoint p) s).1 = .ok () ∧
      (Monolith.rdbmsEnv (.storePoint p) s).2.view.points =
        Function.update s.view.points p.ownerId.value (some p.point) := by
  obtain ⟨amount, hrow⟩ := Option.isSome_iff_exists.1 h
  have hexec : Monolith.rdbmsEnv (.storePoint p) s = (.ok (), ⟨s.committed,
      s.pending.putPoint p.ownerId.value p.point⟩) := by
    change run Monolith.exec (Monolith.RdbmsPointRepository.store p) s = _
    rw [Monolith.RdbmsPointRepository.store, run_query, Monolith.exec, hrow]
    rfl
  rw [hexec]
  refine ⟨rfl, ?_⟩
  rw [Monolith.DbState.view, Monolith.Db.putPoint_onto]
  rfl

/-- The relational repository is map-like. -/
def rdbmsPoints : PointBackend where
  State := Monolith.DbState
  env := Monolith.rdbmsEnv
  points s id := s.view.points id.value
  load s id := by
    obtain ⟨hout, hstate⟩ := rdbmsEnv_loadPoint s id
    exact ⟨hout, by rw [hstate]⟩
  store s p h := by
    obtain ⟨hout, hpoints⟩ := rdbmsEnv_storePoint h
    refine ⟨hout, funext fun id => ?_⟩
    rw [hpoints]
    by_cases hid : id = p.ownerId
    · rw [hid, Function.update_self, Function.update_self]
    · have hne : id.value ≠ p.ownerId.value := fun hv => hid (Monolith.shopperId_injective hv)
      rw [Function.update_of_ne hne, Function.update_of_ne hid]

/-- The monolith with a point row of one shopper. -/
def pointRow (p : Int32) : Monolith.DbState := (Monolith.Db.empty.putPoint 1 p).idle

/-- A payment of one shopper. -/
def payment (amount : Money) : Payment := ⟨⟨1⟩, ⟨1⟩, amount, ⟨0, 0⟩, some ⟨"abcd"⟩⟩

/-- A payment of 99 earns no point, in either implementation. -/
theorem agree_small : Agree rdbmsPoints (pointRow 7) (onePoint 7) ⟨1⟩ 7 [payment ⟨99, by decide⟩] :=
  (bothExact_iff (B := rdbmsPoints) (s := pointRow 7) (c := onePoint 7) (by decide) (by decide)
    (by decide) (by decide)).2 (by decide)

/-- A payment of 100 earns a point in the data grid, and none in the monolith. -/
theorem not_agree :
    (run exec (CachePointRepository.addPoint ⟨1⟩ ⟨100, by decide⟩) (onePoint 7)).1 =
        .ok ⟨⟨1⟩, 8⟩ ∧
      (run rdbmsPoints.env (PointUsecase.addPoint (payment ⟨100, by decide⟩)) (pointRow 7)).1 =
        .ok ⟨⟨1⟩, 7⟩ ∧
      ¬ Agree rdbmsPoints (pointRow 7) (onePoint 7) ⟨1⟩ 7 [payment ⟨100, by decide⟩] := by
  have hgrid : (run exec (CachePointRepository.addPoint ⟨1⟩ ⟨100, by decide⟩) (onePoint 7)).1 =
      .ok ⟨⟨1⟩, 8⟩ := rfl
  have hmonolith : (run rdbmsPoints.env (PointUsecase.addPoint (payment ⟨100, by decide⟩))
      (pointRow 7)).1 = .ok ⟨⟨1⟩, 7⟩ := rfl
  refine ⟨hgrid, hmonolith, fun h => ?_⟩
  obtain ⟨v, -, ⟨hout, -⟩, hout', -⟩ := h [] (payment ⟨100, by decide⟩) [] rfl
  have h₇ : (7 : Int32) = v := congrArg Point.point (Except.ok.inj (hmonolith.symm.trans hout))
  have h₈ : (8 : Int32) = v := congrArg Point.point (Except.ok.inj (hgrid.symm.trans hout'))
  exact absurd (h₇.trans h₈.symm) (by decide)

end RedHatPay.Points
