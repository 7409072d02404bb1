/-
**Who has a point account.**

`PointTask` adds to an entry of the point cache and never creates one.  The only other writer is the
start of the point service, which puts one entry, for the shopper 1, over whatever was there; the
initialisation of the data grid, other than that of the monolith, creates wallets without points.

* `RedHatPay.Points.DataGrid`, `RedHatPay.Points.step` — the wallets and the points, and what is
  done to them;
* `RedHatPay.Points.Supplied` — everyone who has a wallet has an entry to add points to;
* `RedHatPay.Points.meets_iff` — **every shopper who can pay has a point account that only grows**
  in exactly the runs without users, and without a start that finds more points than it puts.
-/

import RedHatPay.Lib.Run
import RedHatPay.Points.Cache
import RedHatPay.Quarkus.Answers
import RedHatPay.Quarkus.Initialization

set_option relaxedAutoImplicit false
set_option autoImplicit false

namespace RedHatPay.Points

open Program Grid Quarkus

/-! ### What is done to wallets and points -/

/-- `InitialProcess.onStart`, on the entries of the point cache; without a cache there are none. -/
def InitialProcess.onStart (c : Entries) : Entries := Function.update c ⟨1⟩ (some ⟨10⟩)

/-- The deployment of the payment service, and the entries of the point cache. -/
structure DataGrid where
  deployment : Deployment
  points : Entries

/-- Nothing has been started yet. -/
def DataGrid.empty : DataGrid := ⟨.empty, fun _ => none⟩

/-- What is done to wallets and points. -/
inductive Action
  /-- The point service starts. -/
  | onStart
  | initializeCaches (userNum amount autoCharge : Int32) (w : Occasion)
  /-- A request for a token, or for a payment. -/
  | request (r : Call)
  | pointTask (f : Faults) (param : PayInfo)

/-- The state after an action. -/
def step (s : DataGrid) : Action → DataGrid
  | .onStart => ⟨s.deployment, InitialProcess.onStart s.points⟩
  | .initializeCaches userNum amount autoCharge w =>
      ⟨(run (remote w) (InitializeResource.initializeCaches userNum amount autoCharge)
        s.deployment).2, s.points⟩
  | .request r => ⟨callStep s.deployment r, s.points⟩
  | .pointTask f param => ⟨s.deployment, (PointTask.serve f param s.points).2⟩

/-! ### Accounts -/

/-- Everyone who has a wallet has an entry in the point cache, and `CachePointRepository.addPoint`
does not dereference `null` for them. -/
def Supplied (s : DataGrid) : Prop :=
  ∀ key, s.deployment.caches.wallets.data key ≠ none → s.points key ≠ none ∧
    ∀ m, (run exec (CachePointRepository.addPoint ⟨key.ownerId⟩ m) ⟨s.points, none⟩).1 ≠
      .error .nullPointer

/-- Nobody has less points than before. -/
def NoneLowered (c c' : Entries) : Prop :=
  ∀ key v, c key = some v → ∃ v', c' key = some v' ∧ v.amount.toInt ≤ v'.amount.toInt

/-- After the action everyone with a wallet has a point account; and if it is a start of the point
service, then it has not lowered any points. -/
def Meets (s : DataGrid) (a : Action) : Prop :=
  Supplied (step s a) ∧ match a with
    | .onStart => NoneLowered s.points (step s a).points
    | _ => True

/-- There are no users to initialise; and a start of the point service finds at most the points that
it puts. -/
def Admissible (s : DataGrid) : Action → Prop
  | .onStart => ∀ v, s.points ⟨1⟩ = some v → v.amount.toInt ≤ 10
  | .initializeCaches userNum _ _ _ => userNum.toInt ≤ 0
  | _ => True

/-- Nobody has a wallet, and only the shopper 1 may have points. -/
structure Bare (s : DataGrid) : Prop where
  wallets : ∀ key, s.deployment.caches.wallets.data key = none
  points : ∀ key, key ≠ ⟨1⟩ → s.points key = none

theorem Bare.empty : Bare .empty := ⟨fun _ => rfl, fun _ _ => rfl⟩

theorem Bare.supplied {s : DataGrid} (h : Bare s) : Supplied s :=
  fun key hkey => absurd (h.wallets key) hkey

/-- With an entry in the point cache for everyone who has a wallet, all are supplied. -/
theorem supplied_iff {s : DataGrid} :
    Supplied s ↔ ∀ key, s.deployment.caches.wallets.data key ≠ none → s.points key ≠ none := by
  refine ⟨fun h key hkey => (h key hkey).1, fun h key hkey => ⟨h key hkey, fun m => ?_⟩⟩
  obtain ⟨v, hv⟩ := Option.ne_none_iff_exists'.1 (h key hkey)
  have hview : PointCache.view ⟨s.points, none⟩ ⟨(⟨key.ownerId⟩ : ShopperId).value⟩ = some v := hv
  rw [run_addPoint_some hview]
  nofun

/-- Without wallets, requests leave the caches of the payment service without wallets. -/
theorem callStep_wallets {s : Deployment} (h : ∀ key, s.caches.wallets.data key = none) (r : Call)
    (key : ShopperKey) : (callStep s r).caches.wallets.data key = none := by
  cases r with
  | createToken userId uuid w => exact h key
  | pay endpoint req w =>
      rw [callStep, serve_caches]
      rcases delegate_cases w s req with ⟨m, c', -, hcommits, -⟩ | ⟨-, r, hrun, -⟩
      -- a payment that commits has debited an entry
      · obtain ⟨-, hcharged, -⟩ := hcommits.charged
        obtain ⟨entry, -, hentry, -⟩ := hcharged.debited
        rw [h] at hentry
        cases hentry
      · rw [hrun]
        exact h key

/-- The task creates no entry. -/
theorem serve_eq_none {f : Faults} {param : PayInfo} {c : Entries} {key : ShopperKey}
    (h : c key = none) : (PointTask.serve f param c).2 key = none := by
  rcases PointTask.serve_cases f param c with ⟨m, v, -, hentry, hserve⟩ | ⟨e, hserve⟩
  · rw [hserve]
    have hne : key ≠ ⟨param.ownerId⟩ := by
      rintro rfl
      rw [h] at hentry
      cases hentry
    exact (Function.update_of_ne hne _ _).trans h
  · rw [hserve]
    exact h

/-- **The step**: without users, there are no wallets. -/
theorem Bare.step {s : DataGrid} (h : Bare s) {a : Action} (ha : Admissible s a) :
    Bare (step s a) := by
  cases a with
  | onStart => exact ⟨h.wallets, fun key hkey => (Function.update_of_ne hkey _ _).trans
      (h.points key hkey)⟩
  | initializeCaches userNum amount autoCharge w =>
      refine ⟨fun key => ?_, h.points⟩
      have hnone : ¬ (0 ≤ key.ownerId.toInt ∧ key.ownerId.toInt < userNum.toInt) := by
        have huser : userNum.toInt ≤ 0 := ha
        omega
      exact (initializeCaches_spec w s.deployment userNum amount autoCharge key).2.trans
        (if_neg hnone)
  | request r => exact ⟨callStep_wallets h.wallets r, h.points⟩
  | pointTask f param => exact ⟨h.wallets, fun key hkey => serve_eq_none (h.points key hkey)⟩

/-- A start of the point service lowers the points of the shopper 1, or of nobody. -/
theorem noneLowered_onStart_iff (c : Entries) :
    NoneLowered c (InitialProcess.onStart c) ↔ ∀ v, c ⟨1⟩ = some v → v.amount.toInt ≤ 10 := by
  constructor
  · intro h v hv
    obtain ⟨v', hv', hle⟩ := h ⟨1⟩ v hv
    cases (Function.update_self _ _ _).symm.trans hv'
    exact hle
  · intro h key v hv
    by_cases hkey : key = ⟨1⟩
    · subst hkey
      exact ⟨⟨10⟩, Function.update_self _ _ _, h v hv⟩
    · exact ⟨v, (Function.update_of_ne hkey _ _).trans hv, le_rfl⟩

/-- One action, as long as nobody has a wallet: the first user gets a wallet without points. -/
theorem meets_iff_admissible {s : DataGrid} (h : Bare s) (a : Action) :
    Meets s a ↔ Admissible s a := by
  constructor
  · rintro ⟨hsupplied, hlowered⟩
    cases a with
    | onStart => exact (noneLowered_onStart_iff s.points).1 hlowered
    | initializeCaches userNum amount autoCharge w =>
        refine not_lt.1 fun huser => ?_
        have hwallet := (initializeCaches_spec w s.deployment userNum amount autoCharge ⟨0⟩).2
        rw [if_pos ⟨le_rfl, huser⟩] at hwallet
        refine supplied_iff.1 hsupplied ⟨0⟩ (fun hnone => ?_) (h.points ⟨0⟩ (by decide))
        cases hwallet.symm.trans hnone
    | request r => trivial
    | pointTask f param => trivial
  · intro ha
    refine ⟨(h.step ha).supplied, ?_⟩
    cases a with
    | onStart => exact (noneLowered_onStart_iff s.points).2 ha
    | initializeCaches userNum amount autoCharge w => trivial
    | request r => trivial
    | pointTask f param => trivial

/-- **Every shopper who can pay has a point account that only grows**, all along a run from the
beginning, exactly if no initialisation of the run has users, and no start of the point service
finds more points than it puts. -/
theorem meets_iff (l : List Action) :
    Run.Steps step Meets .empty l ↔ Run.Steps step Admissible .empty l :=
  Run.steps_iff (I := Bare) (fun _ a _ h => meets_iff_admissible h a) (fun _ _ _ h ha => h.step ha)
    .empty

/-- The point service starts, and two users are initialised. -/
def twoUsers : List Action :=
  [.onStart, .initializeCaches 2 100 0 (.calm fun _ => ⟨0, 0⟩)]

/-- The point service starts, points are granted to the shopper 1, and it starts again. -/
def restarted : List Action := [.onStart, .pointTask .none ⟨1, 500, 1, "abcd", 0⟩, .onStart]

/-- The user 0 has a wallet and no points, and nothing can be added to them; and the second start
takes from the shopper 1 what was granted. -/
theorem not_meets :
    (¬ Run.Steps step Meets .empty twoUsers ∧
      (PointTask.serve .none ⟨0, 500, 1, "abcd", 0⟩ (Run.exec step .empty twoUsers).points).1 =
        .error .nullPointer) ∧
    (¬ Run.Steps step Meets .empty restarted ∧
      (Run.exec step .empty (restarted.take 2)).points ⟨1⟩ = some ⟨15⟩ ∧
      (Run.exec step .empty restarted).points ⟨1⟩ = some ⟨10⟩) := by
  refine ⟨⟨?_, by decide⟩, ?_, by decide, by decide⟩
  · rintro ⟨-, ⟨h, -⟩, -⟩
    exact supplied_iff.1 h ⟨0⟩ (by decide) (by decide)
  · rintro ⟨-, -, ⟨-, h⟩, -⟩
    obtain ⟨v', hv', hle⟩ := h ⟨1⟩ ⟨15⟩ (by decide)
    obtain rfl : v' = ⟨10⟩ := Option.some.inj (hv'.symm.trans (by decide))
    exact absurd hle (by decide)

end RedHatPay.Points
