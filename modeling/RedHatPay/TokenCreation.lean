/-
**Token creation and the tokens that are already there.**

`TokenService.create` cuts the first four characters from a random identifier, and both stores
insert or overwrite.  As long as every request for a token draws an id that the shopper does not
have yet, a sequence of requests is a history of the ledger: used tokens stay used, nobody pays
twice with one token, and no payment record is overwritten.  Otherwise a used token becomes unused.

* `RedHatPay.Service.Undisturbed` — what creation should leave alone;
* `RedHatPay.Service.undisturbed_iff_fresh`, `RedHatPay.undisturbed_iff` — **token creation disturbs
  no token exactly in the runs that draw fresh ids**.
-/

import Mathlib.Data.List.Nodup
import RedHatPay.Deployments
import RedHatPay.Ledger

set_option relaxedAutoImplicit false
set_option autoImplicit false

namespace RedHatPay

/-- Every payment record is that of a used token, and of a shopper with a wallet. -/
def Accounted {R : Type} (S : Store R) : Prop :=
  ∀ key, (S.payments key).isSome → S.tokens key = some .used ∧ (S.wallets key.1).isSome

/-- Histories keep the records accounted for. -/
theorem Accounted.reached {R : Type} {record : Payment → R} {S₀ S : Store R}
    {L : List (Key × Payment)} (h₀ : Accounted S₀) (h : Store.Reached record S₀ L S) :
    Accounted S := by
  intro key hkey
  rw [h.used_iff, h.wallets_isSome]
  by_cases hmem : key ∈ L.map Prod.fst
  · obtain ⟨e, he, rfl⟩ := List.mem_map.1 hmem
    exact ⟨Or.inr hmem, h.wallets_of_mem he⟩
  · rw [h.payments_eq hmem] at hkey
    obtain ⟨hused, hwallet⟩ := h₀ key hkey
    exact ⟨Or.inl hused, hwallet⟩

namespace Service

variable (D : Service)

/-! ### What creation should leave alone -/

/-- A request for a token adds a key, unused, and changes no other token. -/
def AddsToken (s : D.State) : Request → Prop
  | .createToken userId uuid => (D.view s).tokens (createdKey userId uuid) = none ∧
      (D.view (D.step s (.createToken userId uuid))).tokens =
        Function.update (D.view s).tokens (createdKey userId uuid) (some .unused)
  | .pay _ _ => True

/-- The keys of the payment requests that succeed. -/
def succeeded : D.State → List Request → List Key
  | _, [] => []
  | s, .createToken userId uuid :: l => succeeded (D.step s (.createToken userId uuid)) l
  | s, .pay req clock :: l =>
      if (D.serve s (.pay req clock)).1 then req.key :: succeeded (D.step s (.pay req clock)) l
      else succeeded (D.step s (.pay req clock)) l

theorem succeeded_cons (s : D.State) (r : Request) (l : List Request) :
    D.succeeded s (r :: l) = D.succeeded s [r] ++ D.succeeded (D.step s r) l := by
  cases r with
  | createToken userId uuid => rfl
  | pay req clock =>
      rw [succeeded, succeeded]
      split <;> rfl

/-- **What creation should leave alone** in a run: every request for a token adds one, a used token
stays used, no two payments succeed with one token, and a payment record stays as it is. -/
structure Undisturbed (s₀ : D.State) (l : List Request) : Prop where
  adds : Run.Steps D.step D.AddsToken s₀ l
  used : ∀ pre mid post key, l = pre ++ mid ++ post →
    (D.view (D.run s₀ pre)).tokens key = some .used →
      (D.view (D.run s₀ (pre ++ mid))).tokens key = some .used
  once : (D.succeeded s₀ l).Nodup
  records : ∀ pre mid post key r, l = pre ++ mid ++ post →
    (D.view (D.run s₀ pre)).payments key = some r →
      (D.view (D.run s₀ (pre ++ mid))).payments key = some r

/-- The id that a request for a token draws is not one of the shopper's tokens. -/
def Fresh (s : D.State) : Request → Prop
  | .createToken userId uuid => (D.view s).tokens (createdKey userId uuid) = none
  | .pay _ _ => True

/-! ### Runs with fresh ids -/

variable {D}

theorem addsToken_iff (s : D.State) (r : Request) : D.AddsToken s r ↔ D.Fresh s r := by
  cases r with
  | createToken userId uuid =>
      refine ⟨fun h => h.1, fun h => ⟨h, ?_⟩⟩
      change (D.view (D.serve s (.createToken userId uuid)).2).tokens = _
      rw [(D.createToken s userId uuid).2, Store.setToken_tokens]
  | pay req clock => exact Iff.rfl

/-- One request leads a history on. -/
theorem reached_step {S₀ : Store D.Record} {L : List (Key × Payment)} {s : D.State} {r : Request}
    (h₀ : Accounted S₀) (h : Store.Reached D.record S₀ L (D.view s)) (hr : D.Fresh s r) :
    ∃ L', Store.Reached D.record S₀ L' (D.view (D.step s r)) ∧
      L'.map Prod.fst = (D.succeeded s [r]).reverse ++ L.map Prod.fst := by
  cases r with
  | createToken userId uuid =>
      refine ⟨L, ?_, rfl⟩
      change Store.Reached D.record S₀ L (D.view (D.serve s (.createToken userId uuid)).2)
      rw [(D.createToken s userId uuid).2]
      exact h.create _ hr
  | pay req clock =>
      have hout := D.pay s req clock
      rw [succeeded]
      change ∃ L', Store.Reached D.record S₀ L' (D.view (D.serve s (.pay req clock)).2) ∧ _
      generalize (D.serve s (.pay req clock)).1 = ok at hout ⊢
      generalize D.view (D.serve s (.pay req clock)).2 = S' at hout ⊢
      cases hout with
      | charged hm hpay => exact ⟨_, h.charged hpay, rfl⟩
      | failed => exact ⟨L, h, rfl⟩
      | refused hunused => exact ⟨L, h.refused _ hunused, rfl⟩
      | stale hwallet hrecord =>
          obtain ⟨-, hsome⟩ := h₀.reached h req.key hrecord
          change ((D.view s).wallets ⟨req.userId⟩).isSome at hsome
          rw [hwallet] at hsome
          cases hsome

/-- **A run with fresh ids is a history of the ledger**; its payments are those of the requests that
succeed. -/
theorem reached_run {S₀ : Store D.Record} (h₀ : Accounted S₀) {l : List Request} {s : D.State}
    {L : List (Key × Payment)} (h : Store.Reached D.record S₀ L (D.view s))
    (hl : Run.Steps D.step D.Fresh s l) :
    ∃ L', Store.Reached D.record S₀ L' (D.view (D.run s l)) ∧
      L'.map Prod.fst = (D.succeeded s l).reverse ++ L.map Prod.fst := by
  induction l generalizing s L with
  | nil => exact ⟨L, h, rfl⟩
  | cons r l ih =>
      obtain ⟨L₁, hL₁, hkeys₁⟩ := reached_step h₀ h hl.1
      obtain ⟨L', hL', hkeys⟩ := ih hL₁ hl.2
      refine ⟨L', hL', ?_⟩
      rw [hkeys, hkeys₁, D.succeeded_cons s r l, List.reverse_append, List.append_assoc]

/-- **Token creation disturbs no token** in exactly the runs that draw fresh ids. -/
theorem undisturbed_iff_fresh {s₀ : D.State} (h₀ : Accounted (D.view s₀)) (l : List Request) :
    D.Undisturbed s₀ l ↔ Run.Steps D.step D.Fresh s₀ l := by
  have hadds : Run.Steps D.step D.AddsToken s₀ l ↔ Run.Steps D.step D.Fresh s₀ l :=
    Run.steps_iff (I := fun _ => True) (fun s r _ _ => addsToken_iff s r)
      (fun _ _ _ _ _ => trivial) trivial
  refine ⟨fun h => hadds.1 h.adds, fun hl => ?_⟩
  -- from every point of the run on, the rest is a history of its own
  have hrest : ∀ {pre mid post}, l = pre ++ mid ++ post → ∃ L,
      Accounted (D.view (D.run s₀ pre)) ∧
      Store.Reached D.record (D.view (D.run s₀ pre)) L (D.view (D.run s₀ (pre ++ mid))) := by
    rintro pre mid post rfl
    obtain ⟨hpre, hmid⟩ := Run.steps_append.1 (Run.steps_append.1 hl).1
    obtain ⟨L₁, hL₁, -⟩ := reached_run h₀ (.start) hpre
    have h₁ := h₀.reached hL₁
    obtain ⟨L₂, hL₂, -⟩ := reached_run h₁ (.start) hmid
    refine ⟨L₂, h₁, ?_⟩
    have happend : D.run s₀ (pre ++ mid) = D.run (D.run s₀ pre) mid := Run.exec_append s₀ pre mid
    rw [happend]
    exact hL₂
  refine ⟨hadds.2 hl, fun pre mid post key heq hused => ?_, ?_, fun pre mid post key r heq hr => ?_⟩
  · obtain ⟨L, -, hL⟩ := hrest heq
    exact (hL.used_iff key).2 (Or.inl hused)
  · obtain ⟨L, hL, hkeys⟩ := reached_run h₀ (.start) hl
    have hnodup := hL.nodup.1
    rw [hkeys, List.map_nil, List.append_nil, List.nodup_reverse] at hnodup
    exact hnodup
  · obtain ⟨L, haccounted, hL⟩ := hrest heq
    have hused := (haccounted key (by rw [hr]; rfl)).1
    rw [hL.payments_eq fun hkey => hL.nodup.2 key hkey hused, hr]

end Service

/-! ### The two deployments -/

/-- **Token creation disturbs no token**, in either deployment, in exactly the runs in which every
request for a token draws an id that the shopper does not have yet. -/
theorem undisturbed_iff (platform : Platform) {s₀ : platform.service.State}
    (h₀ : Accounted (platform.service.view s₀)) (l : List Request) :
    platform.service.Undisturbed s₀ l ↔
      Run.Steps platform.service.step platform.service.Fresh s₀ l :=
  Service.undisturbed_iff_fresh h₀ l

/-- A state with one shopper and unused tokens. -/
def Platform.oneShopper : (platform : Platform) → platform.service.State
  | monolith => Monolith.oneShopper 100 0 .unused
  | dataGrid => ⟨Grid.oneShopper 100 0, []⟩

theorem accounted_oneShopper (platform : Platform) :
    Accounted (platform.service.view platform.oneShopper) := by
  cases platform with
  | monolith => exact fun key hkey => nomatch hkey
  | dataGrid => exact fun key hkey => nomatch hkey

/-- Two identifiers with the same first characters. -/
def uuid₁ : UUID := ⟨0x0123456789ab4def#64, 0x8edcba9876543210#64⟩

/-- The second one. -/
def uuid₂ : UUID := ⟨0x0123ba9876544321#64, 0x9abcdef012345678#64⟩

/-- A token is created and used, and another one is created; each time, a payment is made. -/
def createAndPay (second : UUID) : List Request :=
  [.createToken 1 uuid₁, .pay ⟨1, "0123", 1, 30⟩ fun _ => ⟨0, 0⟩,
    .createToken 1 second, .pay ⟨1, "0123", 1, 30⟩ fun _ => ⟨60, 0⟩]

/-- With different first characters, nothing is disturbed. -/
theorem undisturbed_createAndPay :
    monolith.Undisturbed (Platform.oneShopper .monolith)
        (createAndPay ⟨0x4567ba9876544321#64, 0x9abcdef012345678#64⟩) ∧
      dataGrid.Undisturbed (Platform.oneShopper .dataGrid)
        (createAndPay ⟨0x4567ba9876544321#64, 0x9abcdef012345678#64⟩) :=
  ⟨(undisturbed_iff .monolith (accounted_oneShopper .monolith) _).2
      ⟨rfl, trivial, rfl, trivial, trivial⟩,
    (undisturbed_iff .dataGrid (accounted_oneShopper .dataGrid) _).2
      ⟨rfl, trivial, rfl, trivial, trivial⟩⟩

/-- With the same first characters, the second token is the first one, and it is paid with twice. -/
theorem creation_collides :
    uuid₁ ≠ uuid₂ ∧
      (monolith.succeeded (Platform.oneShopper .monolith) (createAndPay uuid₂) =
          [(⟨1⟩, ⟨"0123"⟩), (⟨1⟩, ⟨"0123"⟩)] ∧
        ¬ monolith.Undisturbed (Platform.oneShopper .monolith) (createAndPay uuid₂)) ∧
      (dataGrid.succeeded (Platform.oneShopper .dataGrid) (createAndPay uuid₂) =
          [(⟨1⟩, ⟨"0123"⟩), (⟨1⟩, ⟨"0123"⟩)] ∧
        ¬ dataGrid.Undisturbed (Platform.oneShopper .dataGrid) (createAndPay uuid₂)) := by
  refine ⟨by decide, ⟨by decide, fun h => ?_⟩, ⟨by decide, fun h => ?_⟩⟩
  · exact absurd h.once (by decide)
  · exact absurd h.once (by decide)

end RedHatPay
