/-
**Pending writes, and optimistic transactions on versioned tables.**

A table is a partial function from keys to values.  A transaction keeps its writes to itself, as
an overlay over the committed table, until it commits.  Under optimistic control every entry of
the committed table carries a version, which counts the changes of the entry; a transaction notes
the version of what it reads, and may only commit if no entry that it has both read and written has
a newer version.

Main definitions:

* `Transaction.overlay` — the table that a transaction sees;
* `Transaction.Versioned`, `Transaction.Access` — a committed table with its versions, and what a
  transaction has read and written of it;
* `Transaction.Versioned.valid`, `Transaction.Versioned.apply` — the check at commit, and commit;
* `Transaction.Access.Consistent`, `Transaction.Access.Current` — the invariant of a running
  transaction, among others and alone;
* `Transaction.Access.Within` — the entries that a transaction has read and written.

Main results:

* `Transaction.overlay_update` — a write of the transaction is an update of what it sees;
* `Transaction.foldl_update` — a table after a value has been written under each of some keys;
* `Transaction.Versioned.put_comm` — puts under different keys commute, versions included;
* `Transaction.Access.Consistent.become` — the invariant survives the commits of others;
* `Transaction.Access.Consistent.data_eq` — **no lost update**: at a valid commit, every entry
  that was read and written still holds the value that was read;
* `Transaction.Access.Current.valid` — a transaction that runs alone may commit;
* `Transaction.Access.Within.apply`, `Transaction.Access.Current.apply` — a commit leaves all other
  entries alone, and the transactions that have read only others.
-/

import Mathlib.Logic.Function.Basic
import Mathlib.Data.List.Basic

set_option relaxedAutoImplicit false
set_option autoImplicit false

namespace Transaction

variable {K V : Type}

/-! ### Overlays -/

/-- The table `t` with the pending writes `w` over it. -/
def overlay (w t : K → Option V) : K → Option V := fun k => (w k).or (t k)

theorem overlay_of_none {w t : K → Option V} {k : K} (h : w k = none) : overlay w t k = t k := by
  rw [overlay, h, Option.none_or]

theorem overlay_of_some {w t : K → Option V} {k : K} {v : V} (h : w k = some v) :
    overlay w t k = some v := by
  rw [overlay, h, Option.some_or]

@[simp] theorem overlay_empty (t : K → Option V) : overlay (fun _ => none) t = t := by
  funext k
  exact overlay_of_none rfl

@[simp] theorem overlay_update [DecidableEq K] (w t : K → Option V) (k : K) (v : V) :
    overlay (Function.update w k (some v)) t = Function.update (overlay w t) k (some v) := by
  funext k'
  by_cases h : k' = k
  · subst h
    rw [Function.update_self, overlay_of_some (Function.update_self _ _ _)]
  · rw [Function.update_of_ne h, overlay, overlay, Function.update_of_ne h]

/-- A write to a table, seen through its keys and a decoding of its values. -/
theorem decode_update {K' W : Type} [DecidableEq K] [DecidableEq K'] {key : K' → K}
    (hkey : Function.Injective key) (decode : Option V → W) (t : K → Option V) (k : K') (v : V) :
    (fun k' => decode (Function.update t (key k) (some v) (key k'))) =
      Function.update (fun k' => decode (t (key k'))) k (decode (some v)) := by
  have hkeys := Function.update_comp_eq_of_injective t hkey k (some v)
  exact (congrArg (decode ∘ ·) hkeys).trans (Function.comp_update decode _ k (some v))

/-- A value is written under each of some keys. -/
theorem foldl_update [DecidableEq K] (keys : List K) (value : K → V) (t : K → Option V) (k : K) :
    keys.foldl (fun t k => Function.update t k (some (value k))) t k =
      if k ∈ keys then some (value k) else t k := by
  induction keys generalizing t with
  | nil => rfl
  | cons k' keys ih =>
      rw [List.foldl_cons, ih]
      by_cases hk : k = k'
      · subst hk
        simp
      · simp [hk]

/-! ### Versioned tables -/

/-- A committed table; the version of an entry counts its changes. -/
structure Versioned (K V : Type) where
  data : K → Option V
  version : K → Nat

/-- What a transaction has read of a table, each entry with the value and the version that it had
at the first read, and what it has written. -/
structure Access (K V : Type) where
  reads : List (K × Option V × Nat)
  writes : K → Option V

/-- The accesses of a transaction that has just begun. -/
def Access.empty : Access K V := ⟨[], fun _ => none⟩

/-- Noting a read of the committed table; the first read of an entry counts. -/
def Access.note [DecidableEq K] (a : Access K V) (k : K) (v : Option V) (n : Nat) : Access K V :=
  if k ∈ a.reads.map Prod.fst then a else { a with reads := (k, v, n) :: a.reads }

/-- What a transaction sees of an entry. -/
def Versioned.see (c : Versioned K V) (a : Access K V) (k : K) : Option V :=
  overlay a.writes c.data k

/-- The accesses after a read: an entry that the transaction has written is not read from the
committed table. -/
def Versioned.read [DecidableEq K] (c : Versioned K V) (a : Access K V) (k : K) : Access K V :=
  match a.writes k with
  | some _ => a
  | none => a.note k (c.data k) (c.version k)

/-- The accesses after a write. -/
def Access.write [DecidableEq K] (a : Access K V) (k : K) (v : V) : Access K V :=
  { a with writes := Function.update a.writes k (some v) }

/-- The check at commit: every entry that was read and written has the version that was read. -/
def Versioned.valid (c : Versioned K V) (a : Access K V) : Bool :=
  a.reads.all fun r => (a.writes r.1).isNone || c.version r.1 == r.2.2

/-- The table with new contents. -/
def Versioned.become [DecidableEq V] (c : Versioned K V) (data : K → Option V) : Versioned K V where
  data := data
  version k := if data k = c.data k then c.version k else c.version k + 1

/-- The table after a commit. -/
def Versioned.apply [DecidableEq V] (c : Versioned K V) (a : Access K V) : Versioned K V :=
  c.become (overlay a.writes c.data)

/-- A write outside of any transaction. -/
def Versioned.put [DecidableEq K] [DecidableEq V] (c : Versioned K V) (k : K) (v : V) :
    Versioned K V :=
  c.become (Function.update c.data k (some v))

/-- The table after everything has been removed. -/
def Versioned.clear [DecidableEq V] (c : Versioned K V) : Versioned K V := c.become fun _ => none

@[simp] theorem Versioned.apply_data [DecidableEq V] (c : Versioned K V) (a : Access K V) :
    (c.apply a).data = overlay a.writes c.data := rfl

@[simp] theorem Versioned.put_data [DecidableEq K] [DecidableEq V] (c : Versioned K V) (k : K)
    (v : V) : (c.put k v).data = Function.update c.data k (some v) := rfl

@[simp] theorem Versioned.see_empty (c : Versioned K V) (k : K) : c.see Access.empty k = c.data k :=
  overlay_of_none rfl

@[simp] theorem Access.write_writes [DecidableEq K] (a : Access K V) (k : K) (v : V) :
    (a.write k v).writes = Function.update a.writes k (some v) := rfl

theorem Access.write_self [DecidableEq K] (a : Access K V) (k : K) (v : V) :
    ((a.write k v).writes k).isSome := by
  simp

@[simp] theorem Access.note_writes [DecidableEq K] (a : Access K V) (k : K) (v : Option V)
    (n : Nat) : (a.note k v n).writes = a.writes := by
  rw [Access.note]
  split <;> rfl

@[simp] theorem Versioned.read_writes [DecidableEq K] (c : Versioned K V) (a : Access K V) (k : K) :
    (c.read a k).writes = a.writes := by
  rw [Versioned.read]
  split
  · rfl
  · exact a.note_writes k _ _

/-- An entry that the transaction has written is not read from the committed table. -/
theorem Versioned.read_write [DecidableEq K] (c : Versioned K V) (a : Access K V) (k : K) (v : V) :
    c.read (a.write k v) k = a.write k v := by
  rw [Versioned.read, Access.write_writes, Function.update_self]

/-- Writing an entry twice is writing it once. -/
theorem Access.write_write [DecidableEq K] (a : Access K V) (k : K) (v : V) :
    (a.write k v).write k v = a.write k v := by
  simp [Access.write]

/-- A put that changes nothing leaves the version as it is. -/
theorem Versioned.put_put [DecidableEq K] [DecidableEq V] (c : Versioned K V) (k : K) (v : V) :
    (c.put k v).put k v = c.put k v := by
  simp [Versioned.put, Versioned.become]

/-- A put does not touch the versions of other entries. -/
theorem Versioned.put_version_of_ne [DecidableEq K] [DecidableEq V] {j k : K} (hj : j ≠ k)
    (c : Versioned K V) (v : V) : (c.put k v).version j = c.version j := by
  have hdata : Function.update c.data k (some v) j = c.data j := Function.update_of_ne hj _ _
  exact if_pos hdata

theorem Versioned.put_version_self [DecidableEq K] [DecidableEq V] (c : Versioned K V) (k : K)
    (v : V) :
    (c.put k v).version k = if some v = c.data k then c.version k else c.version k + 1 := by
  simp [Versioned.put, Versioned.become]

/-- Puts under different keys commute. -/
theorem Versioned.put_comm [DecidableEq K] [DecidableEq V] {k k' : K} (hk : k ≠ k')
    (c : Versioned K V) (v v' : V) : (c.put k v).put k' v' = (c.put k' v').put k v := by
  have hdata := Function.update_comm hk (some v) (some v') c.data
  have hversion : ((c.put k v).put k' v').version = ((c.put k' v').put k v).version := by
    funext j
    by_cases hj : j = k
    · subst hj
      rw [put_version_of_ne hk, put_version_self, put_version_self, put_version_of_ne hk,
        put_data, Function.update_of_ne hk]
    · rw [put_version_of_ne hj (c.put k' v')]
      by_cases hj' : j = k'
      · subst hj'
        rw [put_version_self, put_version_self, put_version_of_ne hj, put_data,
          Function.update_of_ne hj]
      · rw [put_version_of_ne hj', put_version_of_ne hj', put_version_of_ne hj]
  exact congrArg₂ Versioned.mk hdata hversion

theorem Versioned.valid_iff {c : Versioned K V} {a : Access K V} :
    c.valid a = true ↔
      ∀ k v n, (k, v, n) ∈ a.reads → (a.writes k).isSome → c.version k = n := by
  simp only [Versioned.valid, List.all_eq_true, Bool.or_eq_true, Option.isNone_iff_eq_none,
    beq_iff_eq, Prod.forall]
  refine forall_congr' fun k => forall_congr' fun v => forall_congr' fun n =>
    imp_congr_right fun _ => ?_
  cases a.writes k with
  | none => simp
  | some w => simp

/-! ### The invariant of a running transaction -/

/-- Every version noted is at most the committed one, and if it is the committed one then the
entry still holds the value that was read. -/
def Access.Consistent (a : Access K V) (c : Versioned K V) : Prop :=
  ∀ k v n, (k, v, n) ∈ a.reads → n ≤ c.version k ∧ (n = c.version k → c.data k = v)

namespace Access.Consistent

variable {a : Access K V} {c : Versioned K V}

theorem empty : (Access.empty : Access K V).Consistent c := by
  intro k v n h
  cases h

theorem note [DecidableEq K] (h : a.Consistent c) (k : K) :
    (a.note k (c.data k) (c.version k)).Consistent c := by
  intro k' v n hr
  rw [Access.note] at hr
  split at hr
  · exact h k' v n hr
  · rcases List.mem_cons.1 hr with heq | hr
    · cases heq
      exact ⟨Nat.le_refl _, fun _ => rfl⟩
    · exact h k' v n hr

theorem read [DecidableEq K] (h : a.Consistent c) (k : K) : (c.read a k).Consistent c := by
  rw [Versioned.read]
  split
  · exact h
  · exact h.note k

theorem write [DecidableEq K] (h : a.Consistent c) (k : K) (v : V) : (a.write k v).Consistent c := h

/-- The invariant survives changes made by others. -/
theorem become [DecidableEq V] (h : a.Consistent c) (data : K → Option V) :
    a.Consistent (c.become data) := by
  intro k v n hr
  obtain ⟨hle, hdata⟩ := h k v n hr
  by_cases hk : data k = c.data k
  · have hversion : (c.become data).version k = c.version k := if_pos hk
    rw [hversion]
    exact ⟨hle, fun hn => hk.trans (hdata hn)⟩
  · have hversion : (c.become data).version k = c.version k + 1 := if_neg hk
    rw [hversion]
    exact ⟨by omega, fun hn => absurd hn (by omega)⟩

/-- **No lost update**: at a valid commit, an entry that was read and written still holds the
value that was read. -/
theorem data_eq (h : a.Consistent c) (hv : c.valid a = true) {k : K} {v : Option V} {n : Nat}
    (hr : (k, v, n) ∈ a.reads) (hw : (a.writes k).isSome) : c.data k = v :=
  (h k v n hr).2 (Versioned.valid_iff.1 hv k v n hr hw).symm

end Access.Consistent

/-- Every version noted is the committed one. -/
def Access.Current (a : Access K V) (c : Versioned K V) : Prop :=
  ∀ k v n, (k, v, n) ∈ a.reads → c.version k = n

namespace Access.Current

variable {a : Access K V} {c : Versioned K V}

theorem empty : (Access.empty : Access K V).Current c := by
  intro k v n h
  cases h

theorem read [DecidableEq K] (h : a.Current c) (k : K) : (c.read a k).Current c := by
  intro k' v n hr
  rw [Versioned.read] at hr
  split at hr
  · exact h k' v n hr
  · rw [Access.note] at hr
    split at hr
    · exact h k' v n hr
    · rcases List.mem_cons.1 hr with heq | hr
      · cases heq
        rfl
      · exact h k' v n hr

/-- A transaction that runs alone may commit. -/
theorem valid (h : a.Current c) : c.valid a = true :=
  Versioned.valid_iff.2 fun k v n hr _ => h k v n hr

end Access.Current

/-! ### Footprints -/

/-- The transaction has read and written only entries with the property. -/
structure Access.Within (a : Access K V) (P : K → Prop) : Prop where
  reads : ∀ k v n, (k, v, n) ∈ a.reads → P k
  writes : ∀ k, (a.writes k).isSome → P k

namespace Access.Within

variable {a : Access K V} {c : Versioned K V} {P : K → Prop} {k : K}

theorem empty : (Access.empty : Access K V).Within P := ⟨nofun, nofun⟩

theorem read [DecidableEq K] (h : a.Within P) (hk : P k) : (c.read a k).Within P := by
  refine ⟨fun k' v n hr => ?_, fun k' hw => h.writes k' ?_⟩
  · rw [Versioned.read] at hr
    split at hr
    · exact h.reads k' v n hr
    · rw [Access.note] at hr
      split at hr
      · exact h.reads k' v n hr
      · rcases List.mem_cons.1 hr with heq | hr
        · cases heq
          exact hk
        · exact h.reads k' v n hr
  · rwa [Versioned.read_writes] at hw

theorem write [DecidableEq K] (h : a.Within P) (hk : P k) (v : V) : (a.write k v).Within P := by
  refine ⟨h.reads, fun k' hw => ?_⟩
  by_cases hk' : k' = k
  · rw [hk']
    exact hk
  · rw [Access.write_writes, Function.update_of_ne hk'] at hw
    exact h.writes k' hw

/-- **The frame**: a commit leaves all other entries alone, with their versions. -/
theorem apply [DecidableEq V] (h : a.Within P) (hk : ¬ P k) :
    (c.apply a).data k = c.data k ∧ (c.apply a).version k = c.version k := by
  have hnone : a.writes k = none := Option.not_isSome_iff_eq_none.1 (mt (h.writes k) hk)
  have hdata : overlay a.writes c.data k = c.data k := overlay_of_none hnone
  exact ⟨hdata, if_pos hdata⟩

end Access.Within

/-- A transaction stays current when one with another footprint commits. -/
theorem Access.Current.apply [DecidableEq V] {a b : Access K V} {c : Versioned K V}
    {P Q : K → Prop} (h : a.Current c) (ha : a.Within P) (hb : b.Within Q)
    (hPQ : ∀ k, P k → ¬ Q k) : a.Current (c.apply b) := by
  intro k v n hr
  rw [(hb.apply (hPQ k (ha.reads k v n hr))).2]
  exact h k v n hr

end Transaction
