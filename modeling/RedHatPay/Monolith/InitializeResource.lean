/-
**The monolith: its initialisation.**

The end point empties all tables and fills them again, in one transaction: a row for each user in
the tables of shoppers, wallets and points, and ten coffee stores.  The amounts are path parameters,
and are written as they are.

* `RedHatPay.Monolith.InitializeResource.initializeTables` — the end point, with its transaction;
* `RedHatPay.Monolith.initializeTables_spec` — **the rows of the users** after it.
-/

import RedHatPay.Monolith.PaymentResource

set_option relaxedAutoImplicit false
set_option autoImplicit false

namespace RedHatPay.Monolith

open Program

/-! ### The resource -/

/-- The statements of the Spring Data repositories that the initialisation issues. -/
inductive InitOp
  | deleteAllStores
  | deleteAllPayments
  | deleteAllTokens
  | deleteAllWallets
  | deleteAllPoints
  | deleteAllShoppers
  | saveShopper (ownerId : Int32) (name : String)
  | saveWallet (ownerId : Int32) (entity : WalletEntity)
  | savePoint (ownerId : Int32) (amount : Int32)
  | saveStore (id : Int32) (name : String)

/-- Programs of these statements; what they return is not used. -/
abbrev InitProgram (α : Type) : Type := Program InitOp (fun _ => Unit) JavaException α

/-- Writing a shopper row. -/
def Db.putShopper (db : Db) (id : Int32) (name : String) : Db :=
  { db with shoppers := Function.update db.shoppers id (some name) }

/-- Writing a store row. -/
def Db.putStore (db : Db) (id : Int32) (name : String) : Db :=
  { db with stores := Function.update db.stores id (some name) }

/-- The statements, without faults, on what the transaction sees. -/
def execInit : Env InitOp (fun _ => Unit) JavaException Db
  | .deleteAllStores, db => (.ok (), { db with stores := fun _ => none })
  | .deleteAllPayments, db => (.ok (), { db with payments := fun _ => none })
  | .deleteAllTokens, db => (.ok (), { db with tokens := fun _ => none })
  | .deleteAllWallets, db => (.ok (), { db with wallets := fun _ => none })
  | .deleteAllPoints, db => (.ok (), { db with points := fun _ => none })
  | .deleteAllShoppers, db => (.ok (), { db with shoppers := fun _ => none })
  | .saveShopper ownerId name, db => (.ok (), db.putShopper ownerId name)
  | .saveWallet ownerId entity, db => (.ok (), db.putWallet ownerId entity)
  | .savePoint ownerId amount, db => (.ok (), db.putPoint ownerId amount)
  | .saveStore id name, db => (.ok (), db.putStore id name)

namespace InitializeResource

/-- The loop over the users, from the user `i` on, with `n` users to go. -/
def createUsers (amount autoCharge : Int32) : Nat → Nat → InitProgram Unit
  | _, 0 => return ()
  | i, n + 1 => do
      perform (InitOp.saveShopper (Int32.ofNat i) ("User" ++ toString i))
      perform (InitOp.saveWallet (Int32.ofNat i) ⟨amount, autoCharge⟩)
      perform (InitOp.savePoint (Int32.ofNat i) 20)
      createUsers amount autoCharge (i + 1) n

/-- The loop over the coffee stores, from the store `i` on, with `n` stores to go. -/
def createStores : Nat → Nat → InitProgram Unit
  | _, 0 => return ()
  | i, n + 1 => do
      perform (InitOp.saveStore (Int32.ofNat i) ("Shop" ++ toString i))
      createStores (i + 1) n

/-- `InitializeResource.initialize`, without its transaction. -/
def body (userNum amount autoCharge : Int32) : InitProgram String := do
  perform InitOp.deleteAllStores
  perform InitOp.deleteAllPayments
  perform InitOp.deleteAllTokens
  perform InitOp.deleteAllWallets
  perform InitOp.deleteAllPoints
  perform InitOp.deleteAllShoppers
  createUsers amount autoCharge 0 userNum.toInt.toNat
  createStores 0 10
  return "初期化完了"

/-- The tables after `InitializeResource.initialize`. -/
def initializeTables (db : Db) (userNum amount autoCharge : Int32) : Db :=
  let out := run execInit (body userNum amount autoCharge) db
  if commits out.1 then out.2 else db

end InitializeResource

/-! ### The rows of the users -/

open InitializeResource

/-- The numbers of the users from `i` on, `n` of them. -/
def userIds (i n : Nat) : List Int32 := (List.range' i n).map Int32.ofNat

theorem mem_userIds {n id : Int32} :
    id ∈ userIds 0 n.toInt.toNat ↔ 0 ≤ id.toInt ∧ id.toInt < n.toInt := by
  rw [← exists_ofNat_iff, userIds, List.mem_map]
  simp

/-- The loop over the users writes their rows. -/
theorem run_createUsers (amount autoCharge : Int32) (n i : Nat) (db : Db) :
    ∃ db', run execInit (createUsers amount autoCharge i n) db = (.ok (), db') ∧
      db'.wallets = (userIds i n).foldl
        (fun t id => Function.update t id (some ⟨amount, autoCharge⟩)) db.wallets ∧
      db'.points = (userIds i n).foldl (fun t id => Function.update t id (some 20)) db.points := by
  induction n generalizing i db with
  | zero => exact ⟨db, rfl, rfl, rfl⟩
  | succ n ih => exact ih (i + 1) _

theorem run_createStores (n i : Nat) (db : Db) :
    ∃ db', run execInit (createStores i n) db = (.ok (), db') ∧ db'.wallets = db.wallets ∧
      db'.points = db.points := by
  induction n generalizing i db with
  | zero => exact ⟨db, rfl, rfl, rfl⟩
  | succ n ih => exact ih (i + 1) (db.putStore (Int32.ofNat i) ("Shop" ++ toString i))

/-- **The rows of the users**: after the initialisation exactly the users have a wallet, with the
given amounts, and a point account. -/
theorem initializeTables_spec (db : Db) (userNum amount autoCharge : Int32) (id : Int32) :
    (0 ≤ id.toInt ∧ id.toInt < userNum.toInt →
      (initializeTables db userNum amount autoCharge).wallets id = some ⟨amount, autoCharge⟩ ∧
      (initializeTables db userNum amount autoCharge).points id = some 20) ∧
    (¬ (0 ≤ id.toInt ∧ id.toInt < userNum.toInt) →
      (initializeTables db userNum amount autoCharge).wallets id = none ∧
      (initializeTables db userNum amount autoCharge).points id = none) := by
  obtain ⟨db₁, husers, hwallets, hpoints⟩ :=
    run_createUsers amount autoCharge userNum.toInt.toNat 0 Db.empty
  obtain ⟨db₂, hstores, hwallets', hpoints'⟩ := run_createStores 10 0 db₁
  have hrun : run execInit (body userNum amount autoCharge) db = (.ok "初期化完了", db₂) := by
    change run execInit (createUsers amount autoCharge 0 userNum.toInt.toNat >>= fun _ => _)
      Db.empty = _
    rw [run_bind_ok husers, run_bind_ok hstores]
    rfl
  have htables : initializeTables db userNum amount autoCharge = db₂ := by
    rw [initializeTables, hrun]
    rfl
  rw [htables, hwallets', hpoints', hwallets, hpoints, Transaction.foldl_update,
    Transaction.foldl_update, ← mem_userIds]
  constructor
  · exact fun huser => ⟨if_pos huser, if_pos huser⟩
  · exact fun huser => ⟨if_neg huser, if_neg huser⟩

end RedHatPay.Monolith
