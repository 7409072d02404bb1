/-
**The parts of the Java platform that the payment code relies on.**

Java's `int` is Lean's `Int32`, whose addition and subtraction wrap; the lemmas of the first
section say what the sign of a wrapped sum or difference of two non-negative `int`s tells about
the exact one, which is all that the domain model checks.  Exceptions are kept with their class
and message; a list of suppressed exceptions is never read and is left out.

* `RedHatPay.JavaException`, `RedHatPay.JavaException.checked` — exceptions, and the distinction
  that decides whether a Spring transaction commits;
* `RedHatPay.LocalDateTime` — a local date and time, as the seconds and nanoseconds since
  1970-01-01T00:00, with the conversion from and to the epoch second at a fixed offset;
* `RedHatPay.UUID` — 128-bit identifiers with their textual form.
-/

import Mathlib.Algebra.Order.Ring.Int

set_option relaxedAutoImplicit false
set_option autoImplicit false

namespace RedHatPay

/-! ### Wrapping arithmetic -/

/-- The sum of two non-negative `int`s is negative exactly when the exact sum is out of range. -/
theorem toInt_add_neg_iff {a b : Int32} (ha : 0 ≤ a.toInt) (hb : 0 ≤ b.toInt) :
    (a + b).toInt < 0 ↔ 2 ^ 31 ≤ a.toInt + b.toInt := by
  have ha' := a.toInt_lt
  have hb' := b.toInt_lt
  rw [Int32.toInt_add, Int.bmod_def]
  split <;> omega

/-- A sum of two `int`s that stays in range is exact. -/
theorem toInt_add_of_lt {a b : Int32} (ha : 0 ≤ a.toInt) (hb : 0 ≤ b.toInt)
    (h : a.toInt + b.toInt < 2 ^ 31) : (a + b).toInt = a.toInt + b.toInt := by
  rw [Int32.toInt_add, Int.bmod_def]
  split <;> omega

/-- The difference of two non-negative `int`s never wraps. -/
theorem toInt_sub_of_nonneg {a b : Int32} (ha : 0 ≤ a.toInt) (hb : 0 ≤ b.toInt) :
    (a - b).toInt = a.toInt - b.toInt := by
  have ha' := a.toInt_lt
  have hb' := b.toInt_lt
  rw [Int32.toInt_sub, Int.bmod_def]
  split <;> omega

/-- The values that `i` takes in `for (int i = 0; i < n; i++)`. -/
theorem exists_ofNat_iff {n i : Int32} :
    (∃ j < n.toInt.toNat, Int32.ofNat j = i) ↔ 0 ≤ i.toInt ∧ i.toInt < n.toInt := by
  have hn := n.toInt_lt
  constructor
  · rintro ⟨j, hj, rfl⟩
    rw [Int32.toInt_ofNat_of_lt (by omega)]
    omega
  · rintro ⟨hnn, hlt⟩
    refine ⟨i.toInt.toNat, by omega, Int32.toInt_inj.1 ?_⟩
    rw [Int32.toInt_ofNat_of_lt (by omega)]
    omega

/-- Such a counter never has the same value twice. -/
theorem ofNat_inj_of_lt {i j : Nat} (hi : i < 2 ^ 31) (hj : j < 2 ^ 31)
    (h : Int32.ofNat i = Int32.ofNat j) : i = j := by
  have hint := congrArg Int32.toInt h
  rwa [Int32.toInt_ofNat_of_lt hi, Int32.toInt_ofNat_of_lt hj, Int.ofNat_inj] at hint

/-! ### Exceptions -/

/-- The exceptions that the payment code throws, catches or lets through. -/
inductive JavaException
  /-- `java.lang.RuntimeException`. -/
  | runtime (message : String)
  /-- `java.lang.NullPointerException`. -/
  | nullPointer
  /-- `java.util.NoSuchElementException`, from `Optional.get`. -/
  | noSuchElement (message : String)
  /-- `java.lang.UnsupportedOperationException`. -/
  | unsupportedOperation (message : Option String)
  /-- `rhpay.payment.domain.TokenException`. -/
  | tokenException (message : String)
  /-- `rhpay.payment.domain.FailedAutoChargeException`. -/
  | failedAutoCharge (message : String)
  /-- `rhpay.payment.domain.FailedPaymentException`. -/
  | failedPayment (message : String)
  /-- `rhpay.payment.domain.PaymentException`. -/
  | paymentException (message : String)
  /-- The checked exceptions of `javax.transaction`: a rollback, a heuristic outcome, a call in
  the wrong transaction state. -/
  | transaction (message : String)
  deriving DecidableEq

/-- Is it a checked exception, that is, not a `RuntimeException`? -/
def JavaException.checked : JavaException → Bool
  | runtime _ | nullPointer | noSuchElement _ | unsupportedOperation _ => false
  | tokenException _ | failedAutoCharge _ | failedPayment _ | paymentException _ => true
  | transaction _ => true

/-- `Throwable.getMessage`. -/
def JavaException.getMessage : JavaException → Option String
  | nullPointer => none
  | runtime m | noSuchElement m => some m
  | unsupportedOperation m => m
  | tokenException m | failedAutoCharge m | failedPayment m | paymentException m => some m
  | transaction m => some m

/-- Dereferencing a reference that may be `null`. -/
def nonNull {α : Type} : Option α → Except JavaException α
  | some a => .ok a
  | none => .error .nullPointer

theorem nonNull_eq_ok_iff {α : Type} {x : Option α} {v : α} : nonNull x = .ok v ↔ x = some v := by
  cases x with
  | none => exact iff_of_false nofun nofun
  | some a =>
      exact ⟨fun h => congrArg some (Except.ok.inj h), fun h => congrArg _ (Option.some.inj h)⟩

/-- `Optional.get`. -/
def optionalGet {α : Type} : Option α → Except JavaException α
  | some a => .ok a
  | none => .error (.noSuchElement "No value present")

/-! ### Dates -/

/-- `java.time.LocalDateTime`: seconds since 1970-01-01T00:00 local time, and nanoseconds. -/
structure LocalDateTime where
  second : Int
  nano : Fin 1000000000
  deriving DecidableEq

/-- `ZoneOffset.of("+09:00")`, in seconds. -/
def zoneOffset : Int := 9 * 3600

/-- A second has a nanosecond 0. -/
instance nanosPerSecond_neZero : NeZero (1000000000 : Nat) := ⟨by decide⟩

/-- `LocalDateTime.toEpochSecond(offset)`. -/
def LocalDateTime.toEpochSecond (d : LocalDateTime) (offset : Int) : Int := d.second - offset

/-- `LocalDateTime.ofEpochSecond(epochSecond, nano, offset)`. -/
def LocalDateTime.ofEpochSecond (epochSecond : Int) (nano : Fin 1000000000) (offset : Int) :
    LocalDateTime :=
  ⟨epochSecond + offset, nano⟩

@[simp] theorem LocalDateTime.toEpochSecond_ofEpochSecond (e : Int) (n : Fin 1000000000)
    (o : Int) : (LocalDateTime.ofEpochSecond e n o).toEpochSecond o = e := by
  simp [LocalDateTime.ofEpochSecond, LocalDateTime.toEpochSecond]

/-- `LocalDateTime.truncatedTo(ChronoUnit.SECONDS)`. -/
def LocalDateTime.truncatedToSeconds (d : LocalDateTime) : LocalDateTime := ⟨d.second, 0⟩

/-- The epoch second of a date gives the date back, up to the part of a second; also before 1970. -/
@[simp] theorem LocalDateTime.ofEpochSecond_toEpochSecond (d : LocalDateTime) (o : Int) :
    LocalDateTime.ofEpochSecond (d.toEpochSecond o) 0 o = d.truncatedToSeconds := by
  simp [LocalDateTime.ofEpochSecond, LocalDateTime.toEpochSecond, LocalDateTime.truncatedToSeconds]

/-! ### Identifiers -/

/-- `java.util.UUID`. -/
structure UUID where
  mostSigBits : BitVec 64
  leastSigBits : BitVec 64
  deriving DecidableEq

/-- The last `width` hexadecimal digits of `n`, in lower case. -/
def hexDigits (n : Nat) : Nat → List Char
  | 0 => []
  | width + 1 => hexDigits (n / 16) width ++ [Nat.digitChar (n % 16)]

/-- `UUID.toString`: groups of 8, 4, 4, 4 and 12 hexadecimal digits. -/
def UUID.toString (u : UUID) : String :=
  let hi := u.mostSigBits.toNat
  let lo := u.leastSigBits.toNat
  String.ofList (hexDigits (hi / 2 ^ 32) 8 ++ '-' :: hexDigits (hi / 2 ^ 16) 4 ++
    '-' :: hexDigits hi 4 ++ '-' :: hexDigits (lo / 2 ^ 48) 4 ++ '-' :: hexDigits lo 12)

/-- `String.substring(beginIndex, endIndex)`, for a text of one-unit characters. -/
def substring (s : String) (beginIndex endIndex : Nat) : String :=
  String.ofList ((s.toList.drop beginIndex).take (endIndex - beginIndex))

/-- A version 4 identifier prints in the usual form. -/
example : UUID.toString ⟨0x0123456789ab4def#64, 0x8edcba9876543210#64⟩ =
    "01234567-89ab-4def-8edc-ba9876543210" := by decide

end RedHatPay
