/-!
# Hexadecimal numbers

Digits may be of either case when they are read, and are written in lower case.
-/

namespace EventFields.Text

/-- The value of a hexadecimal digit. -/
def hexDigit? (c : Char) : Option Nat :=
  if '0' ≤ c && c ≤ '9' then some (c.toNat - '0'.toNat)
  else if 'a' ≤ c && c ≤ 'f' then some (c.toNat - 'a'.toNat + 10)
  else if 'A' ≤ c && c ≤ 'F' then some (c.toNat - 'A'.toNat + 10)
  else none

/-- The value of hexadecimal digits, of which there has to be one. -/
def hexValue? : List Char → Option Nat
  | [] => none
  | first :: rest =>
      rest.foldl (fun value? digit => do return (← value?) * 16 + (← hexDigit? digit))
        (hexDigit? first)

/-- The character whose code point is given in hexadecimal. -/
def characterOfHex? (digits : List Char) : Option Char :=
  match hexValue? digits with
  | some code => if code.isValidChar then some (Char.ofNat code) else none
  | none => none

/-- A number in hexadecimal digits, without leading zeros. -/
def hexadecimal (number : Nat) : String :=
  String.ofList (Nat.toDigits 16 number)

end EventFields.Text
