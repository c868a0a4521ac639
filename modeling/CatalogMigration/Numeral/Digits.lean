namespace CatalogMigration.Numeral

def digitChar (d : Nat) : Char := Char.ofNat (if d < 10 then 48 + d else 87 + d)

def upperDigitChar (d : Nat) : Char := Char.ofNat (if d < 10 then 48 + d else 55 + d)

def decimal (n : Nat) : List Char :=
  if n < 10 then [digitChar n] else decimal (n / 10) ++ [digitChar (n % 10)]

def hexadecimal (n : Nat) : List Char :=
  if n < 16 then [digitChar n] else hexadecimal (n / 16) ++ [digitChar (n % 16)]

def upperHexadecimal (n : Nat) : List Char :=
  if n < 16 then [upperDigitChar n] else upperHexadecimal (n / 16) ++ [upperDigitChar (n % 16)]

def padded (width : Nat) (digits : List Char) : List Char :=
  List.replicate (width - digits.length) '0' ++ digits

def signed (n : Int) : List Char :=
  if n < 0 then '-' :: decimal n.natAbs else decimal n.natAbs

def isDigit (c : Char) : Bool := '0' ≤ c && c ≤ '9'

def digitValue? (base : Nat) (c : Char) : Option Nat :=
  let n := c.toNat
  let d :=
    if 48 ≤ n && n ≤ 57 then n - 48
    else if 97 ≤ n && n ≤ 122 then n - 87
    else if 65 ≤ n && n ≤ 90 then n - 55
    else base
  if d < base then some d else none

def value? (base : Nat) : List Char → Option Nat
  | [] => none
  | c :: cs => (c :: cs).foldlM (fun n c => (digitValue? base c).map (n * base + ·)) 0

def decimalText (n : Nat) : String := String.ofList (decimal n)

def signedText (n : Int) : String := String.ofList (signed n)

end CatalogMigration.Numeral
