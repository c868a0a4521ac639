import CatalogMigration.Numeral.Digits

namespace CatalogMigration.Url

open Numeral

def utf8 (cs : List Char) : List UInt8 := cs.flatMap String.utf8EncodeChar

def encodeByte (b : UInt8) : List Char :=
  ['%', upperDigitChar (b.toNat / 16), upperDigitChar (b.toNat % 16)]

/-- The ASCII characters that stand for their bytes, besides controls. -/
abbrev EncodeSet := List Char

namespace EncodeSet

def controls : EncodeSet := []

def fragment : EncodeSet := [' ', '"', '<', '>', '\x60']

def query : EncodeSet := [' ', '"', '#', '<', '>']

def specialQuery : EncodeSet := '\'' :: query

def path : EncodeSet := ['#', '?', '\x7b', '\x7d'] ++ fragment

def userinfo : EncodeSet := path ++ ['/', ':', ';', '=', '@', '[', '\\', ']', '^', '|']

def pathSegment : EncodeSet := path ++ ['/', '%']

def specialPathSegment : EncodeSet := pathSegment ++ ['\\']

end EncodeSet

def isEncoded (set : EncodeSet) (c : Char) : Bool :=
  c.toNat < 0x20 || 0x7e < c.toNat || set.contains c

def encodeChar (set : EncodeSet) (c : Char) : List Char :=
  if isEncoded set c then (String.utf8EncodeChar c).flatMap encodeByte else [c]

def encode (set : EncodeSet) (cs : List Char) : List Char := cs.flatMap (encodeChar set)

/-- Two hexadecimal digits after a percent sign stand for a byte, all else for itself. -/
def decode : List Char → List UInt8
  | [] => []
  | '%' :: a :: b :: cs =>
    match digitValue? 16 a, digitValue? 16 b with
    | some x, some y => UInt8.ofNat (x * 16 + y) :: decode cs
    | _, _ => String.utf8EncodeChar '%' ++ decode (a :: b :: cs)
  | c :: cs => String.utf8EncodeChar c ++ decode cs

def decodeText? (cs : List Char) : Option (List Char) :=
  (String.fromUTF8? (ByteArray.mk (decode cs).toArray)).map String.toList

/-- The form of names and values in a query: a blank is written as a plus sign. -/
def formChar (c : Char) : List Char :=
  if c = ' ' then ['+']
  else if c.isAlphanum || c = '*' || c = '-' || c = '.' || c = '_' then [c]
  else (String.utf8EncodeChar c).flatMap encodeByte

def formEncode (cs : List Char) : List Char := cs.flatMap formChar

def formPair (name value : String) : List Char :=
  formEncode name.toList ++ '=' :: formEncode value.toList

end CatalogMigration.Url
