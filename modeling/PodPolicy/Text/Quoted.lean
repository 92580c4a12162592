import PodPolicy.Text.Printable

/-!
# Quoted text

Text between single quotes, or between double quotes where it holds a single
quote and no double one. Backslash, the quote in use and what cannot be printed
are escaped.
-/

namespace PodPolicy.Text

def hexDigits (width n : Nat) : List Char :=
  let digits := Nat.toDigits 16 n
  List.replicate (width - digits.length) '0' ++ digits

def quoteFor (cs : List Char) : Char :=
  if cs.contains '\'' && !cs.contains '"' then '"' else '\''

def escapedByCode (n : Nat) : List Char :=
  if n < 0x100 then '\\' :: 'x' :: hexDigits 2 n
  else if n < 0x10000 then '\\' :: 'u' :: hexDigits 4 n
  else '\\' :: 'U' :: hexDigits 8 n

def escapedChar (quote : Char) (c : Char) : List Char :=
  if c = quote ∨ c = '\\' then ['\\', c]
  else if c = '\n' then ['\\', 'n']
  else if c = '\r' then ['\\', 'r']
  else if c = '\t' then ['\\', 't']
  else if isPrintable c then [c]
  else escapedByCode c.toNat

def quoted (s : String) : String :=
  let quote := quoteFor s.toList
  String.ofList (quote :: (s.toList.flatMap (escapedChar quote) ++ [quote]))

/-- Only the printable characters of ASCII stand for themselves. -/
def escapedOctet (quote : Char) (octet : UInt8) : List Char :=
  if 0x20 ≤ octet ∧ octet < 0x7f ∨ octet = 0x09 ∨ octet = 0x0a ∨ octet = 0x0d then
    escapedChar quote (Char.ofNat octet.toNat)
  else escapedByCode octet.toNat

def quotedOctets (octets : List UInt8) : String :=
  let quote := quoteFor (octets.map fun octet => Char.ofNat octet.toNat)
  String.ofList ('b' :: quote :: (octets.flatMap (escapedOctet quote) ++ [quote]))

example : quoted "it's" = "\"it's\"" := by decide +kernel
example : quoted "a\"'" = "'a\"\\''" := by decide +kernel

end PodPolicy.Text
