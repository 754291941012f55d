-- Query parameters in the form encoding: letters, digits and `*-._` stand for themselves, a space
-- is written as a plus sign, and each other byte as a percent sign and two digits.

namespace ReadYourWrites.Text.FormEncoded

def isPlain (b : UInt8) : Bool :=
  let n := b.toNat
  (0x30 ≤ n && n ≤ 0x39) || (0x41 ≤ n && n ≤ 0x5A) || (0x61 ≤ n && n ≤ 0x7A) ||
    n == 0x2A || n == 0x2D || n == 0x2E || n == 0x5F

def hexDigit (n : Nat) : Char :=
  if n < 10 then Char.ofNat (0x30 + n) else Char.ofNat (0x41 + (n - 10))

def encodeByte (b : UInt8) : List Char :=
  if isPlain b then [Char.ofNat b.toNat]
  else if b = 0x20 then ['+']
  else ['%', hexDigit (b.toNat / 16), hexDigit (b.toNat % 16)]

def encode (text : String) : String :=
  .ofList (text.toByteArray.data.toList.flatMap encodeByte)

-- The parameters in order, each after an ampersand.
def query (parameters : List (String × String)) : String :=
  .join (parameters.map fun (name, value) => "&" ++ encode name ++ "=" ++ encode value)

end ReadYourWrites.Text.FormEncoded
