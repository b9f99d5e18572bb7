/-!
# Hexadecimal digits

Numbers in base sixteen, most significant digit first and padded with zeros to a minimal width.
Tags, bytes and digests are shown this way in messages and in displayed digests.
-/

namespace Resemblance.Text

/-- The characters of the sixteen hexadecimal digits, the letters in lower case. -/
def lowerHexDigits : List Char := "0123456789abcdef".toList

/-- The characters of the sixteen hexadecimal digits, the letters in upper case. -/
def upperHexDigits : List Char := "0123456789ABCDEF".toList

/-- The lowest `width` hexadecimal digits of `number`, spelled with `digits`. -/
def hexDigits (digits : List Char) : (width number : Nat) → List Char
  | 0, _ => []
  | width + 1, number =>
      hexDigits digits width (number / 16) ++ [digits.getD (number % 16) '0']

def lowerHex (width number : Nat) : String :=
  String.ofList (hexDigits lowerHexDigits width number)

def upperHex (width number : Nat) : String :=
  String.ofList (hexDigits upperHexDigits width number)

end Resemblance.Text
