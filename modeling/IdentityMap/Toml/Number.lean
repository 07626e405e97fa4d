/-
Numbers, as a TOML document writes them.

An underscore may stand between two digits.  A decimal numeral has no leading zero, and
only a decimal numeral has a sign.  An integer has to fit 64 bits.  Of a float only its
form is checked, and that it does not lie above all that 64 bits can hold.
-/
import IdentityMap.Toml.Quoted

namespace IdentityMap.Toml.Number
open Reader

/-- Digits, with at most one underscore between two of them. -/
def digits (isDigit : Char → Bool) : Reader (List Char) := do
  let first ← satisfying isDigit
  let rest ← many (satisfying isDigit <|> do
    char '_'
    satisfying isDigit)
  return first :: rest

/-- A minus sign or none. -/
def negative : Reader Bool :=
  (do char '-'; pure true) <|> (do char '+'; pure false) <|> pure false

/-- Digits without a leading zero, or a zero alone. -/
def decimal : Reader (List Char) :=
  (do char '0'; pure ['0']) <|> digits Char.isDigit

/-- An integer that fits 64 bits. -/
def inRange (n : Int) : Reader Int :=
  if -0x8000000000000000 ≤ n ∧ n < 0x8000000000000000 then pure n else failure

/-- An integer with the letter of its base. -/
def based (letter : Char) (base : Nat) (isDigit : Char → Bool) : Reader Int := do
  word ['0', letter]
  inRange (Numeral.valueOf base (← digits isDigit))

def integer : Reader Int :=
  based 'x' 16 Numeral.isHexDigit <|> based 'o' 8 (fun c => '0' ≤ c && c ≤ '7') <|>
  based 'b' 2 (fun c => c == '0' || c == '1') <|> do
    let isNegative ← negative
    let n := Nat.ofDigitChars 10 (← decimal) 0
    inRange (if isNegative then -n else n)

/-- The exponent of a float. -/
def exponent : Reader Int := do
  discard (satisfying fun c => c == 'e' || c == 'E')
  let isNegative ← negative
  let n := Nat.ofDigitChars 10 (← digits Char.isDigit) 0
  return if isNegative then -n else n

/-- From here on a number rounds to more than the largest float of 64 bits. -/
def overflow : Nat := (1 <<< 54 - 1) <<< 970

/-- `mantissa * 10 ^ scale` is too large for a float of 64 bits.  The largest float has
309 digits, so only numbers of that many digits have to be looked at closely. -/
def overflows (mantissa : Nat) (scale : Int) : Bool :=
  let size := (Nat.toDigits 10 mantissa).length + scale
  if mantissa = 0 || size < 309 then false
  else if 309 < size then true
  else if 0 ≤ scale then overflow ≤ mantissa * Nat.pow 10 scale.toNat
  else overflow * Nat.pow 10 (-scale).toNat ≤ mantissa

/-- A float in digits: with a fraction, an exponent, or both. -/
def finite : Reader Unit := do
  let isNegative ← negative
  let whole ← decimal
  let (fraction, scale) ← (do return (([] : List Char), ← exponent)) <|> do
    char '.'
    let fraction ← digits Char.isDigit
    return (fraction, (← maybe exponent).getD 0)
  let mantissa := Nat.ofDigitChars 10 (whole ++ fraction) 0
  if !isNegative && overflows mantissa (scale - fraction.length) then failure

/-- A float, or one of the words for those without digits. -/
def float : Reader Unit :=
  finite <|> do
    discard negative
    word ['i', 'n', 'f'] <|> word ['n', 'a', 'n']

end IdentityMap.Toml.Number
