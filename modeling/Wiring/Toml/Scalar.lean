import Wiring.Toml.Text
import Wiring.Toml.Value

/-!
Numbers, truth values, dates and times. Integers have 64 bits; a float is refused where it would be
infinite; a date has to be on the calendar.
-/

namespace Wiring.Toml.Reader

/-- Digits with single underscores between them. -/
def digits (test : Char → Bool) : Reader (List Char) := do
  let first ← where? test
  let more ← many (where? test <|> (char '_' *> where? test))
  return first :: more

/-- Decimal digits without a leading zero. -/
def naturalDigits : Reader (List Char) :=
  (do
    discard (ahead fun c => '1' ≤ c && c ≤ '9')
    digits (·.isDigit))
  <|> (do
    char '0'
    return ['0'])

/-- Whether a minus sign stands here; a plus sign may as well. -/
def sign : Reader Bool := do
  let sign ← perhaps (where? fun c => c == '+' || c == '-')
  return sign == some '-'

def minInteger : Int := -0x8000000000000000

def maxInteger : Int := 0x7fffffffffffffff

def bounded (value : Int) : Reader Int :=
  if minInteger ≤ value ∧ value ≤ maxInteger then return value else failure

def basedInteger (letter : Char) (base : Nat) (test : Char → Bool) : Reader Int := do
  word ['0', letter]
  bounded (numeral base (← digits test))

def decimalInteger : Reader Int := do
  let negative ← sign
  let value : Int := numeral 10 (← naturalDigits)
  bounded (if negative then -value else value)

def integer : Reader Int :=
  basedInteger 'x' 16 isHexDigit
  <|> basedInteger 'o' 8 (fun c => '0' ≤ c && c ≤ '7')
  <|> basedInteger 'b' 2 (fun c => c == '0' || c == '1')
  <|> decimalInteger

def exponent : Reader Int := do
  discard (where? fun c => c == 'e' || c == 'E')
  let negative ← sign
  let value : Int := numeral 10 (← digits (·.isDigit))
  return if negative then -value else value

/-- The largest finite double and half a unit in its last place: what lies below rounds to a finite
double. -/
def overflowBound : Nat := Nat.pow 2 1024 - Nat.pow 2 970

/-- `significand` times ten to the `exponent` rounds to an infinite double. The number of digits
decides far from the bound, so that no huge power is computed. -/
def overflows (significand : Nat) (exponent : Int) : Bool :=
  if significand = 0 then false
  else
    let magnitude := exponent + (Nat.toDigits 10 significand).length
    if magnitude < 300 then false
    else if 400 < magnitude then true
    else if 0 ≤ exponent then overflowBound ≤ significand * Nat.pow 10 exponent.toNat
    else overflowBound * Nat.pow 10 (-exponent).toNat ≤ significand

def decimalFloat : Reader Unit := do
  let negative ← sign
  let whole ← naturalDigits
  let fraction ← perhaps (char '.' *> digits (·.isDigit))
  let exponent ← perhaps exponent
  if fraction.isNone && exponent.isNone then failure
  let fraction := fraction.getD []
  let significand := numeral 10 (whole ++ fraction)
  if !negative && overflows significand (exponent.getD 0 - fraction.length) then failure

def specialFloat : Reader Unit := do
  discard sign
  word ['i', 'n', 'f'] <|> word ['n', 'a', 'n']

def float : Reader Unit := decimalFloat <|> specialFloat

def boolean : Reader Unit := word ['t', 'r', 'u', 'e'] <|> word ['f', 'a', 'l', 's', 'e']

/-- A number of `count` digits between two bounds. -/
def field (count low high : Nat) : Reader Nat := do
  let value := numeral 10 (← exactly count (·.isDigit))
  if low ≤ value ∧ value ≤ high then return value else failure

def isLeapYear (year : Nat) : Bool := year % 4 == 0 && (year % 100 != 0 || year % 400 == 0)

def daysInMonth (year month : Nat) : Nat :=
  if month = 2 then (if isLeapYear year then 29 else 28)
  else if month = 4 ∨ month = 6 ∨ month = 9 ∨ month = 11 then 30
  else 31

def date : Reader Unit := do
  let year ← field 4 0 9999
  char '-'
  let month ← field 2 1 12
  char '-'
  discard (field 2 1 (daysInMonth year month))

def time : Reader Unit := do
  discard (field 2 0 23)
  char ':'
  discard (field 2 0 59)
  char ':'
  discard (field 2 0 60)
  discard (perhaps (char '.' *> someOf (·.isDigit)))

def offset : Reader Unit :=
  (do discard (where? fun c => c == 'Z' || c == 'z'))
  <|> (do
    discard (where? fun c => c == '+' || c == '-')
    discard (field 2 0 23)
    char ':'
    discard (field 2 0 59))

def dateTime : Reader Unit :=
  (do
    date
    discard (perhaps (do
      discard (where? fun c => c == 'T' || c == 't' || c == ' ')
      time
      discard (perhaps offset))))
  <|> time

def scalar : Reader Value :=
  Value.string <$> text
  <|> (dateTime *> pure .other)
  <|> (float *> pure .other)
  <|> Value.integer <$> integer
  <|> (boolean *> pure .other)

end Wiring.Toml.Reader
