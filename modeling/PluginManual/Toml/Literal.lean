import PluginManual.Toml.Value

/-! Values of one word in TOML: truth values, numbers, dates and times. -/

namespace PluginManual
namespace Toml

/-! ### Digits -/

/-- Reads digits that may have single underscores between them. -/
def groupedDigits? (isDigit : Char → Bool) (s : Text) : Option Text :=
  let pieces := s.splitOn '_'
  if pieces.all fun p => !p.isEmpty && p.all isDigit then some pieces.flatten else none

/-- Reads decimal digits with underscores between them. -/
def decimalDigits? : Text → Option Text := groupedDigits? Char.isDigit

def decimal (digits : Text) : Nat := (Text.numeral? 10 Text.digit? digits).getD 0

def splitSign : Text → Bool × Text
  | '-' :: s => (true, s)
  | '+' :: s => (false, s)
  | s => (false, s)

/-- Reads the digits of a whole number. None but zero itself begins with a zero. -/
def wholeDigits? (s : Text) : Option Text := do
  let digits ← decimalDigits? s
  guard (digits.length = 1 || digits.head? != some '0')
  return digits

/-! ### Whole numbers -/

/-- The number, if 64 bits with a sign can hold it. -/
def integerInRange? (n : Int) : Option Toml :=
  if -0x8000000000000000 ≤ n ∧ n < 0x8000000000000000 then some (integer n) else none

/-- Reads the digits of a number in another base. -/
def inBase? (base : Nat) (s : Text) : Option Toml := do
  let value := fun c => (Text.hexDigit? c).filter (· < base)
  let digits ← groupedDigits? (fun c => (value c).isSome) s
  integerInRange? (← Text.numeral? base value digits)

def integer? (s : Text) : Option Toml :=
  match s with
  | '0' :: 'x' :: digits => inBase? 16 digits
  | '0' :: 'o' :: digits => inBase? 8 digits
  | '0' :: 'b' :: digits => inBase? 2 digits
  | _ => do
    let (negative, s) := splitSign s
    let n := decimal (← wholeDigits? s)
    integerInRange? (if negative then -n else n)

/-! ### Numbers with a fraction -/

/-- Is `m · 10 ^ e` too large for a number of 64 bits? -/
def overflows (m : Nat) (e : Int) : Bool :=
  if m = 0 then false
  else
    let size := (Nat.toDigits 10 m).length + e
    if size < 300 then false
    else if 320 < size then true
    else
      let limit := Nat.pow 2 1024 - Nat.pow 2 970
      if 0 ≤ e then limit ≤ m * Nat.pow 10 e.toNat else limit * Nat.pow 10 (-e).toNat ≤ m

/-- Reads a number with a fraction, an exponent or both. One that is too large is refused, unless it is
    negative. -/
def float? (s : Text) : Option Toml := do
  let (negative, rest) := splitSign s
  if rest = ("inf" : Text) ∨ rest = ("nan" : Text) then return float s
  let (mantissa, exponent) := match Text.splitOnce? 'e' (rest.map Char.toLower) with
    | some (m, e) => (m, some e)
    | none => (rest, none)
  let (whole, fraction) := match mantissa.splitOnce? '.' with
    | some (w, f) => (w, some f)
    | none => (mantissa, none)
  guard (fraction.isSome || exponent.isSome)
  let whole ← wholeDigits? whole
  let fraction ← match fraction with
    | some f => decimalDigits? f
    | none => some []
  let power ← match exponent with
    | some e => do
      let (down, digits) := splitSign e
      let n := decimal (← decimalDigits? digits)
      pure (if down then -(n : Int) else n)
    | none => some 0
  guard (negative || !overflows (decimal (whole ++ fraction)) (power - fraction.length))
  return float s

/-! ### Dates and times -/

def fixedDigits? (n : Nat) (s : Text) : Option Nat := do
  guard (s.length = n && s.all Char.isDigit)
  return decimal s

def isLeapYear (y : Nat) : Bool := y % 4 = 0 && (y % 100 != 0 || y % 400 = 0)

def daysIn (y m : Nat) : Nat :=
  if m = 2 then (if isLeapYear y then 29 else 28) else if m ∈ [4, 6, 9, 11] then 30 else 31

/-- Is the text a date such as `1979-05-27`? -/
def isDate (s : Text) : Bool := Option.isSome do
  let [y, m, d] := s.splitOn '-' | none
  let y ← fixedDigits? 4 y
  let m ← fixedDigits? 2 m
  let d ← fixedDigits? 2 d
  guard (1 ≤ m && m ≤ 12 && 1 ≤ d && d ≤ daysIn y m)

/-- Is the text a number of two digits up to `most`? -/
def isPart (most : Nat) (s : Text) : Bool := (fixedDigits? 2 s).any (· ≤ most)

/-- Is the text a time of day such as `07:32:00` or `07:32:00.5`? -/
def isTime (s : Text) : Bool :=
  let (s, fractionOk) := match s.splitOnce? '.' with
    | some (s, fraction) => (s, !fraction.isEmpty && fraction.all Char.isDigit)
    | none => (s, true)
  fractionOk && match s.splitOn ':' with
    | [h, m, sec] => isPart 23 h && isPart 59 m && isPart 60 sec
    | _ => false

/-- Is the text a distance from universal time such as `+01:00`? -/
def isOffset (s : Text) : Bool :=
  match s with
  | ['Z'] | ['z'] => true
  | c :: s => (c = '+' || c = '-') && match Text.splitOn ':' s with
    | [h, m] => isPart 23 h && isPart 59 m
    | _ => false
  | [] => false

def isTimeAtOffset (s : Text) : Bool :=
  let inTime := fun c : Char => c.isDigit || c = ':' || c = '.'
  let offset := s.dropWhile inTime
  isTime (s.takeWhile inTime) && (offset.isEmpty || isOffset offset)

/-- Is the text a date, a time, or both with a letter between them? -/
def isDateOrTime (s : Text) : Bool :=
  let day := s.takeWhile fun c => c.isDigit || c = '-'
  isTime s || isDate s ||
    isDate day && match s.drop day.length with
      | c :: time => (c = 'T' || c = 't' || c = ' ') && isTimeAtOffset time
      | [] => false

/-! ### All of them -/

def ofLiteral? (s : Text) : Option Toml :=
  if s = ("true" : Text) then some (boolean true)
  else if s = ("false" : Text) then some (boolean false)
  else if isDateOrTime s then some (date s)
  else (float? s).or (integer? s)

end Toml
end PluginManual
