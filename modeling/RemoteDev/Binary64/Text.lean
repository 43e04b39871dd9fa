import RemoteDev.Binary64.Basic
import RemoteDev.Text.Basic

/-! The written forms of numbers. One renderer serves the shortest forms of every style; a style
says which magnitudes are written positionally and how an exponent looks. Packets carry sixteen
digits, in a style of their own. -/
namespace RemoteDev

structure NumberStyle where
  /-- The powers of ten of the first digit that are written without an exponent. -/
  positional : Int → Bool
  /-- Whether a whole number written without an exponent ends in a zero after a point. -/
  pointZero : Bool
  /-- Whether an exponent that is not negative has a plus sign. -/
  plusSign : Bool
  /-- The least count of exponent digits. -/
  exponentDigits : Nat
  notNumber : String

namespace NumberStyle

/-- Numbers in packets: positional from `10 ^ -4` up to `10 ^ 16`, else with a signed
exponent of two digits or more. -/
def packet : NumberStyle where
  positional x := -4 ≤ x && x < 16
  pointZero := false
  plusSign := true
  exponentDigits := 2
  notNumber := "nan"

/-- Numbers in messages: no exponent whatever the magnitude. -/
def plain : NumberStyle where
  positional _ := true
  pointZero := false
  plusSign := false
  exponentDigits := 1
  notNumber := "NaN"

/-- Numbers quoted from documents: a fraction always where there is no exponent, and a signed
exponent outside `10 ^ -5` to `10 ^ 16`. -/
def quoted : NumberStyle where
  positional x := -5 ≤ x && x < 16
  pointZero := true
  plusSign := true
  exponentDigits := 1
  notNumber := "NaN"

/-- Digits with the point set so that the first digit stands for `10 ^ leading`. -/
def positionalDigits (style : NumberStyle) (ds : List Char) (leading : Int) : List Char :=
  let whole := leading + 1
  if whole ≤ 0 then '0' :: '.' :: List.replicate (-whole).toNat '0' ++ ds
  else if ds.length ≤ whole.toNat then
    ds ++ List.replicate (whole.toNat - ds.length) '0'
      ++ (if style.pointZero then ['.', '0'] else [])
  else ds.take whole.toNat ++ '.' :: ds.drop whole.toNat

def exponentText (style : NumberStyle) (e : Int) : List Char :=
  let ds := Nat.toDigits 10 e.natAbs
  let sign := if e < 0 then ['-'] else if style.plusSign then ['+'] else []
  sign ++ List.replicate (style.exponentDigits - ds.length) '0' ++ ds

def scientificDigits (style : NumberStyle) (ds : List Char) (leading : Int) : List Char :=
  let fraction := match ds.drop 1 with
    | [] => []
    | r => '.' :: r
  ds.take 1 ++ fraction ++ 'e' :: exponentText style leading

def magnitude (style : NumberStyle) (d : Decimal) : List Char :=
  let s := d.strip (Decimal.digitCount d.digits)
  let ds := Nat.toDigits 10 s.digits
  let leading := s.exponent + (ds.length - 1 : Nat)
  if style.positional leading then positionalDigits style ds leading
  else scientificDigits style ds leading

def render (style : NumberStyle) (toDecimal : Binary64 → Decimal) (x : Binary64) : String :=
  if x.isNaN then style.notNumber
  else
    let sign := if x.negative then ['-'] else []
    let body :=
      if x.isInfinite then ['i', 'n', 'f']
      else if x.isZero then (if style.pointZero then ['0', '.', '0'] else ['0'])
      else magnitude style (toDecimal x)
    String.ofList (sign ++ body)

end NumberStyle

namespace Binary64

def signChars (x : Binary64) : List Char := if x.negative then ['-'] else []

def pointed : List Char → List Char
  | [] => []
  | ds => '.' :: ds

def lastDigits : Nat → Nat → List Char
  | 0, _ => []
  | count + 1, n => lastDigits count (n / 10) ++ [Nat.digitChar (n % 10)]

def scientificText (places : Nat) (x : Binary64) : List Char :=
  let d := Decimal.roundTo (places + 1) x.units unitsPerOne
  let ds := Nat.toDigits 10 d.digits
  x.signChars ++ ds.take 1 ++ pointed (ds.drop 1) ++
    'e' :: (signedText (d.exponent + places)).toList

def fixedText (places : Nat) (x : Binary64) : List Char :=
  let n := roundHalfEven (x.units * Nat.pow 10 places) unitsPerOne
  x.signChars ++ Nat.toDigits 10 (n / Nat.pow 10 places) ++ pointed (lastDigits places n)

def withoutFractionZeros (cs : List Char) : List Char :=
  if cs.contains '.' then
    ((cs.reverse.dropWhile (· == '0')).dropWhile (· == '.')).reverse
  else cs

def packetPlaces : Nat := 15

/-- A number to sixteen significant digits, as packets carry it. The form with an exponent says
where the first digit stands; a number that needs no exponent there is rounded once more, to as
many places as leave sixteen digits. -/
def packetText (x : Binary64) : String :=
  let style := NumberStyle.packet
  if x.isNaN then style.notNumber
  else if x.isInfinite then String.ofList (x.signChars ++ ['i', 'n', 'f'])
  else if x.isZero then String.ofList (x.signChars ++ ['0'])
  else
    let scientific := x.scientificText packetPlaces
    let (mantissa, exponent) := (splitAtFirst ['e'] scientific).getD (scientific, ['0'])
    let leading := (Text.integer? exponent).getD 0
    String.ofList <|
      if style.positional leading then
        withoutFractionZeros (x.fixedText (packetPlaces - leading).toNat)
      else withoutFractionZeros mantissa ++ 'e' :: style.exponentText leading

/-- The shortest text that reads back, without an exponent; of two at equal distance the
greater in magnitude. -/
def plainText (x : Binary64) : String := NumberStyle.plain.render (Decimal.shortest .up) x

/-- The shortest text that reads back and shows that the number is not an integer; of two at
equal distance the one with an even last digit. -/
def quotedText (x : Binary64) : String := NumberStyle.quoted.render (Decimal.shortest .even) x

def isDigit (c : Char) : Bool := '0' ≤ c && c ≤ '9'

def digitsValue (ds : List Char) : Nat := ds.foldl (fun n c => n * 10 + (c.toNat - 48)) 0

def exponentBound : Nat := 0x10000

/-- The value of the digits of an exponent: a digit counts as long as the value before it is
below the bound. -/
def exponentValue (ds : List Char) : Nat :=
  ds.foldl (fun n c => if n < exponentBound then n * 10 + (c.toNat - 48) else n) 0

def exponent? (cs : List Char) : Option Int :=
  let (negative, ds) := match cs with
    | '-' :: r => (true, r)
    | '+' :: r => (false, r)
    | r => (false, r)
  if ds.isEmpty || !ds.all isDigit then none
  else some (if negative then -(exponentValue ds : Int) else exponentValue ds)

def decimal? (cs : List Char) : Option Decimal :=
  let whole := cs.takeWhile isDigit
  let (fraction, rest) := match cs.dropWhile isDigit with
    | '.' :: r => (r.takeWhile isDigit, r.dropWhile isDigit)
    | r => ([], r)
  if whole.isEmpty && fraction.isEmpty then none
  else
    let digits := digitsValue (whole ++ fraction)
    match rest with
    | [] => some ⟨digits, -(fraction.length : Int)⟩
    | c :: r =>
      if c == 'e' || c == 'E' then
        (exponent? r).map fun e => ⟨digits, e - fraction.length⟩
      else none

/-- Reads the written form of a number: a sign or none, then a decimal or one of the
names of infinity and of what is not a number, in either case. -/
def ofText? (cs : List Char) : Option Binary64 :=
  let (negative, body) := match cs with
    | '-' :: r => (true, r)
    | '+' :: r => (false, r)
    | r => (false, r)
  let name := String.ofList (body.map Char.toLower)
  if name == "inf" || name == "infinity" then some (infinite negative)
  else if name == "nan" then some (notNumber negative)
  else (decimal? body).map (Decimal.nearest negative)

end Binary64
end RemoteDev
