import RemoteDev.Binary64.Basic
import RemoteDev.Binary64.Text

/-! JSON documents and their numbers. The members of an object stand in the order of their names,
each name once; among members of one name in a text the last counts. A number without fraction and
exponent that fits 64 bits is an integer. Any other is a float, computed from a significand below
`2 ^ 64` by at most a few roundings: digits that no longer fit into the significand raise the
exponent before the point and are dropped after it. -/
namespace RemoteDev

/-- A JSON value. Whole numbers within 64 bits are integers, all others are floats. -/
inductive Json where
  | null
  | bool (b : Bool)
  | integer (n : Int)
  | float (x : Binary64)
  | text (s : String)
  | list (items : List Json)
  | object (members : List (String × Json))

namespace Json

/-- Sets the member of a name and keeps the names in order. -/
def setMember (name : String) (value : Json) : List (String × Json) → List (String × Json)
  | [] => [(name, value)]
  | (n, v) :: r =>
    if n = name then (name, value) :: r
    else if name < n then (name, value) :: (n, v) :: r
    else (n, v) :: setMember name value r

def member? (name : String) : Json → Option Json
  | object members => members.lookup name
  | _ => none

def text? : Json → Option String
  | text s => some s
  | _ => none

def memberText? (name : String) (json : Json) : Option String :=
  (json.member? name).bind text?

theorem lookup_setMember_self (name : String) (value : Json) (members : List (String × Json)) :
    (setMember name value members).lookup name = some value := by
  induction members with
  | nil => simp [setMember]
  | cons m r ih =>
    obtain ⟨n, v⟩ := m
    by_cases h : n = name
    · simp [setMember, h]
    · have h' : (name == n) = false := by simpa using fun e => h e.symm
      by_cases hlt : name < n
      · simp [setMember, h, hlt]
      · simpa [setMember, h, hlt, List.lookup_cons, h'] using ih

inductive JsonFault where
  | unexpectedEnd
  | unexpected (c : Char)
  | badNumber
  | outOfRange
  | badEscape
  | controlCharacter
  | tooDeep
  | trailing
deriving DecidableEq, Repr

def JsonFault.message : JsonFault → String
  | unexpectedEnd => "the document ends early"
  | unexpected c => "unexpected character '" ++ String.singleton c ++ "'"
  | badNumber => "invalid number"
  | outOfRange => "number out of range"
  | badEscape => "invalid escape"
  | controlCharacter => "control character in a string"
  | tooDeep => "nested too deeply"
  | trailing => "characters after the document"

/-- Takes digits into a significand as long as it stays below `2 ^ 64`, and counts them. -/
def gather (significand : Nat) : List Char → Nat × Nat
  | [] => (significand, 0)
  | c :: r =>
    let next := significand * 10 + (c.toNat - 48)
    if 0x10000000000000000 ≤ next then (significand, 0)
    else
      let (s, taken) := gather next r
      (s, taken + 1)

def powerOfTen (n : Nat) : Binary64 := Binary64.ofRatio false (Nat.pow 10 n) 1

def maxPower : Nat := 308

/-- A magnitude scaled by a power of ten, one rounding for each `10 ^ 308`. -/
def scale (x : Binary64) (exponent : Int) : Except JsonFault Binary64 :=
  if exponent.natAbs ≤ maxPower then
    if 0 ≤ exponent then
      let y := x.scaleUp (powerOfTen exponent.natAbs)
      if y.isInfinite then .error .outOfRange else .ok y
    else .ok (x.scaleDown (powerOfTen exponent.natAbs))
  else if x.isZero then .ok x
  else if 0 ≤ exponent then .error .outOfRange
  else scale (x.scaleDown (powerOfTen maxPower)) (exponent + maxPower)
termination_by exponent.natAbs
decreasing_by simp only [maxPower] at *; omega

def floatOf (negative : Bool) (significand : Nat) (exponent : Int) : Except JsonFault Json := do
  let x ← scale (Binary64.ofInt significand) exponent
  return .float { x with negative }

/-- The greatest exponent that is written out; one beyond it stands for no number but zero. -/
def maxExponent : Nat := 0x7FFFFFFF

def exponentOf (s : List Char) : Except JsonFault (Bool × Nat × List Char) :=
  let (negative, r) := match s with
    | '+' :: r => (false, r)
    | '-' :: r => (true, r)
    | r => (false, r)
  let ds := r.takeWhile Binary64.isDigit
  let rest := r.dropWhile Binary64.isDigit
  if ds.isEmpty then .error .badNumber
  else .ok (negative, Binary64.digitsValue ds, rest)

def withExponent (negative : Bool) (significand : Nat) (exponent : Int) (s : List Char) :
    Except JsonFault (Json × List Char) :=
  let plain := (floatOf negative significand exponent).map fun x => (x, s)
  match s with
  | [] => plain
  | c :: r =>
    if c == 'e' || c == 'E' then do
      let (down, e, rest) ← exponentOf r
      if maxExponent < e then
        if significand ≠ 0 && !down then throw .outOfRange
        return (.float { Binary64.zero with negative }, rest)
      let x ← floatOf negative significand (exponent + (if down then -(e : Int) else e))
      return (x, rest)
    else plain

/-- The digits of a whole part: a zero alone, or digits that begin with another. -/
def wholeDigits (s : List Char) : Except JsonFault (List Char × List Char) :=
  let ds := s.takeWhile Binary64.isDigit
  match ds with
  | [] => .error .badNumber
  | '0' :: _ :: _ => .error .badNumber
  | _ => .ok (ds, s.dropWhile Binary64.isDigit)

/-- An integer if it fits 64 bits; below zero that is down to `-2 ^ 63`, and zero itself is
a float there. -/
def integerOf (negative : Bool) (n : Nat) : Json :=
  if !negative then .integer n
  else if n = 0 ∨ 0x8000000000000000 < n then .float { Binary64.ofInt n with negative := true }
  else .integer (-n)

def unsignedNumber (negative : Bool) (s : List Char) : Except JsonFault (Json × List Char) := do
  let (ds, rest) ← wholeDigits s
  let (significand, taken) := gather 0 ds
  let raised : Int := (ds.length - taken : Nat)
  match rest with
  | '.' :: r =>
    let fs := r.takeWhile Binary64.isDigit
    if fs.isEmpty then throw .badNumber
    let (significand', takenAfter) := gather significand fs
    withExponent negative significand' (raised - takenAfter) (r.dropWhile Binary64.isDigit)
  | c :: _ =>
    if c == 'e' || c == 'E' || raised ≠ 0 then withExponent negative significand raised rest
    else return (integerOf negative significand, rest)
  | [] =>
    if raised ≠ 0 then withExponent negative significand raised rest
    else return (integerOf negative significand, rest)

def number (s : List Char) : Except JsonFault (Json × List Char) :=
  match s with
  | '-' :: r => unsignedNumber true r
  | _ => unsignedNumber false s

end Json
end RemoteDev
