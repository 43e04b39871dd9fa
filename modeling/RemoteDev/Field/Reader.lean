import RemoteDev.Binary64.Text
import RemoteDev.Text.Basic
import RemoteDev.Text.Utf8

/-! Reading fields off a byte string. A number is a decimal numeral that a colon ends; a
field is its length as such a number and then that many bytes, with a tag in front or not.
A reader that fails yields no rest, so its caller still holds the bytes it started from. -/
namespace RemoteDev

inductive CountRule where
  | exactly (n : Nat)
  | multipleOf (n : Nat)
  | atLeast (n : Nat)
deriving DecidableEq, Repr

def CountRule.describe : CountRule → String
  | exactly n => decimalText n
  | multipleOf n => "a multiple of " ++ decimalText n
  | atLeast n => "at least " ++ decimalText n

inductive FieldFault where
  | notInteger (text : String)
  | unrecognised (text : String)
  | outsideByte (n : Int)
  | negative (n : Int)
  | rowWidth (width columns : Nat)
  | noColumns
  | empty
  | missing
  | notPort (number : Binary64)
  | notEmpty (message : String)
  | notText (found : String)

def notNumeral (text : String) : String := "invalid number '" ++ text ++ "'"

def FieldFault.describe : FieldFault → String
  | notInteger text => notNumeral text
  | unrecognised text => "'" ++ text ++ "'"
  | outsideByte n => signedText n ++ " is outside 0..=255"
  | negative n => signedText n ++ " is negative"
  | rowWidth width columns =>
    decimalText width ++ " cells where the header has " ++ decimalText columns
  | noColumns => "a result set has at least one column"
  | empty => "empty"
  | missing => "missing"
  | notPort number => number.plainText ++ " is not a port number"
  | notEmpty message => "expected an empty message, got '" ++ message ++ "'"
  | notText found => "expected a string, found " ++ found

inductive FieldError where
  | unterminatedNumber
  | invalidNumber (text : String)
  | negativeLength (n : Int)
  | truncated (declared remaining : Nat)
  | fieldCount (expected : CountRule) (found : Int)
  | invalidField (field : String) (fault : FieldFault)
  | trailingBytes (count : Nat)

def FieldError.message : FieldError → String
  | unterminatedNumber => "number is missing its ':' terminator"
  | invalidNumber text => notNumeral text
  | negativeLength n => "negative field length " ++ signedText n
  | truncated declared remaining =>
    "field declares " ++ decimalText declared ++ " bytes but only " ++
      decimalText remaining ++ " remain"
  | fieldCount expected found =>
    "expected " ++ expected.describe ++ " fields, got " ++ signedText found
  | invalidField field fault => "invalid " ++ field ++ ": " ++ fault.describe
  | trailingBytes count => decimalText count ++ " unexpected bytes after the last field"

/-- Takes a value off the front of a byte string, or says why it cannot. -/
abbrev FieldReader (α : Type) := StateT Bytes (Except FieldError) α

namespace FieldReader

def colon : UInt8 := 58

def tag : Bytes := encodeText "STR:"

def splitColon : Bytes → Option (Bytes × Bytes)
  | [] => none
  | b :: r =>
    if b = colon then some ([], r)
    else (splitColon r).map fun (front, rest) => (b :: front, rest)

theorem splitColon_append {front : Bytes} (h : colon ∉ front) (rest : Bytes) :
    splitColon (front ++ colon :: rest) = some (front, rest) := by
  induction front with
  | nil => simp [splitColon]
  | cons b r ih =>
    have hb : b ≠ colon := fun e => h (by simp [e])
    have hr : colon ∉ r := fun hm => h (List.mem_cons_of_mem b hm)
    simp [splitColon, hb, ih hr]

theorem splitColon_eq_some_iff {data front rest : Bytes} :
    splitColon data = some (front, rest) ↔ data = front ++ colon :: rest ∧ colon ∉ front := by
  constructor
  · intro h
    induction data generalizing front with
    | nil => simp [splitColon] at h
    | cons b r ih =>
      by_cases hb : b = colon
      · simp only [splitColon, hb, ite_true, Option.some.injEq, Prod.mk.injEq] at h
        obtain ⟨rfl, rfl⟩ := h
        simp [hb]
      · simp only [splitColon, hb, ite_false] at h
        obtain ⟨⟨f, s⟩, hs, he⟩ := Option.map_eq_some_iff.1 h
        simp only [Prod.mk.injEq] at he
        obtain ⟨rfl, rfl⟩ := he
        obtain ⟨rfl, hf⟩ := ih hs
        exact ⟨rfl, by simp [hf, Ne.symm hb]⟩
  · rintro ⟨rfl, h⟩
    exact splitColon_append h rest

/-- The integer that a byte string shows, blanks at its ends aside. -/
def numeral (digits : Bytes) : Except String Int :=
  let text := Text.decodeLossy digits
  match Text.word? (Text.trim text) with
  | some n => .ok n
  | none => .error (String.ofList text)

def number : FieldReader Int := fun data =>
  match splitColon data with
  | none => .error .unterminatedNumber
  | some (digits, rest) =>
    match numeral digits with
    | .ok n => .ok (n, rest)
    | .error text => .error (.invalidNumber text)

def dropTag (data : Bytes) : Bytes := if tag.isPrefixOf data then data.drop tag.length else data

def bytes : FieldReader Bytes := fun data => do
  let (declared, rest) ← number (dropTag data)
  if declared < 0 then throw (.negativeLength declared)
  let n := declared.toNat
  let content := rest.take n
  if content.length < n then throw (.truncated n rest.length)
  return (content, rest.drop n)

def text : FieldReader String := do
  let b ← bytes
  return Text.lossy b

def integer (field : String) : FieldReader Int := do
  let b ← bytes
  match numeral b with
  | .ok n => return n
  | .error text => throw (.invalidField field (.notInteger text))

/-- One field that holds a decimal integer, or nothing for zero. -/
def integerOrEmpty (field : String) : FieldReader Int := do
  let b ← bytes
  match b with
  | [] => return 0
  | _ => match numeral b with
    | .ok n => return n
    | .error text => throw (.invalidField field (.notInteger text))

def finish : FieldReader Unit := fun data =>
  match data with
  | [] => .ok ((), [])
  | _ => .error (.trailingBytes data.length)

def repeated {α : Type} (reader : FieldReader α) : Nat → FieldReader (List α)
  | 0 => return []
  | n + 1 => do
    let x ← reader
    let xs ← repeated reader n
    return x :: xs

theorem length_of_repeated {α : Type} {reader : FieldReader α} {n : Nat} {data rest : Bytes}
    {xs : List α} (h : (repeated reader n).run data = .ok (xs, rest)) : xs.length = n := by
  induction n generalizing data xs with
  | zero =>
    cases h
    rfl
  | succ n ih =>
    simp only [repeated, StateT.run_bind] at h
    cases hx : reader.run data with
    | error e => simp [hx, bind, Except.bind] at h
    | ok p =>
      cases hs : (repeated reader n).run p.2 with
      | error e => simp [hx, hs, bind, Except.bind] at h
      | ok q =>
        simp only [hx, hs, bind, Except.bind] at h
        cases h
        rw [List.length_cons, ih hs]

/-- The value a reader takes off the front, whatever is left behind it. -/
def value {α : Type} (reader : FieldReader α) (data : Bytes) : Except FieldError α :=
  (reader.run data).map Prod.fst

/-- How many records of `size` fields a count announces. -/
def recordCount (count : Int) (size : Nat) : Except FieldError Nat :=
  if count < 0 ∨ count.toNat % size ≠ 0 then throw (.fieldCount (.multipleOf size) count)
  else return count.toNat / size

def expectCount (count : Int) (expected : Nat) : Except FieldError Unit :=
  if count = expected then return () else throw (.fieldCount (.exactly expected) count)

end FieldReader
end RemoteDev
