import RemoteDev.Text.Basic

/-! Labels in ASCII that stand for others. Such a label has the ASCII characters of the other in
front of its last hyphen; what follows says in steps of growing code where the remaining
characters are inserted. A step is a number with the least digit first, in base 36 with a
threshold for each digit, below which the digit ends the number. -/
namespace RemoteDev.DomainName.Punycode

/-- The value of a digit: the letters stand before the decimal digits. -/
def digitValue? (c : Char) : Option Nat :=
  if 'a' ≤ c ∧ c ≤ 'z' then some (c.toNat - 97)
  else if '0' ≤ c ∧ c ≤ '9' then some (c.toNat - 22)
  else none

/-- The threshold of the digit at a position, counted in steps of 36 from 36 on. -/
def threshold (bias position : Nat) : Nat := min 26 (max 1 (position - bias))

def stepBound : Nat := 0x100000000

def addNumber? (bias position weight sum : Nat) : List Char → Option (Nat × List Char)
  | [] => none
  | c :: r => do
    let digit ← digitValue? c
    let t := threshold bias position
    let sum' := sum + digit * weight
    if stepBound ≤ sum' then none
    else if digit < t then some (sum', r)
    else if stepBound ≤ weight * (36 - t) then none
    else addNumber? bias (position + 36) (weight * (36 - t)) sum' r

theorem length_addNumber? {bias position weight sum : Nat} {s r : List Char} {n : Nat}
    (h : addNumber? bias position weight sum s = some (n, r)) : r.length < s.length := by
  induction s generalizing position weight sum with
  | nil => simp [addNumber?] at h
  | cons c s ih =>
    simp only [addNumber?, Option.bind_eq_bind, Option.bind_eq_some_iff] at h
    obtain ⟨digit, -, h⟩ := h
    split at h
    · simp at h
    split at h
    · simp only [Option.some.injEq, Prod.mk.injEq] at h
      simp [h.2]
    split at h
    · simp at h
    · exact Nat.lt_succ_of_lt (ih h)

def scaled (steps difference : Nat) : Nat :=
  if 455 < difference then scaled (steps + 36) (difference / 35)
  else steps + 36 * difference / (difference + 38)
termination_by difference
decreasing_by omega

/-- The bias after a step, which fits the digits of the next step to the size of this one. -/
def adapt (difference count : Nat) (first : Bool) : Nat :=
  let d := if first then difference / 700 else difference / 2
  scaled 0 (d + d / count)

structure Insertion where
  code : Nat := 128
  place : Nat := 0
  bias : Nat := 72

def insertions? (out : List Char) (i : Insertion) (s : List Char) : Option (List Char) :=
  match s with
  | [] => some out
  | c :: r =>
    match h : addNumber? i.bias 36 1 i.place (c :: r) with
    | none => none
    | some (sum, rest) =>
      let count := out.length + 1
      let code := i.code + sum / count
      let place := sum % count
      if code.isValidChar then
        have := length_addNumber? h
        insertions? (out.insertIdx place (Char.ofNat code))
          ⟨code, place + 1, adapt (sum - i.place) count (i.place == 0)⟩ rest
      else none
termination_by s.length
decreasing_by assumption

/-- What stands before and after the last hyphen; nothing before if there is no hyphen or if it
stands first. -/
def splitLastHyphen (s : List Char) : List Char × List Char :=
  let behind := (s.reverse.takeWhile (· ≠ '-')).reverse
  match (s.reverse.dropWhile (· ≠ '-')).reverse.dropLast with
  | [] => ([], s)
  | front => (front, behind)

def decode? (s : List Char) : Option (List Char) :=
  let (front, behind) := splitLastHyphen s
  insertions? front {} behind

end RemoteDev.DomainName.Punycode
