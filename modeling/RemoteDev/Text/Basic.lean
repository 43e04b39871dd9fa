/-! Byte strings and texts. Plain text is turned into bytes by UTF-8; lists are split at separators;
white space is as the Unicode property `White_Space` has it. A numeral needs at least one digit, and
nothing but digits may follow its sign. -/
namespace RemoteDev

abbrev Bytes := List UInt8

def encodeText (text : String) : Bytes := text.toList.flatMap String.utf8EncodeChar

theorem encodeText_append (s t : String) :
    encodeText (s ++ t) = encodeText s ++ encodeText t := by
  simp [encodeText, List.flatMap_append]

@[simp] theorem encodeText_empty : encodeText "" = [] := rfl

def decimalText (n : Nat) : String := String.ofList (Nat.toDigits 10 n)

def signedText (n : Int) : String :=
  if n < 0 then "-" ++ decimalText n.natAbs else decimalText n.natAbs

def hexDigit (n : Nat) : Char := if n < 10 then Char.ofNat (48 + n) else Char.ofNat (87 + n)

def hexPair (b : UInt8) : List Char := [hexDigit (b.toNat / 16), hexDigit (b.toNat % 16)]

theorem hexPair_length (b : UInt8) : (hexPair b).length = 2 := rfl

def splitAtFirst {α : Type} [BEq α] (separator : List α) : List α → Option (List α × List α)
  | [] => if separator.isEmpty then some ([], []) else none
  | a :: r =>
    if separator.isPrefixOf (a :: r) then some ([], (a :: r).drop separator.length)
    else (splitAtFirst separator r).map fun (front, rest) => (a :: front, rest)

def occursIn {α : Type} [BEq α] (separator xs : List α) : Bool :=
  (splitAtFirst separator xs).isSome

theorem eq_of_splitAtFirst {α : Type} [BEq α] [LawfulBEq α] {separator xs front rest : List α}
    (h : splitAtFirst separator xs = some (front, rest)) : xs = front ++ separator ++ rest := by
  induction xs generalizing front rest with
  | nil =>
    simp only [splitAtFirst, List.isEmpty_iff] at h
    split at h <;> simp_all
  | cons a r ih =>
    simp only [splitAtFirst] at h
    split at h
    case isTrue hp =>
      obtain ⟨t, ht⟩ := List.isPrefixOf_iff_prefix.1 hp
      simp only [Option.some.injEq, Prod.mk.injEq] at h
      obtain ⟨rfl, rfl⟩ := h
      simp [← ht]
    case isFalse =>
      obtain ⟨⟨f, s⟩, hs, he⟩ := Option.map_eq_some_iff.1 h
      simp only [Prod.mk.injEq] at he
      obtain ⟨rfl, rfl⟩ := he
      simp [ih hs]

/-- The stretches between separators; one more than there are separators. -/
def stretches {α : Type} [DecidableEq α] (separator : α) : List α → List (List α)
  | [] => [[]]
  | a :: r =>
    if a = separator then [] :: stretches separator r
    else match stretches separator r with
      | [] => [[a]]
      | s :: rest => (a :: s) :: rest

theorem stretches_ne_nil {α : Type} [DecidableEq α] (separator : α) (xs : List α) :
    stretches separator xs ≠ [] := by
  cases xs with
  | nil => simp [stretches]
  | cons a r =>
    simp only [stretches]
    split
    · simp
    · split <;> simp

namespace Text

/-- The characters with the property `White_Space`. -/
def isBlank (c : Char) : Bool :=
  let n := c.toNat
  (9 ≤ n && n ≤ 13) || n == 0x20 || n == 0x85 || n == 0xA0 || n == 0x1680 ||
    (0x2000 ≤ n && n ≤ 0x200A) || n == 0x2028 || n == 0x2029 || n == 0x202F ||
    n == 0x205F || n == 0x3000

def trim (cs : List Char) : List Char :=
  ((cs.dropWhile isBlank).reverse.dropWhile isBlank).reverse

@[simp] theorem trim_nil : trim [] = [] := rfl

def digitValue? (base : Nat) (c : Char) : Option Nat :=
  let n := c.toNat
  let v? :=
    if 48 ≤ n && n ≤ 57 then some (n - 48)
    else if 97 ≤ n && n ≤ 102 then some (n - 87)
    else if 65 ≤ n && n ≤ 70 then some (n - 55)
    else none
  v?.filter (· < base)

def digitsValue? (base : Nat) : Nat → List Char → Option Nat
  | acc, [] => some acc
  | acc, c :: r => (digitValue? base c).bind fun d => digitsValue? base (acc * base + d) r

def unsigned? (base : Nat) : List Char → Option Nat
  | [] => none
  | c :: r => digitsValue? base 0 (c :: r)

def natural? (base : Nat) : List Char → Option Nat
  | '+' :: r => unsigned? base r
  | cs => unsigned? base cs

def integer? : List Char → Option Int
  | '-' :: r => (unsigned? 10 r).map fun n => -(n : Int)
  | '+' :: r => (unsigned? 10 r).map fun n => (n : Int)
  | cs => (unsigned? 10 cs).map fun n => (n : Int)

def inWordRange (n : Int) : Bool := -0x8000000000000000 ≤ n && n < 0x8000000000000000

def word? (cs : List Char) : Option Int := (integer? cs).filter inWordRange

end Text
end RemoteDev
