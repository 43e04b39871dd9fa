import Std.Data.HashMap
import RemoteDev.Text.Normal.Table

/-! The composed normal form of text: every character is decomposed, the marks on a base are
put in the order of their classes, and then bases and marks are composed where they can be. -/
namespace RemoteDev.Text

/-- Syllables made of a leading consonant, a vowel and perhaps a trailing consonant stand in the
order of their parts; the parts stand in three runs of their own. -/
structure SyllableRuns where
  syllable : Nat
  leading : Nat
  vowel : Nat
  /-- One before the first trailing consonant, so that it stands for none. -/
  trailing : Nat
  leadingCount : Nat
  vowelCount : Nat
  trailingCount : Nat

def syllables : SyllableRuns := ⟨0xAC00, 0x1100, 0x1161, 0x11A7, 19, 21, 28⟩

namespace SyllableRuns

def parts? (s : SyllableRuns) (c : Char) : Option (List Char) :=
  let i := c.toNat - s.syllable
  let t := i % s.trailingCount
  if s.syllable ≤ c.toNat ∧ i < s.leadingCount * s.vowelCount * s.trailingCount then
    some (Char.ofNat (s.leading + i / (s.vowelCount * s.trailingCount)) ::
      Char.ofNat (s.vowel + i / s.trailingCount % s.vowelCount) ::
      (if t = 0 then [] else [Char.ofNat (s.trailing + t)]))
  else none

def join? (s : SyllableRuns) (a b : Char) : Option Char :=
  let l := a.toNat - s.leading
  let v := b.toNat - s.vowel
  let i := a.toNat - s.syllable
  let t := b.toNat - s.trailing
  if s.leading ≤ a.toNat ∧ l < s.leadingCount ∧ s.vowel ≤ b.toNat ∧ v < s.vowelCount then
    some (Char.ofNat (s.syllable + (l * s.vowelCount + v) * s.trailingCount))
  else if s.syllable ≤ a.toNat ∧ i < s.leadingCount * s.vowelCount * s.trailingCount ∧
      i % s.trailingCount = 0 ∧ s.trailing < b.toNat ∧ t < s.trailingCount then
    some (Char.ofNat (a.toNat + t))
  else none

end SyllableRuns

def decompose (c : Char) : List Char :=
  match syllables.parts? c with
  | some parts => parts
  | none => match composites.row? c with
    | some r => r.values.map Char.ofNat
    | none => match variants.row? c with
      | some r => r.values.map Char.ofNat
      | none => [c]

/-- The class of a mark; marks of different classes other than zero may change places. -/
def combiningClass (c : Char) : Nat := (combiningClasses.value? c).getD 0

/-- Puts a character in front of ordered text, behind the marks there of lesser classes. -/
def placeMark (c : Char) : List Char → List Char
  | [] => [c]
  | d :: r =>
    if 0 < combiningClass d ∧ combiningClass d < combiningClass c then d :: placeMark c r
    else c :: d :: r

def orderMarks (cs : List Char) : List Char := cs.foldr placeMark []

def compositions : Std.HashMap (List Nat) Char :=
  composites.foldl (fun m r => m.insert r.values (Char.ofNat r.first)) ∅

def compose? (base mark : Char) : Option Char :=
  match syllables.join? base mark with
  | some c => some c
  | none => compositions[(decompose base ++ [mark]).map Char.toNat]?

/-- Text on the way to its composed form: what is finished and the marks that stay on the last
base are in reverse. -/
structure Composing where
  finished : List Char := []
  base : Option Char := none
  marks : List Char := []

namespace Composing

/-- Takes in a character. A mark reaches the base unless one of its class or a greater one stands
between them. -/
def add (s : Composing) (c : Char) : Composing :=
  match s.base with
  | none =>
    if combiningClass c = 0 then { s with base := some c }
    else { s with finished := c :: s.finished }
  | some b =>
    let blocked := s.marks.head?.any fun m => combiningClass c ≤ combiningClass m
    match if blocked then none else compose? b c with
    | some composite => { s with base := some composite }
    | none =>
      if combiningClass c = 0 then ⟨s.marks ++ b :: s.finished, some c, []⟩
      else { s with marks := c :: s.marks }

def text (s : Composing) : List Char := (s.marks ++ s.base.toList ++ s.finished).reverse

end Composing

def normalForm (cs : List Char) : List Char :=
  ((orderMarks (cs.flatMap decompose)).foldl Composing.add {}).text

end RemoteDev.Text
