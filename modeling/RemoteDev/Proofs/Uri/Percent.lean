import Mathlib
import RemoteDev.Uri

/-! What percent escapes stand for. The bytes of a text are read from left to right: an escape is
replaced by its byte, and a byte that begins no escape is kept. An escape is a percent sign and two
hexadecimal digits, or a percent sign, a plus sign and one digit. -/
namespace RemoteDev.Percent

def IsHexDigit (code i : ℕ) : Prop :=
  i < 10 ∧ code = 48 + i ∨ (10 ≤ i ∧ i < 16) ∧ (code = 55 + i ∨ code = 87 + i)

/-- A percent sign and two hexadecimal digits stand for one byte. -/
inductive IsPair : Bytes → UInt8 → Prop
  | intro {a b : UInt8} {i j : ℕ} (ha : IsHexDigit a.toNat i) (hb : IsHexDigit b.toNat j) :
      IsPair [sign, a, b] (UInt8.ofNat (16 * i + j))

def plus : UInt8 := 43

/-- So do a percent sign, a plus sign and one digit. -/
inductive IsSigned : Bytes → UInt8 → Prop
  | intro {b : UInt8} {j : ℕ} (hb : IsHexDigit b.toNat j) : IsSigned [sign, plus, b] (UInt8.ofNat j)

/-- What is left of a byte string when its escapes are replaced from left to right. -/
inductive Replaces (escape : Bytes → UInt8 → Prop) : Bytes → Bytes → Prop
  | nil : Replaces escape [] []
  | escape {e r s : Bytes} {x : UInt8} (he : escape e x) (hr : Replaces escape r s) :
      Replaces escape (e ++ r) (x :: s)
  | keep {a : UInt8} {r s : Bytes} (ha : ∀ e x, escape e x → ¬ e <+: a :: r)
      (hr : Replaces escape r s) : Replaces escape (a :: r) (a :: s)

theorem toNat_ofNat_toNat (a : UInt8) : (Char.ofNat a.toNat).toNat = a.toNat := by
  have ha := a.toNat_lt
  rw [Char.toNat_ofNat, if_pos (.inl (by omega))]

theorem digitValue?_eq_some_iff {c : Char} {i : ℕ} :
    Text.digitValue? 16 c = some i ↔ IsHexDigit c.toNat i := by
  unfold Text.digitValue? IsHexDigit
  simp only [Option.filter_eq_some_iff, decide_eq_true_eq, Bool.and_eq_true]
  split_ifs <;> simp <;> omega

theorem isPair_iff {a b x : UInt8} :
    IsPair [sign, a, b] x ↔
      ∃ i j, IsHexDigit a.toNat i ∧ IsHexDigit b.toNat j ∧ x = UInt8.ofNat (16 * i + j) :=
  ⟨fun ⟨ha, hb⟩ => ⟨_, _, ha, hb, rfl⟩, fun ⟨_, _, ha, hb, hx⟩ => hx ▸ ⟨ha, hb⟩⟩

theorem isSigned_iff {a b x : UInt8} :
    IsSigned [sign, a, b] x ↔ a = plus ∧ ∃ j, IsHexDigit b.toNat j ∧ x = UInt8.ofNat j :=
  ⟨fun ⟨hb⟩ => ⟨rfl, _, hb, rfl⟩, fun ⟨ha, _, hb, hx⟩ => ha ▸ hx ▸ ⟨hb⟩⟩

theorem natural?_plus (c : Char) : Text.natural? 16 ['+', c] = Text.digitValue? 16 c := by
  simp [Text.natural?, Text.unsigned?, Text.digitsValue?]

theorem natural?_pair {c : Char} (hc : c ≠ '+') (d : Char) :
    Text.natural? 16 [c, d] =
      (Text.digitValue? 16 c).bind fun i => (Text.digitValue? 16 d).map fun j => 16 * i + j := by
  have hread : Text.natural? 16 [c, d] = Text.unsigned? 16 [c, d] := by
    unfold Text.natural?
    split
    case h_1 h => exact absurd (List.cons.inj h).1 hc
    case h_2 => rfl
  rw [hread]
  simp [Text.unsigned?, Text.digitsValue?, mul_comm, Option.map_eq_bind]

theorem digitValue?_ofNat_eq_some_iff {a : UInt8} {i : ℕ} :
    Text.digitValue? 16 (Char.ofNat a.toNat) = some i ↔ IsHexDigit a.toNat i := by
  rw [digitValue?_eq_some_iff, toNat_ofNat_toNat]

theorem escaped?_plus_iff {b x : UInt8} :
    escaped? plus b = some x ↔ ∃ j, IsHexDigit b.toNat j ∧ x = UInt8.ofNat j := by
  have hplus : Char.ofNat plus.toNat = '+' := rfl
  rw [escaped?, hplus, natural?_plus, Option.map_eq_some_iff]
  simp only [digitValue?_ofNat_eq_some_iff, eq_comm (b := x)]

theorem escaped?_iff_of_ne {a : UInt8} (ha : a ≠ plus) {b x : UInt8} :
    escaped? a b = some x ↔
      ∃ i j, IsHexDigit a.toNat i ∧ IsHexDigit b.toNat j ∧ x = UInt8.ofNat (16 * i + j) := by
  have hne : Char.ofNat a.toNat ≠ '+' := by
    intro h
    have hcode : a.toNat = plus.toNat := by rw [← toNat_ofNat_toNat, h]; rfl
    exact ha (UInt8.toNat_inj.1 hcode)
  rw [escaped?, natural?_pair hne]
  simp only [Option.map_eq_some_iff, Option.bind_eq_some_iff, digitValue?_ofNat_eq_some_iff]
  constructor
  · rintro ⟨n, ⟨i, hi, j, hj, rfl⟩, rfl⟩
    exact ⟨i, j, hi, hj, rfl⟩
  · rintro ⟨i, j, hi, hj, rfl⟩
    exact ⟨_, ⟨i, hi, j, hj, rfl⟩, rfl⟩

theorem not_isHexDigit_plus (i : ℕ) : ¬ IsHexDigit plus.toNat i := by
  have hcode : plus.toNat = 43 := rfl
  unfold IsHexDigit
  omega

theorem escaped?_eq_some_iff {a b x : UInt8} :
    escaped? a b = some x ↔ IsPair [sign, a, b] x ∨ IsSigned [sign, a, b] x := by
  rw [isPair_iff, isSigned_iff]
  by_cases ha : a = plus
  · subst ha
    rw [escaped?_plus_iff]
    simp only [not_isHexDigit_plus, false_and, exists_false, false_or, true_and]
  · rw [escaped?_iff_of_ne ha]
    simp only [ha, false_and, or_false]

def IsEscape (e : Bytes) (x : UInt8) : Prop := IsPair e x ∨ IsSigned e x

theorem IsEscape.exists_eq {e : Bytes} {x : UInt8} (h : IsEscape e x) :
    ∃ a b, e = [sign, a, b] ∧ escaped? a b = some x := by
  cases h with
  | inl hpair =>
    cases hpair with
    | intro ha hb => exact ⟨_, _, rfl, escaped?_eq_some_iff.2 (.inl ⟨ha, hb⟩)⟩
  | inr hsigned =>
    cases hsigned with
    | intro hb => exact ⟨_, _, rfl, escaped?_eq_some_iff.2 (.inr ⟨hb⟩)⟩

theorem decode_escape {a b x : UInt8} (h : escaped? a b = some x) (r : Bytes) :
    decode (sign :: a :: b :: r) = x :: decode r := by
  rw [decode, if_pos rfl, h]

theorem decode_keep {a : UInt8} {r : Bytes} (h : ∀ e x, IsEscape e x → ¬ e <+: a :: r) :
    decode (a :: r) = a :: decode r := by
  by_cases ha : a = sign
  · match r with
    | [] => rfl
    | [_] => rfl
    | b :: c :: r =>
      have hnone : escaped? b c = none := by
        refine Option.eq_none_iff_forall_ne_some.2 fun x hx => ?_
        exact h [sign, b, c] x (escaped?_eq_some_iff.1 hx) (ha ▸ List.prefix_append [sign, b, c] r)
      rw [decode, if_pos ha, hnone]
  · exact decode_cons ha r

/-- Every byte string is read: the induction is on its length, since an escape takes three bytes. -/
theorem replaces_decode (bs : Bytes) : Replaces IsEscape bs (decode bs) := by
  induction hn : bs.length using Nat.strong_induction_on generalizing bs with
  | h n ih =>
    cases bs with
    | nil => exact .nil
    | cons a r =>
      subst hn
      by_cases h : ∃ e x, IsEscape e x ∧ e <+: a :: r
      · obtain ⟨e, x, he, rest, hrest⟩ := h
        obtain ⟨b, c, rfl, hx⟩ := he.exists_eq
        rw [← hrest] at ih ⊢
        have htail := decode_escape hx rest
        rw [List.cons_append, List.cons_append, List.cons_append, List.nil_append, htail]
        exact .escape he (ih rest.length (by simp; omega) rest rfl)
      · have hkeep : ∀ e x, IsEscape e x → ¬ e <+: a :: r :=
          fun e x he hprefix => h ⟨e, x, he, hprefix⟩
        rw [decode_keep hkeep]
        exact .keep hkeep (ih r.length (Nat.lt_succ_self _) r rfl)

theorem eq_decode_of_replaces {bs out : Bytes} (h : Replaces IsEscape bs out) :
    out = decode bs := by
  induction h with
  | nil => rfl
  | escape he hr ih =>
    obtain ⟨a, b, rfl, hx⟩ := he.exists_eq
    rw [ih]
    exact (decode_escape hx _).symm
  | keep ha hr ih => rw [decode_keep ha, ih]

/-- The text of a text with escapes shows the bytes in which every escape is replaced by its byte,
and every other byte is kept. -/
theorem decodeText_replaces (cs : List Char) :
    ∃ bytes, (∀ out, Replaces IsEscape (encodeText (String.ofList cs)) out ↔ out = bytes) ∧
      decodeText cs = Text.lossy bytes :=
  ⟨_, fun _ => ⟨eq_decode_of_replaces, fun h => h ▸ replaces_decode _⟩, rfl⟩

theorem replaces_of_no_escape {escape : Bytes → UInt8 → Prop} {bs : Bytes}
    (h : ∀ e x, escape e x → ¬ e <:+: bs) (out : Bytes) : Replaces escape bs out ↔ out = bs := by
  constructor
  · intro hout
    induction hout with
    | nil => rfl
    | escape he _ _ => exact absurd (List.prefix_append _ _).isInfix (h _ _ he)
    | keep _ _ ih => rw [ih fun e x he hin => h e x he (hin.trans (List.suffix_cons _ _).isInfix)]
  · rintro rfl
    induction out with
    | nil => exact .nil
    | cons a r ih =>
      exact .keep (fun e x he hprefix => h e x he hprefix.isInfix)
        (ih fun e x he hin => h e x he (hin.trans (List.suffix_cons a r).isInfix))

/-- With pairs of hexadecimal digits alone the text would be kept: a plus sign is no such digit. -/
theorem decodeText_replaces_plus :
    (∀ out, Replaces IsPair (encodeText "%+5") out ↔ out = encodeText "%+5") ∧
      decodeText "%+5".toList = "\x05" := by
  have hbytes : encodeText "%+5" = [sign, plus, 53] := by decide
  refine ⟨replaces_of_no_escape fun e x he hin => ?_, by decide +kernel⟩
  cases he with
  | intro ha hb =>
    rw [hbytes] at hin
    have heq := hin.eq_of_length rfl
    simp only [List.cons.injEq, true_and] at heq
    rw [heq.1] at ha
    exact not_isHexDigit_plus _ ha

end RemoteDev.Percent
