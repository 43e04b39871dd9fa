import RemoteDev.Proofs.Field.Cut
import RemoteDev.Proofs.Field.Written
import RemoteDev.Proofs.Separator

/-! What a reader takes, exactly. A number is taken where a numeral and a colon stand at the front,
and a field where its length and its bytes do; what follows them has no part in it. -/
namespace RemoteDev.FieldReader

theorem splitColon_eq_none_iff {data : Bytes} : splitColon data = none ↔ colon ∉ data := by
  constructor
  · intro h hmem
    obtain ⟨front, rest, rfl, hfront⟩ := List.eq_append_cons_of_mem hmem
    rw [splitColon_append hfront] at h
    cases h
  · intro h
    cases hsplit : splitColon data with
    | none => rfl
    | some p =>
      have hwhole := (splitColon_eq_some_iff.1 hsplit).1
      exact absurd (hwhole ▸ List.mem_append_right _ List.mem_cons_self) h

theorem number_eq_unterminated {data : Bytes} (h : colon ∉ data) :
    number data = .error .unterminatedNumber := by
  rw [number, splitColon_eq_none_iff.2 h]

theorem number_append {digits : Bytes} (h : colon ∉ digits) (rest : Bytes) :
    number (digits ++ colon :: rest) =
      match numeral digits with
      | .ok n => .ok (n, rest)
      | .error text => .error (.invalidNumber text) := by
  cases hvalue : numeral digits with
  | ok n => simp only [number, splitColon_append h, hvalue]
  | error text => simp only [number, splitColon_append h, hvalue]

theorem numeral_eq_ok_iff {digits : Bytes} {n : Int} :
    numeral digits = .ok n ↔ Text.IsWord (Text.trim (Text.decodeLossy digits)) n := by
  rw [← Text.word?_eq_some_iff, numeral]
  cases Text.word? (Text.trim (Text.decodeLossy digits)) <;> simp

theorem numeral_of_not_isWord {digits : Bytes}
    (h : ∀ n, ¬ Text.IsWord (Text.trim (Text.decodeLossy digits)) n) :
    numeral digits = .error (Text.lossy digits) := by
  have hnone : Text.word? (Text.trim (Text.decodeLossy digits)) = none :=
    Option.eq_none_iff_forall_ne_some.2 fun n hn => h n (Text.word?_eq_some_iff.1 hn)
  rw [numeral, hnone]
  rfl

/-- A byte string that shows a number, blanks at its ends aside. -/
def Shows (digits : Bytes) (n : Int) : Prop := Text.IsWord (Text.trim (Text.decodeLossy digits)) n

theorem shows_signed {n : Int} (h : Text.inWordRange n = true) :
    Shows (encodeText (signedText n)) n :=
  numeral_eq_ok_iff.1 (numeral_signed h)

inductive IsNumber : Bytes → Int → Prop
  | intro {digits : Bytes} {n : Int} (hcolon : colon ∉ digits) (hn : Shows digits n) :
      IsNumber (digits ++ [colon]) n

/-- A field where it is read: its length as a number and then its bytes, with a tag in front or
not. -/
inductive IsField : Bytes → Bytes → Prop
  | plain {length field : Bytes} (h : IsNumber length field.length) :
      IsField (length ++ field) field
  | tagged {length field : Bytes} (h : IsNumber length field.length) :
      IsField (tag ++ (length ++ field)) field

variable {data rest front field : Bytes} {n : Int}

theorem number_eq_ok_iff :
    number.run data = .ok (n, rest) ↔ ∃ front, IsNumber front n ∧ data = front ++ rest := by
  rw [number_eq_ok]
  constructor
  · rintro ⟨digits, hsplit, hn⟩
    obtain ⟨rfl, hcolon⟩ := splitColon_eq_some_iff.1 hsplit
    exact ⟨_, .intro hcolon (numeral_eq_ok_iff.1 hn), by simp⟩
  · rintro ⟨_, ⟨hcolon, hn⟩, rfl⟩
    rw [List.append_assoc, List.singleton_append]
    exact ⟨_, splitColon_append hcolon rest, numeral_eq_ok_iff.2 hn⟩

theorem not_shows_tag : ¬ Shows (encodeText "STR") n := by
  intro h
  have hnumeral := numeral_eq_ok_iff.2 h
  cases hnumeral

/-- What a number stands in front of does not begin with the tag. -/
theorem dropTag_of_isNumber (h : IsNumber front n) (rest : Bytes) :
    dropTag (front ++ rest) = front ++ rest := by
  obtain ⟨hcolon, hn⟩ := h
  refine if_neg fun htag => ?_
  obtain ⟨after, hafter⟩ := List.isPrefixOf_iff_prefix.1 htag
  have hopened : tag ++ after = encodeText "STR" ++ colon :: after := rfl
  rw [hopened, List.append_assoc, List.singleton_append] at hafter
  obtain ⟨rfl, -⟩ := append_cons_inj (by decide) hcolon hafter
  exact not_shows_tag hn

theorem bytes_eq_ok_iff :
    bytes.run data = .ok (field, rest) ↔ ∃ front, IsField front field ∧ data = front ++ rest := by
  rw [bytes_eq_ok, number_eq_ok_iff]
  constructor
  · rintro ⟨length, hlength, hdata⟩
    by_cases htag : tag.isPrefixOf data = true
    · obtain ⟨after, rfl⟩ := List.isPrefixOf_iff_prefix.1 htag
      rw [dropTag_append] at hdata
      exact ⟨_, .tagged hlength, by simp [hdata]⟩
    · rw [dropTag, if_neg htag] at hdata
      exact ⟨_, .plain hlength, by simp [hdata]⟩
  · rintro ⟨_, hfield, rfl⟩
    cases hfield with
    | @plain length _ hlength =>
      refine ⟨length, hlength, ?_⟩
      rw [List.append_assoc, dropTag_of_isNumber hlength]
    | @tagged length _ hlength =>
      refine ⟨length, hlength, ?_⟩
      rw [List.append_assoc, dropTag_append, List.append_assoc]

theorem text_eq_ok {shown : String} :
    text.run data = .ok (shown, rest) ↔
      ∃ field, bytes.run data = .ok (field, rest) ∧ shown = Text.lossy field := by
  rw [text, run_bind_eq_ok]
  constructor
  · rintro ⟨field, mid, hfield, hshown⟩
    cases hshown
    exact ⟨field, hfield, rfl⟩
  · rintro ⟨field, hfield, rfl⟩
    exact ⟨field, rest, hfield, rfl⟩

theorem integer_eq_ok {name : String} :
    (integer name).run data = .ok (n, rest) ↔
      ∃ field, bytes.run data = .ok (field, rest) ∧ Shows field n := by
  rw [integer, run_bind_eq_ok]
  constructor
  · rintro ⟨field, mid, hfield, hn⟩
    cases hnumeral : numeral field with
    | error shown =>
      rw [hnumeral] at hn
      cases hn
    | ok m =>
      rw [hnumeral] at hn
      cases hn
      exact ⟨field, hfield, numeral_eq_ok_iff.1 hnumeral⟩
  · rintro ⟨field, hfield, hn⟩
    refine ⟨field, rest, hfield, ?_⟩
    rw [numeral_eq_ok_iff.2 hn]
    rfl

theorem not_shows_nil : ¬ Shows [] n := by
  intro h
  cases numeral_eq_ok_iff.2 h

theorem integerOrEmpty_eq_ok {name : String} :
    (integerOrEmpty name).run data = .ok (n, rest) ↔
      ∃ field, bytes.run data = .ok (field, rest) ∧ (field = [] ∧ n = 0 ∨ Shows field n) := by
  cases hrun : bytes.run data with
  | error e => simp [integerOrEmpty, run_bind_of_error hrun]
  | ok p =>
    obtain ⟨field, mid⟩ := p
    cases field with
    | nil =>
      rw [integerOrEmpty, run_bind_of_ok hrun]
      constructor
      · intro h
        cases h
        exact ⟨[], rfl, .inl ⟨rfl, rfl⟩⟩
      · rintro ⟨_, hfield, ⟨rfl, rfl⟩ | hn⟩
        · cases hfield
          rfl
        · cases hfield
          exact absurd hn not_shows_nil
    | cons b r =>
      have hsame : (integerOrEmpty name).run data = (integer name).run data := by
        rw [integerOrEmpty, integer, run_bind_of_ok hrun, run_bind_of_ok hrun]
      rw [hsame, integer_eq_ok, hrun]
      simp

end RemoteDev.FieldReader
