import RemoteDev.Proofs.Field.Exact
import RemoteDev.Proofs.Wire.Head
import RemoteDev.Proofs.Wire.Reply

/-! What every message is read as. The first empty line ends its head, the first colon behind that
ends its count, and the count decides between a reply and a refusal. A reply that is written with
any head is read as the fields that were written. -/
namespace RemoteDev

namespace FieldReader

theorem number_lineEnd_writtenCount {n : Nat} (h : n < 2 ^ 63) (rest : Bytes) :
    number (lineEnd ++ (writtenCount n ++ rest)) = .ok ((n : Int), rest) := by
  have hbreaks : lineEnd ++ encodeText (decimalText n) = encodeText ("\r\n" ++ decimalText n) :=
    (encodeText_append "\r\n" (decimalText n)).symm
  have htrim : Text.trim ("\r\n" ++ decimalText n).toList = Text.trim (decimalText n).toList := by
    rw [String.toList_append]
    rfl
  have hcolon : colon ∉ lineEnd ++ encodeText (decimalText n) := by
    rw [List.mem_append, not_or]
    exact ⟨by decide, colon_notMem_decimal n⟩
  have hvalue : numeral (lineEnd ++ encodeText (decimalText n)) = .ok (n : Int) := by
    have hplain := numeral_eq_ok_iff.1 (numeral_decimal h)
    rw [Text.decodeLossy_encodeText] at hplain
    rw [numeral_eq_ok_iff, hbreaks, Text.decodeLossy_encodeText, htrim]
    exact hplain
  rw [writtenCount, List.append_assoc, List.singleton_append, ← List.append_assoc,
    number_append hcolon, hvalue]

end FieldReader

namespace Reply

open FieldReader

/-- What a message is read as, by its head, its count and what follows them. -/
inductive ReadsAs (raw : Bytes) : Except Failure Reply → Prop
  | noStatus (h : ∀ line ∈ statusLines, ¬ line <+: raw) : ReadsAs raw (.error .replyNotFound)
  | noHeadEnd (h : ¬ headEnd <:+: raw) : ReadsAs raw (.error .replyNotFound)
  | unterminated {head body : Bytes} (hstatus : ∃ line ∈ statusLines, line <+: raw)
      (hhead : FirstPlace headEnd raw head body) (h : colon ∉ body) :
      ReadsAs raw (.error (.field .unterminatedNumber))
  | invalid {head digits rest : Bytes} (hstatus : ∃ line ∈ statusLines, line <+: raw)
      (hhead : FirstPlace headEnd raw head (digits ++ colon :: rest)) (hcolon : colon ∉ digits)
      (h : ∀ n, ¬ Text.IsWord (Text.trim (Text.decodeLossy digits)) n) :
      ReadsAs raw (.error (.field (.invalidNumber (Text.lossy digits))))
  | refused {head digits rest : Bytes} {code : Int} (hstatus : ∃ line ∈ statusLines, line <+: raw)
      (hhead : FirstPlace headEnd raw head (digits ++ colon :: rest)) (hcolon : colon ∉ digits)
      (hcode : Text.IsWord (Text.trim (Text.decodeLossy digits)) code) (hnegative : code < 0) :
      ReadsAs raw (.error (.server code (Text.lossy rest)))
  | accepted {head digits rest : Bytes} {count : Nat}
      (hstatus : ∃ line ∈ statusLines, line <+: raw)
      (hhead : FirstPlace headEnd raw head (digits ++ colon :: rest)) (hcolon : colon ∉ digits)
      (hcount : Text.IsWord (Text.trim (Text.decodeLossy digits)) count) :
      ReadsAs raw (.ok ⟨count, rest⟩)

theorem bodyOf?_of_firstPlace {raw head body : Bytes} (hstatus : ∃ line ∈ statusLines, line <+: raw)
    (hhead : FirstPlace headEnd raw head body) : bodyOf? raw = some body :=
  bodyOf?_eq_some_iff.2 ⟨hstatus, head, splitAtFirst_eq_some_iff.2 hhead⟩

theorem bodyOf?_eq_none_iff {raw : Bytes} :
    bodyOf? raw = none ↔ (∀ line ∈ statusLines, ¬ line <+: raw) ∨ ¬ headEnd <:+: raw := by
  constructor
  · intro h
    by_cases hstatus : ∃ line ∈ statusLines, line <+: raw
    · right
      rw [← splitAtFirst_eq_none_iff]
      cases hsplit : splitAtFirst headEnd raw with
      | none => rfl
      | some p =>
        rw [bodyOf?_eq_some_iff.2 ⟨hstatus, p.1, hsplit⟩] at h
        cases h
    · left
      intro line hline hbegins
      exact hstatus ⟨line, hline, hbegins⟩
  · intro h
    refine Option.eq_none_iff_forall_ne_some.2 fun body hbody => ?_
    obtain ⟨⟨line, hline, hbegins⟩, head, hsplit⟩ := bodyOf?_eq_some_iff.1 hbody
    rcases h with hstatus | hend
    · exact hstatus line hline hbegins
    · rw [splitAtFirst_eq_none_iff.2 hend] at hsplit
      cases hsplit

theorem readsAs_parse (raw : Bytes) : ReadsAs raw (parse raw) := by
  cases hbody : bodyOf? raw with
  | none =>
    rw [parse, hbody]
    rcases bodyOf?_eq_none_iff.1 hbody with hstatus | hend
    · exact .noStatus hstatus
    · exact .noHeadEnd hend
  | some body =>
    obtain ⟨hstatus, head, hsplit⟩ := bodyOf?_eq_some_iff.1 hbody
    have hhead := splitAtFirst_eq_some_iff.1 hsplit
    by_cases hcolon : colon ∈ body
    · obtain ⟨digits, rest, rfl, hdigits⟩ := List.eq_append_cons_of_mem hcolon
      by_cases hword : ∃ n, Text.IsWord (Text.trim (Text.decodeLossy digits)) n
      · obtain ⟨n, hn⟩ := hword
        rw [parse, hbody]
        simp only [number_append hdigits, numeral_eq_ok_iff.2 hn]
        by_cases hnegative : n < 0
        · rw [if_pos hnegative]
          exact .refused hstatus hhead hdigits hn hnegative
        · obtain ⟨count, rfl⟩ := Int.eq_ofNat_of_zero_le (Int.not_lt.1 hnegative)
          rw [if_neg hnegative]
          exact .accepted hstatus hhead hdigits hn
      · rw [parse, hbody]
        simp only [number_append hdigits, numeral_of_not_isWord (not_exists.1 hword)]
        exact .invalid hstatus hhead hdigits (not_exists.1 hword)
    · rw [parse, hbody]
      simp only [number_eq_unterminated hcolon]
      exact .unterminated hstatus hhead hcolon

/-- The rules leave no choice. -/
theorem parse_of_readsAs {raw : Bytes} {outcome : Except Failure Reply}
    (h : ReadsAs raw outcome) : parse raw = outcome := by
  cases h with
  | noStatus hstatus => rw [parse, bodyOf?_eq_none_iff.2 (.inl hstatus)]
  | noHeadEnd hend => rw [parse, bodyOf?_eq_none_iff.2 (.inr hend)]
  | unterminated hstatus hhead hcolon =>
    rw [parse, bodyOf?_of_firstPlace hstatus hhead]
    simp only [number_eq_unterminated hcolon]
  | invalid hstatus hhead hcolon hdigits =>
    rw [parse, bodyOf?_of_firstPlace hstatus hhead]
    simp only [number_append hcolon, numeral_of_not_isWord hdigits]
  | refused hstatus hhead hcolon hcode hnegative =>
    rw [parse, bodyOf?_of_firstPlace hstatus hhead]
    simp only [number_append hcolon, numeral_eq_ok_iff.2 hcode, if_pos hnegative]
  | accepted hstatus hhead hcolon hcount =>
    rw [parse, bodyOf?_of_firstPlace hstatus hhead]
    simp only [number_append hcolon, numeral_eq_ok_iff.2 hcount,
      if_neg (Int.not_lt.2 (Int.natCast_nonneg _)), Int.toNat_natCast]

def ofFields (fields : List Bytes) : Reply := ⟨fields.length, fields.flatMap plainField⟩

def written (head : Bytes) (fields : List Bytes) : Bytes :=
  head ++ headEnd ++ countedFields fields

theorem length_body_le_length_written (head : Bytes) (fields : List Bytes) :
    (ofFields fields).body.length ≤ (written head fields).length := by
  simp only [ofFields, written, countedFields, List.length_append]
  omega

theorem repeated_bytes_ofFields {fields : List Bytes}
    (h : (ofFields fields).body.length < 2 ^ 63) :
    (bytes.repeated fields.length).run (ofFields fields).body = .ok (fields, []) :=
  (yields_repeated fun _ hfield => yields_bytes (length_lt_of_mem_plainFields h hfield)).run

/-- The head of a message ends where it was written to end, or before a line end of its own. -/
theorem splitAtFirst_append_headEnd {head : Bytes} (h : ¬ headEnd <:+: head) (rest : Bytes) :
    splitAtFirst headEnd (head ++ headEnd ++ rest) = some (head, rest) ∨
      ∃ front, head = front ++ lineEnd ∧
        splitAtFirst headEnd (head ++ headEnd ++ rest) = some (front, lineEnd ++ rest) := by
  induction head with
  | nil => exact .inl rfl
  | cons b r ih =>
    by_cases hbegins : headEnd.isPrefixOf (b :: r ++ headEnd ++ rest) = true
    · -- only two bytes can be the beginning of the head's end and stand before it
      have hpair : b :: r = lineEnd := by
        rcases r with _ | ⟨c, _ | ⟨d, _ | ⟨e, r⟩⟩⟩
        · simp [headEnd, List.isPrefixOf] at hbegins
        · simp only [headEnd, List.isPrefixOf, List.cons_append, List.nil_append, Bool.and_eq_true,
            beq_iff_eq] at hbegins
          rw [← hbegins.1, ← hbegins.2.1]
          rfl
        · simp [headEnd, List.isPrefixOf] at hbegins
        · have hin : headEnd <+: b :: c :: d :: e :: r := by
            simpa [headEnd, List.isPrefixOf] using hbegins
          exact absurd hin.isInfix h
      rw [hpair]
      exact .inr ⟨[], rfl, rfl⟩
    · have hrest := ih fun hin => h (hin.trans (List.suffix_cons b r).isInfix)
      rw [List.cons_append, List.cons_append] at hbegins ⊢
      rw [splitAtFirst, if_neg hbegins]
      rcases hrest with hsplit | ⟨front, rfl, hsplit⟩
      · exact .inl (by rw [hsplit]; rfl)
      · exact .inr ⟨b :: front, rfl, by rw [hsplit]; rfl⟩

/-- A message written with a head that holds no end of its own is read as its fields. A line end at
the end of the head is taken for the first part of the head's end, and is then trimmed off the
count. -/
theorem parse_written {head : Bytes} {fields : List Bytes}
    (hstatus : ∃ line ∈ statusLines, line <+: head) (hhead : ¬ headEnd <:+: head)
    (hlength : (written head fields).length < 2 ^ 63) :
    parse (written head fields) = .ok (ofFields fields) := by
  have hcount : fields.length < 2 ^ 63 := by
    have hfields := length_le_length_flatMap_of_pos length_plainField_pos fields
    have hbody := length_body_le_length_written head fields
    exact Nat.lt_of_le_of_lt (Nat.le_trans hfields hbody) hlength
  have hbegins : ∃ line ∈ statusLines, line <+: written head fields := by
    obtain ⟨line, hline, hfront⟩ := hstatus
    refine ⟨line, hline, hfront.trans ?_⟩
    rw [written, List.append_assoc]
    exact List.prefix_append head _
  rcases splitAtFirst_append_headEnd hhead (countedFields fields) with hsplit | ⟨_, -, hsplit⟩
  · exact parse_eq_ok.2 ⟨_, bodyOf?_eq_some_iff.2 ⟨hbegins, _, hsplit⟩,
      number_writtenCount hcount _⟩
  · exact parse_eq_ok.2 ⟨_, bodyOf?_eq_some_iff.2 ⟨hbegins, _, hsplit⟩,
      number_lineEnd_writtenCount hcount _⟩

/-- Every message is read as what the rules say and as nothing else. A message of any fields behind
any head that has no end in it, of a length that a signed word can count as that of every message,
is read as these fields, in their order and with nothing left. -/
theorem parse_iff_readsAs :
    (∀ raw outcome, parse raw = outcome ↔ ReadsAs raw outcome) ∧
      ∀ head fields, (∃ line ∈ statusLines, line <+: head) → ¬ headEnd <:+: head →
        (written head fields).length < 2 ^ 63 →
        ∃ body, parse (written head fields) = .ok ⟨fields.length, body⟩ ∧
          (bytes.repeated fields.length).run body = .ok (fields, []) := by
  refine ⟨fun raw outcome => ⟨fun h => h ▸ readsAs_parse raw, parse_of_readsAs⟩, ?_⟩
  intro head fields hstatus hhead hlength
  have hbody := Nat.lt_of_le_of_lt (length_body_le_length_written head fields) hlength
  exact ⟨_, parse_written hstatus hhead hlength, repeated_bytes_ofFields hbody⟩

/-- A head that ends with a line end, and fields that imitate an end of a head, a tag and a
count. -/
theorem parse_iff_readsAs_of_line_end :
    let head := encodeText "HTTP/1.0 200 OK\r\n"
    let fields := [headEnd, encodeText "STR:2:", [], [58, 0, 255]]
    (∃ line ∈ statusLines, line <+: head) ∧ ¬ headEnd <:+: head ∧
      (written head fields).length < 2 ^ 63 ∧
      ∃ body, parse (written head fields) = .ok ⟨4, body⟩ ∧
        (bytes.repeated 4).run body = .ok (fields, []) := by
  intro head fields
  have hstatus : ∃ line ∈ statusLines, line <+: head := by decide
  have hhead : ¬ headEnd <:+: head := by decide
  have hlength : (written head fields).length < 2 ^ 63 := by decide
  exact ⟨hstatus, hhead, hlength, parse_iff_readsAs.2 head fields hstatus hhead hlength⟩

end Reply
end RemoteDev
