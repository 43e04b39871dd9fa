import RemoteDev.Field.Cursor
import RemoteDev.Proofs.Field.Exact

/-! Steps of a cursor. A step that fails leaves it where it stood, although it has passed a tag or
a length before it fails; a step that succeeds passes exactly what is written for its value,
whatever follows. After any steps the unread bytes are the end of the data. -/
namespace RemoteDev.Cursor

section Runs

variable {α β : Type} {c : Cursor α} {next : α → Cursor β} {data rest : Bytes}

theorem runOn_bind_of_ok {a : α} (h : c.runOn data = (.ok a, rest)) :
    (c >>= next).runOn data = (next a).runOn rest := by
  have hrun : (ExceptT.run c).run data = (.ok a, rest) := h
  rw [runOn, ExceptT.run_bind, StateT.run_bind, hrun]
  rfl

theorem runOn_bind_of_error {e : FieldError} (h : c.runOn data = (.error e, rest)) :
    (c >>= next).runOn data = (.error e, rest) := by
  have hrun : (ExceptT.run c).run data = (.error e, rest) := h
  rw [runOn, ExceptT.run_bind, StateT.run_bind, hrun]
  rfl

theorem runOn_get_bind (next : Bytes → Cursor β) :
    (get >>= next).runOn data = (next data).runOn data := rfl

theorem runOn_modify_bind (f : Bytes → Bytes) (next : PUnit → Cursor β) :
    (modify f >>= next).runOn data = (next ⟨⟩).runOn (f data) := rfl

end Runs

/-- What a cursor shows of a reader: it stands behind the value that is taken, and where it stood
if there is none. -/
def shown {α : Type} (data : Bytes) : Except FieldError (α × Bytes) → Except FieldError α × Bytes
  | .ok (a, rest) => (.ok a, rest)
  | .error e => (.error e, data)

/-- A step of a cursor that takes what a reader takes. -/
def Follows {α : Type} (c : Cursor α) (reader : FieldReader α) : Prop :=
  ∀ data, c.runOn data = shown data (reader.run data)

theorem follows_number : Follows number FieldReader.number := by
  intro data
  rw [number, runOn_get_bind]
  simp only [FieldReader.number, StateT.run]
  cases FieldReader.splitColon data with
  | none => rfl
  | some p =>
    dsimp only
    cases FieldReader.numeral p.1 <;> rfl

theorem runOn_passField_of_error {data : Bytes} {e : FieldError}
    (h : FieldReader.number.run (FieldReader.dropTag data) = .error e) :
    passField.runOn data = (.error e, FieldReader.dropTag data) := by
  have hnumber := follows_number (FieldReader.dropTag data)
  rw [h] at hnumber
  rw [passField, runOn_modify_bind]
  exact runOn_bind_of_error hnumber

theorem runOn_passField_of_number {data rest : Bytes} {n : Int}
    (h : FieldReader.number.run (FieldReader.dropTag data) = .ok (n, rest)) :
    passField.runOn data =
      if n < 0 then (.error (.negativeLength n), rest)
      else if rest.length < n.toNat then (.error (.truncated n.toNat rest.length), rest)
      else (.ok (rest.take n.toNat), rest.drop n.toNat) := by
  have hnumber := follows_number (FieldReader.dropTag data)
  rw [h] at hnumber
  rw [passField, runOn_modify_bind, runOn_bind_of_ok hnumber]
  split
  case isTrue => rfl
  case isFalse =>
    rw [runOn_get_bind]
    split <;> rfl

example : passField.runOn (encodeText "STR:9:xy") =
    (.error (.truncated 9 2), encodeText "xy") := by cbv

theorem runOn_bytes_of_ok {data field rest : Bytes}
    (h : passField.runOn data = (.ok field, rest)) : bytes.runOn data = (.ok field, rest) := by
  have hrun : (ExceptT.run passField).run data = (.ok field, rest) := h
  rw [bytes, runOn_get_bind, runOn, ExceptT.run_tryCatch, StateT.run_bind, hrun]
  rfl

/-- Wherever the failure has left the cursor, it is put back. -/
theorem runOn_bytes_of_error {data rest : Bytes} {e : FieldError}
    (h : passField.runOn data = (.error e, rest)) : bytes.runOn data = (.error e, data) := by
  have hrun : (ExceptT.run passField).run data = (.error e, rest) := h
  rw [bytes, runOn_get_bind, runOn, ExceptT.run_tryCatch, StateT.run_bind, hrun]
  rfl

theorem follows_bytes : Follows bytes FieldReader.bytes := by
  intro data
  cases hnumber : FieldReader.number.run (FieldReader.dropTag data) with
  | error e =>
    rw [runOn_bytes_of_error (runOn_passField_of_error hnumber),
      FieldReader.bytes_of_number_error hnumber]
    rfl
  | ok p =>
    obtain ⟨n, rest⟩ := p
    have hpassed := runOn_passField_of_number hnumber
    have hreader := FieldReader.bytes_of_number hnumber
    by_cases hn : n < 0
    · rw [if_pos hn] at hpassed hreader
      rw [runOn_bytes_of_error hpassed, hreader]
      rfl
    · rw [if_neg hn] at hpassed hreader
      by_cases hlength : rest.length < n.toNat
      · rw [if_pos hlength] at hpassed hreader
        rw [runOn_bytes_of_error hpassed, hreader]
        rfl
      · rw [if_neg hlength] at hpassed hreader
        rw [runOn_bytes_of_ok hpassed, hreader]
        rfl

theorem follows_text : Follows text FieldReader.text := by
  intro data
  have hbytes := follows_bytes data
  cases hreader : FieldReader.bytes.run data with
  | error e =>
    rw [hreader] at hbytes
    rw [text, runOn_bind_of_error hbytes, FieldReader.text,
      FieldReader.run_bind_of_error hreader]
    rfl
  | ok p =>
    obtain ⟨field, rest⟩ := p
    rw [hreader] at hbytes
    rw [text, runOn_bind_of_ok hbytes, FieldReader.text, FieldReader.run_bind_of_ok hreader]
    rfl

theorem follows_integer (name : String) : Follows (integer name) (FieldReader.integer name) := by
  intro data
  have hbytes := follows_bytes data
  rw [integer, runOn_get_bind]
  cases hreader : FieldReader.bytes.run data with
  | error e =>
    rw [hreader] at hbytes
    rw [runOn_bind_of_error hbytes, FieldReader.integer, FieldReader.run_bind_of_error hreader]
    rfl
  | ok p =>
    obtain ⟨field, rest⟩ := p
    rw [hreader] at hbytes
    rw [runOn_bind_of_ok hbytes, FieldReader.integer, FieldReader.run_bind_of_ok hreader]
    cases FieldReader.numeral field <;> rfl

theorem peek_of_ok {α : Type} {c : Cursor α} {data rest : Bytes} {a : α}
    (h : c.runOn data = (.ok a, rest)) : (peek c).runOn data = (.ok a, data) := by
  rw [peek, runOn_get_bind, h]
  rfl

theorem peek_of_error {α : Type} {c : Cursor α} {data rest : Bytes} {e : FieldError}
    (h : c.runOn data = (.error e, rest)) : (peek c).runOn data = (.error e, data) := by
  rw [peek, runOn_get_bind, h]
  rfl

/-- A field that has been looked at is still there, and it is the one that is then passed. -/
theorem follows_integerOrEmpty (name : String) :
    Follows (integerOrEmpty name) (FieldReader.integerOrEmpty name) := by
  intro data
  have hbytes := follows_bytes data
  cases hreader : FieldReader.bytes.run data with
  | error e =>
    rw [hreader] at hbytes
    rw [integerOrEmpty, runOn_bind_of_error (peek_of_error hbytes), FieldReader.integerOrEmpty,
      FieldReader.run_bind_of_error hreader]
    rfl
  | ok p =>
    obtain ⟨field, rest⟩ := p
    rw [hreader] at hbytes
    rw [integerOrEmpty, runOn_bind_of_ok (peek_of_ok hbytes)]
    cases field with
    | nil =>
      rw [if_pos List.isEmpty_nil, runOn_bind_of_ok hbytes, FieldReader.integerOrEmpty,
        FieldReader.run_bind_of_ok hreader]
      rfl
    | cons b r =>
      rw [if_neg (by simp), follows_integer, FieldReader.integer, FieldReader.integerOrEmpty,
        FieldReader.run_bind_of_ok hreader, FieldReader.run_bind_of_ok hreader]

namespace Step

def reader : (s : Step) → FieldReader s.Value
  | number => FieldReader.number
  | bytes => FieldReader.bytes
  | text => FieldReader.text
  | integer field => FieldReader.integer field
  | integerOrEmpty field => FieldReader.integerOrEmpty field

theorem take_follows (s : Step) : Follows s.take s.reader := by
  cases s with
  | number => exact follows_number
  | bytes => exact follows_bytes
  | text => exact follows_text
  | integer field => exact follows_integer field
  | integerOrEmpty field => exact follows_integerOrEmpty field

open FieldReader (IsNumber IsField Shows) in
/-- What is written for the value that a step takes: nothing more is passed, and nothing less. -/
def Writes : (s : Step) → Bytes → s.Value → Prop
  | number, front, n => IsNumber front n
  | bytes, front, field => IsField front field
  | text, front, shown => ∃ field, IsField front field ∧ shown = Text.lossy field
  | integer _, front, n => ∃ field, IsField front field ∧ Shows field n
  | integerOrEmpty _, front, n =>
    ∃ field, IsField front field ∧ (field = [] ∧ n = 0 ∨ Shows field n)

theorem exists_bytes_eq_ok_iff {data rest : Bytes} (holds : Bytes → Prop) :
    (∃ field, FieldReader.bytes.run data = .ok (field, rest) ∧ holds field) ↔
      ∃ front, (∃ field, FieldReader.IsField front field ∧ holds field) ∧ data = front ++ rest := by
  constructor
  · rintro ⟨field, hrun, hfield⟩
    obtain ⟨front, hfront, hdata⟩ := FieldReader.bytes_eq_ok_iff.1 hrun
    exact ⟨front, ⟨field, hfront, hfield⟩, hdata⟩
  · rintro ⟨front, ⟨field, hfront, hfield⟩, hdata⟩
    exact ⟨field, FieldReader.bytes_eq_ok_iff.2 ⟨front, hfront, hdata⟩, hfield⟩

variable {s : Step} {data rest : Bytes} {a : s.Value}

theorem reader_eq_ok_iff :
    s.reader.run data = .ok (a, rest) ↔ ∃ front, s.Writes front a ∧ data = front ++ rest := by
  cases s with
  | number => exact FieldReader.number_eq_ok_iff
  | bytes => exact FieldReader.bytes_eq_ok_iff
  | text => exact FieldReader.text_eq_ok.trans (exists_bytes_eq_ok_iff _)
  | integer name => exact FieldReader.integer_eq_ok.trans (exists_bytes_eq_ok_iff _)
  | integerOrEmpty name =>
    exact FieldReader.integerOrEmpty_eq_ok.trans (exists_bytes_eq_ok_iff _)

theorem take_eq_ok_iff :
    s.take.runOn data = (.ok a, rest) ↔ ∃ front, s.Writes front a ∧ data = front ++ rest := by
  rw [← reader_eq_ok_iff, s.take_follows data]
  cases s.reader.run data with
  | ok p => simp [shown, Prod.ext_iff]
  | error e => simp [shown]

theorem take_error {e : FieldError} (h : s.take.runOn data = (.error e, rest)) : rest = data := by
  rw [s.take_follows data] at h
  cases hreader : s.reader.run data with
  | ok p =>
    rw [hreader] at h
    cases h
  | error e' =>
    rw [hreader] at h
    cases h
    rfl

theorem take_append (h : s.take.runOn data = (.ok a, rest)) (more : Bytes) :
    s.take.runOn (data ++ more) = (.ok a, rest ++ more) := by
  obtain ⟨front, hfront, rfl⟩ := take_eq_ok_iff.1 h
  exact take_eq_ok_iff.2 ⟨front, hfront, List.append_assoc front rest more⟩

theorem take_suffix (s : Step) (data : Bytes) : (s.take.runOn data).2 <:+ data := by
  rcases hrun : s.take.runOn data with ⟨outcome, rest⟩
  cases outcome with
  | error e =>
    rw [take_error hrun]
  | ok a =>
    obtain ⟨front, -, rfl⟩ := take_eq_ok_iff.1 hrun
    exact List.suffix_append front rest

end Step

theorem unreadAfter_suffix (steps : List Step) (data : Bytes) :
    unreadAfter steps data <:+ data := by
  induction steps generalizing data with
  | nil => exact List.suffix_refl data
  | cons s steps ih => exact (ih _).trans (s.take_suffix data)

/-- Whatever a cursor has done before, what is unread is the end of the data; a step that fails
leaves it as it is; a step takes a value where, and only where, what is written for the value is in
front, and leaves the rest; and more bytes at the end do not change a step that takes a value. -/
theorem passes_exactly (data : Bytes) (steps : List Step) (s : Step) :
    unreadAfter steps data <:+ data ∧
    (∀ e rest, s.take.runOn (unreadAfter steps data) = (.error e, rest) →
      rest = unreadAfter steps data) ∧
    (∀ a rest, s.take.runOn (unreadAfter steps data) = (.ok a, rest) ↔
      ∃ front, s.Writes front a ∧ unreadAfter steps data = front ++ rest) ∧
    ∀ a rest more, s.take.runOn (unreadAfter steps data) = (.ok a, rest) →
      s.take.runOn (unreadAfter steps data ++ more) = (.ok a, rest ++ more) :=
  ⟨unreadAfter_suffix steps data, fun _ _ => Step.take_error, fun _ _ => Step.take_eq_ok_iff,
    fun _ _ more h => Step.take_append h more⟩

/-- A number fails on the tag, then a field and a number are taken, and then a field that is cut
short stays where it is; its length is a number, whatever else follows it. -/
theorem passes_exactly_cut :
    encodeText "9:xy" <:+ encodeText "STR:3:a:b 7 :9:xy" ∧
    (∃ rest, Step.text.take.runOn (encodeText "9:xy") = (.error (.truncated 9 2), rest) ∧
      rest = encodeText "9:xy") ∧
    (∃ front, Step.number.Writes front (9 : Int) ∧
      encodeText "9:xy" = front ++ encodeText "xy") ∧
    Step.number.take.runOn (encodeText "9:xy" ++ encodeText "z") =
      (.ok (9 : Int), encodeText "xy" ++ encodeText "z") := by
  have hunread : unreadAfter [.number, .bytes, .number] (encodeText "STR:3:a:b 7 :9:xy") =
      encodeText "9:xy" := by cbv
  have hcut : Step.text.take.runOn (encodeText "9:xy") =
      (.error (.truncated 9 2), encodeText "9:xy") := by cbv
  have hnumber : Step.number.take.runOn (encodeText "9:xy") = (.ok (9 : Int), encodeText "xy") := by
    cbv
  have htext := passes_exactly (encodeText "STR:3:a:b 7 :9:xy") [.number, .bytes, .number] .text
  have hlength := passes_exactly (encodeText "STR:3:a:b 7 :9:xy") [.number, .bytes, .number] .number
  rw [hunread] at htext hlength
  obtain ⟨hsuffix, hkept, -, -⟩ := htext
  obtain ⟨-, -, hpassed, hmore⟩ := hlength
  exact ⟨hsuffix, ⟨_, hcut, hkept _ _ hcut⟩, (hpassed _ _).1 hnumber,
    hmore _ _ (encodeText "z") hnumber⟩

end RemoteDev.Cursor
