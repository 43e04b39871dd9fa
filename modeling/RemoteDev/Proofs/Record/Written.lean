import RemoteDev.Proofs.Wire.Reading

/-! Records and the fields that they are sent in. A reader of records decodes its fields one after
the other, and a reply of such fields gives back the records, whatever head it comes with. A reader
interprets fields if it yields a value where they are taken and state it, and nowhere else; repeated
readers interpret field after field, and the records of a reply group after group. -/
namespace RemoteDev

namespace FieldReader

theorem run_liftM_bind {α β : Type} {outcome : Except FieldError α} {a : α}
    {next : α → FieldReader β} (h : outcome = .ok a) (data : Bytes) :
    ((liftM outcome : FieldReader α) >>= next).run data = (next a).run data := by
  rw [h]
  rfl

theorem recordCount_mul (n : Nat) {size : Nat} (h : 0 < size) :
    recordCount ((n * size : Nat) : Int) size = .ok n := by
  have hfits : ¬ (((n * size : Nat) : Int) < 0 ∨ ((n * size : Nat) : Int).toNat % size ≠ 0) := by
    rw [Int.toNat_natCast, Nat.mul_mod_left]
    omega
  rw [recordCount, if_neg hfits, Int.toNat_natCast, Nat.mul_div_cancel n h]
  rfl

section Decodes

variable {α β : Type} {reader : FieldReader α} {next : α → FieldReader β}
  {fields more : List Bytes} {field : Bytes} {a : α} {b : β}

theorem repeated_append {data rest : Bytes} {n : Nat} {xs ys : List α}
    (h : (reader.repeated (xs.length + n)).run data = .ok (xs ++ ys, rest)) :
    ∃ mid, (reader.repeated xs.length).run data = .ok (xs, mid) ∧
      (reader.repeated n).run mid = .ok (ys, rest) := by
  induction xs generalizing data with
  | nil =>
    rw [List.length_nil, Nat.zero_add] at h
    exact ⟨data, rfl, h⟩
  | cons x r ih =>
    rw [List.length_cons, Nat.add_right_comm] at h
    obtain ⟨first, after, others, hfirst, hothers, hcons⟩ := repeated_succ_eq_ok.1 h
    cases hcons
    obtain ⟨mid, hfront, hback⟩ := ih hothers
    exact ⟨mid, repeated_cons hfirst hfront, hback⟩

/-- A reader that takes the given fields off the front and yields a value, whatever form their
lengths are written in. -/
def Decodes (reader : FieldReader α) (fields : List Bytes) (a : α) : Prop :=
  ∀ data rest, (bytes.repeated fields.length).run data = .ok (fields, rest) →
    reader.run data = .ok (a, rest)

def DecodesWhole (reader : FieldReader α) (fields : List Bytes) (a : α) : Prop :=
  ∀ body, (bytes.repeated fields.length).run body = .ok (fields, []) → reader.value body = .ok a

theorem Decodes.whole (h : Decodes reader fields a) : DecodesWhole reader fields a := by
  intro body hfields
  rw [value, h body [] hfields]
  rfl

theorem decodes_pure (a : α) : Decodes (pure a) [] a := by
  intro data rest hfields
  cases hfields
  rfl

theorem Decodes.bind (h : Decodes reader fields a) (hnext : Decodes (next a) more b) :
    Decodes (reader >>= next) (fields ++ more) b := by
  intro data rest hfields
  rw [List.length_append] at hfields
  obtain ⟨mid, hfront, hback⟩ := repeated_append hfields
  rw [run_bind_of_ok (h data mid hfront)]
  exact hnext mid rest hback

theorem Decodes.cons (h : Decodes reader [field] a) (hnext : Decodes (next a) more b) :
    Decodes (reader >>= next) (field :: more) b := h.bind hnext

theorem Decodes.consWhole (h : Decodes reader [field] a) (hnext : DecodesWhole (next a) more b) :
    DecodesWhole (reader >>= next) (field :: more) b := by
  intro body hfields
  rw [← List.singleton_append, List.length_append] at hfields
  obtain ⟨mid, hfirst, hmore⟩ := repeated_append hfields
  rw [value, run_bind_of_ok (h body mid hfirst)]
  exact hnext mid hmore

theorem decodesWhole_finish (a : α) : DecodesWhole (finish >>= fun _ => pure a) [] a := by
  intro body hfields
  cases hfields
  rfl

theorem Decodes.map (h : Decodes reader fields a) (hnext : next a = pure b) :
    Decodes (reader >>= next) fields b := by
  have hwhole := h.bind (hnext ▸ decodes_pure b)
  rwa [List.append_nil] at hwhole

theorem decodes_bytes (field : Bytes) : Decodes bytes [field] field := by
  intro data rest hfields
  obtain ⟨first, mid, hfirst, hpure⟩ := run_bind_eq_ok.1 hfields
  cases hpure
  exact hfirst

theorem decodes_lossy (field : Bytes) : Decodes text [field] (Text.lossy field) :=
  (decodes_bytes field).map rfl

theorem decodes_text (shown : String) : Decodes text [encodeText shown] shown := by
  have hread := decodes_lossy (encodeText shown)
  rwa [Text.lossy_encodeText] at hread

theorem decodes_integer_of_shows (name : String) {field : Bytes} {n : Int} (h : Shows field n) :
    Decodes (integer name) [field] n := by
  refine (decodes_bytes field).map ?_
  rw [numeral_eq_ok_iff.2 h]

theorem decodes_integer (name : String) {n : Int} (h : Text.inWordRange n = true) :
    Decodes (integer name) [encodeText (signedText n)] n :=
  decodes_integer_of_shows name (shows_signed h)

def integerField (blank : Bool) (n : Int) : Bytes :=
  if blank then [] else encodeText (signedText n)

def integerOrZero (blank : Bool) (n : Int) : Int := if blank then 0 else n

theorem decodes_integerOrEmpty (name : String) (blank : Bool) {n : Int}
    (h : Text.inWordRange n = true) :
    Decodes (integerOrEmpty name) [integerField blank n] (integerOrZero blank n) := by
  refine (decodes_bytes _).map ?_
  cases blank with
  | true => rfl
  | false =>
    have hnumeral := numeral_signed h
    simp only [integerField, integerOrZero, Bool.false_eq_true, if_false]
    cases hdigits : encodeText (signedText n) with
    | nil =>
      rw [hdigits] at hnumeral
      cases hnumeral
    | cons c r =>
      rw [hdigits] at hnumeral
      dsimp only
      rw [hnumeral]

theorem decodes_repeated {written : β → List Bytes} {value : β → α} {bs : List β}
    (h : ∀ b ∈ bs, Decodes reader (written b) (value b)) :
    Decodes (reader.repeated bs.length) (bs.flatMap written) (bs.map value) := by
  induction bs with
  | nil => exact decodes_pure []
  | cons b r ih =>
    have hothers := ih fun c hc => h c (List.mem_cons_of_mem b hc)
    exact (h b List.mem_cons_self).bind (hothers.map rfl)

end Decodes

end FieldReader

namespace Reply

open FieldReader

/-- A decoder takes a value from fields: from every body that they are read off with nothing left,
and from the message that they are written in behind any head. -/
structure ReadsFrom {ε α : Type} (decode : Reply → Except ε α) (fields : List Bytes) (a : α) :
    Prop where
  body : ∀ body, (bytes.repeated fields.length).run body = .ok (fields, []) →
    decode ⟨fields.length, body⟩ = .ok a
  message : ∀ head, (∃ line ∈ statusLines, line <+: head) → ¬ headEnd <:+: head →
    (written head fields).length < 2 ^ 63 →
    ∃ reply, parse (written head fields) = .ok reply ∧ decode reply = .ok a

theorem readsFrom_of_body {ε α : Type} {decode : Reply → Except ε α} {fields : List Bytes} {a : α}
    (h : ∀ body, (bytes.repeated fields.length).run body = .ok (fields, []) →
      decode ⟨fields.length, body⟩ = .ok a) : ReadsFrom decode fields a where
  body := h
  message head hstatus hhead hlength := by
    have hbody := Nat.lt_of_le_of_lt (length_body_le_length_written head fields) hlength
    exact ⟨_, parse_written hstatus hhead hlength, h _ (repeated_bytes_ofFields hbody)⟩

theorem readsFrom_records {α β : Type} {size : Nat} {reader : FieldReader α}
    {written : β → List Bytes} {value : β → α} {bs : List β} (hsize : 0 < size)
    (hwritten : ∀ b, (written b).length = size)
    (h : ∀ b ∈ bs, Decodes reader (written b) (value b)) :
    ReadsFrom (records · size reader) (bs.flatMap written) (bs.map value) := by
  refine readsFrom_of_body fun body hfields => ?_
  have hcount : (bs.flatMap written).length = bs.length * size := by
    simp [List.length_flatMap, hwritten]
  simp only [records, hcount, recordCount_mul bs.length hsize, ok_bind]
  exact (decodes_repeated h).whole body hfields

end Reply

namespace FieldReader

variable {α β : Type} {reader : FieldReader α} {base : FieldReader β} {states : β → α → Prop}

/-- A reader that takes what `base` takes if it states a value, which is then the reader's. -/
def Interprets (reader : FieldReader α) (base : FieldReader β) (states : β → α → Prop) : Prop :=
  ∀ data rest a, reader.run data = .ok (a, rest) ↔
    ∃ b, base.run data = .ok (b, rest) ∧ states b a

theorem Interprets.repeated (h : Interprets reader base states) (n : Nat) :
    Interprets (reader.repeated n) (base.repeated n) (List.Forall₂ states) := by
  induction n with
  | zero =>
    intro data rest xs
    constructor
    · intro hrun
      cases hrun
      exact ⟨[], rfl, .nil⟩
    · rintro ⟨bs, hrun, hstates⟩
      cases hrun
      cases hstates
      rfl
  | succ n ih =>
    intro data rest xs
    simp only [repeated_succ_eq_ok]
    constructor
    · rintro ⟨x, mid, others, hx, hothers, rfl⟩
      obtain ⟨b, hb, hbx⟩ := (h data mid x).1 hx
      obtain ⟨bs, hbs, hstates⟩ := (ih mid rest others).1 hothers
      exact ⟨b :: bs, ⟨b, mid, bs, hb, hbs, rfl⟩, .cons hbx hstates⟩
    · rintro ⟨_, ⟨b, mid, bs, hb, hbs, rfl⟩, hstates⟩
      obtain ⟨x, others, hbx, hothers, rfl⟩ := List.forall₂_cons_left_iff.1 hstates
      exact ⟨x, mid, others, (h data mid x).2 ⟨b, hb, hbx⟩,
        (ih mid rest others).2 ⟨bs, hbs, hothers⟩, rfl⟩

theorem recordCount_eq_ok_iff {count : Int} {n size : Nat} (h : 0 < size) :
    recordCount count size = .ok n ↔ count = ((n * size : Nat) : Int) := by
  constructor
  · intro hcount
    unfold recordCount at hcount
    split at hcount
    case isTrue => cases hcount
    case isFalse hfits =>
      cases hcount
      rw [not_or, not_not] at hfits
      rw [Nat.div_mul_cancel (Nat.dvd_of_mod_eq_zero hfits.2)]
      omega
  · rintro rfl
    exact recordCount_mul n h

theorem value_eq_ok {data : Bytes} {a : α} :
    reader.value data = .ok a ↔ ∃ rest, reader.run data = .ok (a, rest) := by
  rw [value, map_eq_ok]
  constructor
  · rintro ⟨⟨a', rest⟩, hrun, rfl⟩
    exact ⟨rest, hrun⟩
  · rintro ⟨rest, hrun⟩
    exact ⟨_, hrun, rfl⟩

end FieldReader

open FieldReader

/-- The groups that stand in the body of a reply, as many as its count announces, state records. -/
def Reply.StatesRecords {α β : Type} (reply : Reply) (size : Nat) (base : FieldReader β)
    (states : β → α → Prop) (records : List α) : Prop :=
  reply.count = records.length * size ∧
    ∃ groups rest, (base.repeated records.length).run reply.body = .ok (groups, rest) ∧
      List.Forall₂ states groups records

theorem Reply.records_eq_ok_iff {α β : Type} {reader : FieldReader α} {base : FieldReader β}
    {states : β → α → Prop} {reply : Reply} {size : Nat} {records : List α} (hsize : 0 < size)
    (h : Interprets reader base states) :
    reply.records size reader = .ok records ↔ reply.StatesRecords size base states records := by
  rw [Reply.records, bind_eq_ok]
  simp only [recordCount_eq_ok_iff hsize, Int.ofNat_inj, Reply.read, value_eq_ok]
  constructor
  · rintro ⟨n, hcount, rest, hrun⟩
    cases length_of_repeated hrun
    obtain ⟨groups, hgroups, hstates⟩ := (h.repeated _ _ _ _).1 hrun
    exact ⟨hcount, groups, rest, hgroups, hstates⟩
  · rintro ⟨hcount, groups, rest, hgroups, hstates⟩
    exact ⟨_, hcount, rest, (h.repeated _ _ _ _).2 ⟨groups, hgroups, hstates⟩⟩

end RemoteDev
