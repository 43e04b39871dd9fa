import RemoteDev.Proofs.Field.Written
import RemoteDev.Proofs.Separator
import RemoteDev.Proofs.Wire.Head
import RemoteDev.Wire

/-! The message of a request. Its payload carries the request's fields and nothing else: a field may
hold anything, also what looks like a count, a colon or a tag, since its length says where it ends.
Two requests that make the same message to a host are the same request. -/
namespace RemoteDev.Request

open FieldReader

def credentialField (credential : String) : List Bytes :=
  if credential = "" then [] else [encodeText credential]

theorem credentials_eq (username password : String) :
    credentials username password = credentialField username ++ credentialField password := by
  by_cases hu : username = "" <;> by_cases hp : password = "" <;>
    simp [credentials, credentialField, hu, hp]

theorem length_credentialField (credential : String) :
    (credentialField credential).length = if credential = "" then 0 else 1 := by
  by_cases h : credential = "" <;> simp [credentialField, h]

theorem bytes_encode (request : Request) (username password : String) :
    (request.encode username password).bytes =
      writtenCount (request.arguments ++ credentials username password).length ++
        (request.arguments ++ credentials username password).flatMap writtenField := by
  have hfield : (fun f : Bytes => encodeText "STR:" ++
      (encodeText (decimalText f.length) ++ 58 :: f)) = writtenField := by
    funext f
    rw [writtenField, writtenCount, List.append_assoc, List.singleton_append]
    rfl
  simp only [encode, bytes_foldl_appendField, Buffer.bytes_appendCount, Buffer.bytes_empty,
    List.nil_append, hfield, writtenCount, colon]

theorem length_writtenField_pos (field : Bytes) : 0 < (writtenField field).length := by
  have htag : 0 < tag.length := by decide
  rw [writtenField, List.length_append]
  omega

theorem length_le_length_writtenField (field : Bytes) :
    field.length ≤ (writtenField field).length := by
  simp only [writtenField, List.length_append]
  omega

theorem length_le_length_flatMap (fields : List Bytes) :
    fields.length ≤ (fields.flatMap writtenField).length ∧
      ∀ field ∈ fields, field.length ≤ (fields.flatMap writtenField).length := by
  refine ⟨length_le_length_flatMap_of_pos length_writtenField_pos fields, ?_⟩
  intro field hfield
  have hwritten := length_le_of_mem_flatMap writtenField hfield
  exact Nat.le_trans (length_le_length_writtenField field) hwritten

/-- A payload that a signed word can count, as every buffer can be, is read back field by field,
and the reading stops where the payload ends. -/
theorem read_encode (request : Request) (username password : String)
    (h : (request.encode username password).length < 2 ^ 63) :
    let payload := (request.encode username password).bytes
    let k := request.arguments.length + (if username = "" then 0 else 1) +
      (if password = "" then 0 else 1)
    let fields := request.arguments ++ (if username = "" then [] else [encodeText username]) ++
      (if password = "" then [] else [encodeText password])
    ∃ body : Bytes,
      number.run payload = .ok ((k : Int), body) ∧
      (bytes.repeated k).run body = .ok (fields, []) ∧
      finish.run [] = .ok ((), []) ∧
      ∀ x : Bytes,
        number.run (payload ++ x) = .ok ((k : Int), body ++ x) ∧
        (bytes.repeated k).run (body ++ x) = .ok (fields, x) := by
  intro payload k fields
  have hfields : fields = request.arguments ++ credentials username password := by
    rw [credentials_eq]
    exact List.append_assoc _ _ _
  have hk : k = fields.length := by
    rw [hfields, credentials_eq, List.length_append, List.length_append, length_credentialField,
      length_credentialField, ← Nat.add_assoc]
  have hpayload : payload = writtenCount k ++ fields.flatMap writtenField := by
    rw [hk, hfields]
    exact bytes_encode request username password
  have hlength : (fields.flatMap writtenField).length < 2 ^ 63 := by
    have htotal : payload.length < 2 ^ 63 := h
    rw [hpayload, List.length_append] at htotal
    omega
  obtain ⟨hcount, heach⟩ := length_le_length_flatMap fields
  have hread (x : Bytes) : number.run (payload ++ x) =
        .ok ((k : Int), fields.flatMap writtenField ++ x) ∧
      (bytes.repeated k).run (fields.flatMap writtenField ++ x) = .ok (fields, x) := by
    constructor
    · rw [hpayload, List.append_assoc]
      exact number_writtenCount (by omega) _
    · rw [hk]
      exact repeated_bytes_writtenField
        (fun field hmem => Nat.lt_of_le_of_lt (heach field hmem) hlength) x
  have hwhole := hread []
  rw [List.append_nil, List.append_nil] at hwhole
  exact ⟨fields.flatMap writtenField, hwhole.1, hwhole.2, rfl, hread⟩

/-- Fields that imitate the grammar: a colon after a zero byte, a tag, a byte that is no text. -/
theorem read_encode_of_imitations :
    let request : Request := ⟨"FILEIO", [[0, 58], encodeText "STR:", encodeText "9:", [255], []]⟩
    (request.encode "admin" "").length < 2 ^ 63 ∧
    ∃ body : Bytes,
      number.run (request.encode "admin" "").bytes = .ok (6, body) ∧
      (bytes.repeated 6).run body =
        .ok ([[0, 58], encodeText "STR:", encodeText "9:", [255], [], encodeText "admin"], []) ∧
      finish.run [] = .ok ((), []) ∧
      ∀ x : Bytes,
        number.run ((request.encode "admin" "").bytes ++ x) = .ok (6, body ++ x) ∧
        (bytes.repeated 6).run (body ++ x) =
          .ok ([[0, 58], encodeText "STR:", encodeText "9:", [255], [], encodeText "admin"], x) := by
  intro request
  have hlength : (request.encode "admin" "").length < 2 ^ 63 := by
    rw [Buffer.length, bytes_encode]
    decide
  exact ⟨hlength, read_encode request "admin" "" hlength⟩

/-- A payload that is read as a count of fields and these fields, with nothing behind them. -/
def Carries (payload : Bytes) (fields : List Bytes) : Prop :=
  ∃ body, number.run payload = .ok ((fields.length : Int), body) ∧
    (bytes.repeated fields.length).run body = .ok (fields, [])

theorem carries_encode (request : Request) (username password : String)
    (h : (request.encode username password).length < 2 ^ 63) :
    Carries (request.encode username password).bytes
      (request.arguments ++ credentials username password) := by
  rw [Buffer.length, bytes_encode] at h
  rw [bytes_encode]
  generalize request.arguments ++ credentials username password = fields at *
  rw [List.length_append] at h
  obtain ⟨hcount, heach⟩ := length_le_length_flatMap fields
  have hfields : ∀ field ∈ fields, field.length < 2 ^ 63 := by
    intro field hmem
    have hfield := heach field hmem
    omega
  have hread := repeated_bytes_writtenField hfields []
  rw [List.append_nil] at hread
  exact ⟨_, number_writtenCount (by omega) _, hread⟩

theorem writtenCount_inj {m n : Nat} {x y : Bytes}
    (h : writtenCount m ++ x = writtenCount n ++ y) : m = n ∧ x = y := by
  rw [writtenCount, writtenCount, List.append_assoc, List.append_assoc] at h
  obtain ⟨hdigits, hrest⟩ := append_cons_inj (colon_notMem_decimal m) (colon_notMem_decimal n) h
  exact ⟨Text.decimalText_inj.1 (Text.encodeText_inj.1 hdigits), hrest⟩

/-- A field's length says where the field ends. -/
theorem writtenField_inj {f g x y : Bytes} (h : writtenField f ++ x = writtenField g ++ y) :
    f = g ∧ x = y := by
  rw [writtenField, writtenField, List.append_assoc, List.append_assoc, List.append_assoc,
    List.append_assoc] at h
  obtain ⟨hlength, hrest⟩ := writtenCount_inj (List.append_cancel_left h)
  exact List.append_inj hrest hlength

theorem flatMap_writtenField_inj {fields fields' : List Bytes}
    (h : fields.flatMap writtenField = fields'.flatMap writtenField) : fields = fields' := by
  have hne (f : Bytes) (r : List Bytes) : (f :: r).flatMap writtenField ≠ [] := by
    have hpos := length_writtenField_pos f
    rw [List.flatMap_cons]
    exact List.append_ne_nil_of_left_ne_nil (List.ne_nil_of_length_pos hpos) _
  induction fields generalizing fields' with
  | nil =>
    cases fields' with
    | nil => rfl
    | cons g r' => exact absurd h.symm (hne g r')
  | cons f r ih =>
    cases fields' with
    | nil => exact absurd h (hne f r)
    | cons g r' =>
      rw [List.flatMap_cons, List.flatMap_cons] at h
      obtain ⟨rfl, hrest⟩ := writtenField_inj h
      rw [ih hrest]

theorem arguments_inj_of_encode {request request' : Request} {username password : String}
    (h : (request.encode username password).bytes = (request'.encode username password).bytes) :
    request.arguments = request'.arguments := by
  rw [bytes_encode, bytes_encode] at h
  exact List.append_cancel_right (flatMap_writtenField_inj (writtenCount_inj h).2)

/-- A head is the same for all requests to a host, but for the action and the length. -/
theorem headBytes_eq (host : String) (port : Nat) : ∃ before between : Bytes,
    ∀ action length, headBytes action host port length =
      before ++ (encodeText action ++ 32 :: (between ++ encodeText (decimalText length))) := by
  have hversion : encodeText " HTTP/1.0" = 32 :: encodeText "HTTP/1.0" := rfl
  refine ⟨encodeText "POST /CFIDE/main/ide.cfm?CFSRV=IDE&ACTION=", encodeText "HTTP/1.0" ++
    ((headerLines host port 0).dropLast.map encodeText).flatMap (lineEnd ++ ·) ++
      (lineEnd ++ encodeText "Content-length: "), fun action length => ?_⟩
  unfold headBytes requestLine headerLines joinedLines
  simp only [encodeText_append, hversion, List.dropLast, List.map_cons, List.map_nil,
    List.flatMap_cons, List.flatMap_nil, List.append_assoc, List.cons_append, List.append_nil]

theorem notMem_encodeText_action (family : Family) : 32 ∉ encodeText family.action := by
  cases family <;> decide

theorem action_inj {family family' : Family} (h : family.action = family'.action) :
    family = family' := by
  cases family <;> cases family' <;> first | rfl | exact absurd h (by decide)

theorem return_notMem_decimal (n : Nat) : 13 ∉ encodeText (decimalText n) :=
  (notMem_of_isOneLine (isOneLine_decimalText n)).1

theorem frame_inj {family family' : Family} {arguments arguments' : List Bytes} {host : String}
    {port : Nat} {payload payload' : Bytes}
    (h : ((ofFamily family arguments).frame host port payload).bytes =
      ((ofFamily family' arguments').frame host port payload').bytes) :
    family = family' ∧ payload = payload' := by
  obtain ⟨before, between, hhead⟩ := headBytes_eq host port
  simp only [frame, Buffer.bytes_append, Buffer.bytes_empty, List.nil_append, encodeText_head,
    ofFamily, hhead, List.append_assoc, List.cons_append] at h
  obtain ⟨haction, h⟩ := append_cons_inj (notMem_encodeText_action family)
    (notMem_encodeText_action family') (List.append_cancel_left h)
  obtain ⟨-, hpayload⟩ := append_cons_inj (return_notMem_decimal payload.length)
    (return_notMem_decimal payload'.length) (List.append_cancel_left h)
  exact ⟨action_inj (Text.encodeText_inj.1 haction), List.append_cancel_left hpayload⟩

end RemoteDev.Request
