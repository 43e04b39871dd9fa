import RemoteDev.Proofs.Session.Message
import RemoteDev.Proofs.Text.Utf8
import RemoteDev.Session.Basic
import RemoteDev.Text.Basic

/-! The credentials of a session in its messages. The digits of a password's wire form give back the
bytes that they were written for, and the key gives back the password's, so that two passwords never
look alike. The form is empty only if the password is, so that a message counts and carries a field
for each credential that there is. -/
namespace RemoteDev
namespace Password

def unhex? : List Char → Option Bytes
  | [] => some []
  | [_] => none
  | high :: low :: r => do
    let h ← Text.digitValue? 16 high
    let l ← Text.digitValue? 16 low
    let bytes ← unhex? r
    return UInt8.ofNat (16 * h + l) :: bytes

def isLowerHex (c : Char) : Bool := c.isDigit || ('a' ≤ c && c ≤ 'f')

theorem isLowerHex_hexDigit {n : Nat} (h : n < 16) : isLowerHex (hexDigit n) = true := by
  revert n
  decide

theorem digitValue?_hexDigit {n : Nat} (h : n < 16) :
    Text.digitValue? 16 (hexDigit n) = some n := by
  revert n
  decide

theorem isLowerHex_of_mem_hexPair {b : UInt8} {c : Char} (h : c ∈ hexPair b) :
    isLowerHex c = true := by
  have hbyte : b.toNat < 256 := b.toNat_lt
  simp only [hexPair, List.mem_cons, List.not_mem_nil, or_false] at h
  rcases h with rfl | rfl
  · exact isLowerHex_hexDigit (by omega)
  · exact isLowerHex_hexDigit (by omega)

theorem unhex?_flatMap_hexPair (bytes : Bytes) : unhex? (bytes.flatMap hexPair) = some bytes := by
  induction bytes with
  | nil => rfl
  | cons b r ih =>
    have hbyte : b.toNat < 256 := b.toNat_lt
    have hhalves : 16 * (b.toNat / 16) + b.toNat % 16 = b.toNat := Nat.div_add_mod _ _
    rw [List.flatMap_cons, hexPair, List.cons_append, List.cons_append, List.nil_append, unhex?,
      digitValue?_hexDigit (by omega), digitValue?_hexDigit (by omega), ih]
    simp only [Option.bind_eq_bind, Option.bind_some, hhalves, UInt8.ofNat_toNat]
    rfl

theorem mask_eq_mapIdx (i : Nat) (bytes : Bytes) :
    mask i bytes = bytes.mapIdx fun j b => b ^^^ keyByte (i + j) := by
  induction bytes generalizing i with
  | nil => rfl
  | cons b r ih =>
    have hshift (j : Nat) : i + 1 + j = i + (j + 1) := by omega
    simp only [mask, List.mapIdx_cons, ih, hshift, Nat.add_zero]

/-- A text that shows a password: two digits for each byte of it, and the bytes that they stand for
are the password's, each combined with the key byte of its position. -/
structure IsShown (password shown : String) : Prop where
  length_eq : shown.length = 2 * (encodeText password).length
  lower {c : Char} (h : c ∈ shown.toList) : isLowerHex c = true
  read : (unhex? shown.toList).map (List.mapIdx fun i b => b ^^^ key.getD (i % 8) 0) =
    some (encodeText password)

theorem isShown_obfuscate (password : String) : IsShown password (obfuscate password) where
  length_eq := by
    rw [obfuscate, String.length_ofList, List.length_flatMap]
    simp only [hexPair_length, List.map_const', List.sum_replicate_nat, mask_length]
    exact Nat.mul_comm _ _
  lower {c} h := by
    rw [obfuscate, String.toList_ofList, List.mem_flatMap] at h
    obtain ⟨b, -, hc⟩ := h
    exact isLowerHex_of_mem_hexPair hc
  read := by
    have hmask (bytes : Bytes) :
        (bytes.mapIdx fun i b => b ^^^ key.getD (i % 8) 0) = mask 0 bytes := by
      simp only [mask_eq_mapIdx, Nat.zero_add, keyByte]
    rw [obfuscate, String.toList_ofList, unhex?_flatMap_hexPair, Option.map_some, hmask, mask_mask]

theorem IsShown.unique {password password' shown : String} (h : IsShown password shown)
    (h' : IsShown password' shown) : password = password' :=
  Text.encodeText_inj.1 (Option.some.inj (h.read.symm.trans h'.read))

theorem obfuscate_inj {password password' : String} :
    obfuscate password = obfuscate password' ↔ password = password' := by
  constructor
  · intro h
    exact (isShown_obfuscate password).unique (h ▸ isShown_obfuscate password')
  · rintro rfl
    rfl

end Password

namespace Session

open FieldReader (writtenCount writtenField)

/-- A password is shown by two lowercase digits for each byte, from which the key gives it back, so
that no other password is shown like it and only the empty one by nothing. Every request of a
session counts its arguments and one field for each credential that is not empty, and carries these
fields and no other. -/
theorem password_recovered_and_counted :
    (∀ password, Password.IsShown password (Password.obfuscate password)) ∧
    Function.Injective Password.obfuscate ∧
    (∀ password, Password.obfuscate password = "" ↔ password = "") ∧
    ∀ (e : Endpoint) (c : Command) (request : Request), c.request = .ok request →
      let count := request.arguments.length +
        (if e.username = "" then 0 else 1) + (if e.password = "" then 0 else 1)
      let fields := request.arguments ++
        (if e.username = "" then [] else [encodeText e.username]) ++
        (if e.password = "" then [] else [encodeText (Password.obfuscate e.password)])
      let payload := writtenCount count ++ fields.flatMap writtenField
      Gives e c (encodeText (request.head e.host e.port payload.length) ++ payload) ∧
        fields.length = count ∧
        (payload.length < 2 ^ 63 → Request.Carries payload fields) := by
  refine ⟨Password.isShown_obfuscate, fun p q h => Password.obfuscate_inj.1 h,
    Password.obfuscate_eq_empty_iff, fun e c request h => ?_⟩
  intro count fields payload
  have hfields : fields =
      request.arguments ++ Request.credentials e.username e.maskedPassword := by
    rw [credentials_eq]
    exact List.append_assoc _ _ _
  have hcount : fields.length = count := by
    simp only [fields, count, List.length_append]
    split_ifs <;> rfl
  have hpayload : (request.encode e.username e.maskedPassword).bytes = payload := by
    rw [Request.bytes_encode, ← hfields, hcount]
  refine ⟨?_, hcount, fun hlength => ?_⟩
  · rw [← hpayload, ← messageOf_eq]
    exact gives_of_request e h
  · have hshort : (request.encode e.username e.maskedPassword).length < 2 ^ 63 := by
      rw [Buffer.length, hpayload]
      exact hlength
    rw [← hpayload, hfields]
    exact Request.carries_encode request e.username e.maskedPassword hshort

/-- A password that begins with the key, whose letters cancel out, and goes on past it. -/
theorem password_recovered_and_counted_of_key :
    let e : Endpoint := ⟨"cf.local", 8500, "", "4p0L@r1$4é", by decide, by decide⟩
    let request := Request.ofFamily .files [[], encodeText "CF_DIRECTORY"]
    let c : Command := .file .root
    let shown := "000000000000000000b399"
    c.request = .ok request ∧ Password.obfuscate e.password = shown ∧
      ∃ payload, payload =
          encodeText ("3:STR:0:STR:12:CF_DIRECTORYSTR:22:" ++ shown) ∧
        Gives e c (encodeText (request.head e.host e.port payload.length) ++ payload) ∧
        Request.Carries payload [[], encodeText "CF_DIRECTORY", encodeText shown] := by
  intro e request c shown
  have hrequest : c.request = .ok request := rfl
  have husername : e.username = "" := rfl
  have hpassword : e.password ≠ "" := by decide
  have hshown : Password.obfuscate e.password = shown := by decide
  have hmessage := password_recovered_and_counted.2.2.2 e c request hrequest
  simp only [if_pos husername, if_neg hpassword, hshown] at hmessage
  obtain ⟨hgives, -, hcarries⟩ := hmessage
  exact ⟨hrequest, hshown, _, by decide, hgives, hcarries (by decide)⟩

end Session
end RemoteDev
