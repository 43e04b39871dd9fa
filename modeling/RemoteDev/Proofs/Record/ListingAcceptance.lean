import Mathlib.Algebra.Group.Int.Defs
import Mathlib.Algebra.Group.Nat.Defs
import RemoteDev.Proofs.Record.Written
import RemoteDev.Proofs.Separator
import RemoteDev.Record.File

/-! Which listings are accepted. Every five fields state an entry or the whole listing is refused.
The fields of permissions and size are checked against the range of what they are stored in, but the
halves of a time are not: a half is any signed word of 64 bits, and stands for its lower half. No
step from the two halves to a time leaves the range of its word. -/
namespace RemoteDev
namespace Entry

theorem ticks_lt (low high : UInt32) : 2 ^ 32 * high.toNat + low.toNat < 2 ^ 64 := by
  have hlow := low.toNat_lt
  have hhigh := high.toNat_lt
  omega

theorem toNat_ticksOfWords (low high : UInt32) :
    (ticksOfWords low high).toNat = 2 ^ 32 * high.toNat + low.toNat := by
  have hticks := ticks_lt low high
  have hshift : high.toNat <<< 32 % 2 ^ 64 = 2 ^ 32 * high.toNat := by
    rw [Nat.shiftLeft_eq, Nat.mul_comm]
    exact Nat.mod_eq_of_lt (by omega)
  rw [ticksOfWords, UInt64.toNat_or, UInt64.toNat_shiftLeft, UInt32.toNat_toUInt64,
    UInt32.toNat_toUInt64]
  simp only [UInt64.reduceToNat, Nat.reduceMod]
  -- the halves have no bit in common, so that combining them adds them
  rw [hshift, Nat.or_comm]
  exact (Nat.two_pow_add_eq_or_of_lt low.toNat_lt _).symm

theorem toNat_ticksOfWords_div (low high : UInt32) :
    (ticksOfWords low high / 10000).toNat = (2 ^ 32 * high.toNat + low.toNat) / 10000 := by
  rw [UInt64.toNat_div, toNat_ticksOfWords]
  rfl

theorem toInt_toInt64_of_lt {n : UInt64} (h : n.toNat < 2 ^ 63) : n.toInt64.toInt = n.toNat := by
  have hbits : 2 * n.toBitVec.toNat < 2 ^ 64 := by
    rw [UInt64.toNat_toBitVec]
    omega
  rw [Int64.toInt, UInt64.toBitVec_toInt64, BitVec.toInt_eq_toNat_of_lt hbits,
    UInt64.toNat_toBitVec]

theorem toInt_ticksOfWords_div (low high : UInt32) :
    (ticksOfWords low high / 10000).toInt64.toInt =
      ((2 ^ 32 * high.toNat + low.toNat) / 10000 : Nat) := by
  have hticks := ticks_lt low high
  have hquotient := toNat_ticksOfWords_div low high
  rw [toInt_toInt64_of_lt (by omega), hquotient]

theorem toInt_timeOfWords (low high : UInt32) :
    (timeOfWords low high).toInt = millisecondsOfTicks (2 ^ 32 * high.toNat + low.toNat) := by
  have hticks := ticks_lt low high
  have hoffset : (11644473600000 : Int64).toInt = epochOffset := rfl
  rw [timeOfWords, Int64.toInt_sub, toInt_ticksOfWords_div, hoffset, millisecondsOfTicks]
  unfold epochOffset
  exact Int.bmod_eq_of_le (by omega) (by omega)

theorem toInt_timeOfWords_word32 (low high : Int) :
    (timeOfWords (.ofNat (word32 low)) (.ofNat (word32 high))).toInt =
      millisecondsOfWords (word32 low) (word32 high) := by
  have hword (n : Int) : (UInt32.ofNat (word32 n)).toNat = word32 n :=
    UInt32.toNat_ofNat_of_lt' (word32_lt n)
  rw [toInt_timeOfWords, hword, hword, millisecondsOfWords]
  exact congrArg millisecondsOfTicks (Nat.add_comm _ _)

theorem timeOfWords_bounds (low high : UInt32) :
    -(8 * 10 ^ 15) < (timeOfWords low high).toInt ∧ (timeOfWords low high).toInt < 8 * 10 ^ 15 := by
  have hticks := ticks_lt low high
  rw [toInt_timeOfWords, millisecondsOfTicks, epochOffset]
  omega

theorem timeOfWords_mono {low high low' high' : UInt32}
    (h : 2 ^ 32 * high.toNat + low.toNat ≤ 2 ^ 32 * high'.toNat + low'.toNat) :
    timeOfWords low high ≤ timeOfWords low' high' := by
  rw [Int64.le_iff_toInt_le, toInt_timeOfWords, toInt_timeOfWords, millisecondsOfTicks,
    millisecondsOfTicks]
  have hquotient := Nat.div_le_div_right (c := 10000) h
  omega

end Entry

open FieldReader

theorem EntryKind.ofMark?_eq_some_iff {mark : Bytes} {kind : EntryKind} :
    EntryKind.ofMark? mark = some kind ↔ mark = kind.mark := by
  have hne : EntryKind.directory.mark ≠ EntryKind.file.mark := by decide
  cases kind with
  | file => simp [ofMark?]
  | directory =>
    constructor
    · intro h
      unfold ofMark? at h
      split at h
      case isTrue => cases h
      case isFalse =>
        split at h
        case isTrue hdirectory => exact hdirectory
        case isFalse => cases h
    · rintro rfl
      rw [ofMark?, if_neg hne, if_pos rfl]

namespace Entry

/-- A text that shows two numbers with a comma between them. -/
def ShowsHalves (text : String) (low high : Int) : Prop :=
  ∃ front back, text.toList = front ++ ',' :: back ∧ ',' ∉ front ∧
    Text.IsWord (Text.trim front) low ∧ Text.IsWord (Text.trim back) high

theorem ShowsHalves.unique {text : String} {low high low' high' : Int}
    (h : ShowsHalves text low high) (h' : ShowsHalves text low' high') :
    low = low' ∧ high = high' := by
  obtain ⟨front, back, htext, hcomma, hlow, hhigh⟩ := h
  obtain ⟨front', back', htext', hcomma', hlow', hhigh'⟩ := h'
  obtain ⟨rfl, rfl⟩ := append_cons_inj hcomma hcomma' (htext.symm.trans htext')
  exact ⟨hlow.unique hlow', hhigh.unique hhigh'⟩

theorem time?_eq_some_iff {text : String} {time : Int} :
    time? text = some time ↔ ∃ low high, ShowsHalves text low high ∧
      time = millisecondsOfWords (word32 low) (word32 high) := by
  rw [time?]
  simp only [Option.bind_eq_bind, Option.bind_eq_some_iff, Prod.exists,
    splitAtFirst_singleton_eq_some_iff, Text.word?_eq_some_iff, toInt_timeOfWords_word32]
  constructor
  · rintro ⟨front, back, ⟨htext, hcomma⟩, low, hlow, high, hhigh, htime⟩
    cases htime
    exact ⟨low, high, ⟨front, back, htext, hcomma, hlow, hhigh⟩, rfl⟩
  · rintro ⟨low, high, ⟨front, back, htext, hcomma, hlow, hhigh⟩, rfl⟩
    exact ⟨front, back, ⟨htext, hcomma⟩, low, hlow, high, hhigh, rfl⟩

/-- Five fields and the entry that they state. The kind is one of two marks, the permissions are a
byte, the size is not negative, and the time is in the lower 32 bits of each number shown. -/
inductive States : List Bytes → Entry → Prop
  | intro {kind : EntryKind} {name bits size time : Bytes} {permissions : UInt8} {length : Nat}
      {low high : Int} (hbits : Shows bits permissions.toNat) (hsize : Shows size length)
      (htime : ShowsHalves (Text.lossy time) low high) :
      States [kind.mark, name, bits, size, time]
        ⟨kind, Text.lossy name, ⟨permissions⟩, length,
          millisecondsOfWords (word32 low) (word32 high)⟩

theorem decodes_of_states {fields : List Bytes} {e : Entry} (h : States fields e) :
    Decodes reader fields e := by
  cases h with
  | @intro kind name bits size time permissions length low high hbits hsize htime =>
    have hbyte := permissions.toNat_lt
    refine (decodes_bytes _).cons ?_
    rw [EntryKind.ofMark?_eq_some_iff.2 rfl]
    refine (decodes_lossy name).cons ((decodes_integer_of_shows _ hbits).cons ?_)
    rw [if_neg (by omega)]
    refine (decodes_integer_of_shows _ hsize).cons ?_
    rw [if_neg (by omega)]
    refine (decodes_lossy time).map ?_
    rw [time?_eq_some_iff.2 ⟨low, high, htime, rfl⟩]
    simp only [Int.toNat_natCast, UInt8.ofNat_toNat]

theorem exists_byte_of_fits {n : Int} (h : ¬ (n < 0 ∨ 255 < n)) :
    ∃ byte : UInt8, n = byte.toNat := by
  obtain ⟨m, rfl⟩ := Int.eq_ofNat_of_zero_le (a := n) (by omega)
  refine ⟨UInt8.ofNat m, ?_⟩
  rw [UInt8.toNat_ofNat_of_lt' (by simp only [UInt8.size]; omega)]

/-- An entry that is read has been stated: each check of the reader has let its field pass. -/
theorem exists_states_of_reader {data rest : Bytes} {e : Entry}
    (h : reader.run data = .ok (e, rest)) :
    ∃ fields, (bytes.repeated 5).run data = .ok (fields, rest) ∧ States fields e := by
  obtain ⟨mark, _, hmark, h⟩ := run_bind_eq_ok.1 h
  cases hkind : EntryKind.ofMark? mark with
  | none =>
    rw [hkind] at h
    cases h
  | some kind =>
    rw [hkind] at h
    obtain rfl := EntryKind.ofMark?_eq_some_iff.1 hkind
    obtain ⟨_, _, hread, h⟩ := run_bind_eq_ok.1 h
    obtain ⟨name, hname, rfl⟩ := text_eq_ok.1 hread
    obtain ⟨n, _, hread, h⟩ := run_bind_eq_ok.1 h
    obtain ⟨bits, hbits, hpermissions⟩ := integer_eq_ok.1 hread
    dsimp only at h
    split at h
    case isTrue => cases h
    case isFalse hbyte =>
      obtain ⟨permissions, rfl⟩ := exists_byte_of_fits hbyte
      obtain ⟨n, _, hread, h⟩ := run_bind_eq_ok.1 h
      obtain ⟨size, hsize, hlength⟩ := integer_eq_ok.1 hread
      split at h
      case isTrue => cases h
      case isFalse hnonneg =>
        obtain ⟨length, rfl⟩ := Int.eq_ofNat_of_zero_le (Int.not_lt.1 hnonneg)
        obtain ⟨_, _, hread, h⟩ := run_bind_eq_ok.1 h
        obtain ⟨time, htime, rfl⟩ := text_eq_ok.1 hread
        cases hmodified : time? (Text.lossy time) with
        | none =>
          rw [hmodified] at h
          cases h
        | some modified =>
          rw [hmodified] at h
          cases h
          obtain ⟨low, high, hhalves, rfl⟩ := time?_eq_some_iff.1 hmodified
          refine ⟨[kind.mark, name, bits, size, time], ?_, ?_⟩
          · exact repeated_cons hmark (repeated_cons hname (repeated_cons hbits
              (repeated_cons hsize (repeated_cons htime rfl))))
          · rw [Int.toNat_natCast, Int.toNat_natCast, UInt8.ofNat_toNat]
            exact .intro hpermissions hlength hhalves

theorem interprets_reader : Interprets reader (bytes.repeated 5) States := by
  refine fun data rest e => ⟨exists_states_of_reader, ?_⟩
  rintro ⟨fields, hfields, hstates⟩
  have hfive : fields.length = 5 := length_of_repeated hfields
  exact decodes_of_states hstates data rest (hfive ▸ hfields)

end Entry

/-- Every listing that a reply states is read as it is, and any other reply is refused as a whole:
a group of five fields that state no entry leaves no entry of those before it. -/
theorem Reply.listing_accepts_exactly (reply : Reply) :
    (∀ entries, reply.listing = .ok entries ↔
      reply.StatesRecords 5 (bytes.repeated 5) Entry.States entries) ∧
    ((∃ e, reply.listing = .error e) ↔
      ∀ entries, ¬ reply.StatesRecords 5 (bytes.repeated 5) Entry.States entries) := by
  have haccepted (entries : List Entry) : reply.listing = .ok entries ↔
      reply.StatesRecords 5 (bytes.repeated 5) Entry.States entries :=
    Reply.records_eq_ok_iff (by decide) Entry.interprets_reader
  exact ⟨haccepted, exists_error_iff.trans (forall_congr' fun entries => (haccepted entries).not)⟩

/-- A half of a time that is beyond 32 bits: the entry is accepted, and dated to the beginning of
1601 as if the half were zero. -/
theorem Reply.listing_accepts_wide_half :
    let head := encodeText "HTTP/1.0 200 OK\r\n"
    let fields := ["F:", "a.txt", "1", "42", "4294967296,0"].map encodeText
    ∃ reply, Reply.parse (Reply.written head fields) = .ok reply ∧
      reply.listing = .ok [⟨.file, "a.txt", ⟨1⟩, 42, -11644473600000⟩] ∧
      ∀ low high, Entry.ShowsHalves "4294967296,0" low high → ¬ low < 2 ^ 32 := by
  intro head fields
  have hhalves : Entry.ShowsHalves "4294967296,0" 4294967296 0 :=
    ⟨"4294967296".toList, "0".toList, by decide, by decide,
      Text.word?_eq_some_iff.1 (by decide), Text.word?_eq_some_iff.1 (by decide)⟩
  have hmodified :
      Entry.millisecondsOfWords (Entry.word32 4294967296) (Entry.word32 0) = -11644473600000 := by
    decide
  have hdecodes : Decodes Entry.reader fields ⟨.file, "a.txt", ⟨1⟩, 42, -11644473600000⟩ := by
    have hbits : Shows (encodeText "1") (1 : UInt8).toNat := numeral_eq_ok_iff.1 rfl
    have hsize : Shows (encodeText "42") (42 : Nat) := numeral_eq_ok_iff.1 rfl
    have hstates : Entry.States [EntryKind.file.mark, encodeText "a.txt", encodeText "1",
        encodeText "42", encodeText "4294967296,0"] _ :=
      .intro hbits hsize ((Text.lossy_encodeText "4294967296,0").symm ▸ hhalves)
    rw [Text.lossy_encodeText, hmodified] at hstates
    exact Entry.decodes_of_states hstates
  have hread : Reply.ReadsFrom Reply.listing ([()].flatMap fun _ => fields)
      ([()].map fun _ => ⟨.file, "a.txt", ⟨1⟩, 42, -11644473600000⟩) :=
    Reply.readsFrom_records (by decide) (fun _ => rfl) fun _ _ => hdecodes
  obtain ⟨reply, hparse, hlisting⟩ := hread.message head (by decide) (by decide) (by decide)
  refine ⟨reply, hparse, hlisting, fun low high h => ?_⟩
  rw [(h.unique hhalves).1]
  decide

end RemoteDev
