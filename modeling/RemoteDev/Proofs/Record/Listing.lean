import RemoteDev.Proofs.Record.ListingAcceptance

/-! Listings as servers send them. Five fields for every entry give back the entry, whatever
separators are in its name, and each half of its time may be shown with or without a sign. -/
namespace RemoteDev

open FieldReader

namespace Entry

/-- A word of 32 bits shown as a number without a sign, or as the signed word of its bits. -/
structure ShownWord where
  word : UInt32
  signed : Bool

def ShownWord.number (w : ShownWord) : Int :=
  if w.signed then w.word.toInt32.toInt else w.word.toNat

/-- An entry of a directory as a server sends it: its time is a count of ticks in two words. -/
structure Sent where
  kind : EntryKind
  name : String
  permissions : UInt8
  size : Nat
  low : ShownWord
  high : ShownWord

namespace Sent

def kindText (s : Sent) : String :=
  match s.kind with
  | .file => "F:"
  | .directory => "D:"

def timeText (s : Sent) : String := signedText s.low.number ++ "," ++ signedText s.high.number

def fields (s : Sent) : List Bytes :=
  [encodeText s.kindText, encodeText s.name, encodeText (signedText s.permissions.toNat),
    encodeText (signedText s.size), encodeText s.timeText]

def milliseconds (s : Sent) : Int :=
  ((s.low.word.toNat + 2 ^ 32 * s.high.word.toNat) / 10000 : Nat) - 11644473600000

def entry (s : Sent) : Entry := ⟨s.kind, s.name, ⟨s.permissions⟩, s.size, s.milliseconds⟩

end Sent

theorem word32_number (w : ShownWord) : word32 w.number = w.word.toNat := by
  have hlt := w.word.toNat_lt
  have hmod : w.number % 0x100000000 = w.word.toNat % 0x100000000 := by
    unfold ShownWord.number
    split
    · rw [Int32.toInt, UInt32.toBitVec_toInt32, BitVec.toInt_eq_toNat_bmod, UInt32.toNat_toBitVec]
      exact Int.bmod_emod
    · rfl
  rw [word32, hmod]
  omega

theorem inWordRange_number (w : ShownWord) : Text.inWordRange w.number = true := by
  have hlt := w.word.toNat_lt
  have hlow := w.word.toInt32.le_toInt
  have hhigh := w.word.toInt32.toInt_lt
  unfold ShownWord.number
  simp only [Text.inWordRange, Bool.and_eq_true, decide_eq_true_eq]
  split <;> omega

theorem comma_notMem_signed (n : Int) : ',' ∉ (signedText n).toList := by
  intro hmem
  rcases Text.mem_signedText hmem with hsign | hdigit
  · exact absurd hsign (by decide)
  · exact absurd hdigit (by decide)

theorem showsHalves_timeText (s : Sent) :
    ShowsHalves s.timeText s.low.number s.high.number := by
  have hcomma : s.timeText.toList =
      (signedText s.low.number).toList ++ ',' :: (signedText s.high.number).toList := by
    rw [Sent.timeText, String.toList_append, String.toList_append, List.append_assoc]
    rfl
  have hword (w : ShownWord) :
      Text.IsWord (Text.trim (signedText w.number).toList) w.number := by
    rw [Text.trim_signedText]
    exact Text.word?_eq_some_iff.1 (Text.word?_signedText (inWordRange_number w))
  exact ⟨_, _, hcomma, comma_notMem_signed _, hword s.low, hword s.high⟩

theorem mark_eq_kindText (s : Sent) : s.kind.mark = encodeText s.kindText := by
  unfold Sent.kindText
  cases s.kind <;> rfl

theorem states_fields {s : Sent} (hsize : s.size < 2 ^ 63) : States s.fields s.entry := by
  have hbyte := s.permissions.toNat_lt
  have hbits : Text.inWordRange (s.permissions.toNat : Int) = true := by
    simp only [Text.inWordRange, Bool.and_eq_true, decide_eq_true_eq]
    omega
  have hrange : Text.inWordRange (s.size : Int) = true := by
    simp only [Text.inWordRange, Bool.and_eq_true, decide_eq_true_eq]
    omega
  have htime : ShowsHalves (Text.lossy (encodeText s.timeText)) s.low.number s.high.number := by
    rw [Text.lossy_encodeText]
    exact showsHalves_timeText s
  have hstates : States [s.kind.mark, encodeText s.name, _, _, encodeText s.timeText] _ :=
    .intro (shows_signed hbits) (shows_signed hrange) htime
  rw [Text.lossy_encodeText, word32_number, word32_number, mark_eq_kindText] at hstates
  exact hstates

theorem decodes_reader {s : Sent} (hsize : s.size < 2 ^ 63) :
    Decodes reader s.fields s.entry :=
  decodes_of_states (states_fields hsize)

/-- A listing gives back the entries that were sent, in their order. -/
theorem listing_readsFrom (sent : List Sent) (h : ∀ s ∈ sent, s.size < 2 ^ 63) :
    Reply.ReadsFrom Reply.listing (sent.flatMap Sent.fields) (sent.map Sent.entry) :=
  Reply.readsFrom_records (by decide) (fun _ => rfl) fun s hs => decodes_reader (h s hs)

/-- Names that imitate other fields, and words that are shown with a sign. -/
theorem listing_readsFrom_of_signed_words :
    let head := encodeText "HTTP/1.0 200 OK\r\n"
    let sent : List Sent := [
      ⟨.file, "a,b:STR:2:é", 0x21, 2 ^ 63 - 1, ⟨0xFFFFFFFF, true⟩, ⟨30000000, true⟩⟩,
      ⟨.directory, "", 255, 0, ⟨0x80000000, false⟩, ⟨0xFFFFFFFF, true⟩⟩]
    (∀ s ∈ sent, s.size < 2 ^ 63) ∧
      sent.map Sent.timeText = ["-1,30000000", "2147483648,-1"] ∧
      (Reply.written head (sent.flatMap Sent.fields)).length < 2 ^ 63 ∧
      ∃ reply, Reply.parse (Reply.written head (sent.flatMap Sent.fields)) = .ok reply ∧
        reply.listing = .ok [
          ⟨.file, "a,b:STR:2:é", ⟨0x21⟩, 2 ^ 63 - 1, 1240428717496⟩,
          ⟨.directory, "", ⟨255⟩, 0, 1833029933556206⟩] := by
  intro head sent
  have hsizes : ∀ s ∈ sent, s.size < 2 ^ 63 := by decide
  have hlength : (Reply.written head (sent.flatMap Sent.fields)).length < 2 ^ 63 := by
    decide +kernel
  exact ⟨hsizes, by decide, hlength,
    (listing_readsFrom sent hsizes).message head (by decide) (by decide) hlength⟩

end Entry
end RemoteDev
