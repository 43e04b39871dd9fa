import RemoteDev.Proofs.Packet.Characters
import RemoteDev.Proofs.Packet.Path
import RemoteDev.Proofs.Packet.Placement

/-! Which packets are read back after they were written. Values put one after the other bring
their own characters into a packet, and their paths the names of fields; reading refuses the
document of the packet exactly if a forbidden character has come in that way. -/
namespace RemoteDev

open Markup

namespace Value

variable {inText inName : Char → Bool}

theorem charsInItems_iff (items : List (Option Value)) :
    charsInItems inText inName items = true ↔
      ∀ v, some v ∈ items → v.charsIn inText inName = true := by
  induction items with
  | nil => simp [charsInItems]
  | cons slot r ih =>
    cases slot with
    | none => simp [charsInItems, ih]
    | some v => simp [charsInItems, ih]

theorem charsInFields_iff (fields : List (String × Option Value)) :
    charsInFields inText inName fields = true ↔
      ∀ f ∈ fields, f.1.toList.all inName = true ∧
        ∀ v, f.2 = some v → v.charsIn inText inName = true := by
  induction fields with
  | nil => simp [charsInFields]
  | cons f r ih =>
    obtain ⟨name, slot⟩ := f
    cases slot with
    | none => simp [charsInFields, ih]
    | some v => simp [charsInFields, ih]

theorem charsIn_child? {v w : Value} {s : Segment} (hv : v.charsIn inText inName = true)
    (h : v.child? s = some w) : w.charsIn inText inName = true := by
  unfold child? at h
  split at h
  case h_1 items i =>
    rw [charsIn] at hv
    exact (charsInItems_iff items).1 hv w (mem_of_slotAt h)
  case h_2 fields name =>
    rw [charsIn] at hv
    exact ((charsInFields_iff fields).1 hv _ (mem_of_fieldOf h)).2 w rfl
  case h_3 => cases h

/-- Placing brings in the characters of the leaf and those of the names on the way. -/
theorem charsIn_place {leaf v : Value} (hleaf : leaf.charsIn inText inName = true)
    {segments : List Segment} {before : Option Value}
    (hbefore : before.all (charsIn inText inName) = true)
    (hnames : ∀ name, .field name ∈ segments → name.toList.all inName = true)
    (h : place leaf segments before = .ok v) : v.charsIn inText inName = true := by
  refine of_place (fun _ _ _ => charsIn_child?) ?_ hleaf ((Option.all_eq_true _ _).1 hbefore) h
  intro s hs before w u hold hw hu
  cases hu with
  | @index i before items hitems =>
    have hitemsIn : charsInItems inText inName items = true := by
      rcases hitems with hitems | ⟨-, rfl⟩
      · have hitemsOld := hold _ hitems
        rwa [charsIn] at hitemsOld
      · rfl
    rw [charsIn, charsInItems_iff]
    intro v hv
    rcases mem_setSlot hv with rfl | hv
    · exact hw
    · exact (charsInItems_iff items).1 hitemsIn v hv
  | @field name before fields hfields =>
    have hfieldsIn : charsInFields inText inName fields = true := by
      rcases hfields with hfields | ⟨-, rfl⟩
      · have hfieldsOld := hold _ hfields
        rwa [charsIn] at hfieldsOld
      · rfl
    rw [charsIn, charsInFields_iff]
    intro f hf
    rcases mem_setField hf with rfl | hf
    · exact ⟨hnames name hs, fun v hv => Option.some.inj hv ▸ hw⟩
    · exact (charsInFields_iff fields).1 hfieldsIn f hf

end Value

namespace Packet

variable {inText inName : Char → Bool}

theorem charsIn_put {p q : Packet} {path : String} {value : Value}
    (hp : p.charsIn inText inName = true) (hpath : path.toList.all inName = true)
    (hvalue : value.charsIn inText inName = true) (h : p.put path value = .ok q) :
    q.charsIn inText inName = true := by
  obtain ⟨segments, hsegments, h⟩ := bind_eq_ok.1 h
  split at h
  case h_1 data hdata =>
    cases h
    rw [charsIn, Bool.and_eq_true] at hp
    have hnames : ∀ name, .field name ∈ segments → name.toList.all inName = true := by
      intro name hname
      rw [List.all_eq_true] at hpath ⊢
      exact fun c hc => hpath c (mem_path_of_mem_name hsegments hname hc)
    have hplaced := Value.charsIn_place hvalue hp.2 hnames hdata
    rw [charsIn, hp.1, Option.all_some, hplaced]
    rfl
  case h_2 => cases h

theorem charsIn_of_puts {entries : List (String × Value)} {p q : Packet}
    (hp : p.charsIn inText inName = true)
    (hentries : ∀ e ∈ entries, e.1.toList.all inName = true ∧ e.2.charsIn inText inName = true)
    (h : entries.foldlM (fun p (path, value) => p.put path value) p = .ok q) :
    q.charsIn inText inName = true := by
  induction entries generalizing p with
  | nil =>
    cases h
    exact hp
  | cons e r ih =>
    rw [List.foldlM_cons] at h
    obtain ⟨p', hput, h⟩ := bind_eq_ok.1 h
    have he := hentries e List.mem_cons_self
    exact ih (charsIn_put hp he.1 he.2 hput)
      (fun e' he' => hentries e' (List.mem_cons_of_mem e he')) h

/-- The document of a packet is read back exactly if no text holds one of the two characters
beyond documents and no name of a field any forbidden character; it is so if the values that were
put and their paths are of such characters. -/
theorem ofMarkup_toMarkup_of_puts {entries : List (String × Value)} {p : Packet}
    (h : entries.foldlM (fun p (path, value) => p.put path value) empty = .ok p) :
    ((∃ q, ofMarkup p.toMarkup = .ok q) ↔ p.isWritable = true) ∧
      (p.isWritable = false → ofMarkup p.toMarkup = .error (.malformed .forbiddenCharacter)) ∧
      ((∀ e ∈ entries, e.1.toList.all isDocumentChar = true ∧
          e.2.charsIn isWritableChar isDocumentChar = true) →
        p.isWritable = true) := by
  refine ⟨?_, ?_, fun hentries => charsIn_of_puts rfl hentries h⟩
  · rw [ofMarkup_toMarkup_eq]
    cases p.isWritable <;> simp
  · intro hwritable
    rw [ofMarkup_toMarkup_eq, hwritable]
    rfl

/-- A text with a control character and a name beyond ASCII are read back. -/
theorem ofMarkup_toMarkup_of_two_puts :
    let entries : List (String × Value) := [("0,é", .text "a\x01b"), ("1", .bool true)]
    ∃ p, entries.foldlM (fun p (path, value) => p.put path value) empty = .ok p ∧
      p.isWritable = true ∧ ∃ q, ofMarkup p.toMarkup = .ok q := by
  intro entries
  have hputs : entries.foldlM (fun p (path, value) => p.put path value) empty =
      .ok ⟨none, some (.array [some (.struct [("é", some (.text "a\x01b"))]),
        some (.bool true)])⟩ := rfl
  exact ⟨_, hputs, rfl, (ofMarkup_toMarkup_of_puts hputs).1.2 rfl⟩

/-- A control character in the name of a field is written as it is, and the document is refused. -/
theorem ofMarkup_toMarkup_of_control_name :
    ∃ p, empty.put "0,A\x01B" (.bool true) = .ok p ∧ ∀ q, ofMarkup p.toMarkup ≠ .ok q := by
  refine ⟨⟨none, some (.array [some (.struct [("A\x01B", some (.bool true))])])⟩, rfl, ?_⟩
  intro q
  have hforbidden : isWritable
      ⟨none, some (.array [some (.struct [("A\x01B", some (.bool true))])])⟩ = false := rfl
  rw [ofMarkup_toMarkup_eq, hforbidden]
  exact nofun

end Packet
end RemoteDev
