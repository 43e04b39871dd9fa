import RemoteDev.Proofs.Field.Tagged
import RemoteDev.Proofs.Record.GridShape
import RemoteDev.Proofs.Record.Planned

/-! Tags in replies. Whichever fields of a reply have a tag, its content is the same or it is
refused. For a grid that is sent row by row the cells in the records may have tags as well. -/
namespace RemoteDev

open FieldReader

/-- A row of a grid as it is sent: a count and cells, or else whatever stands in its field. -/
inductive SentRow where
  | cells (count : Int) (fields : List Bytes)
  | other (record : Bytes)

namespace SentRow

def record (tagged : Nat → Bool) : SentRow → Bytes
  | cells count fields => encodeText (signedText count) ++ colon :: sentFields tagged fields
  | other record => record

def records (inner : Nat → Nat → Bool) (rows : List SentRow) : List Bytes :=
  rows.mapIdx fun place row => row.record (inner place)

def sentRows (outer : Nat → Bool) (inner : Nat → Nat → Bool) (rows : List SentRow) : Bytes :=
  sentFields outer (records inner rows)

variable {tagged : Nat → Bool} {row : SentRow} {rows : List SentRow} {shown : List String}
  {outer outer' : Nat → Bool} {inner inner' : Nat → Nat → Bool}

theorem isRow_record (h : Grid.IsRow (row.record tagged) shown) (tagged' : Nat → Bool) :
    Grid.IsRow (row.record tagged') shown := by
  cases row with
  | other record => exact h
  | cells count fields =>
    obtain ⟨rest, hcount, hcells⟩ := h
    obtain ⟨digits, hsplit, hn⟩ := number_eq_ok.1 hcount
    rw [record, splitColon_append (colon_notMem_signed count), Option.some.injEq,
      Prod.mk.injEq] at hsplit
    obtain ⟨rfl, rfl⟩ := hsplit
    refine ⟨sentFields tagged' fields, ?_, ?_⟩
    · exact number_eq_ok.2 ⟨_, splitColon_append (colon_notMem_signed count) _, hn⟩
    · exact ((PlanFor.text.repeated _).isTagBlind fields).run_to_end hcells tagged'

theorem forall₂_isRow_records (inner inner' : Nat → Nat → Bool) (rows : List SentRow) :
    List.Forall₂ (fun record record' => ∀ shown, Grid.IsRow record shown → Grid.IsRow record' shown)
      (records inner rows) (records inner' rows) := by
  rw [records, records, List.forall₂_iff_get]
  refine ⟨by simp, fun place hplace hplace' shown hrow => ?_⟩
  simp only [List.get_eq_getElem, List.getElem_mapIdx] at hrow ⊢
  exact isRow_record hrow _

theorem forall₂_of_forall₂ {α β γ : Type} {r : α → β → Prop} {s : α → γ → Prop} {t : β → γ → Prop}
    {as : List α} {bs : List β} {cs : List γ} (hr : List.Forall₂ r as bs)
    (hs : List.Forall₂ s as cs) (h : ∀ {a b c}, r a b → s a c → t b c) :
    List.Forall₂ t bs cs := by
  induction hr generalizing cs with
  | nil =>
    cases hs
    exact .nil
  | cons hab _ ih =>
    cases hs with
    | cons hac hs => exact .cons (h hab hac) (ih hs)

/-- A grid that one way to send the rows yields is what every way yields whose body a signed word
can count. -/
theorem grid_sentRows {count : Nat} {g : Grid}
    (hlength : (sentRows outer' inner' rows).length < 2 ^ 63)
    (h : Reply.grid ⟨count, sentRows outer inner rows⟩ = .ok g) :
    Reply.grid ⟨count, sentRows outer' inner' rows⟩ = .ok g := by
  obtain ⟨columns, names, below, ⟨hcount, found, rest, hfound, hrows⟩, rfl⟩ :=
    Reply.grid_eq_ok_iff.1 h
  refine Reply.grid_eq_ok_iff.2 ⟨columns, names, below, ⟨hcount, ?_⟩, rfl⟩
  have hsame := List.forall₂_take found.length (forall₂_isRow_records inner inner' rows)
  rw [← List.prefix_iff_eq_take.1 (repeated_bytes_of_sentFields hfound)] at hsame
  have hshort : ∀ record ∈ (records inner' rows).take found.length, record.length < 2 ^ 63 :=
    fun record hrecord => Nat.lt_of_le_of_lt
      (length_le_of_mem_sentFields (List.mem_of_mem_take hrecord) outer') hlength
  obtain ⟨rest', hfound'⟩ := repeated_bytes_sentFields (List.take_prefix _ _) hshort outer'
  rw [← hsame.length_eq] at hfound'
  rw [← length_of_repeated hfound]
  exact ⟨_, rest', hfound', forall₂_of_forall₂ hsame hrows fun h hrow => h _ hrow⟩

end SentRow

/-- A reply of any form and with any count has the same content whichever of its fields have a tag,
or is refused whichever have one. So has a grid that is sent row by row, whichever rows have a tag
and whichever cells in them, in bodies that a signed word can count. -/
theorem decode_ignores_tags :
    (∀ (form : ReplyForm) (count : Nat) (fields : List Bytes),
      (∃ content, ∀ tagged, form.decode ⟨count, sentFields tagged fields⟩ = .ok content) ∨
        ∀ tagged, ∃ e, form.decode ⟨count, sentFields tagged fields⟩ = .error e) ∧
    ∀ (count : Nat) (rows : List SentRow),
      (∃ g, ∀ outer inner, (SentRow.sentRows outer inner rows).length < 2 ^ 63 →
        Reply.grid ⟨count, SentRow.sentRows outer inner rows⟩ = .ok g) ∨
      ∀ outer inner, (SentRow.sentRows outer inner rows).length < 2 ^ 63 →
        ∃ e, Reply.grid ⟨count, SentRow.sentRows outer inner rows⟩ = .error e := by
  constructor
  · intro form count fields
    simp only [form.decode_eq_outcome count]
    exact (form.plan count).outcome_sentFields form.isClosed fields
  · intro count rows
    by_cases h : ∃ outer inner g, Reply.grid ⟨count, SentRow.sentRows outer inner rows⟩ = .ok g
    · obtain ⟨outer, inner, g, h⟩ := h
      exact .inl ⟨g, fun outer' inner' hlength => SentRow.grid_sentRows hlength h⟩
    · exact .inr fun outer inner _ =>
        exists_error_iff.2 fun g hg => h ⟨outer, inner, g, hg⟩

/-- Two rows, with cells that are empty or look like a tag or a length. -/
theorem decode_ignores_tags_of_two_rows :
    let rows : List SentRow := [.cells 2 (["id", "STR:"].map encodeText),
      .cells 2 (["", "1:"].map encodeText)]
    (SentRow.sentRows (fun _ => true) (fun _ _ => true) rows).length < 2 ^ 63 ∧
    ∃ g, ∀ outer inner, (SentRow.sentRows outer inner rows).length < 2 ^ 63 →
      Reply.grid ⟨2, SentRow.sentRows outer inner rows⟩ = .ok g := by
  intro rows
  have hplain : Reply.grid ⟨2, SentRow.sentRows (fun _ => false) (fun _ _ => false) rows⟩ =
      .ok ⟨2, ⟨["id", "STR:"], rfl⟩, [⟨["", "1:"], rfl⟩]⟩ :=
    @Grid.grid_ofFields 2 ⟨["id", "STR:"], rfl⟩ [⟨["", "1:"], rfl⟩] (by decide) (by decide)
  refine ⟨by decide, (decode_ignores_tags.2 2 rows).resolve_right fun hrefused => ?_⟩
  obtain ⟨e, he⟩ := hrefused (fun _ => false) (fun _ _ => false) (by decide)
  cases hplain.symm.trans he

end RemoteDev
