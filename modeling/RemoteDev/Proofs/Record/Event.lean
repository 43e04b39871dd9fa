import RemoteDev.Proofs.Binary64.Basic
import RemoteDev.Proofs.Packet.FirstSlot
import RemoteDev.Proofs.Packet.Same
import RemoteDev.Proofs.Packet.TwoPuts
import RemoteDev.Proofs.Record.Single

/-! Kinds of events. The name and the kind of an event are read at seven paths, so that nothing put
aside of them changes either, and a packet that its document carries unchanged arrives as an event
of the same kind. -/
namespace RemoteDev

namespace Event

/-- The paths that the name and the kind of an event are read at. -/
def ownPaths : List String :=
  ["0,EVENT", "0,GET_SOURCE", "0,LINE", "0,THREAD", "0,CFML_PATH", "0,REQ_LINE_NUM",
    "0,ACTUAL_LINE_NUM"]

/-- Packets that show the same texts and lines at these paths. -/
structure Alike (p q : Packet) : Prop where
  text {own : String} : own ∈ ownPaths → p.text? own = q.text? own
  line {own : String} : own ∈ ownPaths → lineAt p own = lineAt q own

variable {p q : Packet}

theorem Alike.name (h : Alike p q) : name ⟨p⟩ = name ⟨q⟩ := h.text (by decide)

theorem Alike.textAt (h : Alike p q) {own : String} (hown : own ∈ ownPaths) :
    textAt p own = textAt q own := congrArg (·.getD "") (h.text hown)

theorem Alike.stopLocation (h : Alike p q) : stopLocation p = stopLocation q := by
  rw [Event.stopLocation, Event.stopLocation, h.textAt (by decide), h.line (by decide),
    h.textAt (by decide)]

theorem Alike.kind (h : Alike p q) : kind ⟨p⟩ = kind ⟨q⟩ := by
  rw [Event.kind, Event.kind, h.name]
  dsimp only
  rw [h.stopLocation, h.textAt (by decide), h.line (by decide), h.line (by decide)]

theorem alike_of_get? (h : ∀ own ∈ ownPaths, p.get? own = q.get? own) : Alike p q where
  text hown := by rw [Packet.text?, Packet.text?, h _ hown]
  line hown := by rw [lineAt, lineAt, Packet.number?, Packet.number?, h _ hown]

def lineOf (x : Binary64) : Option Int :=
  if x.isFinite then some x.truncateToWord else none

theorem lineAt_eq_bind (p : Packet) (own : String) :
    lineAt p own = (p.get? own).bind fun v => v.number?.bind lineOf := by
  rw [lineAt, Packet.number?]
  cases p.get? own with
  | none => rfl
  | some v =>
    cases v with
    | number x =>
      show ((some x).filter Binary64.isFinite).map _ = lineOf x
      rw [lineOf, Option.filter_some]
      cases x.isFinite <;> rfl
    | bool | text | array | struct => rfl

theorem lineOf_of_isZero {x : Binary64} (h : x.isZero = true) : lineOf x = some 0 := by
  rw [lineOf, Binary64.isFinite_of_isZero h, Binary64.truncateToWord_of_isZero h]
  rfl

theorem alike_of_same (h : p.same q = true) : Alike p q where
  text _ := Value.bind_eq_of_sameSlot (Packet.sameSlot_get? h _) fun _ _ => Value.text?_eq_of_same
  line _ := by
    rw [lineAt_eq_bind, lineAt_eq_bind]
    refine Value.bind_eq_of_sameSlot (Packet.sameSlot_get? h _) fun v w hvw => ?_
    refine Value.bind_number?_eq_of_same hvw fun x y hx hy => ?_
    rw [lineOf_of_isZero hx, lineOf_of_isZero hy]

theorem exists_parse_ownPath {own : String} (h : own ∈ ownPaths) :
    ∃ others, Path.parse own = .ok others := by
  have hparsed : ∀ own ∈ ownPaths, (Path.parse own).isOk = true := by decide
  have hown := hparsed own h
  cases hparse : Path.parse own with
  | error e => rw [hparse] at hown; cases hown
  | ok others => exact ⟨others, rfl⟩

/-- Whatever is put aside of these paths, the event keeps its name and its kind, and so it does on
its way through a document that carries its packet unchanged. -/
theorem classified_by_own_paths :
    (∀ (p q : Packet) (path : String) (v : Value) (segments : List Segment),
      Path.parse path = .ok segments →
      (∀ own ∈ ownPaths, ∀ others, Path.parse own = .ok others →
        ¬ segments <+: others ∧ ¬ others <+: segments) →
      p.put path v = .ok q → kind ⟨q⟩ = kind ⟨p⟩ ∧ name ⟨q⟩ = name ⟨p⟩) ∧
    ∀ p q : Packet, Packet.ofMarkup p.toMarkup = .ok q → q = p ∨ q.same p = true →
      Reply.ReadsFrom Reply.event [encodeText p.toMarkup] ⟨q⟩ ∧
        kind ⟨q⟩ = kind ⟨p⟩ ∧ name ⟨q⟩ = name ⟨p⟩ := by
  refine ⟨fun p q path v segments hparse hapart hput => ?_, fun p q hread hsame => ⟨?_, ?_⟩⟩
  · have halike : Alike q p := alike_of_get? fun own hown => by
      obtain ⟨others, hothers⟩ := exists_parse_ownPath hown
      obtain ⟨hfront, hback⟩ := hapart own hown others hothers
      exact Packet.get?_of_put_apart hparse hothers hfront hback hput
    exact ⟨halike.kind, halike.name⟩
  · refine Reply.readsFrom_of_isSingle fun reply hsingle => ?_
    rw [Reply.event, Reply.packet_of_isSingle hsingle, Text.lossy_encodeText, hread]
    rfl
  · -- what is not a number is not the same as itself, so equal packets are a case of their own
    have halike : Alike q p := by
      rcases hsame with rfl | hsame
      · exact alike_of_get? fun _ _ => rfl
      · exact alike_of_same hsame
    exact ⟨halike.kind, halike.name⟩

/-- The name of another event among the scopes of a stopped thread. -/
theorem classified_by_own_paths_of_step :
    let fields : List (String × Value) :=
      [("EVENT", .text "STEP"), ("LINE", .number (.ofInt 7)), ("GET_SOURCE", .text "é.cfm")]
    let p := Packet.ofFields fields
    let q := Packet.ofFields (fields ++
      [("SCOPES", .array [none, some (.struct [("EVENT", some (.text "BREAKPOINT"))])])])
    p.put "0,SCOPES,1,EVENT" (.text "BREAKPOINT") = .ok q ∧
      kind ⟨p⟩ = .step ⟨"é.cfm", some 7, ""⟩ ∧ kind ⟨q⟩ = kind ⟨p⟩ ∧ name ⟨q⟩ = name ⟨p⟩ ∧
      Reply.ReadsFrom Reply.event [encodeText p.toMarkup] ⟨p⟩ := by
  intro fields p q
  have hparse : Path.parse "0,SCOPES,1,EVENT" =
      .ok [.index 0, .field "SCOPES", .index 1, .field "EVENT"] := rfl
  have hapart : ∀ own ∈ ownPaths, ∀ others, Path.parse own = .ok others →
      ¬ [.index 0, .field "SCOPES", .index 1, .field "EVENT"] <+: others ∧
        ¬ others <+: [.index 0, .field "SCOPES", .index 1, .field "EVENT"] := by
    simp only [ownPaths, List.mem_cons, List.not_mem_nil, or_false]
    rintro own (rfl | rfl | rfl | rfl | rfl | rfl | rfl) others ⟨⟩ <;> decide
  have hput : p.put "0,SCOPES,1,EVENT" (.text "BREAKPOINT") = .ok q := rfl
  have hread : Packet.ofMarkup p.toMarkup = .ok p :=
    Packet.ofMarkup_ofFields (List.all_eq_true.1 rfl) (by decide) (by decide +kernel)
  obtain ⟨hsame, hkeeps⟩ := classified_by_own_paths
  obtain ⟨hkind, hname⟩ := hsame p q _ _ _ hparse hapart hput
  exact ⟨hput, by decide +kernel, hkind, hname, (hkeeps p p hread (.inl rfl)).1⟩

end Event
end RemoteDev
