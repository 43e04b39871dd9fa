import RemoteDev.Proofs.Record.GridShape
import RemoteDev.Record.Debugger

/-! Replies of a single field. The text of such a reply, and the packet that the text is read as,
are there exactly if the reply is one field with nothing after it. -/
namespace RemoteDev

theorem FieldReader.expectCount_eq_ok_iff {count expected : Nat} :
    expectCount count expected = .ok () ↔ count = expected := by
  unfold expectCount
  split
  case isTrue h => exact iff_of_true rfl (Int.ofNat.inj h)
  case isFalse h => exact iff_of_false nofun fun e => h (congrArg Int.ofNat e)

namespace Reply

open FieldReader

/-- A reply that is one field, with nothing after it. -/
structure IsSingle (reply : Reply) (field : Bytes) : Prop where
  count : reply.count = 1
  body : IsField reply.body field

variable {reply : Reply} {field : Bytes}

theorem singleText_eq_ok_iff {shown : String} :
    reply.singleText = .ok shown ↔ ∃ field, reply.IsSingle field ∧ shown = Text.lossy field := by
  rw [singleText, bind_eq_ok]
  simp only [read, value_eq_ok, run_bind_eq_ok, text_eq_ok, bytes_eq_ok_iff, finish_eq_ok]
  constructor
  · rintro ⟨⟨⟩, hone, rest, _, mid, ⟨field, ⟨front, hfield, hbody⟩, rfl⟩, _, _, ⟨rfl, rfl⟩, hpure⟩
    cases hpure
    rw [List.append_nil] at hbody
    exact ⟨field, ⟨expectCount_eq_ok_iff.1 hone, hbody ▸ hfield⟩, rfl⟩
  · rintro ⟨field, ⟨hone, hfield⟩, rfl⟩
    exact ⟨(), expectCount_eq_ok_iff.2 hone, [], _, [],
      ⟨field, ⟨reply.body, hfield, (List.append_nil _).symm⟩, rfl⟩, (), [], ⟨rfl, rfl⟩, rfl⟩

theorem singleText_of_isSingle (h : reply.IsSingle field) :
    reply.singleText = .ok (Text.lossy field) := singleText_eq_ok_iff.2 ⟨field, h, rfl⟩

theorem singleText_of_not_isSingle (h : ∀ field, ¬ reply.IsSingle field) :
    ∃ e, reply.singleText = .error e := by
  rw [exists_error_iff]
  intro shown hshown
  obtain ⟨field, hfield, -⟩ := singleText_eq_ok_iff.1 hshown
  exact h field hfield

theorem isSingle_of_repeated {body : Bytes}
    (h : (bytes.repeated 1).run body = .ok ([field], [])) : IsSingle ⟨1, body⟩ field where
  count := rfl
  body := by
    obtain ⟨first, mid, others, hfirst, hothers, hcons⟩ := repeated_succ_eq_ok.1 h
    cases hcons
    cases hothers
    obtain ⟨front, hfield, rfl⟩ := bytes_eq_ok_iff.1 hfirst
    rwa [List.append_nil]

theorem isSingle_ofFields (h : (ofFields [field]).body.length < 2 ^ 63) :
    IsSingle (ofFields [field]) field := by
  have hfields : (bytes.repeated 1).run (ofFields [field]).body = .ok ([field], []) :=
    @repeated_bytes_ofFields [field] h
  exact isSingle_of_repeated hfields

/-- What a decoder makes of replies of one field it makes of every form that the field is sent
in. -/
theorem readsFrom_of_isSingle {ε α : Type} {decode : Reply → Except ε α} {a : α}
    (h : ∀ reply, IsSingle reply field → decode reply = .ok a) : ReadsFrom decode [field] a :=
  readsFrom_of_body fun _ hfields => h _ (isSingle_of_repeated hfields)

theorem packet_of_isSingle (h : reply.IsSingle field) :
    reply.packet = (Packet.ofMarkup (Text.lossy field)).mapError Failure.packet := by
  rw [packet, singleText_of_isSingle h]
  rfl

theorem packet_of_not_isSingle (h : ∀ field, ¬ reply.IsSingle field) :
    ∃ e, reply.packet = .error (.field e) := by
  obtain ⟨e, he⟩ := singleText_of_not_isSingle h
  exact ⟨e, by rw [packet, he]; rfl⟩

theorem packet_eq_ok_iff {p : Packet} :
    reply.packet = .ok p ↔
      ∃ field, reply.IsSingle field ∧ Packet.ofMarkup (Text.lossy field) = .ok p := by
  rw [packet, bind_eq_ok]
  simp only [FieldError.lift, mapError_eq_ok, singleText_eq_ok_iff]
  constructor
  · rintro ⟨_, ⟨field, hfield, rfl⟩, hread⟩
    exact ⟨field, hfield, hread⟩
  · rintro ⟨field, hfield, hread⟩
    exact ⟨_, ⟨field, hfield, rfl⟩, hread⟩

end Reply
end RemoteDev
