import RemoteDev.Proofs.Binary64.Reread
import RemoteDev.Proofs.Packet.FirstSlot
import RemoteDev.Proofs.Record.Single

/-! The port of the debugger's listener. A number is a port exactly if it is one of the whole
numbers that 16 bits hold, zero with either sign among them. -/
namespace RemoteDev

namespace Binary64

variable {x : Binary64} {n : Nat}

/-- A number that is a port: its value is a whole number of 16 bits. -/
structure IsPort (x : Binary64) (n : Nat) : Prop where
  finite : x.isFinite = true
  value : x.value = n
  bound : n ≤ 65535

theorem size_eq_natCast_iff : x.size = n ↔ x.units = n * unitsPerOne := by
  have hone : (unitsPerOne : ℚ) ≠ 0 := by exact_mod_cast unitsPerOne_pos.ne'
  rw [size, div_eq_iff hone, ← Nat.cast_mul, Nat.cast_inj]

theorem size_of_isWhole (h : x.isWhole = true) : x.size = x.wholePart :=
  size_eq_natCast_iff.2 (units_of_isWhole h)

theorem isWhole_of_size (hfinite : x.isFinite = true) (h : x.size = n) :
    x.isWhole = true ∧ x.wholePart = n := by
  have hunits := size_eq_natCast_iff.1 h
  refine ⟨?_, ?_⟩
  · rw [isWhole, hfinite, hunits, Nat.mul_mod_left]
    rfl
  · rw [wholePart, hunits, Nat.mul_div_cancel n unitsPerOne_pos]

theorem size_of_value (h : x.value = n) : x.size = n ∧ (x.negative = true → n = 0) := by
  rw [value] at h
  cases hsign : x.negative with
  | false => simpa [hsign] using h
  | true =>
    rw [hsign, if_pos rfl, neg_one_mul] at h
    have hsize := x.size_nonneg
    have hn : (0 : ℚ) ≤ n := Nat.cast_nonneg n
    have hzero : (n : ℚ) = 0 := by linarith
    exact ⟨by linarith, fun _ => by exact_mod_cast hzero⟩

/-- What is taken as a port: the fraction, the sign and the range are tested one after the other. -/
theorem isPort_iff :
    x.IsPort n ↔
      (x.isWhole && (x.isZero || (!x.negative && x.wholePart ≤ 65535))) = true ∧
        x.wholePart = n := by
  simp only [Bool.and_eq_true, Bool.or_eq_true, Bool.not_eq_true', decide_eq_true_eq]
  constructor
  · rintro ⟨hfinite, hvalue, hbound⟩
    obtain ⟨hsize, hnegative⟩ := size_of_value hvalue
    obtain ⟨hwhole, rfl⟩ := isWhole_of_size hfinite hsize
    refine ⟨⟨hwhole, ?_⟩, rfl⟩
    cases hsign : x.negative with
    | false => exact .inr ⟨rfl, hbound⟩
    | true =>
      -- below zero there is no such number, so this is minus zero
      refine .inl (isZero_iff.2 ?_)
      rw [units_of_isWhole hwhole, hnegative hsign, Nat.zero_mul]
  · rintro ⟨⟨hwhole, hport⟩, rfl⟩
    have hfinite : x.isFinite = true := (Bool.and_eq_true_iff.1 hwhole).1
    rcases hport with hzero | ⟨hsign, hbound⟩
    · have hnone := wholePart_of_isZero hzero
      refine ⟨hfinite, ?_, by omega⟩
      rw [value, size_of_isWhole hwhole, hnone, Nat.cast_zero, mul_zero]
    · refine ⟨hfinite, ?_, hbound⟩
      rw [value, hsign, size_of_isWhole hwhole]
      simp

end Binary64

theorem Packet.encodeText_toMarkup (p : Packet) :
    encodeText p.toMarkup = p.toNode.write.flatMap String.utf8EncodeChar := by
  rw [toMarkup, encodeText, String.toList_ofList]

namespace Reply

variable {reply : Reply} {p : Packet}

theorem serverPort_of_number (h : reply.packet = .ok p) {x : Binary64}
    (hnumber : p.get? "0,DEBUG_SERVER_PORT" = some (.number x)) :
    reply.serverPort =
      if x.isWhole && (x.isZero || (!x.negative && x.wholePart ≤ 65535)) then .ok x.wholePart
      else .error (.field (.invalidField "debug server port" (.notPort x))) := by
  have hfound : p.number? "0,DEBUG_SERVER_PORT" = some x := by
    rw [Packet.number?, hnumber]
    rfl
  rw [serverPort, h, ok_bind, hfound]
  rfl

theorem serverPort_of_no_number (h : reply.packet = .ok p)
    (hnumber : ∀ x, p.get? "0,DEBUG_SERVER_PORT" ≠ some (.number x)) :
    reply.serverPort = .error (.field (.invalidField "debug server port" .missing)) := by
  have hfound : p.number? "0,DEBUG_SERVER_PORT" = none := by
    rw [Packet.number?]
    cases hget : p.get? "0,DEBUG_SERVER_PORT" with
    | none => rfl
    | some v =>
      cases v with
      | number x => exact absurd hget (hnumber x)
      | bool | text | array | struct => rfl
  rw [serverPort, h, ok_bind, hfound]
  rfl

theorem serverPort_of_packet_error {e : Failure} (h : reply.packet = .error e) :
    reply.serverPort = .error e := by
  rw [serverPort, h]
  rfl

/-- The number at the place of the port decides alone: it is the port, or it is refused. -/
theorem serverPort_eq_ok_iff_of_number (h : reply.packet = .ok p) {x : Binary64}
    (hnumber : p.get? "0,DEBUG_SERVER_PORT" = some (.number x)) {n : Nat} :
    reply.serverPort = .ok n ↔ x.IsPort n := by
  rw [serverPort_of_number h hnumber, Binary64.isPort_iff]
  split
  case isTrue hport => simp [hport]
  case isFalse hport => simp [hport]

/-- A port is taken exactly from a reply of one field that is the document of a packet with a number
at the place of the port, and exactly if this is a whole number that 16 bits hold. Every other
number is refused for what it is, and all else for what is missing. -/
theorem serverPort_takes_ports (reply : Reply) :
    (∀ n, reply.serverPort = .ok n ↔ ∃ field p x, reply.IsSingle field ∧
      Packet.ofMarkup (Text.lossy field) = .ok p ∧
      p.get? "0,DEBUG_SERVER_PORT" = some (.number x) ∧ x.IsPort n) ∧
    (∀ field p, reply.IsSingle field → Packet.ofMarkup (Text.lossy field) = .ok p →
      (∀ x, p.get? "0,DEBUG_SERVER_PORT" = some (.number x) → (∀ n, ¬ x.IsPort n) →
        reply.serverPort = .error (.field (.invalidField "debug server port" (.notPort x)))) ∧
      ((∀ x, p.get? "0,DEBUG_SERVER_PORT" ≠ some (.number x)) →
        reply.serverPort = .error (.field (.invalidField "debug server port" .missing)))) ∧
    (∀ field e, reply.IsSingle field → Packet.ofMarkup (Text.lossy field) = .error e →
      reply.serverPort = .error (.packet e)) ∧
    ((∀ field, ¬ reply.IsSingle field) → ∃ e, reply.serverPort = .error (.field e)) := by
  have hpacket (field : Bytes) (p : Packet) (hsingle : reply.IsSingle field)
      (hread : Packet.ofMarkup (Text.lossy field) = .ok p) : reply.packet = .ok p :=
    packet_eq_ok_iff.2 ⟨field, hsingle, hread⟩
  refine ⟨fun n => ⟨fun hport => ?_, ?_⟩, fun field p hsingle hread => ⟨?_, ?_⟩,
    fun field e hsingle hread => ?_, fun hsingle => ?_⟩
  · cases hreply : reply.packet with
    | error e =>
      rw [serverPort_of_packet_error hreply] at hport
      cases hport
    | ok p =>
      obtain ⟨field, hsingle, hread⟩ := packet_eq_ok_iff.1 hreply
      by_cases hnumber : ∃ x, p.get? "0,DEBUG_SERVER_PORT" = some (.number x)
      · obtain ⟨x, hx⟩ := hnumber
        exact ⟨field, p, x, hsingle, hread, hx,
          (serverPort_eq_ok_iff_of_number hreply hx).1 hport⟩
      · rw [serverPort_of_no_number hreply (not_exists.1 hnumber)] at hport
        cases hport
  · rintro ⟨field, p, x, hsingle, hread, hx, hport⟩
    exact (serverPort_eq_ok_iff_of_number (hpacket field p hsingle hread) hx).2 hport
  · intro x hx hport
    rw [serverPort_of_number (hpacket field p hsingle hread) hx, if_neg]
    exact fun hguard => hport _ (Binary64.isPort_iff.2 ⟨hguard, rfl⟩)
  · exact serverPort_of_no_number (hpacket field p hsingle hread)
  · refine serverPort_of_packet_error ?_
    rw [packet_of_isSingle hsingle, hread]
    rfl
  · obtain ⟨e, he⟩ := packet_of_not_isSingle hsingle
    exact ⟨e, serverPort_of_packet_error he⟩

/-- Minus zero is the port zero, and the number after the greatest port is refused. -/
theorem serverPort_takes_ports_at_ends :
    let sent (x : Binary64) : Packet := .ofFields [("DEBUG_SERVER_PORT", .number x)]
    let field (x : Binary64) : Bytes := encodeText (sent x).toMarkup
    let least : Binary64 := { Binary64.zero with negative := true }
    let beyond : Binary64 := .ofInt 65536
    (ofFields [field least]).IsSingle (field least) ∧ least.IsPort 0 ∧
      (ofFields [field least]).serverPort = .ok 0 ∧
      (ofFields [field beyond]).IsSingle (field beyond) ∧ (∀ n, ¬ beyond.IsPort n) ∧
      (ofFields [field beyond]).serverPort =
        .error (.field (.invalidField "debug server port" (.notPort beyond))) := by
  intro sent field least beyond
  have hread (x : Binary64) (hx : (Value.number x).portable = true) :
      Packet.ofMarkup (Text.lossy (field x)) = .ok (sent x) := by
    have hname : isPathName "DEBUG_SERVER_PORT" = true := by decide
    rw [Text.lossy_encodeText]
    exact Packet.ofMarkup_ofFields (by simpa using hname) (List.nodup_singleton _)
      (by simpa using ⟨hx, rfl⟩)
  have hsingle (x : Binary64)
      (h : (ofFields [(sent x).toNode.write.flatMap String.utf8EncodeChar]).body.length < 2 ^ 63) :
      (ofFields [field x]).IsSingle (field x) := by
    rw [← Packet.encodeText_toMarkup] at h
    exact isSingle_ofFields h
  have hleast : (ofFields [field least]).IsSingle (field least) :=
    hsingle least (by decide +kernel)
  have hbeyond : (ofFields [field beyond]).IsSingle (field beyond) :=
    hsingle beyond (by decide +kernel)
  have hport : least.IsPort 0 := Binary64.isPort_iff.2 (by decide +kernel)
  have hno (n : Nat) : ¬ beyond.IsPort n := by
    rw [Binary64.isPort_iff]
    exact fun h => absurd h.1 (by decide +kernel)
  obtain ⟨htaken, -, -, -⟩ := serverPort_takes_ports (ofFields [field least])
  obtain ⟨-, hrefused, -, -⟩ := serverPort_takes_ports (ofFields [field beyond])
  exact ⟨hleast, hport,
    (htaken 0).2 ⟨_, _, least, hleast, hread least (by decide +kernel), rfl, hport⟩,
    hbeyond, hno,
    (hrefused _ _ hbeyond (hread beyond (by decide +kernel))).1 beyond rfl hno⟩

end Reply
end RemoteDev
