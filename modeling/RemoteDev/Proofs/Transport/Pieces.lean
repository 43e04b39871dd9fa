import Mathlib
import RemoteDev.Proofs.Transport.Scripts

/-! Streams that take a message and give a reply in pieces. However a stream cuts them, an exchange
sends the message, puts the reply together again, and gives up at the first write that takes
nothing and at the first failure. -/
namespace RemoteDev

namespace StreamCall

def takenFront : StreamCall → Bytes
  | write offered (.ok n) => offered.take n
  | _ => []

def takenBytes (calls : List StreamCall) : Bytes := calls.flatMap takenFront

end StreamCall

namespace Transport

open StreamCall

variable {σ : Type} {t : Transport σ}

/-- Writes that take the given amounts, each of them of what those before it have left. -/
inductive Takes (t : Transport σ) : Bytes → List Nat → σ → σ → Prop
  | nil (left : Bytes) (s : σ) : Takes t left [] s s
  | cons {left : Bytes} {n : Nat} {amounts : List Nat} {s s' s'' : σ} (hn : 0 < n)
      (hle : n ≤ left.length) (hwrite : t.write left s = (.ok n, s'))
      (hrest : Takes t (left.drop n) amounts s' s'') : Takes t left (n :: amounts) s s''

/-- Reads that each leave one of the given pieces in front of the room that they are offered. -/
inductive Gives (t : Transport σ) : List Bytes → σ → σ → Prop
  | nil (s : σ) : Gives t [] s s
  | cons {n : Nat} {left : Bytes} {pieces : List Bytes} {s s' s'' : σ} (hn : 0 < n)
      (hle : n ≤ readChunk) (hread : t.read (List.replicate readChunk 0) s = (.ok n, left, s'))
      (hrest : Gives t pieces s' s'') : Gives t (left.take n :: pieces) s s''

def stopFault (written expected : Nat) : Except TransportError Nat → TransportError
  | .ok _ => .partialWrite written expected
  | .error e => e

theorem send_eq (t : Transport σ) (total : Nat) {left : Bytes} (hleft : left ≠ []) (s : σ) :
    t.send total left s =
      match t.write left s with
      | (.error e, s') => (.error e, s')
      | (.ok 0, s') => (.error (.partialWrite (total - left.length) total), s')
      | (.ok (n + 1), s') => t.send total (left.drop (n + 1)) s' := by
  obtain ⟨b, r, rfl⟩ := List.exists_cons_of_ne_nil hleft
  rw [send]
  rfl

theorem send_of_takes (total : Nat) {left : Bytes} {amounts : List Nat} {s s' : σ}
    (h : Takes t left amounts s s') :
    t.send total left s = t.send total (left.drop amounts.sum) s' := by
  induction h with
  | nil => rw [List.sum_nil, List.drop_zero]
  | @cons left n amounts s s' s'' hn hle hwrite hrest ih =>
    have hleft : left ≠ [] := List.ne_nil_of_length_pos (by omega)
    obtain ⟨n, rfl⟩ := Nat.exists_eq_add_one_of_ne_zero (Nat.ne_of_gt hn)
    rw [send_eq t total hleft, hwrite]
    dsimp only
    rw [ih, List.drop_drop, List.sum_cons]

theorem receive_of_gives (reply : Buffer) {pieces : List Bytes} {s s' : σ}
    (h : Gives t pieces s s') :
    ∃ reply', t.receive reply s = t.receive reply' s' ∧
      reply'.bytes = reply.bytes ++ pieces.flatten := by
  induction h generalizing reply with
  | nil => exact ⟨reply, rfl, by rw [List.flatten_nil, List.append_nil]⟩
  | @cons n left pieces s s' s'' hn hle hread hrest ih =>
    obtain ⟨reply', hreceive, hbytes⟩ := ih (reply.absorb readChunk n left)
    refine ⟨reply', ?_, ?_⟩
    · rw [receive_eq, hread]
      dsimp only
      rw [if_neg (Nat.ne_of_gt hn), hreceive]
    · rw [hbytes, Buffer.bytes_absorb, Nat.min_eq_left hle, List.append_assoc, List.flatten_cons]

section Open

variable {message : Bytes} {amounts : List Nat} {s s₁ : σ}

/-- Sending ends at a write that fails or takes nothing. -/
theorem converse_of_stops (htakes : Takes t message amounts s s₁)
    (hleft : amounts.sum < message.length) {outcome : Except TransportError Nat} {s₂ : σ}
    (hwrite : t.write (message.drop amounts.sum) s₁ = (outcome, s₂)) (hstops : Stops outcome) :
    t.converse message s = (.error (stopFault amounts.sum message.length outcome), s₂) := by
  have hne : message.drop amounts.sum ≠ [] := by
    rw [Ne, List.drop_eq_nil_iff]
    omega
  rw [converse, send_of_takes message.length htakes, send_eq t message.length hne, hwrite]
  cases outcome with
  | error e => rfl
  | ok n =>
    have hzero : n = 0 := hstops n rfl
    subst hzero
    rw [List.length_drop, Nat.sub_sub_self (Nat.le_of_lt hleft)]
    rfl

theorem converse_of_gives (htakes : Takes t message amounts s s₁)
    (hall : amounts.sum = message.length) {pieces : List Bytes} {s₂ : σ}
    (hgives : Gives t pieces s₁ s₂) :
    ∃ reply : Buffer, t.converse message s = t.receive reply s₂ ∧
      reply.bytes = pieces.flatten := by
  obtain ⟨reply, hreceive, hbytes⟩ := receive_of_gives Buffer.empty hgives
  refine ⟨reply, ?_, hbytes⟩
  rw [converse, send_of_takes message.length htakes, hall, List.drop_length, send]
  exact hreceive

theorem takes_recorded {left : Bytes} (h : Takes t left amounts s s₁) (calls : List StreamCall) :
    ∃ writes, Takes t.recorded left amounts (s, calls) (s₁, calls ++ writes) ∧
      takenBytes writes = left.take amounts.sum := by
  induction h generalizing calls with
  | nil left s => exact ⟨[], by rw [List.append_nil]; exact .nil left _, rfl⟩
  | @cons left n amounts s s' s'' hn hle hwrite hrest ih =>
    obtain ⟨writes, htakes, hbytes⟩ := ih (calls ++ [.write left (.ok n)])
    rw [List.append_assoc, List.singleton_append] at htakes
    refine ⟨.write left (.ok n) :: writes, .cons hn hle (write_recorded hwrite calls) htakes, ?_⟩
    rw [List.sum_cons, List.take_add, ← hbytes]
    rfl

theorem gives_recorded {pieces : List Bytes} (h : Gives t pieces s s₁) (calls : List StreamCall) :
    ∃ reads, Gives t.recorded pieces (s, calls) (s₁, calls ++ reads) ∧ takenBytes reads = [] := by
  induction h generalizing calls with
  | nil s => exact ⟨[], by rw [List.append_nil]; exact .nil _, rfl⟩
  | @cons n left pieces s s' s'' hn hle hread hrest ih =>
    obtain ⟨reads, hgives, hbytes⟩ := ih (calls ++ [.read readChunk (.ok n)])
    rw [List.append_assoc, List.singleton_append] at hgives
    exact ⟨.read readChunk (.ok n) :: reads, .cons hn hle (read_recorded hread calls) hgives,
      hbytes⟩

end Open

section Exchange

variable {host : String} {port : Nat} {message : Bytes} {amounts : List Nat} {s s₀ s₁ : σ}

theorem exchange_of_connect (hconnect : t.connect host port s = (.ok (), s₀)) {s₂ : σ}
    {outcome : Except TransportError Buffer} (hconverse : t.converse message s₀ = (outcome, s₂)) :
    t.exchange host port message s = (outcome, t.close s₂) := by
  rw [exchange, hconnect]
  dsimp only
  rw [hconverse]

theorem exchange_of_gives (hconnect : t.connect host port s = (.ok (), s₀))
    (htakes : Takes t message amounts s₀ s₁) (hall : amounts.sum = message.length)
    {pieces : List Bytes} {s₂ s₃ : σ} {left : Bytes} (hgives : Gives t pieces s₁ s₂)
    (hend : t.read (List.replicate readChunk 0) s₂ = (.ok 0, left, s₃)) :
    ∃ reply : Buffer, t.exchange host port message s = (.ok reply, t.close s₃) ∧
      reply.bytes = pieces.flatten := by
  obtain ⟨reply, hconverse, hbytes⟩ := converse_of_gives htakes hall hgives
  rw [receive_eq, hend] at hconverse
  refine ⟨_, exchange_of_connect hconnect hconverse, ?_⟩
  rw [Buffer.bytes_absorb, Nat.zero_min, List.take_zero, List.append_nil, hbytes]

theorem takenBytes_exchange (hconnect : t.connect host port s = (.ok (), s₀))
    (htakes : Takes t message amounts s₀ s₁) (hall : amounts.sum = message.length)
    {pieces : List Bytes} {s₂ s₃ : σ} {left : Bytes} (hgives : Gives t pieces s₁ s₂)
    (hend : t.read (List.replicate readChunk 0) s₂ = (.ok 0, left, s₃)) :
    takenBytes (t.recorded.exchange host port message (s, [])).2.2 = message := by
  have hconnect' : t.recorded.connect host port (s, []) =
      (.ok (), s₀, [.connect host port (.ok ())]) := by
    simp only [recorded, hconnect, List.nil_append]
  obtain ⟨writes, htakes', hwrites⟩ := takes_recorded htakes [.connect host port (.ok ())]
  obtain ⟨reads, hgives', hreads⟩ := gives_recorded hgives
    ([.connect host port (.ok ())] ++ writes)
  obtain ⟨reply, hexchange, -⟩ := exchange_of_gives hconnect' htakes' hall hgives'
    (read_recorded hend _)
  rw [hexchange]
  simp only [recorded, takenBytes, List.flatMap_append] at hwrites hreads ⊢
  rw [hwrites, hreads, hall, List.take_length]
  simp [takenFront]

/-- An exchange does not depend on how its bytes are cut: whatever amounts of the message the
stream takes and whatever pieces of the reply it gives, all of the message is taken and the reply
is the pieces in their order. The first write that takes nothing, and the first failure of a write
or a read, is all that becomes of the exchange. -/
theorem exchange_of_pieces (hconnect : t.connect host port s = (.ok (), s₀))
    (htakes : Takes t message amounts s₀ s₁) :
    (∀ pieces s₂ s₃ left, amounts.sum = message.length → Gives t pieces s₁ s₂ →
      t.read (List.replicate readChunk 0) s₂ = (.ok 0, left, s₃) →
        (∃ reply : Buffer, t.exchange host port message s = (.ok reply, t.close s₃) ∧
          reply.bytes = pieces.flatten) ∧
        takenBytes (t.recorded.exchange host port message (s, [])).2.2 = message) ∧
      (∀ s₂, amounts.sum < message.length →
        t.write (message.drop amounts.sum) s₁ = (.ok 0, s₂) →
          t.exchange host port message s =
            (.error (.partialWrite amounts.sum message.length), t.close s₂)) ∧
      (∀ e s₂, amounts.sum < message.length →
        t.write (message.drop amounts.sum) s₁ = (.error e, s₂) →
          t.exchange host port message s = (.error e, t.close s₂)) ∧
      ∀ pieces e s₂ s₃ left, amounts.sum = message.length → Gives t pieces s₁ s₂ →
        t.read (List.replicate readChunk 0) s₂ = (.error e, left, s₃) →
          t.exchange host port message s = (.error e, t.close s₃) := by
  refine ⟨?served, ?stalled, ?writeFailed, ?readFailed⟩
  case served =>
    intro pieces s₂ s₃ left hall hgives hend
    exact ⟨exchange_of_gives hconnect htakes hall hgives hend,
      takenBytes_exchange hconnect htakes hall hgives hend⟩
  case stalled =>
    intro s₂ hleft hwrite
    exact exchange_of_connect hconnect (converse_of_stops htakes hleft hwrite stops_zero)
  case writeFailed =>
    intro e s₂ hleft hwrite
    exact exchange_of_connect hconnect (converse_of_stops htakes hleft hwrite (stops_error e))
  case readFailed =>
    intro pieces e s₂ s₃ left hall hgives hread
    obtain ⟨reply, hconverse, -⟩ := converse_of_gives htakes hall hgives
    rw [receive_eq, hread] at hconverse
    exact exchange_of_connect hconnect hconverse

end Exchange

/-- A peer that takes and gives at most two bytes at once, and one that takes four bytes in all. -/
theorem exchange_of_pieces_of_two_bytes :
    let patient : Stage :=
      { scripts := [{ reply := [1, 2, 3], writeLimit := some 2, readLimit := some 2 }] }
    let stalling : Stage := { scripts := [{ writeLimit := some 3, writeStop := some 4 }] }
    ((∃ reply s', scripted.exchange "host" 80 [7, 8, 9] patient = (.ok reply, s') ∧
        reply.bytes = [1, 2, 3]) ∧
      takenBytes (scripted.recorded.exchange "host" 80 [7, 8, 9] (patient, [])).2.2 = [7, 8, 9]) ∧
      ∃ s', scripted.exchange "host" 80 [5, 6, 7, 8, 9] stalling =
        (.error (.partialWrite 4 5), s') := by
  intro patient stalling
  refine ⟨?served, ?stalled⟩
  case served =>
    let open₀ := (scripted.connect "host" 80 patient).2
    have hconnect : scripted.connect "host" 80 patient = (.ok (), open₀) := rfl
    let open₁ := (scripted.write [7, 8, 9] open₀).2
    let open₂ := (scripted.write [9] open₁).2
    have hfirst : scripted.write [7, 8, 9] open₀ = (.ok 2, open₁) := rfl
    have hsecond : scripted.write [9] open₁ = (.ok 1, open₂) := rfl
    have htakes : Takes scripted [7, 8, 9] [2, 1] open₀ open₂ :=
      .cons (by decide) (by decide) hfirst (.cons (by decide) (by decide) hsecond (.nil _ _))
    let open₃ : Stage := { open₂ with unread := [3], reads := 1 }
    let open₄ : Stage := { open₃ with unread := [], reads := 2 }
    have hpiece : scripted.read (List.replicate readChunk 0) open₂ = (.ok 2, _, open₃) :=
      read_scripted open₂
    have hrest : scripted.read (List.replicate readChunk 0) open₃ = (.ok 1, _, open₄) :=
      read_scripted open₃
    have hgives : Gives scripted [[1, 2], [3]] open₂ open₄ :=
      .cons (by decide) (by decide) hpiece (.cons (by decide) (by decide) hrest (.nil open₄))
    obtain ⟨⟨reply, hexchange, hbytes⟩, htaken⟩ :=
      (exchange_of_pieces hconnect htakes).1 _ _ _ _ rfl hgives (read_scripted open₄)
    exact ⟨⟨reply, _, hexchange, hbytes⟩, htaken⟩
  case stalled =>
    let open₀ := (scripted.connect "host" 80 stalling).2
    have hconnect : scripted.connect "host" 80 stalling = (.ok (), open₀) := rfl
    let open₁ := (scripted.write [5, 6, 7, 8, 9] open₀).2
    let open₂ := (scripted.write [8, 9] open₁).2
    have hfirst : scripted.write [5, 6, 7, 8, 9] open₀ = (.ok 3, open₁) := rfl
    have hsecond : scripted.write [8, 9] open₁ = (.ok 1, open₂) := rfl
    have htakes : Takes scripted [5, 6, 7, 8, 9] [3, 1] open₀ open₂ :=
      .cons (by decide) (by decide) hfirst (.cons (by decide) (by decide) hsecond (.nil _ _))
    have hnothing : scripted.write [9] open₂ = (.ok 0, _) := rfl
    exact ⟨_, (exchange_of_pieces hconnect htakes).2.1 _ (by decide) hnothing⟩

/-- The calls on a peer that takes all of a message but its last byte, then this byte, and gives two
bytes and then one. -/
theorem calls_scripted_of_two_writes {message : Bytes} (hlength : 2 ≤ message.length)
    {host : String} {port : Nat} :
    let almost := message.length - 1
    let stage : Stage :=
      { scripts := [{ reply := [1, 2, 3], writeLimit := some almost, readLimit := some 2 }] }
    (scripted.recorded.exchange host port message (stage, [])).2.2 =
      [.connect host port (.ok ()), .write message (.ok almost),
        .write (message.drop almost) (.ok 1), .read readChunk (.ok 2), .read readChunk (.ok 1),
        .read readChunk (.ok 0), .close] := by
  intro almost stage
  let open₀ := (scripted.connect host port stage).2
  let open₁ := (scripted.write message open₀).2
  let open₂ := (scripted.write (message.drop almost) open₁).2
  have hfirst : scripted.write message open₀ = (.ok almost, open₁) := by
    refine Prod.ext ?_ rfl
    rw [write_scripted rfl rfl rfl, Nat.min_eq_left (Nat.sub_le _ 1)]
  have hsecond : scripted.write (message.drop almost) open₁ = (.ok 1, open₂) := by
    have hone : min almost (message.length - almost) = 1 := by omega
    refine Prod.ext ?_ rfl
    rw [write_scripted rfl rfl rfl, List.length_drop, hone]
  let open₃ : Stage := { open₂ with unread := [3], reads := 1 }
  let open₄ : Stage := { open₃ with unread := [], reads := 2 }
  have hpiece : scripted.read (List.replicate readChunk 0) open₂ = (.ok 2, _, open₃) :=
    read_scripted open₂
  have hrest : scripted.read (List.replicate readChunk 0) open₃ = (.ok 1, _, open₄) :=
    read_scripted open₃
  have hconnect : scripted.recorded.connect host port (stage, []) =
      (.ok (), open₀, [.connect host port (.ok ())]) := rfl
  let sent : List StreamCall := [.connect host port (.ok ()), .write message (.ok almost),
    .write (message.drop almost) (.ok 1)]
  have htakes : Takes scripted.recorded message [almost, 1]
      (open₀, [.connect host port (.ok ())]) (open₂, sent) :=
    .cons (by omega) (Nat.sub_le _ 1) (write_recorded hfirst _)
      (.cons Nat.one_pos (by rw [List.length_drop]; omega) (write_recorded hsecond _) (.nil _ _))
  have hgives : Gives scripted.recorded [[1, 2], [3]] (open₂, sent)
      (open₄, sent ++ [.read readChunk (.ok 2), .read readChunk (.ok 1)]) :=
    .cons (by decide) (by decide) (read_recorded hpiece _)
      (.cons (by decide) (by decide) (read_recorded hrest _) (.nil _))
  have hall : [almost, 1].sum = message.length := by
    simp only [List.sum_cons, List.sum_nil]
    omega
  obtain ⟨reply, hexchange, -⟩ := exchange_of_gives hconnect htakes hall hgives
    (read_recorded (read_scripted open₄) _)
  rw [hexchange]
  rfl

theorem exists_takes (ht : t.IsTruthful) (left : Bytes) (s : σ) :
    ∃ amounts s', Takes t left amounts s s' ∧
      (amounts.sum = left.length ∨
        amounts.sum < left.length ∧ Stops (t.write (left.drop amounts.sum) s').1) := by
  induction hlength : left.length using Nat.strongRecOn generalizing left s with
  | _ length ih =>
  by_cases hleft : left = []
  · exact ⟨[], s, .nil left s, .inl (by rw [← hlength, hleft]; rfl)⟩
  by_cases hstops : Stops (t.write left s).1
  · exact ⟨[], s, .nil left s, .inr ⟨hlength ▸ List.length_pos_of_ne_nil hleft, hstops⟩⟩
  obtain ⟨n, houtcome, hn⟩ : ∃ n, (t.write left s).1 = .ok n ∧ n ≠ 0 := by
    simpa [Stops] using hstops
  have hwrite : t.write left s = (.ok n, (t.write left s).2) := Prod.ext houtcome rfl
  have hle := ht.write_le hwrite
  have hrest : (left.drop n).length = length - n := by rw [List.length_drop, hlength]
  obtain ⟨amounts, s', htakes, hend⟩ := ih (length - n) (by omega) (left.drop n) _ hrest
  refine ⟨n :: amounts, s', .cons (Nat.pos_of_ne_zero hn) hle hwrite htakes, ?_⟩
  rw [List.sum_cons, ← List.drop_drop]
  exact hend.imp (fun hall => by omega) fun hless => ⟨by omega, hless.2⟩

theorem exists_gives (ht : t.IsTruthful) (s : σ) :
    ∃ pieces s', Gives t pieces s s' ∧ Stops (t.read (List.replicate readChunk 0) s').1 := by
  induction hpending : t.pending s using Nat.strongRecOn generalizing s with
  | _ pending ih =>
  by_cases hstops : Stops (t.read (List.replicate readChunk 0) s).1
  · exact ⟨[], s, .nil s, hstops⟩
  obtain ⟨n, houtcome, hn⟩ : ∃ n, (t.read (List.replicate readChunk 0) s).1 = .ok n ∧ n ≠ 0 := by
    simpa [Stops] using hstops
  obtain ⟨left, s₁, hread⟩ :
      ∃ left s₁, t.read (List.replicate readChunk 0) s = (.ok n, left, s₁) :=
    ⟨_, _, Prod.ext houtcome rfl⟩
  have hle : n ≤ readChunk := by simpa using ht.read_le hread
  obtain ⟨pieces, s', hgives, hend⟩ :=
    ih (t.pending s₁) (hpending ▸ t.pending_read _ _ _ _ _ hread hn) s₁ rfl
  exact ⟨left.take n :: pieces, s', .cons (Nat.pos_of_ne_zero hn) hle hread hgives, hend⟩

/-- Nothing else can become of a message on a stream that reports no more than it was offered: it is
taken in amounts, up to a write that stops or to its end, and then there are pieces up to a read
that stops. -/
theorem exists_course (ht : t.IsTruthful) (message : Bytes) (s : σ) :
    ∃ amounts s₁, Takes t message amounts s s₁ ∧
      (amounts.sum < message.length ∧ Stops (t.write (message.drop amounts.sum) s₁).1 ∨
        amounts.sum = message.length ∧ ∃ pieces s₂, Gives t pieces s₁ s₂ ∧
          Stops (t.read (List.replicate readChunk 0) s₂).1) := by
  obtain ⟨amounts, s₁, htakes, hend⟩ := exists_takes ht message s
  refine ⟨amounts, s₁, htakes, ?_⟩
  rcases hend with hall | hstopped
  · exact .inr ⟨hall, exists_gives ht s₁⟩
  · exact .inl hstopped

theorem takenBytes_of_reply (ht : t.IsTruthful) {host : String} {port : Nat} {message : Bytes}
    {s : σ} {reply : Buffer} (h : (t.exchange host port message s).1 = .ok reply) :
    takenBytes (t.recorded.exchange host port message (s, [])).2.2 = message := by
  rcases hconnect : t.connect host port s with ⟨e | ⟨⟩, s₀⟩
  · rw [exchange, hconnect] at h
    cases h
  · -- every course but the one that ends with an empty read ends in a failure
    obtain ⟨amounts, s₁, htakes, hcourse⟩ := exists_course ht message s₀
    rcases hcourse with ⟨hleft, hstops⟩ | ⟨hall, pieces, s₂, hgives, hstops⟩
    · have hconverse := converse_of_stops htakes hleft rfl hstops
      rw [exchange_of_connect hconnect hconverse] at h
      cases h
    · rcases hread : t.read (List.replicate readChunk 0) s₂ with ⟨e | n, left, s₃⟩
      · obtain ⟨front, hconverse, -⟩ := converse_of_gives htakes hall hgives
        rw [receive_eq, hread] at hconverse
        rw [exchange_of_connect hconnect hconverse] at h
        cases h
      · rw [hread] at hstops
        have hend := hstops n rfl
        subst hend
        exact takenBytes_exchange hconnect htakes hall hgives hread

end Transport
end RemoteDev
