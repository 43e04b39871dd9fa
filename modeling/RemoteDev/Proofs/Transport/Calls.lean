import RemoteDev.Transport.Basic
import RemoteDev.Transport.Scripted

/-! The calls that a conversation makes on its stream. A connection is refused, or it is written
to, read from once the message is out, and closed as the last thing of all. -/
namespace RemoteDev

inductive StreamCall where
  | connect (host : String) (port : Nat) (outcome : Except TransportError Unit)
  | write (offered : Bytes) (outcome : Except TransportError Nat)
  | read (room : Nat) (outcome : Except TransportError Nat)
  | close

namespace StreamCall

def taken : StreamCall → Nat
  | write _ (.ok n) => n
  | _ => 0

def takenBy : List StreamCall → Nat
  | [] => 0
  | call :: calls => call.taken + takenBy calls

/-- Outcomes after which nothing more is tried: no bytes, or a failure. -/
def Stops (outcome : Except TransportError Nat) : Prop := ∀ n, outcome = .ok n → n = 0

theorem stops_error (e : TransportError) : Stops (.error e) := nofun

theorem stops_zero : Stops (.ok 0) := by
  intro n h
  cases h
  rfl

/-- Writes of what is left of a message, up to its end or to an outcome that stops them; what is
left then stands last. -/
inductive Sends : Bytes → List StreamCall → Bytes → Prop
  | done : Sends [] [] []
  | stopped {left : Bytes} {outcome : Except TransportError Nat} (hleft : left ≠ [])
      (hstop : Stops outcome) : Sends left [.write left outcome] left
  | took {left rest : Bytes} {n : Nat} {writes : List StreamCall} (hn : n ≠ 0)
      (hle : n ≤ left.length) (hrest : Sends (left.drop n) writes rest) :
      Sends left (.write left (.ok n) :: writes) rest

/-- Reads up to an outcome that stops them. -/
inductive Receives : List StreamCall → Prop
  | stopped {outcome : Except TransportError Nat} (hstop : Stops outcome) :
      Receives [.read Transport.readChunk outcome]
  | gave {n : Nat} {reads : List StreamCall} (hn : n ≠ 0) (hrest : Receives reads) :
      Receives (.read Transport.readChunk (.ok n) :: reads)

namespace Sends

variable {left rest : Bytes} {writes : List StreamCall}

theorem writes_ne_nil (h : Sends left writes rest) (hleft : left ≠ []) : writes ≠ [] := by
  cases h with
  | done => exact absurd rfl hleft
  | stopped => exact List.cons_ne_nil _ _
  | took => exact List.cons_ne_nil _ _

theorem rest_eq (h : Sends left writes rest) : rest = left.drop (takenBy writes) := by
  induction h with
  | done => rfl
  | @stopped left outcome hleft hstop =>
    cases outcome with
    | error e => rfl
    | ok n =>
      rw [hstop n rfl]
      rfl
  | @took left rest n writes hn hle hrest ih => rw [ih, List.drop_drop, takenBy, taken]

theorem takenBy_le (h : Sends left writes rest) : takenBy writes ≤ left.length := by
  induction h with
  | done => exact Nat.le_refl 0
  | @stopped left outcome hleft hstop =>
    cases outcome with
    | error e => exact Nat.zero_le _
    | ok n =>
      rw [hstop n rfl]
      exact Nat.zero_le _
  | @took left rest n writes hn hle hrest ih =>
    rw [List.length_drop] at ih
    rw [takenBy, taken]
    omega

theorem rest_eq_nil_iff (h : Sends left writes rest) :
    rest = [] ↔ takenBy writes = left.length := by
  have hle := h.takenBy_le
  rw [h.rest_eq, List.drop_eq_nil_iff]
  omega

theorem offered (h : Sends left writes rest) {before after : List StreamCall} {call : StreamCall}
    (hwrites : writes = before ++ call :: after) :
    ∃ outcome, call = .write (left.drop (takenBy before)) outcome ∧
      (after ≠ [] → ¬ Stops outcome) := by
  induction h generalizing before with
  | done => exact absurd hwrites (by simp)
  | @stopped left outcome hleft hstop =>
    obtain ⟨rfl, hcall⟩ | ⟨-, hnil⟩ := List.singleton_eq_append_iff.1 hwrites
    · rw [List.cons.injEq] at hcall
      obtain ⟨rfl, rfl⟩ := hcall
      exact ⟨outcome, rfl, fun hne => absurd rfl hne⟩
    · cases hnil
  | @took left rest n writes hn hle hrest ih =>
    cases before with
    | nil =>
      rw [List.nil_append, List.cons.injEq] at hwrites
      obtain ⟨rfl, -⟩ := hwrites
      exact ⟨.ok n, rfl, fun _ hstop => hn (hstop n rfl)⟩
    | cons first before =>
      rw [List.cons_append, List.cons.injEq] at hwrites
      obtain ⟨rfl, hwrites⟩ := hwrites
      obtain ⟨outcome, hcall, hstop⟩ := ih hwrites
      refine ⟨outcome, ?_, hstop⟩
      rw [hcall, List.drop_drop, takenBy, taken]

end Sends

namespace Receives

variable {reads : List StreamCall}

theorem reads_ne_nil (h : Receives reads) : reads ≠ [] := by
  cases h <;> exact List.cons_ne_nil _ _

theorem outcome (h : Receives reads) {before after : List StreamCall} {call : StreamCall}
    (hreads : reads = before ++ call :: after) :
    ∃ outcome, call = .read Transport.readChunk outcome ∧ (after = [] ↔ Stops outcome) := by
  induction h generalizing before with
  | @stopped outcome hstop =>
    obtain ⟨rfl, hcall⟩ | ⟨-, hnil⟩ := List.singleton_eq_append_iff.1 hreads
    · rw [List.cons.injEq] at hcall
      obtain ⟨rfl, rfl⟩ := hcall
      exact ⟨outcome, rfl, fun _ => hstop, fun _ => rfl⟩
    · cases hnil
  | @gave n reads hn hrest ih =>
    cases before with
    | nil =>
      rw [List.nil_append, List.cons.injEq] at hreads
      obtain ⟨rfl, rfl⟩ := hreads
      exact ⟨.ok n, rfl, fun hnil => absurd hnil hrest.reads_ne_nil,
        fun hstop => absurd (hstop n rfl) hn⟩
    | cons first before =>
      rw [List.cons_append, List.cons.injEq] at hreads
      exact ih hreads.2

end Receives

end StreamCall

namespace Transport

open StreamCall

variable {σ : Type}

/-- A stream that reports no more bytes than it was offered. -/
structure IsTruthful (t : Transport σ) : Prop where
  write_le {offered : Bytes} {s s' : σ} {n : Nat} (h : t.write offered s = (.ok n, s')) :
    n ≤ offered.length
  read_le {offered left : Bytes} {s s' : σ} {n : Nat} (h : t.read offered s = (.ok n, left, s')) :
    n ≤ offered.length

theorem isTruthful_scripted : scripted.IsTruthful where
  write_le {offered s s' n} h := by
    have hn := Script.eq_of_orFail (congrArg Prod.fst h)
    rw [hn]
    exact Nat.le_trans (Script.length_cut_le _ _) (Script.length_cut_le _ _)
  read_le {offered left s s' n} h := by
    have hn := Script.eq_of_orFail (congrArg Prod.fst h)
    rw [hn]
    exact Nat.le_trans (Script.length_cut_le _ _) (List.length_take_le _ _)

def recorded (t : Transport σ) : Transport (σ × List StreamCall) where
  connect host port s :=
    let (outcome, s') := t.connect host port s.1
    (outcome, s', s.2 ++ [.connect host port outcome])
  write offered s :=
    let (outcome, s') := t.write offered s.1
    (outcome, s', s.2 ++ [.write offered outcome])
  read offered s :=
    let (outcome, left, s') := t.read offered s.1
    (outcome, left, s', s.2 ++ [.read offered.length outcome])
  close s := (t.close s.1, s.2 ++ [.close])
  pending s := t.pending s.1
  pending_read := by
    intro offered s n left s' h hn
    simp only [Prod.mk.injEq] at h
    obtain ⟨houtcome, hleft, rfl⟩ := h
    exact t.pending_read offered s.1 n left _ (by rw [← houtcome, ← hleft]) hn

section Recorded

variable {t : Transport σ} {offered left : Bytes} {s s' : σ} {outcome : Except TransportError Nat}

theorem write_recorded (h : t.write offered s = (outcome, s')) (calls : List StreamCall) :
    t.recorded.write offered (s, calls) = (outcome, s', calls ++ [.write offered outcome]) := by
  simp only [recorded, h]

theorem read_recorded (h : t.read (List.replicate readChunk 0) s = (outcome, left, s'))
    (calls : List StreamCall) :
    t.recorded.read (List.replicate readChunk 0) (s, calls) =
      (outcome, left, s', calls ++ [.read readChunk outcome]) := by
  simp only [recorded, h, List.length_replicate]

end Recorded

/-- Sending makes writes, and keeping a record of them changes nothing. All of the message is
sent exactly if nothing of it is left. -/
theorem send_recorded {t : Transport σ} (ht : t.IsTruthful) (total : Nat) (left : Bytes) (s : σ)
    (calls : List StreamCall) :
    ∃ writes rest,
      t.recorded.send total left (s, calls) =
        ((t.send total left s).1, (t.send total left s).2, calls ++ writes) ∧
      Sends left writes rest ∧ ((t.send total left s).1 = .ok () ↔ rest = []) := by
  induction hlength : left.length using Nat.strongRecOn generalizing left s calls with
  | _ length ih =>
  cases left with
  | nil => exact ⟨[], [], by simp [send], .done, by simp [send]⟩
  | cons b r =>
    have hne : b :: r ≠ [] := List.cons_ne_nil b r
    rcases hwrite : t.write (b :: r) s with ⟨e | n, s'⟩
    · exact ⟨_, _, by simp [send, recorded, hwrite], .stopped hne (stops_error e),
        by simp [send, hwrite]⟩
    cases n with
    | zero =>
      exact ⟨_, _, by simp [send, recorded, hwrite], .stopped hne stops_zero,
        by simp [send, hwrite]⟩
    | succ n =>
      have hle := ht.write_le hwrite
      obtain ⟨writes, rest, hrun, hsends, hall⟩ := ih (r.drop n).length
        (by rw [← hlength, List.length_drop, List.length_cons]; omega) (r.drop n) s'
        (calls ++ [.write (b :: r) (.ok (n + 1))]) rfl
      refine ⟨.write (b :: r) (.ok (n + 1)) :: writes, rest, ?_,
        .took (Nat.succ_ne_zero n) hle hsends, ?_⟩
      · rw [send, send]
        simp only [recorded, hwrite] at hrun ⊢
        rw [hrun, List.append_assoc, List.singleton_append]
      · rw [send]
        simp only [hwrite]
        exact hall

theorem receive_eq (t : Transport σ) (reply : Buffer) (s : σ) :
    t.receive reply s =
      match t.read (List.replicate readChunk 0) s with
      | (.error e, _, s') => (.error e, s')
      | (.ok n, left, s') =>
        if n = 0 then (.ok (reply.absorb readChunk n left), s')
        else t.receive (reply.absorb readChunk n left) s' := by
  rw [receive]
  split
  case h_1 h => simp only [h]
  case h_2 h =>
    simp only [h]
    split <;> rfl

theorem receive_recorded (t : Transport σ) (reply : Buffer) (s : σ) (calls : List StreamCall) :
    ∃ reads,
      t.recorded.receive reply (s, calls) =
        ((t.receive reply s).1, (t.receive reply s).2, calls ++ reads) ∧
      Receives reads := by
  induction hpending : t.pending s using Nat.strongRecOn
    generalizing reply s calls with
  | _ pending ih =>
  rw [receive_eq, receive_eq]
  rcases hread : t.read (List.replicate readChunk 0) s with ⟨e | n, left, s'⟩
  · exact ⟨_, by simp only [recorded, hread, List.length_replicate], .stopped (stops_error e)⟩
  · by_cases hn : n = 0
    · subst hn
      exact ⟨_, by simp only [recorded, hread, List.length_replicate, if_true],
        .stopped stops_zero⟩
    · obtain ⟨reads, hrun, hreceives⟩ := ih (t.pending s')
        (hpending ▸ t.pending_read _ _ _ _ _ hread hn) (reply.absorb readChunk n left) s'
        (calls ++ [.read readChunk (.ok n)]) rfl
      refine ⟨.read readChunk (.ok n) :: reads, ?_, .gave hn hreceives⟩
      simp only [recorded, hread, List.length_replicate, if_neg hn] at hrun ⊢
      rw [hrun, List.append_assoc, List.singleton_append]

/-- The writes and the reads on a connection that stands. -/
structure IsDialogue (message : Bytes) (writes reads : List StreamCall) : Prop where
  writes_ne_nil : writes ≠ []
  /-- Each write is offered the bytes that those before it have not taken; the last one alone
  may fail or take nothing. -/
  offered {before after : List StreamCall} {call : StreamCall}
    (h : writes = before ++ call :: after) :
    ∃ outcome, call = .write (message.drop (takenBy before)) outcome ∧
      (after ≠ [] → ¬ Stops outcome)
  takenBy_le : takenBy writes ≤ message.length
  /-- There are reads exactly if the writes have taken the whole message. -/
  reads_ne_nil : reads ≠ [] ↔ takenBy writes = message.length
  /-- Nothing is read after a read that fails or gives nothing, and something after any other. -/
  last {before after : List StreamCall} {call : StreamCall} (h : reads = before ++ call :: after) :
    ∃ outcome, call = .read readChunk outcome ∧ (after = [] ↔ Stops outcome)

theorem isDialogue_of_sends {message rest : Bytes} {writes : List StreamCall}
    (hmessage : message ≠ []) (h : Sends message writes rest) (hrest : rest ≠ []) :
    IsDialogue message writes [] where
  writes_ne_nil := h.writes_ne_nil hmessage
  offered := h.offered
  takenBy_le := h.takenBy_le
  reads_ne_nil := iff_of_false (fun hne => hne rfl) fun hall => hrest (h.rest_eq_nil_iff.2 hall)
  last hreads := absurd hreads (by simp)

theorem isDialogue_of_receives {message : Bytes} {writes reads : List StreamCall}
    (hmessage : message ≠ []) (h : Sends message writes []) (hreads : Receives reads) :
    IsDialogue message writes reads where
  writes_ne_nil := h.writes_ne_nil hmessage
  offered := h.offered
  takenBy_le := h.takenBy_le
  reads_ne_nil := iff_of_true hreads.reads_ne_nil (h.rest_eq_nil_iff.1 rfl)
  last := hreads.outcome

theorem converse_recorded {t : Transport σ} (ht : t.IsTruthful) {message : Bytes}
    (hmessage : message ≠ []) (s : σ) (calls : List StreamCall) :
    ∃ writes reads,
      t.recorded.converse message (s, calls) =
        ((t.converse message s).1, (t.converse message s).2, calls ++ (writes ++ reads)) ∧
      IsDialogue message writes reads := by
  obtain ⟨writes, rest, hsend, hsends, hall⟩ := send_recorded ht message.length message s calls
  rw [converse, converse, hsend]
  rcases hsent : t.send message.length message s with ⟨e | ⟨⟩, s'⟩
  · have hrest : rest ≠ [] := fun hnil => nomatch (hsent ▸ hall).2 hnil
    exact ⟨writes, [], by rw [List.append_nil], isDialogue_of_sends hmessage hsends hrest⟩
  · have hrest : rest = [] := (hsent ▸ hall).1 rfl
    subst hrest
    obtain ⟨reads, hreceive, hreceives⟩ :=
      receive_recorded t Buffer.empty s' (calls ++ writes)
    refine ⟨writes, reads, ?_, isDialogue_of_receives hmessage hsends hreceives⟩
    dsimp only
    rw [hreceive, List.append_assoc]

theorem exchange_recorded {t : Transport σ} (ht : t.IsTruthful) (host : String) (port : Nat)
    {message : Bytes} (hmessage : message ≠ []) (s : σ) (calls : List StreamCall) :
    ∃ made,
      t.recorded.exchange host port message (s, calls) =
        ((t.exchange host port message s).1, (t.exchange host port message s).2,
          calls ++ made) ∧
      ((∃ e, made = [.connect host port (.error e)]) ∨
        ∃ writes reads, made = .connect host port (.ok ()) :: (writes ++ reads ++ [.close]) ∧
          IsDialogue message writes reads) := by
  rw [exchange, exchange]
  rcases hconnect : t.connect host port s with ⟨e | ⟨⟩, s'⟩
  · exact ⟨_, by simp only [recorded, hconnect], .inl ⟨e, rfl⟩⟩
  · obtain ⟨writes, reads, hconverse, hdialogue⟩ :=
      converse_recorded ht hmessage s' (calls ++ [.connect host port (.ok ())])
    refine ⟨_, ?_, .inr ⟨writes, reads, rfl, hdialogue⟩⟩
    simp only [recorded, hconnect] at hconverse ⊢
    rw [hconverse]
    simp only [List.append_assoc, List.cons_append, List.nil_append]

end Transport
end RemoteDev
