import RemoteDev.Proofs.Transport.Calls

/-! Streams that play a script for each connection. What a conversation yields and does depends on
the script that is played to it, and on nothing that an earlier connection has left behind. -/
namespace RemoteDev

variable {σ : Type}

/-- Two runs that yield the same and leave related states. -/
def Agree {α σ : Type} (R : σ → σ → Prop) (x y : α × σ) : Prop := x.1 = y.1 ∧ R x.2 y.2

theorem Agree.mono {α : Type} {R Q : σ → σ → Prop} {x y : α × σ} (h : Agree R x y)
    (hRQ : ∀ a b, R a b → Q a b) : Agree Q x y := ⟨h.1, hRQ _ _ h.2⟩

theorem Agree.exists_eq {α : Type} {R : σ → σ → Prop} {x y : α × σ} (h : Agree R x y) :
    ∃ outcome a b, x = (outcome, a) ∧ y = (outcome, b) ∧ R a b :=
  ⟨x.1, x.2, y.2, rfl, Prod.ext h.1.symm rfl, h.2⟩

theorem Script.orFail_none (n : Nat) : orFail n none = .ok n := by
  unfold orFail
  split
  · rename_i hsome
    cases hsome
  · rfl

namespace Transport

/-- A relation of states of an open connection that no call on it tells apart. -/
structure IsBisimulation (t : Transport σ) (R : σ → σ → Prop) : Prop where
  write {a b : σ} (h : R a b) (offered : Bytes) : Agree R (t.write offered a) (t.write offered b)
  read {a b : σ} (h : R a b) (offered : Bytes) :
    Agree (Agree R) (t.read offered a) (t.read offered b)
  close {a b : σ} (h : R a b) : R (t.close a) (t.close b)

namespace IsBisimulation

variable {t : Transport σ} {R : σ → σ → Prop}

theorem send (hR : t.IsBisimulation R) (total : Nat) (left : Bytes) {a b : σ} (h : R a b) :
    Agree R (t.send total left a) (t.send total left b) := by
  induction hlength : left.length using Nat.strongRecOn generalizing left a b with
  | _ length ih =>
  cases left with
  | nil =>
    rw [Transport.send, Transport.send]
    exact ⟨rfl, h⟩
  | cons first rest =>
    obtain ⟨outcome, a', b', ha, hb, hstates⟩ := (hR.write h (first :: rest)).exists_eq
    rw [Transport.send, Transport.send]
    simp only [ha, hb]
    cases outcome with
    | error e => exact ⟨rfl, hstates⟩
    | ok n =>
      cases n with
      | zero => exact ⟨rfl, hstates⟩
      | succ n =>
        have hshorter : (rest.drop n).length < length := by
          rw [← hlength, List.length_drop, List.length_cons]
          omega
        exact ih _ hshorter (rest.drop n) hstates rfl

theorem receive (hR : t.IsBisimulation R) (reply : Buffer) {a b : σ} (h : R a b) :
    Agree R (t.receive reply a) (t.receive reply b) := by
  induction hpending : t.pending a using Nat.strongRecOn generalizing reply a b with
  | _ pending ih =>
  obtain ⟨outcome, x, y, ha, hb, hleft⟩ := (hR.read h (List.replicate readChunk 0)).exists_eq
  obtain ⟨left, a', b', rfl, rfl, hstates⟩ := hleft.exists_eq
  rw [receive_eq, receive_eq]
  simp only [ha, hb]
  cases outcome with
  | error e => exact ⟨rfl, hstates⟩
  | ok n =>
    by_cases hn : n = 0
    · simp only [if_pos hn]
      exact ⟨rfl, hstates⟩
    · simp only [if_neg hn]
      have hless : t.pending a' < pending := hpending ▸ t.pending_read _ _ _ _ _ ha hn
      exact ih _ hless _ hstates rfl

theorem converse (hR : t.IsBisimulation R) (message : Bytes) {a b : σ} (h : R a b) :
    Agree R (t.converse message a) (t.converse message b) := by
  obtain ⟨outcome, a', b', ha, hb, hstates⟩ := (hR.send message.length message h).exists_eq
  rw [Transport.converse, Transport.converse, ha, hb]
  cases outcome with
  | error e => exact ⟨rfl, hstates⟩
  | ok _ => exact hR.receive Buffer.empty hstates

theorem exchange (hR : t.IsBisimulation R) {host : String} {port : Nat} {a b : σ}
    (h : Agree R (t.connect host port a) (t.connect host port b)) (message : Bytes) :
    Agree R (t.exchange host port message a) (t.exchange host port message b) := by
  obtain ⟨outcome, a', b', ha, hb, hstates⟩ := h.exists_eq
  rw [Transport.exchange, Transport.exchange, ha, hb]
  cases outcome with
  | error e => exact ⟨rfl, hstates⟩
  | ok _ =>
    obtain ⟨hreply, hleft⟩ := hR.converse message hstates
    exact ⟨hreply, hR.close hleft⟩

theorem recorded (hR : t.IsBisimulation R) :
    t.recorded.IsBisimulation fun a b => R a.1 b.1 ∧ a.2 = b.2 where
  write := by
    rintro a b ⟨hstates, hcalls⟩ offered
    obtain ⟨houtcome, hstates'⟩ := hR.write hstates offered
    exact ⟨houtcome, hstates', by simp only [Transport.recorded, hcalls, houtcome]⟩
  read := by
    rintro a b ⟨hstates, hcalls⟩ offered
    obtain ⟨houtcome, hleft, hstates'⟩ := hR.read hstates offered
    exact ⟨houtcome, hleft, hstates', by simp only [Transport.recorded, hcalls, houtcome]⟩
  close := by
    rintro a b ⟨hstates, hcalls⟩
    exact ⟨hR.close hstates, by simp only [Transport.recorded, hcalls]⟩

end IsBisimulation

/-- A stream that plays the first of its scripts to a connection, which is all that the connection
depends on, and leaves the others to the connections to come. -/
structure PlaysScripts {π : Type} (t : Transport σ) (scripts : σ → List π) : Prop where
  connect (host : String) (port : Nat) {a b : σ} (h : (scripts a).head? = (scripts b).head?) :
    ∃ R, t.IsBisimulation R ∧ Agree R (t.connect host port a) (t.connect host port b)
  scripts_connect (host : String) (port : Nat) (s : σ) :
    scripts (t.connect host port s).2 = (scripts s).tail
  scripts_write (offered : Bytes) (s : σ) : scripts (t.write offered s).2 = scripts s
  scripts_read (offered : Bytes) (s : σ) : scripts (t.read offered s).2.2 = scripts s
  scripts_close (s : σ) : scripts (t.close s) = scripts s

namespace PlaysScripts

variable {π : Type} {t : Transport σ} {scripts : σ → List π}

/-- A state with the scripts of another one keeps them: it is related to itself in this way. -/
theorem isBisimulation_keeps (ht : t.PlaysScripts scripts) (left : List π) :
    t.IsBisimulation fun a b => a = b ∧ scripts a = left where
  write := by
    rintro a _ ⟨rfl, hleft⟩ offered
    exact ⟨rfl, rfl, (ht.scripts_write offered a).trans hleft⟩
  read := by
    rintro a _ ⟨rfl, hleft⟩ offered
    exact ⟨rfl, rfl, rfl, (ht.scripts_read offered a).trans hleft⟩
  close := by
    rintro a _ ⟨rfl, hleft⟩
    exact ⟨rfl, (ht.scripts_close a).trans hleft⟩

theorem scripts_exchange (ht : t.PlaysScripts scripts) (host : String) (port : Nat)
    (message : Bytes) (s : σ) :
    scripts (t.exchange host port message s).2 = (scripts s).tail := by
  have hkeeps := ht.isBisimulation_keeps (scripts s).tail
  have hconnect : Agree (fun a b => a = b ∧ scripts a = (scripts s).tail)
      (t.connect host port s) (t.connect host port s) := ⟨rfl, rfl, ht.scripts_connect host port s⟩
  exact (hkeeps.exchange hconnect message).2.2

end PlaysScripts

/-- What a stage's connection depends on: the script that is played, what is unread of it, and what
has been written and read so far. -/
def SameScene (a b : Stage) : Prop :=
  a.script = b.script ∧ a.unread = b.unread ∧ a.sent = b.sent

theorem isBisimulation_sameScene : scripted.IsBisimulation SameScene where
  write := by
    rintro a b ⟨hscript, hunread, hsent⟩ offered
    simp [Agree, SameScene, scripted, Stage.write, hscript, hunread, hsent]
  read := by
    rintro a b ⟨hscript, hunread, hsent⟩ offered
    simp [Agree, SameScene, scripted, Stage.read, hscript, hunread, hsent]
  close := by
    rintro a b h
    exact h

theorem playsScripts_scripted : scripted.PlaysScripts Stage.scripts where
  connect host port a b h := by
    have hscript : a.scripts.headD {} = b.scripts.headD {} := by
      rw [List.headD_eq_head?_getD, List.headD_eq_head?_getD, h]
    refine ⟨SameScene, isBisimulation_sameScene, ?_⟩
    simp only [Agree, SameScene, scripted, Stage.connect, hscript]
    cases (b.scripts.headD {}).connectError <;> exact ⟨rfl, rfl, rfl, rfl⟩
  scripts_connect host port s := by
    simp only [scripted, Stage.connect]
    split <;> rfl
  scripts_write _ _ := rfl
  scripts_read _ _ := rfl
  scripts_close _ := rfl

theorem send_scripted {raw : Bytes} {s : Stage} (hs : s.script = { reply := raw }) (total : Nat)
    (left : Bytes) :
    ∃ s', scripted.send total left s = (.ok (), s') ∧ s'.script = s.script ∧
      s'.unread = s.unread := by
  cases left with
  | nil => exact ⟨s, by rw [send], rfl, rfl⟩
  | cons first rest =>
    have hwrite : scripted.write (first :: rest) s = (.ok (rest.length + 1),
        { s with sent := s.sent ++ first :: rest, writes := s.writes + 1 }) := by
      simp only [scripted, Stage.write, hs, Script.cut, Option.map_none, Script.orFail_none,
        List.length_cons]
    refine ⟨{ s with sent := s.sent ++ first :: rest, writes := s.writes + 1 }, ?_, rfl, rfl⟩
    rw [send]
    simp only [hwrite, List.drop_length]
    rw [send]

theorem read_scripted (s : Stage) :
    scripted.read (List.replicate readChunk 0) s =
      let given := Script.cut (s.unread.take readChunk) s.script.readLimit
      (Script.orFail given.length s.script.readError,
        given ++ (List.replicate readChunk 0).drop given.length,
        { s with unread := s.unread.drop given.length, reads := s.reads + 1 }) := by
  simp only [scripted, Stage.read, List.length_replicate]

theorem write_scripted {s : Stage} {n : Nat} (hlimit : s.script.writeLimit = some n)
    (hstop : s.script.writeStop = none) (herror : s.script.writeError = none) (offered : Bytes) :
    scripted.write offered s = (.ok (min n offered.length),
      { s with sent := s.sent ++ offered.take n, writes := s.writes + 1 }) := by
  simp only [scripted, Stage.write, hlimit, hstop, herror, Option.map_none, Script.cut,
    Script.orFail_none, List.length_take]

theorem receive_scripted {raw : Bytes} (reply : Buffer) {s : Stage}
    (hs : s.script = { reply := raw }) :
    ∃ buffer s', scripted.receive reply s = (.ok buffer, s') ∧
      buffer.bytes = reply.bytes ++ s.unread := by
  induction hlength : s.unread.length using Nat.strongRecOn generalizing reply s with
  | _ length ih =>
  let given := s.unread.take readChunk
  let s' : Stage := { s with unread := s.unread.drop given.length, reads := s.reads + 1 }
  have hread : scripted.read (List.replicate readChunk 0) s =
      (.ok given.length, given ++ (List.replicate readChunk 0).drop given.length, s') := by
    simp only [read_scripted, hs, Script.cut, Script.orFail_none, given, s']
  have hgiven : given.length = min readChunk s.unread.length := List.length_take
  have habsorbed : (reply.absorb readChunk given.length
      (given ++ (List.replicate readChunk 0).drop given.length)).bytes = reply.bytes ++ given := by
    rw [Buffer.bytes_absorb, Nat.min_eq_left (by omega), List.take_left]
  rw [receive_eq, hread]
  by_cases hnone : given.length = 0
  · have hchunk : readChunk ≠ 0 := by decide
    have hnil : s.unread = [] := List.eq_nil_of_length_eq_zero (by omega)
    have hgivennil : given = [] := List.eq_nil_of_length_eq_zero hnone
    simp only [if_pos hnone]
    exact ⟨_, _, rfl, by rw [habsorbed, hnil, hgivennil]⟩
  · simp only [if_neg hnone]
    have hless : s'.unread.length < length := by
      rw [← hlength, List.length_drop]
      omega
    obtain ⟨buffer, s'', hrun, hbytes⟩ := ih _ hless (reply.absorb readChunk given.length
      (given ++ (List.replicate readChunk 0).drop given.length)) (s := s') hs rfl
    refine ⟨buffer, s'', hrun, ?_⟩
    have hwhole : given ++ s'.unread = s.unread :=
      List.prefix_iff_eq_append.1 (List.take_prefix readChunk s.unread)
    rw [hbytes, habsorbed, List.append_assoc, hwhole]

theorem exchange_scripted {raw : Bytes} {others : List Script} {s : Stage}
    (hs : s.scripts = { reply := raw } :: others) (host : String) (port : Nat) (message : Bytes) :
    ∃ buffer s', scripted.exchange host port message s = (.ok buffer, s') ∧ buffer.bytes = raw := by
  obtain ⟨s₁, hconnect, hscript, hunread⟩ :
      ∃ s₁, scripted.connect host port s = (.ok (), s₁) ∧ s₁.script = { reply := raw } ∧
        s₁.unread = raw := by
    simp only [scripted, Stage.connect, hs, List.headD_cons]
    exact ⟨_, rfl, rfl, rfl⟩
  obtain ⟨s₂, hsend, hscript', hunread'⟩ := send_scripted hscript message.length message
  obtain ⟨buffer, s₃, hreceive, hbytes⟩ :=
    receive_scripted Buffer.empty (hscript'.trans hscript)
  refine ⟨buffer, scripted.close s₃, ?_, ?_⟩
  · rw [exchange, hconnect]
    simp only [converse, hsend, hreceive]
  · rw [hbytes, hunread', hunread, Buffer.bytes_empty, List.nil_append]

end Transport
end RemoteDev
