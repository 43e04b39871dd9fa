import RemoteDev.Transport.Basic

/-! Streams that play scripts, one for each connection, and keep a record of what was done
with them. A script's peer takes and gives bytes within its limits and may fail where its
bytes end. -/
namespace RemoteDev

structure Script where
  reply : Bytes := []
  /-- The most bytes that one writing takes, and that all writings together take. -/
  writeLimit : Option Nat := none
  writeStop : Option Nat := none
  /-- The most bytes that one reading gives, and that all readings together give. -/
  readLimit : Option Nat := none
  readStop : Option Nat := none
  /-- The failures of connecting, of a writing that takes nothing, of a reading that gives
  nothing. -/
  connectError : Option TransportError := none
  writeError : Option TransportError := none
  readError : Option TransportError := none

namespace Script

def cut (bytes : Bytes) (bound : Option Nat) : Bytes :=
  match bound with
  | some n => bytes.take n
  | none => bytes

theorem length_cut_le (bytes : Bytes) (bound : Option Nat) :
    (cut bytes bound).length ≤ bytes.length := by
  cases bound with
  | none => exact Nat.le_refl _
  | some n => exact List.length_take_le' _ _

/-- A failure in place of a count of zero, if the script has one. -/
def orFail (n : Nat) (failure : Option TransportError) : Except TransportError Nat :=
  match n, failure with
  | 0, some e => .error e
  | n, _ => .ok n

theorem eq_of_orFail {n m : Nat} {failure : Option TransportError}
    (h : orFail n failure = .ok m) : m = n := by
  unfold orFail at h
  split at h <;> simp_all

end Script

/-- The scripts still to play, what the present peer has still to say, and the record. -/
structure Stage where
  scripts : List Script
  script : Script := {}
  unread : Bytes := []
  sent : Bytes := []
  writes : Nat := 0
  reads : Nat := 0
  connects : List (String × Nat) := []
  closes : Nat := 0

namespace Stage

def connect (host : String) (port : Nat) (s : Stage) : Except TransportError Unit × Stage :=
  let script := s.scripts.headD {}
  let s' : Stage :=
    { s with
      scripts := s.scripts.tail
      script
      unread := Script.cut script.reply script.readStop
      sent := []
      writes := 0
      reads := 0
      connects := s.connects ++ [(host, port)] }
  match script.connectError with
  | some e => (.error e, s')
  | none => (.ok (), s')

def write (bytes : Bytes) (s : Stage) : Except TransportError Nat × Stage :=
  let room := s.script.writeStop.map (· - s.sent.length)
  let taken := Script.cut (Script.cut bytes s.script.writeLimit) room
  (Script.orFail taken.length s.script.writeError,
    { s with sent := s.sent ++ taken, writes := s.writes + 1 })

def read (offered : Bytes) (s : Stage) : Except TransportError Nat × Bytes × Stage :=
  let given := Script.cut (s.unread.take offered.length) s.script.readLimit
  (Script.orFail given.length s.script.readError, given ++ offered.drop given.length,
    { s with unread := s.unread.drop given.length, reads := s.reads + 1 })

def close (s : Stage) : Stage := { s with closes := s.closes + 1 }

theorem unread_read {offered : Bytes} {s : Stage} {n : Nat} {left : Bytes} {s' : Stage}
    (h : s.read offered = (.ok n, left, s')) (hn : n ≠ 0) :
    s'.unread.length < s.unread.length := by
  simp only [read, Prod.mk.injEq] at h
  obtain ⟨h₁, -, rfl⟩ := h
  have h₂ := Script.eq_of_orFail h₁
  have h₃ := Script.length_cut_le (s.unread.take offered.length) s.script.readLimit
  simp only [List.length_take] at h₃
  simp only [List.length_drop]
  omega

end Stage

def Transport.scripted : Transport Stage where
  connect := Stage.connect
  write := Stage.write
  read offered s := s.read offered
  close := Stage.close
  pending s := s.unread.length
  pending_read _ _ _ _ _ h hn := Stage.unread_read h hn

end RemoteDev
