import RemoteDev.Buffer
import RemoteDev.Text.Basic

/-! Byte streams to a server, as functions on a state. A stream may take or give fewer bytes
than asked; what a peer still has to say is finite, which bounds every reading. A command is one
conversation: connect, send the whole message, read to the end, close. Once the connection stands it
is closed exactly once, whatever happens in between. -/
namespace RemoteDev

inductive Status where
  | ok
  | paramMissing
  | connectionMissing
  | indexOutOfBounds
  | commandFailed
  | responseMalformed
  | responseNotFound
  | dirAlreadyExists
  | socketCreationFailed
  | hostNotFound
  | connectFailed
  | writeFailed
  | partialWrite
  | readFailed
  | invalidInputParameter
  | outOfMemory
deriving DecidableEq, Repr

namespace Status

def description : Status → String
  | ok => "success"
  | paramMissing => "missing parameter"
  | connectionMissing => "no connection"
  | indexOutOfBounds => "index out of bounds"
  | commandFailed => "command failed"
  | responseMalformed => "malformed response"
  | responseNotFound => "response not found"
  | dirAlreadyExists => "directory already exists"
  | socketCreationFailed => "socket creation failed"
  | hostNotFound => "host not found"
  | connectFailed => "connection failed"
  | writeFailed => "write failed"
  | partialWrite => "partial write"
  | readFailed => "read failed"
  | invalidInputParameter => "invalid input parameter"
  | outOfMemory => "out of memory"

end Status

structure StreamFault where
  text : String
  code : Option Int
deriving DecidableEq, Repr

inductive TransportError where
  | hostNotFound (host : String)
  | notConnected
  | connect (fault : StreamFault)
  | write (fault : StreamFault)
  | partialWrite (written expected : Nat)
  | read (fault : StreamFault)
deriving DecidableEq, Repr

namespace TransportError

def message : TransportError → String
  | hostNotFound host => "could not resolve host '" ++ host ++ "'"
  | notConnected => "transport used before it was connected"
  | connect fault => "failed to connect: " ++ fault.text
  | write fault => "failed to write request: " ++ fault.text
  | partialWrite written expected =>
    "request cut short after " ++ decimalText written ++ " of " ++ decimalText expected ++
      " bytes"
  | read fault => "failed to read response: " ++ fault.text

def status : TransportError → Status
  | hostNotFound _ => .hostNotFound
  | notConnected => .socketCreationFailed
  | connect _ => .connectFailed
  | write _ => .writeFailed
  | partialWrite _ _ => .partialWrite
  | read _ => .readFailed

def systemCode : TransportError → Option Int
  | connect fault | write fault | read fault => fault.code
  | _ => none

end TransportError

structure Transport (σ : Type) where
  connect : String → Nat → σ → Except TransportError Unit × σ
  /-- Takes some of the bytes and reports how many. -/
  write : Bytes → σ → Except TransportError Nat × σ
  /-- Overwrites a front part of the bytes offered and reports how many; zero at the end. -/
  read : Bytes → σ → Except TransportError Nat × Bytes × σ
  close : σ → σ
  /-- A bound on the readings that still give bytes. -/
  pending : σ → Nat
  pending_read : ∀ offered s n left s', read offered s = (.ok n, left, s') → n ≠ 0 →
    pending s' < pending s

namespace Transport

/-- A stream before any connection: only closing it succeeds. -/
def unconnected : Transport Unit where
  connect host _ s := (.error (.hostNotFound host), s)
  write _ s := (.error .notConnected, s)
  read offered s := (.error .notConnected, offered, s)
  close s := s
  pending _ := 0
  pending_read := by simp

variable {σ : Type}

def readChunk : Nat := 4096

def send (t : Transport σ) (total : Nat) (left : Bytes) (s : σ) :
    Except TransportError Unit × σ :=
  match left with
  | [] => (.ok (), s)
  | b :: r =>
    match t.write (b :: r) s with
    | (.error e, s') => (.error e, s')
    | (.ok 0, s') => (.error (.partialWrite (total - (b :: r).length) total), s')
    | (.ok (n + 1), s') => t.send total (r.drop n) s'
termination_by left.length
decreasing_by simp only [List.length_cons, List.length_drop]; omega

def receive (t : Transport σ) (reply : Buffer) (s : σ) :
    Except TransportError Buffer × σ :=
  match h : t.read (List.replicate readChunk 0) s with
  | (.error e, _, s') => (.error e, s')
  | (.ok n, left, s') =>
    let reply' := reply.absorb readChunk n left
    if hn : n = 0 then (.ok reply', s')
    else
      have := t.pending_read _ _ _ _ _ h hn
      t.receive reply' s'
termination_by t.pending s

def converse (t : Transport σ) (message : Bytes) (s : σ) : Except TransportError Buffer × σ :=
  match t.send message.length message s with
  | (.error e, s') => (.error e, s')
  | (.ok (), s') => t.receive Buffer.empty s'

def exchange (t : Transport σ) (host : String) (port : Nat) (message : Bytes) (s : σ) :
    Except TransportError Buffer × σ :=
  match t.connect host port s with
  | (.error e, s') => (.error e, s')
  | (.ok (), s') =>
    let (outcome, s'') := t.converse message s'
    (outcome, t.close s'')

end Transport
end RemoteDev
