import RemoteDev.Command.Basic
import RemoteDev.Failure
import RemoteDev.Text.Basic
import RemoteDev.Transport.Basic

/-! Sessions with an endpoint. Every command is one conversation over a connection of its own, and a
session keeps a report of the last command's failure until the next command. A password on the wire
can be recovered from its form: each byte is combined with the byte of a repeating key and shown as
two hexadecimal digits. -/
namespace RemoteDev
namespace Password

def key : Bytes := encodeText "4p0L@r1$"

def keyByte (i : Nat) : UInt8 := key.getD (i % 8) 0

/-- The password's bytes, each combined with the key byte of its position from `i` on. -/
def mask : Nat → Bytes → Bytes
  | _, [] => []
  | i, b :: r => (b ^^^ keyByte i) :: mask (i + 1) r

@[simp] theorem mask_length (i : Nat) (bs : Bytes) : (mask i bs).length = bs.length := by
  induction bs generalizing i with
  | nil => rfl
  | cons b r ih => simp [mask, ih]

@[simp] theorem mask_mask (i : Nat) (bs : Bytes) : mask i (mask i bs) = bs := by
  induction bs generalizing i with
  | nil => rfl
  | cons b r ih => simp only [mask, ih, UInt8.xor_assoc, UInt8.xor_self, UInt8.xor_zero]

def obfuscate (password : String) : String :=
  String.ofList ((mask 0 (encodeText password)).flatMap hexPair)

end Password

/-- A server's address and a user's credentials, either of which may be empty. -/
structure Endpoint where
  host : String
  port : Nat
  username : String
  password : String
  host_ne : host ≠ ""
  port_ne : port ≠ 0

namespace Endpoint

def make (host : String) (port : Nat) (username password : String) :
    Except Failure Endpoint :=
  if hh : host = "" then .error (.missingParameter "host")
  else if hp : port = 0 then .error (.invalidInput "port must be non-zero")
  else .ok ⟨host, port, username, password, hh, hp⟩

def maskedPassword (e : Endpoint) : String := Password.obfuscate e.password

end Endpoint

structure FailureReport where
  status : Status
  code : Option Int
  message : String
  systemCode : Option Int
deriving DecidableEq, Repr

/-- The report of a failure shows the server's own message if there is one. -/
def Failure.report (f : Failure) : FailureReport where
  status := f.status
  code := f.serverCode
  message := f.serverMessage.getD f.message
  systemCode := f.systemCode

/-- An endpoint, the state of the stream to it, and the report of the last command. -/
structure Session (σ : Type) where
  endpoint : Endpoint
  stream : σ
  report : Option FailureReport := none

namespace Session

variable {σ : Type}

def status (s : Session σ) : Status := (s.report.map FailureReport.status).getD .ok

def messageOf (e : Endpoint) (request : Request) : Bytes :=
  (request.frame e.host e.port (request.encode e.username e.maskedPassword).bytes).bytes

def ask (t : Transport σ) (e : Endpoint) (request : Request) (stream : σ) :
    Except Failure Reply × σ :=
  match t.exchange e.host e.port (messageOf e request) stream with
  | (.error error, stream') => (.error (.transport error), stream')
  | (.ok reply, stream') => (Reply.parse reply.bytes, stream')

/-- The reply to a request, if there is one to send; otherwise the stream is left alone. -/
def replyTo (t : Transport σ) (e : Endpoint) (request : Except Failure Request) (stream : σ) :
    Except Failure Reply × σ :=
  match request with
  | .error f => (.error f, stream)
  | .ok request => ask t e request stream

def forget (s : Session σ) : Session σ := { s with report := none }

def reporting (s : Session σ) (f : Failure) : Session σ := { s with report := some f.report }

/-- Forgets the last failure, sends a request if there is one, and takes the reply in. A
failure on the way is reported. -/
def call {α : Type} (t : Transport σ) (s : Session σ) (request : Except Failure Request)
    (decode : Reply → Except Failure α) : Except Failure α × Session σ :=
  let s := s.forget
  let (reply, stream) := replyTo t s.endpoint request s.stream
  let s := { s with stream }
  match reply.bind decode with
  | .ok x => (.ok x, s)
  | .error f => (.error f, s.reporting f)

/-- Runs a command. A failure that answers the command after all is forgotten again. -/
def run (t : Transport σ) (s : Session σ) (c : Command) :
    Except Failure c.Result × Session σ :=
  match s.call t c.request c.decode with
  | (.ok x, s') => (.ok x, s')
  | (.error f, s') =>
    match c.answerOf? f with
    | some x => (.ok x, s'.forget)
    | none => (.error f, s')

def reportOf {α : Type} : Except Failure α → Option FailureReport
  | .ok _ => none
  | .error f => some f.report

theorem run_eq (t : Transport σ) (s : Session σ) (c : Command) :
    s.run t c =
      let (reply, stream) := replyTo t s.endpoint c.request s.stream
      let outcome := c.settle (reply.bind c.decode)
      (outcome, { s with stream, report := reportOf outcome }) := by
  simp only [run, call, forget]
  cases (replyTo t s.endpoint c.request s.stream).1.bind c.decode with
  | ok x => rfl
  | error f =>
    simp only [Command.settle]
    cases c.answerOf? f <;> rfl

@[simp] theorem endpoint_run (t : Transport σ) (s : Session σ) (c : Command) :
    (s.run t c).2.endpoint = s.endpoint := by rw [run_eq]

@[simp] theorem report_run (t : Transport σ) (s : Session σ) (c : Command) :
    (s.run t c).2.report = reportOf (s.run t c).1 := by rw [run_eq]

end Session
end RemoteDev
