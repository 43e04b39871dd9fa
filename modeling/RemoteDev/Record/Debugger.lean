import RemoteDev.Packet.Document
import RemoteDev.Record.File
import RemoteDev.Wire

/-! What the debugger reports: events, which packets carry, the id of a session and the port
of its listener. -/
namespace RemoteDev

structure StopLocation where
  source : String
  line : Option Int
  thread : String
deriving DecidableEq, Repr

inductive EventKind where
  /-- The server placed a breakpoint at a line. -/
  | breakpointSet (path : String) (requested actual : Option Int)
  | breakpoint (location : StopLocation)
  | step (location : StopLocation)
  | unknown
deriving DecidableEq, Repr

/-- A debugger event is the packet that carries it. -/
structure Event where
  packet : Packet

namespace Event

def textAt (p : Packet) (path : String) : String := (p.text? path).getD ""

/-- The line number at a path, without a fraction. -/
def lineAt (p : Packet) (path : String) : Option Int :=
  ((p.number? path).filter Binary64.isFinite).map Binary64.truncateToWord

def stopLocation (p : Packet) : StopLocation :=
  ⟨textAt p "0,GET_SOURCE", lineAt p "0,LINE", textAt p "0,THREAD"⟩

def name (e : Event) : Option String := e.packet.text? "0,EVENT"

def kind (e : Event) : EventKind :=
  match e.name with
  | some "CF_BREAKPOINT_SET" =>
    .breakpointSet (textAt e.packet "0,CFML_PATH") (lineAt e.packet "0,REQ_LINE_NUM")
      (lineAt e.packet "0,ACTUAL_LINE_NUM")
  | some "BREAKPOINT" => .breakpoint (stopLocation e.packet)
  | some "STEP" => .step (stopLocation e.packet)
  | _ => .unknown

def scopes (e : Event) : Option Value := e.packet.get? "0,SCOPES"
def threads (e : Event) : Option Value := e.packet.get? "0,THREADS"
def watch (e : Event) : Option Value := e.packet.get? "0,WATCH"
def pageTrace (e : Event) : Option Value := e.packet.get? "0,CF_TRACE"
def javaTrace (e : Event) : Option Value := e.packet.get? "0,JAVA_TRACE"

end Event

namespace Reply

def packet (reply : Reply) : Except Failure Packet := do
  let text ← FieldError.lift reply.singleText
  (Packet.ofMarkup text).mapError Failure.packet

def event (reply : Reply) : Except Failure Event := return ⟨← reply.packet⟩

def serverPort (reply : Reply) : Except Failure Nat := do
  let packet ← reply.packet
  let some number := packet.number? "0,DEBUG_SERVER_PORT"
    | throw (.field (.invalidField "debug server port" .missing))
  if number.isWhole && (number.isZero || (!number.negative && number.wholePart ≤ 65535)) then
    return number.wholePart
  else throw (.field (.invalidField "debug server port" (.notPort number)))

def sessionId (reply : Reply) : Except FieldError String := do
  let id ← reply.firstText
  if id.isEmpty then throw (.invalidField "session id" .empty)
  return id

def acknowledged (reply : Reply) : Except FieldError Unit := do
  let count ← FieldReader.recordCount reply.count 1
  reply.read do
    let _ ← FieldReader.bytes.repeated count
    FieldReader.finish

end Reply
end RemoteDev
