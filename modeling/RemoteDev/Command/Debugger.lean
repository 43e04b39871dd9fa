import RemoteDev.Record.Debugger
import RemoteDev.Wire

/-! Commands to the debugger. Their parameters travel in a packet, in the struct at its first
slot, apart from the id of the session. -/
namespace RemoteDev

inductive Movement where
  | stepIn
  | stepOver
  | stepOut
  | resume
deriving DecidableEq, Repr

def Movement.name : Movement → String
  | stepIn => "STEP_IN"
  | stepOver => "STEP_OVER"
  | stepOut => "STEP_OUT"
  | resume => "CONTINUE"

structure EventParts where
  threads : Bool
  watch : Bool
  scopes : Bool
  pageTrace : Bool
  javaTrace : Bool
deriving DecidableEq, Repr

def EventParts.all : EventParts := ⟨true, true, true, true, true⟩

inductive DebuggerCommand where
  | start
  | stop (session : String)
  | serverInfo (session : String)
  | breakOnException (session : String) (enable : Bool)
  | setBreakpoint (session path : String) (line : Nat)
  | clearBreakpoint (session path : String) (line : Nat)
  | clearBreakpoints (session : String)
  /-- Waits for the next event. -/
  | event (session : String)
  | eventWith (session : String) (parts : EventParts)
  | move (how : Movement) (session thread : String)
  | watchExpression (session thread name : String)
  | setVariable (session thread name value : String)
  /-- Replaces the list of watched variables. -/
  | watchVariables (session : String) (names : List String)
  /-- Asks for what the page of a thread has put out so far. -/
  | output (session thread : String)
  | scopeFilter (session filter : String)
deriving DecidableEq

namespace DebuggerCommand

def Result : DebuggerCommand → Type
  | start => String
  | stop _ => Unit
  | serverInfo _ => Nat
  | breakOnException _ _ => Unit
  | setBreakpoint _ _ _ => Unit
  | clearBreakpoint _ _ _ => Unit
  | clearBreakpoints _ => Unit
  | event _ => Event
  | eventWith _ _ => Event
  | move _ _ _ => Unit
  | watchExpression _ _ _ => Unit
  | setVariable _ _ _ _ => Unit
  | watchVariables _ _ => Unit
  | output _ _ => Unit
  | scopeFilter _ _ => Unit

def packetOf (entries : List (String × Value)) : Except PacketError Packet :=
  entries.foldlM (fun p (path, value) => p.put path value) Packet.empty

def documentOf (entries : List (String × Value)) : Except Failure String :=
  ((packetOf entries).map Packet.toMarkup).mapError Failure.packet

def ofSession (operation session : String) (rest : List String) : Except Failure Request := do
  let id ← required "session id" session
  return .ofTexts .debugger (operation :: id :: rest)

def ofEntries (session : String) (entries : List (String × Value)) :
    Except Failure Request := do
  let id ← required "session id" session
  let document ← documentOf entries
  return .ofTexts .debugger ["DBG_REQUEST", id, document]

def breakpoint (command session path : String) (line : Nat) : Except Failure Request := do
  let p ← required "pathname" path
  ofEntries session
    [("0,Y", .ofInt line), ("0,COMMAND", .text command), ("0,FILE", .text p), ("0,SEQ", .ofInt 1)]

/-- Names to watch, as an array, if it can hold as many. -/
def watchList (names : List String) : Except Failure Value :=
  if Value.maxLength < names.length then .error (.packet (.indexTooLarge Value.maxLength))
  else .ok (.array (names.map fun n => some (.text n)))

def request : DebuggerCommand → Except Failure Request
  | start => do
    let document ← documentOf [("0,REMOTE_SESSION", .bool true)]
    return .ofTexts .debugger ["DBG_START", document]
  | stop session => ofSession "DBG_STOP" session []
  | serverInfo session => ofSession "DBG_GET_DEBUG_SERVER_INFO" session []
  | breakOnException session enable =>
    ofEntries session
      [("0,BREAK_ON_EXCEPTION", .bool enable), ("0,COMMAND", .text "SESSION_BREAK_ON_EXCEPTION")]
  | setBreakpoint session path line => breakpoint "SET_BREAKPOINT" session path line
  | clearBreakpoint session path line => breakpoint "UNSET_BREAKPOINT" session path line
  | clearBreakpoints session => ofEntries session [("0,COMMAND", .text "UNSET_ALL_BREAKPOINTS")]
  | event session => ofSession "DBG_EVENTS" session []
  | eventWith session parts => do
    let id ← required "session id" session
    let document ← documentOf
      [("THREADS", .bool parts.threads), ("WATCH", .bool parts.watch),
        ("SCOPES", .bool parts.scopes), ("CF_TRACE", .bool parts.pageTrace),
        ("JAVA_TRACE", .bool parts.javaTrace)]
    ofSession "DBG_EVENTS" id [document]
  | move how session thread => do
    let t ← required "thread" thread
    ofEntries session [("0,COMMAND", .text how.name), ("0,THREAD", .text t)]
  | watchExpression session thread name => do
    let t ← required "thread" thread
    let v ← required "variable" name
    ofEntries session
      [("0,VARIABLE_NAME", .text v), ("0,COMMAND", .text "GET_SINGLE_CF_VARIABLE"),
        ("0,THREAD", .text t)]
  | setVariable session thread name value => do
    let t ← required "thread" thread
    let v ← required "variable" name
    ofEntries session
      [("0,VARIABLE_VALUE", .text value), ("0,VARIABLE_NAME", .text v),
        ("0,COMMAND", .text "SET_VARIABLE_VALUE"), ("0,THREAD", .text t)]
  | watchVariables session names => do
    let names := names.filter (· ≠ "")
    if names.isEmpty then throw (.invalidInput "no variables to watch")
    let id ← required "session id" session
    let list ← watchList names
    ofEntries id [("0,COMMAND", .text "SET_WATCH_VARIABLES"), ("0,WATCH", list)]
  | output session thread => do
    let t ← required "thread" thread
    ofEntries session [("0,BODY_ONLY", .bool true), ("0,THREAD", .text t)]
  | scopeFilter session filter =>
    ofEntries session [("0,FILTER", .text filter), ("0,COMMAND", .text "SET_SCOPE_FILTER")]

def decode : (c : DebuggerCommand) → Reply → Except Failure c.Result
  | start, reply => FieldError.lift reply.sessionId
  | stop _, reply => FieldError.lift reply.acknowledged
  | serverInfo _, reply => reply.serverPort
  | breakOnException _ _, _ => .ok ()
  | setBreakpoint _ _ _, _ => .ok ()
  | clearBreakpoint _ _ _, _ => .ok ()
  | clearBreakpoints _, _ => .ok ()
  | event _, reply => reply.event
  | eventWith _ _, reply => reply.event
  | move _ _ _, _ => .ok ()
  | watchExpression _ _ _, _ => .ok ()
  | setVariable _ _ _ _, _ => .ok ()
  | watchVariables _ _, _ => .ok ()
  | output _ _, _ => .ok ()
  | scopeFilter _ _, _ => .ok ()

end DebuggerCommand
end RemoteDev
