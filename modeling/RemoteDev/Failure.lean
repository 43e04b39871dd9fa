import RemoteDev.Field.Reader
import RemoteDev.Json.Read
import RemoteDev.Packet.Basic
import RemoteDev.Transport.Basic

/-! The failures of commands: their causes, their messages and the coarse class of each. -/
namespace RemoteDev

inductive Failure where
  | missingParameter (name : String)
  | invalidInput (reason : String)
  | transport (error : TransportError)
  | replyNotFound
  /-- The server refuses the command with a negative code. -/
  | server (code : Int) (message : String)
  | field (error : FieldError)
  | packet (error : PacketError)
  | json (error : JsonError)
  /-- The security analyzer's document does not report success. -/
  | analyzer (status message : String)

namespace Failure

def message : Failure → String
  | missingParameter name => "missing required parameter '" ++ name ++ "'"
  | invalidInput reason => "invalid input: " ++ reason
  | transport error => error.message
  | replyNotFound => "no RDS response found in server reply"
  | server code message => "server error " ++ signedText code ++ ": " ++ message
  | field error => "malformed response: " ++ error.message
  | packet error => "malformed exchange packet: " ++ error.message
  | json error => "malformed JSON response: " ++ error.message
  | analyzer status message => "security analyzer reported '" ++ status ++ "': " ++ message

def packetStatus : PacketError → Status
  | .indexTooLarge _ => .indexOutOfBounds
  | .emptySegment _ | .needsArray _ _ | .needsStruct _ _ => .invalidInputParameter
  | .malformed _ => .responseMalformed

def status : Failure → Status
  | missingParameter _ => .paramMissing
  | invalidInput _ => .invalidInputParameter
  | transport error => error.status
  | replyNotFound => .responseNotFound
  | server _ _ => .commandFailed
  | packet error => packetStatus error
  | field _ | json _ | analyzer _ _ => .responseMalformed

def serverCode : Failure → Option Int
  | server code _ => some code
  | _ => none

def serverMessage : Failure → Option String
  | server _ message => some message
  | _ => none

def systemCode : Failure → Option Int
  | transport error => error.systemCode
  | _ => none

theorem status_ne_ok (f : Failure) : f.status ≠ .ok := by
  cases f with
  | transport e => cases e <;> simp [status, TransportError.status]
  | packet e => cases e <;> simp [status, packetStatus]
  | _ => simp [status]

end Failure

def required (name value : String) : Except Failure String :=
  if value = "" then .error (.missingParameter name) else .ok value

theorem required_eq_ok_iff {name value v : String} :
    required name value = .ok v ↔ value ≠ "" ∧ v = value := by
  unfold required
  split <;> simp_all [eq_comm]

def FieldError.lift {α : Type} (outcome : Except FieldError α) : Except Failure α :=
  outcome.mapError Failure.field

end RemoteDev
