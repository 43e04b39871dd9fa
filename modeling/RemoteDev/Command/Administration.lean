import RemoteDev.Record.Administration
import RemoteDev.Wire

/-! Commands to the security analyzer and to the server's administration. -/
namespace RemoteDev

inductive AnalyzerCommand where
  | scan (paths : String) (recursive : Bool) (cores : Nat)
  | cancel (id : Int)
  | progress (id : Int)
  /-- Asks for the findings of a scan that is finished. -/
  | findings (id : Int)
  /-- Has the server drop what it holds of a scan. -/
  | discard (id : Int)
deriving DecidableEq

namespace AnalyzerCommand

def Result : AnalyzerCommand → Type
  | scan _ _ _ => Int
  | cancel _ => Unit
  | progress _ => ScanProgress
  | findings _ => String
  | discard _ => Unit

def onScan (operation : String) (id : Int) : Request :=
  .ofTexts .analyzer [operation, signedText id]

def request : AnalyzerCommand → Except Failure Request
  | scan paths recursive cores => do
    let p ← required "pathnames" paths
    return .ofTexts .analyzer
      ["scan", p, if recursive then "true" else "false", decimalText cores]
  | cancel id => .ok (onScan "cancel" id)
  | progress id => .ok (onScan "status" id)
  | findings id => .ok (onScan "result" id)
  | discard id => .ok (onScan "clean" id)

def decode : (c : AnalyzerCommand) → Reply → Except Failure c.Result
  | scan _ _ _, reply => reply.scanId
  | cancel _, reply => reply.analyzer.map fun _ => ()
  | progress _, reply => reply.scanProgress
  | findings _, reply => FieldError.lift reply.singleText
  | discard _, reply => reply.analyzer.map fun _ => ()

end AnalyzerCommand

inductive AdminCommand where
  /-- Announces an editor's version. -/
  | handshake (version : Int)
  | logProperty (property : String)
  | tagPaths
  /-- Maps a logical path to a directory. -/
  | setMapping (name path : String)
  | deleteMapping (name : String)
  | mappings
deriving DecidableEq

namespace AdminCommand

def Result : AdminCommand → Type
  | handshake _ => IdeInfo
  | logProperty _ => Option String
  | tagPaths => Packet
  | setMapping _ _ => Unit
  | deleteMapping _ => Unit
  | mappings => Packet

def debugging : String := "cfide.adminapi.debugging"

def extensions : String := "cfide.adminapi.extensions"

def request : AdminCommand → Except Failure Request
  | handshake version => .ok (.ofTexts .ideDefault ["", signedText version ++ ","])
  | logProperty property => do
    let p ← required "property" property
    return .ofTexts .adminApi [debugging, "getlogproperty", p]
  | tagPaths => .ok (.ofTexts .adminApi [extensions, "getcustomtagpaths"])
  | setMapping name path => do
    let n ← required "mapping name" name
    let p ← required "mapping path" path
    return .ofTexts .adminApi [extensions, "setmappings", "name:" ++ n ++ ";path:" ++ p]
  | deleteMapping name => do
    let n ← required "mapping name" name
    return .ofTexts .adminApi [extensions, "deletemappings", n]
  | mappings => .ok (.ofTexts .adminApi [extensions, "getmappings"])

def decode : (c : AdminCommand) → Reply → Except Failure c.Result
  | handshake _, reply => FieldError.lift reply.ideInfo
  | logProperty _, reply => reply.logProperty
  | tagPaths, reply => reply.packet
  | setMapping _ _, reply => FieldError.lift reply.expectNoMessage
  | deleteMapping _, reply => FieldError.lift reply.expectNoMessage
  | mappings, reply => reply.packet

end AdminCommand
end RemoteDev
