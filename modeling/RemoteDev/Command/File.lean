import RemoteDev.Record.File
import RemoteDev.Wire

/-! Commands on files and directories of the server. -/
namespace RemoteDev

inductive FileCommand where
  | browse (path : String)
  | read (path : String)
  | write (path : String) (data : Bytes)
  | rename (current new : String)
  | removeFile (path : String)
  | removeDirectory (path : String)
  /-- Asks whether a file or directory is there. -/
  | probe (path : String)
  | createDirectory (path : String)
  /-- Asks for the directory in which the server is installed. -/
  | root
deriving DecidableEq

namespace FileCommand

def Result : FileCommand → Type
  | browse _ => List Entry
  | read _ => FileContent
  | write _ _ => Unit
  | rename _ _ => Unit
  | removeFile _ => Unit
  | removeDirectory _ => Unit
  | probe _ => Bool
  | createDirectory _ => Unit
  | root => String

def onPath (path operation : String) (rest : List Bytes) : Except Failure Request := do
  let p ← required "pathname" path
  return .ofFamily .files (encodeText p :: encodeText operation :: rest)

def request : FileCommand → Except Failure Request
  | browse path => .ok (.ofTexts .browse [path, ""])
  | read path => onPath path "READ" [[]]
  | write path data => onPath path "WRITE" [[], data]
  | rename current new => do
    let n ← required "new pathname" new
    onPath current "RENAME" [[], encodeText n]
  | removeFile path => onPath path "REMOVE" [[], encodeText "F"]
  | removeDirectory path => onPath path "REMOVE" [[], encodeText "D"]
  | probe path => onPath path "EXISTENCE" [[], []]
  | createDirectory path => onPath path "CREATE" [[], []]
  | root => .ok (.ofTexts .files ["", "CF_DIRECTORY"])

def decode : (c : FileCommand) → Reply → Except Failure c.Result
  | browse _, reply => FieldError.lift reply.listing
  | read _, reply => FieldError.lift reply.fileContent
  | write _ _, _ => .ok ()
  | rename _ _, _ => .ok ()
  | removeFile _, _ => .ok ()
  | removeDirectory _, _ => .ok ()
  | probe _, _ => .ok true
  | createDirectory _, _ => .ok ()
  | root, reply => FieldError.lift reply.singleText

/-- How the server's message begins when nothing is at a path. -/
def absence : String := "The system cannot find the path specified: "

def saysAbsent : Failure → Bool
  | .server (-1) message => absence.toList.isPrefixOf message.toList
  | _ => false

def answerOf? : (c : FileCommand) → Failure → Option c.Result
  | probe _, failure => if saysAbsent failure then some false else none
  | _, _ => none

end FileCommand
end RemoteDev
