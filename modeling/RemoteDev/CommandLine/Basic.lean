import RemoteDev.Command.Basic
import RemoteDev.Record.File
import RemoteDev.Uri

/-! What a user asks for on the command line: an action and the address it applies to. -/
namespace RemoteDev

inductive Action where
  | list
  | print
  | fetch (target : String)
  | store (source : String)
  | removeFile
  | makeDirectory
  | removeDirectory
  | root
  | probe
deriving DecidableEq, Repr

structure Invocation where
  action : Action
  uri : Uri
deriving DecidableEq, Repr

namespace Invocation

def usage : String :=
  "usage: ls URI | cat URI | get URI FILE | put FILE URI | rm URI | mkdir URI | rmdir URI | " ++
    "cfroot URI | exists URI"

def at? (action : Action) (uri : String) : Except String Invocation :=
  match Uri.read uri with
  | .ok uri => .ok ⟨action, uri⟩
  | .error e => .error e.message

def parse : List String → Except String Invocation
  | ["ls", uri] | ["dir", uri] => at? .list uri
  | ["cat", uri] => at? .print uri
  | ["get", uri, target] | ["download", uri, target] => at? (.fetch target) uri
  | ["put", source, uri] | ["upload", source, uri] => at? (.store source) uri
  | ["rm", uri] | ["delete", uri] => at? .removeFile uri
  | ["mkdir", uri] => at? .makeDirectory uri
  | ["rmdir", uri] => at? .removeDirectory uri
  | ["cfroot", uri] => at? .root uri
  | ["exists", uri] => at? .probe uri
  | _ => .error usage

end Invocation

namespace Action

/-- The command of an action on a path; `content` is what is to be stored. -/
def command (path : String) (content : Bytes) : Action → FileCommand
  | list => .browse (if path = "" then "/" else path)
  | print => .read path
  | fetch _ => .read path
  | store _ => .write path content
  | removeFile => .removeFile path
  | makeDirectory => .createDirectory path
  | removeDirectory => .removeDirectory path
  | root => .root
  | probe => .probe path

def ofLine (line : String) : Bytes := encodeText (line ++ "\n")

def shown (path : String) (content : Bytes) : (a : Action) → (a.command path content).Result → Bytes
  | list, (entries : List Entry) => entries.flatMap fun e => ofLine (e.line 0)
  | print, (file : FileContent) => file.data
  | fetch _, (file : FileContent) => file.data
  | root, (directory : String) => ofLine directory
  | probe, (found : Bool) => ofLine (if found then "true" else "false")
  | _, _ => []

end Action
end RemoteDev
