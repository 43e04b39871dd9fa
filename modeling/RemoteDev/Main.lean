import RemoteDev.CommandLine.Basic
import RemoteDev.Session.Basic

/-! The command line. The program is started with its standard streams connected to the
server: it writes the message, reads the reply to its end, and shows the result on the
standard error stream. -/
namespace RemoteDev.Main

partial def readAll (input : IO.FS.Stream) (read : ByteArray) : IO ByteArray := do
  let more ← input.read 4096
  if more.isEmpty then return read else readAll input (read ++ more)

def converse (message : Bytes) : IO Bytes := do
  let output ← IO.getStdout
  output.write message.toByteArray
  output.flush
  return (← readAll (← IO.getStdin) ByteArray.empty).toList

def deliver (action : Action) (result : Bytes) : IO Unit := do
  match action with
  | .fetch target => IO.FS.writeBinFile target result.toByteArray
  | _ => (← IO.getStderr).write result.toByteArray

def contentOf (action : Action) : IO Bytes := do
  match action with
  | .store source => return (← IO.FS.readBinFile source).toList
  | _ => return []

def run (invocation : Invocation) : IO (Except String Unit) := do
  let action := invocation.action
  let path := invocation.uri.path
  let content ← contentOf action
  let command := Command.file (action.command path content)
  match invocation.uri.endpoint, command.request with
  | .error f, _ => return .error f.message
  | _, .error f => return .error f.message
  | .ok endpoint, .ok request =>
    let reply ← converse (Session.messageOf endpoint request)
    match command.settle ((Reply.parse reply).bind command.decode) with
    | .error f => return .error f.message
    | .ok result =>
      deliver action (action.shown path content result)
      return .ok ()

end RemoteDev.Main

def main (args : List String) : IO UInt32 := do
  let outcome ← match RemoteDev.Invocation.parse args with
    | .error message => pure (.error message)
    | .ok invocation => RemoteDev.Main.run invocation
  match outcome with
  | .ok () => return 0
  | .error message =>
    (← IO.getStderr).putStrLn message
    return 1
