import RemoteDev.Command.Administration
import RemoteDev.Command.DataSource
import RemoteDev.Command.Debugger
import RemoteDev.Command.File

/-! The commands of the endpoint. A command has a request, unless its parameters rule one
out, and a way to read the reply to it. -/
namespace RemoteDev

inductive Command where
  | file (c : FileCommand)
  | dataSource (c : DataSourceCommand)
  | debugger (c : DebuggerCommand)
  | analyzer (c : AnalyzerCommand)
  | admin (c : AdminCommand)
deriving DecidableEq

namespace Command

def Result : Command → Type
  | file c => c.Result
  | dataSource c => c.Result
  | debugger c => c.Result
  | analyzer c => c.Result
  | admin c => c.Result

/-- The request of a command, or why its parameters do not make one. -/
def request : Command → Except Failure Request
  | file c => c.request
  | dataSource c => c.request
  | debugger c => c.request
  | analyzer c => c.request
  | admin c => c.request

def decode : (c : Command) → Reply → Except Failure c.Result
  | file c, reply => c.decode reply
  | dataSource c, reply => c.decode reply
  | debugger c, reply => c.decode reply
  | analyzer c, reply => c.decode reply
  | admin c, reply => c.decode reply

/-- What a failure yields, if it answers the command after all. -/
def answerOf? : (c : Command) → Failure → Option c.Result
  | file c, failure => c.answerOf? failure
  | _, _ => none

def settle (c : Command) (outcome : Except Failure c.Result) : Except Failure c.Result :=
  match outcome with
  | .ok x => .ok x
  | .error f => match c.answerOf? f with
    | some x => .ok x
    | none => .error f

end Command
end RemoteDev
