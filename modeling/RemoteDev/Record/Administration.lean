import RemoteDev.Record.Debugger

/-! What the security analyzer, the handshake of an editor and the server's administration
report. -/
namespace RemoteDev

structure IdeInfo where
  first : Int
  serverVersion : String
  clientVersion : String
  second : Int
  third : Int
deriving DecidableEq, Repr

def IdeInfo.reader : FieldReader IdeInfo := do
  let first ← FieldReader.integer "num1"
  let serverVersion ← FieldReader.text
  let clientVersion ← FieldReader.text
  let second ← FieldReader.integer "num2"
  let third ← FieldReader.integer "num3"
  FieldReader.finish
  return { first, serverVersion, clientVersion, second, third }

structure ScanProgress where
  totalFiles : Int
  visitedFiles : Int
  percentage : Int
  lastUpdated : Int
deriving DecidableEq, Repr

namespace Reply

def ideInfo (reply : Reply) : Except FieldError IdeInfo := do
  FieldReader.expectCount reply.count 5
  reply.read IdeInfo.reader

/-- The document of the security analyzer, which must report success. -/
def analyzer (reply : Reply) : Except Failure Json := do
  let text ← FieldError.lift reply.singleText
  let json ← (Json.read text).mapError fun fault => Failure.json (.malformed fault)
  match json.memberText? "status" with
  | some "success" => return json
  | status =>
    throw (.analyzer (status.getD "<missing>") ((json.memberText? "errormessage").getD ""))

def scanId (reply : Reply) : Except Failure Int := do
  let json ← reply.analyzer
  Except.mapError Failure.json do
    let found ← json.words ["id"]
    Json.wordNamed found "id"

def scanProgress (reply : Reply) : Except Failure ScanProgress := do
  let json ← reply.analyzer
  Except.mapError Failure.json do
    let found ← json.words ["totalfiles", "filesvisitedcount", "percentage", "lastupdated"]
    let totalFiles ← Json.wordNamed found "totalfiles"
    let visitedFiles ← Json.wordNamed found "filesvisitedcount"
    let percentage ← Json.wordNamed found "percentage"
    let lastUpdated ← Json.wordNamed found "lastupdated"
    return { totalFiles, visitedFiles, percentage, lastUpdated }

def expectNoMessage (reply : Reply) : Except FieldError Unit := do
  let message ← reply.singleText
  if !message.isEmpty then throw (.invalidField "reply" (.notEmpty message))

/-- The text of a property; nothing if the server has nothing to report. -/
def logProperty (reply : Reply) : Except Failure (Option String) := do
  let text ← FieldError.lift reply.singleText
  if text.isEmpty then return none
  let packet ← (Packet.ofMarkup text).mapError Failure.packet
  match packet.data with
  | some (.text value) => return some value
  | other =>
    let found := (other.map Value.kind).getD "nothing"
    throw (.field (.invalidField "log property" (.notText found)))

end Reply
end RemoteDev
