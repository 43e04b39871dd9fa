import RemoteDev.Buffer
import RemoteDev.Failure
import RemoteDev.Field.Reader
import RemoteDev.Text.Basic

/-! Requests and replies on the wire. A request is a command family and its arguments, encoded as
counted and tagged fields and framed as one HTTP message. A reply is an HTTP message whose body is a
count, a colon and then fields; a negative count is the server's refusal, and the rest of the body
its message. -/
namespace RemoteDev

inductive Family where
  | browse
  | files
  | dataSources
  | debugger
  | analyzer
  | ideDefault
  | adminApi
deriving DecidableEq, Repr

def Family.action : Family → String
  | browse => "BROWSEDIR"
  | files => "FILEIO"
  | dataSources => "DBFUNCS"
  | debugger => "DBGREQUEST"
  | analyzer => "SECURITYANALYZER"
  | ideDefault => "IDE_DEFAULT"
  | adminApi => "ADMINAPI"

structure Request where
  action : String
  arguments : List Bytes
deriving DecidableEq

namespace Request

def ofFamily (family : Family) (arguments : List Bytes) : Request := ⟨family.action, arguments⟩

def ofTexts (family : Family) (arguments : List String) : Request :=
  .ofFamily family (arguments.map encodeText)

/-- The credentials that are written: those that are not empty. -/
def credentials (username password : String) : List Bytes :=
  ([username, password].filter (· ≠ "")).map encodeText

/-- The count of fields, the arguments, then the credentials. -/
def encode (request : Request) (username password : String) : Buffer :=
  let fields := request.arguments ++ credentials username password
  fields.foldl Buffer.appendField (Buffer.empty.appendCount fields.length)

def head (request : Request) (host : String) (port : Nat) (length : Nat) : String :=
  let hostLine := if port = 80 then host else host ++ ":" ++ decimalText port
  "POST /CFIDE/main/ide.cfm?CFSRV=IDE&ACTION=" ++ request.action ++ " HTTP/1.0\r\n" ++
    "Host: " ++ hostLine ++ "\r\n" ++
    "Connection: close\r\n" ++
    "User-Agent: Mozilla/3.0 (compatible; Macromedia RDS Client)\r\n" ++
    "Accept: text/html, */*\r\n" ++
    "Accept-Encoding: deflate\r\n" ++
    "Content-type: text/html\r\n" ++
    "Content-length: " ++ decimalText length ++ "\r\n\r\n"

def frame (request : Request) (host : String) (port : Nat) (payload : Bytes) : Buffer :=
  (Buffer.empty.append (encodeText (request.head host port payload.length))).append payload

theorem bytes_foldl_appendField (fields : List Bytes) (b : Buffer) :
    (fields.foldl Buffer.appendField b).bytes =
      b.bytes ++ fields.flatMap fun f =>
        encodeText "STR:" ++ (encodeText (decimalText f.length) ++ 58 :: f) := by
  induction fields generalizing b with
  | nil => simp
  | cons f r ih => simp [ih]

end Request

/-- A reply that is no refusal: the announced count of fields and what follows it. -/
structure Reply where
  count : Nat
  body : Bytes
deriving DecidableEq

namespace Reply

def statusLines : List Bytes :=
  [encodeText "HTTP/1.1 200 ", encodeText "HTTP/1.0 200 "]

def headEnd : Bytes := [13, 10, 13, 10]

def bodyOf? (raw : Bytes) : Option Bytes :=
  if statusLines.any fun line => line.isPrefixOf raw then
    (splitAtFirst headEnd raw).map Prod.snd
  else none

def parse (raw : Bytes) : Except Failure Reply :=
  match bodyOf? raw with
  | none => .error .replyNotFound
  | some body =>
    match FieldReader.number body with
    | .error e => .error (.field e)
    | .ok (count, rest) =>
      if count < 0 then .error (.server count (Text.lossy rest))
      else .ok ⟨count.toNat, rest⟩

def read {α : Type} (reply : Reply) (reader : FieldReader α) : Except FieldError α :=
  reader.value reply.body

def singleText (reply : Reply) : Except FieldError String := do
  FieldReader.expectCount reply.count 1
  reply.read do
    let text ← FieldReader.text
    FieldReader.finish
    return text

/-- A record for every `size` fields of a reply. -/
def records {α : Type} (reply : Reply) (size : Nat) (record : FieldReader α) :
    Except FieldError (List α) := do
  let n ← FieldReader.recordCount reply.count size
  reply.read (record.repeated n)

end Reply
end RemoteDev
