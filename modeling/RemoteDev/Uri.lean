import RemoteDev.DomainName.Basic
import RemoteDev.Session.Basic
import RemoteDev.Text.Basic
import RemoteDev.Text.Utf8

/-! Addresses of servers. Percent escapes stand for bytes; the schemes of the web want domain names
or numeric addresses as hosts, all others take a host as it is written, apart from numeric addresses
of version 6; in a path a segment of one point is dropped and one of two points drops the segment
before it, unless that is the letter of a drive. -/
namespace RemoteDev

inductive UriFault where
  | noScheme
  | emptyHost
  | domainName
  | domainCharacter
  | ipv4
  | ipv6
  | port
deriving DecidableEq, Repr

def UriFault.message : UriFault → String
  | noScheme => "relative URL without a base"
  | emptyHost => "empty host"
  | domainName => "invalid international domain name"
  | domainCharacter => "invalid domain character"
  | ipv4 => "invalid IPv4 address"
  | ipv6 => "invalid IPv6 address"
  | port => "invalid port number"

inductive UriError where
  | invalid (fault : UriFault)
  | unsupportedScheme (scheme : String)
  | missingHost
  | missingCredentials
deriving DecidableEq, Repr

def UriError.message : UriError → String
  | invalid fault => "invalid URI: " ++ fault.message
  | unsupportedScheme scheme => "unsupported scheme '" ++ scheme ++ "', expected 'rds'"
  | missingHost => "URI has no host"
  | missingCredentials => "URI must carry a username and password"

namespace Percent

def sign : UInt8 := 37

def escaped? (a b : UInt8) : Option UInt8 :=
  (Text.natural? 16 [Char.ofNat a.toNat, Char.ofNat b.toNat]).map UInt8.ofNat

def decode : Bytes → Bytes
  | [] => []
  | [a] => [a]
  | [a, b] => [a, b]
  | a :: b :: c :: r =>
    if a = sign then
      match escaped? b c with
      | some x => x :: decode r
      | none => a :: decode (b :: c :: r)
    else a :: decode (b :: c :: r)

def decodeText (cs : List Char) : String := Text.lossy (decode (encodeText (String.ofList cs)))

def escape (b : UInt8) : List Char := '%' :: (hexPair b).map Char.toUpper

theorem decode_cons {a : UInt8} (h : a ≠ sign) (bs : Bytes) :
    decode (a :: bs) = a :: decode bs := by
  match bs with
  | [] => rfl
  | [_] => rfl
  | _ :: _ :: _ => rw [decode, if_neg h]

end Percent

namespace Uri

def octet? (cs : List Char) : Option Nat :=
  match cs with
  | '0' :: _ :: _ => none
  | _ => (Text.unsigned? 10 cs).filter (· < 256)

def octetGroups? (cs : List Char) : Option (List Nat) :=
  match (stretches '.' cs).mapM octet? with
  | some [a, b, c, d] => some [a * 256 + b, c * 256 + d]
  | _ => none

def group? (cs : List Char) : Option Nat :=
  if cs.length ≤ 4 then Text.unsigned? 16 cs else none

/-- Groups, the last of which may be four numbers with points between them. -/
def groupsOf? : List (List Char) → Option (List Nat)
  | [] => some []
  | [last] => if last.contains '.' then octetGroups? last else (group? last).map fun g => [g]
  | s :: r => do return (← group? s) :: (← groupsOf? r)

def groups? (cs : List Char) : Option (List Nat) :=
  if cs.isEmpty then some [] else groupsOf? (stretches ':' cs)

/-- Groups with colons between them, none of which is written with points. -/
def plainGroups? (cs : List Char) : Option (List Nat) :=
  if cs.contains '.' then none else groups? cs

def ipv6? (cs : List Char) : Option (List Nat) :=
  match splitAtFirst [':', ':'] cs with
  | some (front, back) => do
    let f ← plainGroups? front
    let b ← groups? back
    if f.length + b.length ≤ 7 then
      return f ++ List.replicate (8 - (f.length + b.length)) 0 ++ b
    else none
  | none => (groups? cs).filter fun gs => gs.length == 8

def leadingZeros (gs : List Nat) : Nat := (gs.takeWhile (· == 0)).length

def longestZeros (i : Nat) : List Nat → Nat × Nat
  | [] => (i, 0)
  | g :: r =>
    let here := leadingZeros (g :: r)
    let (j, n) := longestZeros (i + 1) r
    if n ≤ here then (i, here) else (j, n)

def groupText (g : Nat) : List Char := Nat.toDigits 16 g

def joinGroups (gs : List Nat) : List Char :=
  [':'].intercalate (gs.map groupText)

/-- The text of eight groups; the first of the longest runs of zeros is left out if it is
more than one zero. -/
def ipv6Text (gs : List Nat) : String :=
  let (i, n) := longestZeros 0 gs
  let body :=
    if n < 2 then joinGroups gs
    else joinGroups (gs.take i) ++ [':', ':'] ++ joinGroups (gs.drop (i + n))
  String.ofList ('[' :: body ++ [']'])

/-- A number in base ten, or in base eight after a zero, or in base sixteen after `0x`. -/
def basedNumber? (cs : List Char) : Option Nat :=
  match cs with
  | ['0', 'x'] | ['0', 'X'] => some 0
  | '0' :: 'x' :: r | '0' :: 'X' :: r => Text.unsigned? 16 r
  | '0' :: d :: r => Text.unsigned? 8 (d :: r)
  | _ => Text.unsigned? 10 cs

def dottedParts (cs : List Char) : List (List Char) :=
  let parts := stretches '.' cs
  if parts.getLast? == some [] then parts.dropLast else parts

def endsInNumber (cs : List Char) : Bool :=
  match (dottedParts cs).getLast? with
  | some part => (!part.isEmpty && part.all Char.isDigit) || (basedNumber? part).isSome
  | none => false

/-- Whether a name is an address of version 4: up to four numbers, of which all but the last
are below 256 and the last fills the remaining bytes. -/
def isIpv4 (cs : List Char) : Bool :=
  let parts := dottedParts cs
  match parts.mapM basedNumber? with
  | none => false
  | some numbers =>
    numbers.length ≤ 4 && numbers.dropLast.all (· < 256) &&
      numbers.getLast?.all (· < Nat.pow 256 (5 - numbers.length))

def bracketed (cs : List Char) : Except UriFault String :=
  if cs.getLast? == some ']' && 2 ≤ cs.length then
    match ipv6? (cs.drop 1).dropLast with
    | some gs => .ok (ipv6Text gs)
    | none => .error .ipv6
  else .error .ipv6

def forbiddenInHost : List Char :=
  ['\x00', '\t', '\n', '\r', ' ', '#', '/', ':', '<', '>', '?', '@', '[', '\\', ']', '^', '|']

/-- A character of a host as it is kept: controls and what is not ASCII by percent escapes. -/
def hostChar (c : Char) : List Char :=
  if c.toNat < 0x20 || 0x7F ≤ c.toNat then (String.utf8EncodeChar c).flatMap Percent.escape
  else [c]

def opaqueHost (cs : List Char) : Except UriFault String :=
  match cs with
  | '[' :: _ => bracketed cs
  | _ =>
    if cs.any forbiddenInHost.contains then .error .domainCharacter
    else .ok (String.ofList (cs.flatMap hostChar))

def forbiddenInDomain (c : Char) : Bool :=
  c.toNat < 0x20 || c.toNat == 0x7F || c == '%' || forbiddenInHost.contains c

def domainHost (cs : List Char) : Except UriFault String :=
  match cs with
  | '[' :: _ => bracketed cs
  | _ =>
    match DomainName.ofText? forbiddenInDomain (Percent.decodeText cs).toList with
    | none => .error .domainName
    | some name =>
      if name.isEmpty then .error .emptyHost
      else if endsInNumber name && !isIpv4 name then .error .ipv4
      else .ok (String.ofList name)

/-- The points that a segment is, where a point may be escaped; nothing if it is no such. -/
def pointCount? : List Char → Option Nat
  | [] => some 0
  | '.' :: r => (pointCount? r).map (· + 1)
  | '%' :: '2' :: 'e' :: r | '%' :: '2' :: 'E' :: r => (pointCount? r).map (· + 1)
  | _ => none

def isDrive : List Char → Bool
  | [c, d] => c.isAlpha && (d == ':' || d == '|')
  | c :: d :: e :: _ => c.isAlpha && (d == ':' || d == '|') && e == '\\'
  | _ => false

def parent : List (List Char) → List (List Char)
  | [] => []
  | d :: r => if isDrive d then d :: r else r

def directoryPath (directories : List (List Char)) : List Char :=
  '/' :: directories.reverse.flatMap fun d => d ++ ['/']

def walk (directories : List (List Char)) : List (List Char) → List Char
  | [] => directoryPath directories
  | [last] =>
    match pointCount? last with
    | some 1 => directoryPath directories
    | some 2 => directoryPath (parent directories)
    | _ => directoryPath directories ++ last
  | s :: r =>
    match pointCount? s with
    | some 1 => walk directories r
    | some 2 => walk (parent directories) r
    | _ => walk (s :: directories) r

/-- The path at the beginning of a text, which a question mark or a hash sign ends. A path
that does not begin with a slash gets one. -/
def pathOf (s : List Char) : List Char :=
  match s.takeWhile fun c => c ≠ '?' && c ≠ '#' with
  | [] => []
  | '/' :: r => walk [] (stretches '/' r)
  | cs => walk [] (stretches '/' cs)

end Uri

structure Uri where
  host : String
  port : Nat
  username : String
  password : String
  path : String
deriving DecidableEq, Repr

namespace Uri

/-- Drops spaces and controls at both ends, and tabs and line ends everywhere. -/
def cleaned (cs : List Char) : List Char :=
  let isEdge := fun c : Char => c.toNat ≤ 0x20
  let trimmed := ((cs.dropWhile isEdge).reverse.dropWhile isEdge).reverse
  trimmed.filter fun c => c ≠ '\t' && c ≠ '\n' && c ≠ '\r'

def isSchemeChar (c : Char) : Bool := c.isAlphanum || c == '+' || c == '-' || c == '.'

def scheme? (s : List Char) : Option (String × List Char) :=
  match s.takeWhile isSchemeChar, s.dropWhile isSchemeChar with
  | c :: r, ':' :: rest =>
    if c.isAlpha then some (String.ofList ((c :: r).map Char.toLower), rest) else none
  | _, _ => none

def webSchemes : List String := ["http", "https", "ws", "wss", "ftp"]

/-- What ends the part of an address that names the server; a backslash does so on the web. -/
def endsAuthority (web : Bool) (c : Char) : Bool :=
  c == '/' || c == '?' || c == '#' || (web && c == '\\')

structure Authority where
  username : List Char
  password : List Char
  host : String
  port : Option Nat

def splitAtLastAt (cs : List Char) : Option (List Char × List Char) :=
  if cs.contains '@' then
    let r := cs.reverse
    some (((r.dropWhile (· ≠ '@')).drop 1).reverse, (r.takeWhile (· ≠ '@')).reverse)
  else none

def splitUser (web : Bool) (s : List Char) : Except UriFault (List Char × List Char) :=
  let part := s.takeWhile fun c => !endsAuthority web c
  let rest := s.dropWhile fun c => !endsAuthority web c
  match splitAtLastAt part with
  | none => .ok ([], s)
  | some (user, server) =>
    if user.isEmpty && server.isEmpty && !rest.isEmpty then .error .emptyHost
    else .ok (user, server ++ rest)

/-- The host's part, in which colons count only between brackets, and the rest. -/
def splitHost (web : Bool) (inside : Bool) : List Char → List Char × List Char
  | [] => ([], [])
  | c :: r =>
    if (c == ':' && !inside) || endsAuthority web c then ([], c :: r)
    else
      let (host, rest) := splitHost web (c == '[' || (inside && c != ']')) r
      (c :: host, rest)

def portOf (s : List Char) : Except UriFault (Option Nat × List Char) :=
  let ds := s.takeWhile Char.isDigit
  let rest := s.dropWhile Char.isDigit
  let port := Text.unsigned? 10 ds
  if port.all (· < 65536) && rest.head?.all (endsAuthority true) then .ok (port, rest)
  else .error .port

def authority (web : Bool) (s : List Char) : Except UriFault (Authority × List Char) := do
  let (user, s₁) ← splitUser web s
  let username := user.takeWhile (· ≠ ':')
  let password := (user.dropWhile (· ≠ ':')).drop 1
  let (name, s₂) := splitHost web false s₁
  if web && name.isEmpty then throw .emptyHost
  let host ← if web then domainHost name else opaqueHost name
  let colon := s₂.head? == some ':'
  if host.isEmpty && colon then throw .emptyHost
  let (port, s₃) ← if colon then portOf (s₂.drop 1) else pure (none, s₂)
  if host.isEmpty && !(username.isEmpty && password.isEmpty) then throw .emptyHost
  return ({ username, password, host, port }, s₃)

def checkFileHost (s : List Char) : Except UriFault Unit :=
  match s with
  | c :: d :: r =>
    let slash := fun c : Char => c == '/' || c == '\\'
    let name := r.takeWhile fun c => !endsAuthority true c
    if slash c && slash d && !name.isEmpty && !(name.length == 2 && isDrive name) then
      (domainHost name).map fun _ => ()
    else .ok ()
  | _ => .ok ()

def defaultPort : Nat := 80

def ofParts (a : Authority) (rest : List Char) : Except UriError Uri :=
  let username := Percent.decodeText a.username
  let password := Percent.decodeText a.password
  if a.host = "" then .error .missingHost
  else if username = "" ∨ password = "" then .error .missingCredentials
  else .ok
    { host := a.host
      port := a.port.getD defaultPort
      username
      password
      path := Percent.decodeText (pathOf rest) }

def read (text : String) : Except UriError Uri := do
  let some (scheme, s) := scheme? (cleaned text.toList) | throw (.invalid .noScheme)
  if webSchemes.contains scheme then
    let _ ← (authority true (s.dropWhile fun c => c == '/' || c == '\\')).mapError UriError.invalid
    throw (.unsupportedScheme scheme)
  if scheme == "file" then
    (checkFileHost s).mapError UriError.invalid
    throw (.unsupportedScheme scheme)
  match s with
  | '/' :: '/' :: r =>
    let (a, rest) ← (authority false r).mapError UriError.invalid
    if scheme != "rds" then throw (.unsupportedScheme scheme)
    ofParts a rest
  | _ =>
    if scheme != "rds" then throw (.unsupportedScheme scheme)
    throw .missingHost

def endpoint (u : Uri) : Except Failure Endpoint :=
  Endpoint.make u.host u.port u.username u.password

end Uri
end RemoteDev
