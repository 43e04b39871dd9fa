import RemoteDev.Calendar
import RemoteDev.Wire

/-! What the server says of files: the content of one, the entries of a directory, and the lines in
which a listing is shown to a user. -/
namespace RemoteDev

structure FileContent where
  data : Bytes
  modified : String
  permission : String
deriving DecidableEq

namespace Reply

def fileContent (reply : Reply) : Except FieldError FileContent := do
  FieldReader.expectCount reply.count 3
  reply.read do
    let data ← FieldReader.bytes
    let modified ← FieldReader.text
    let permission ← FieldReader.text
    return ⟨data, modified, permission⟩

def firstText (reply : Reply) : Except FieldError String := do
  if reply.count < 1 then throw (.fieldCount (.atLeast 1) reply.count)
  reply.read FieldReader.text

def texts (reply : Reply) : Except FieldError (List String) := reply.records 1 FieldReader.text

end Reply

/-- Eight permission bits of a file or directory. -/
structure Permissions where
  bits : UInt8
deriving DecidableEq, Repr

namespace Permissions

def readOnly : UInt8 := 0x01
def hidden : UInt8 := 0x02
def system : UInt8 := 0x04
def archive : UInt8 := 0x10
def normal : UInt8 := 0x80

def contains (p : Permissions) (flag : UInt8) : Bool := p.bits &&& flag == flag

def text (p : Permissions) : String := "0x" ++ String.ofList (hexPair p.bits)

end Permissions

inductive EntryKind where
  | file
  | directory
deriving DecidableEq, Repr

def EntryKind.mark : EntryKind → Bytes
  | file => encodeText "F:"
  | directory => encodeText "D:"

def EntryKind.ofMark? (mark : Bytes) : Option EntryKind :=
  if mark = EntryKind.file.mark then some .file
  else if mark = EntryKind.directory.mark then some .directory
  else none

structure Entry where
  kind : EntryKind
  name : String
  permissions : Permissions
  size : Nat
  /-- Milliseconds since the beginning of 1970, negative before. -/
  modified : Int
deriving DecidableEq, Repr

namespace Entry

/-- Milliseconds from the beginning of 1601, where ticks count from, to that of 1970. -/
def epochOffset : Int := 11644473600000

/-- The time of a tick count in milliseconds; a tick is a ten-thousandth of one. -/
def millisecondsOfTicks (ticks : Nat) : Int := (ticks / 10000 : Nat) - epochOffset

/-- The word of 32 bits that a number, which may be shown with a sign, stands for. -/
def word32 (n : Int) : Nat := (n % 0x100000000).toNat

theorem word32_lt (n : Int) : word32 n < 0x100000000 := by
  unfold word32
  omega

def millisecondsOfWords (low high : Nat) : Int := millisecondsOfTicks (low + 0x100000000 * high)

def ticksOfWords (low high : UInt32) : UInt64 := low.toUInt64 ||| (high.toUInt64 <<< 32)

/-- The time of a tick count in two words, computed within words of 64 bits. -/
def timeOfWords (low high : UInt32) : Int64 :=
  (ticksOfWords low high / 10000).toInt64 - 11644473600000

/-- The time that two words with a comma between them show. -/
def time? (text : String) : Option Int := do
  let (low, high) ← splitAtFirst [','] text.toList
  let l ← Text.word? (Text.trim low)
  let h ← Text.word? (Text.trim high)
  return (timeOfWords (.ofNat (word32 l)) (.ofNat (word32 h))).toInt

def reader : FieldReader Entry := do
  let mark ← FieldReader.bytes
  let some kind := EntryKind.ofMark? mark
    | throw (.invalidField "entry kind" (.unrecognised (Text.lossy mark)))
  let name ← FieldReader.text
  let bits ← FieldReader.integer "permissions"
  if bits < 0 ∨ 255 < bits then throw (.invalidField "permissions" (.outsideByte bits))
  let size ← FieldReader.integer "size"
  if size < 0 then throw (.invalidField "size" (.negative size))
  let shown ← FieldReader.text
  let some modified := time? shown
    | throw (.invalidField "timestamp" (.unrecognised shown))
  return ⟨kind, name, ⟨UInt8.ofNat bits.toNat⟩, size.toNat, modified⟩

end Entry

def Reply.listing (reply : Reply) : Except FieldError (List Entry) :=
  reply.records 5 Entry.reader

namespace Entry

def flagLetter (flag : Bool) (letter : Char) : Char := if flag then letter else '-'

def attributes (e : Entry) : String :=
  String.ofList
    [flagLetter (e.kind = .directory) 'D',
      flagLetter (e.permissions.contains Permissions.readOnly) 'R',
      flagLetter (e.permissions.contains Permissions.hidden) 'H',
      flagLetter (e.permissions.contains Permissions.archive) 'A',
      flagLetter (e.permissions.contains Permissions.normal) 'N']

/-- Attributes, size, time of last change and name; the time is as a calendar shows it, a question
mark if it does not. -/
def lineIn (calendar : Int → Option String) (e : Entry) : String :=
  e.attributes ++ " " ++ Calendar.padded ' ' 12 (decimalText e.size) ++ " " ++
    (calendar e.modified).getD "?" ++ " " ++ e.name

def line (offset : Int) (e : Entry) : String := e.lineIn (Calendar.timeText? offset)

end Entry
end RemoteDev
