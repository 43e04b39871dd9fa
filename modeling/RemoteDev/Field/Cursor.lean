import RemoteDev.Field.Reader

/-! A cursor over the bytes of a reply. A step passes bytes in stages and may fail at each of them;
a step that fails puts the cursor back where it stood. -/
namespace RemoteDev

/-- A computation over unread bytes. What it has passed stays passed if it fails. -/
abbrev Cursor (α : Type) := ExceptT FieldError (StateM Bytes) α

namespace Cursor

open FieldReader (splitColon dropTag numeral)

def runOn {α : Type} (c : Cursor α) (unread : Bytes) : Except FieldError α × Bytes :=
  (ExceptT.run c).run unread

def number : Cursor Int := do
  let unread ← get
  match splitColon unread with
  | none => throw .unterminatedNumber
  | some (digits, rest) =>
    match numeral digits with
    | .ok n => do
      set rest
      return n
    | .error text => throw (.invalidNumber text)

/-- Passes a tag, then a length, then a field; a failure leaves the cursor behind what it has
passed. -/
def passField : Cursor Bytes := do
  modify dropTag
  let declared ← number
  if declared < 0 then throw (.negativeLength declared)
  let n := declared.toNat
  let unread ← get
  if unread.length < n then throw (.truncated n unread.length)
  set (unread.drop n)
  return unread.take n

def bytes : Cursor Bytes := do
  let start ← get
  tryCatch passField fun e => do
    set start
    throw e

def text : Cursor String := do
  let b ← bytes
  return Text.lossy b

def integer (field : String) : Cursor Int := do
  let start ← get
  let b ← bytes
  match numeral b with
  | .ok n => return n
  | .error text => do
    set start
    throw (.invalidField field (.notInteger text))

/-- What a computation would make of what is unread; the cursor stays where it stands. -/
def peek {α : Type} (c : Cursor α) : Cursor α := do
  let unread ← get
  match (c.runOn unread).1 with
  | .ok a => return a
  | .error e => throw e

/-- Passes one field that holds a decimal integer, or nothing for zero. The field is looked at
first, and then passed in the one way or the other. -/
def integerOrEmpty (field : String) : Cursor Int := do
  let b ← peek bytes
  if b.isEmpty then do
    let _ ← bytes
    return 0
  else integer field

inductive Step
  | number
  | bytes
  | text
  | integer (field : String)
  | integerOrEmpty (field : String)

namespace Step

abbrev Value : Step → Type
  | number => Int
  | bytes => Bytes
  | text => String
  | integer _ => Int
  | integerOrEmpty _ => Int

def take : (s : Step) → Cursor s.Value
  | number => Cursor.number
  | bytes => Cursor.bytes
  | text => Cursor.text
  | integer field => Cursor.integer field
  | integerOrEmpty field => Cursor.integerOrEmpty field

end Step

/-- What is unread after some steps, of which each goes on where the one before it has left the
cursor, failed or not. -/
def unreadAfter : List Step → Bytes → Bytes
  | [], data => data
  | s :: steps, data => unreadAfter steps (s.take.runOn data).2

end Cursor
end RemoteDev
