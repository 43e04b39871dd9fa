import RemoteDev.Packet.Value
import RemoteDev.Text.Basic

/-! Looking up and putting values by path, and packets of a header and a data tree. A path is
segments with commas between them; a segment of at most ten digits is an array index, any other a
field name. Putting makes the containers that are missing on the way and refuses to enter a node of
the wrong kind, in which case nothing changes. -/
namespace RemoteDev

def PacketError.message : PacketError → String
  | emptySegment path => "path '" ++ path ++ "' has an empty segment"
  | needsArray path segment =>
    "path '" ++ path ++ "': segment '" ++ segment ++ "' needs an array"
  | needsStruct path segment =>
    "path '" ++ path ++ "': segment '" ++ segment ++ "' needs a struct"
  | indexTooLarge index => "array index " ++ decimalText index ++ " is too large"
  | malformed error => error.message

inductive Segment where
  | index (i : Nat)
  | field (name : String)
deriving DecidableEq, Repr

namespace Segment

def maxIndexDigits : Nat := 10

def index? (cs : List Char) : Option Nat :=
  if cs.length ≤ maxIndexDigits then Text.unsigned? 10 cs else none

def ofText (path : String) (cs : List Char) : Except PacketError Segment :=
  if cs.isEmpty then .error (.emptySegment path)
  else match index? cs with
    | some i => if i < Value.maxLength then .ok (.index i) else .error (.indexTooLarge i)
    | none => .ok (.field (String.ofList cs))

def shown : Segment → String
  | index i => decimalText i
  | field name => name

def mismatch (path : String) : Segment → PacketError
  | index i => .needsArray path (shown (.index i))
  | field name => .needsStruct path name

end Segment

namespace Path

/-- The segments of a path, none if the path is empty. -/
def parse (path : String) : Except PacketError (List Segment) :=
  if path.isEmpty then .ok [] else (stretches ',' path.toList).mapM (Segment.ofText path)

end Path

namespace Value

def child? : Value → Segment → Option Value
  | array items, .index i => slotAt items i
  | struct fields, .field name => fieldOf fields name
  | _, _ => none

def descend (v : Value) : List Segment → Option Value
  | [] => some v
  | s :: r => (v.child? s).bind fun w => w.descend r

@[simp] theorem descend_nil (v : Value) : v.descend [] = some v := rfl

theorem descend_append (v : Value) (p q : List Segment) :
    v.descend (p ++ q) = (v.descend p).bind fun w => w.descend q := by
  induction p generalizing v with
  | nil => rfl
  | cons s r ih =>
    simp only [List.cons_append, descend]
    cases v.child? s with
    | none => rfl
    | some w => exact ih w

def get? (v : Value) (path : String) : Option Value :=
  match Path.parse path with
  | .ok segments => v.descend segments
  | .error _ => none

/-- The tree with a leaf at the end of the segments, or the segment that cannot be entered. -/
def place (leaf : Value) : List Segment → Option Value → Except Segment Value
  | [], _ => .ok leaf
  | .index i :: r, none => do return array (setSlot [] i (← place leaf r none))
  | .index i :: r, some (array items) => do
    return array (setSlot items i (← place leaf r (slotAt items i)))
  | .field name :: r, none => do
    return struct (setField name (some (← place leaf r none)) [])
  | .field name :: r, some (struct fields) => do
    return struct (setField name (some (← place leaf r (fieldOf fields name))) fields)
  | s :: _, some _ => .error s

end Value

/-- What an exchange carries: a header tree and a data tree, either of which may be absent. -/
structure Packet where
  header : Option Value := none
  data : Option Value := none

namespace Packet

def empty : Packet := {}

def put (p : Packet) (path : String) (value : Value) : Except PacketError Packet := do
  let segments ← Path.parse path
  match value.place segments p.data with
  | .ok data => return { p with data := some data }
  | .error s => throw (s.mismatch path)

def get? (p : Packet) (path : String) : Option Value := p.data.bind fun v => v.get? path

def bool? (p : Packet) (path : String) : Option Bool := (p.get? path).bind Value.bool?

def number? (p : Packet) (path : String) : Option Binary64 := (p.get? path).bind Value.number?

def text? (p : Packet) (path : String) : Option String := (p.get? path).bind Value.text?

def same (p q : Packet) : Bool :=
  Value.sameSlot p.header q.header && Value.sameSlot p.data q.data

end Packet
end RemoteDev
