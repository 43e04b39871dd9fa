import RemoteDev.Json.Basic
import RemoteDev.Text.Basic
import RemoteDev.Text.Quoted

/-! Reading JSON documents from text, and integers from the members of an object. The members that
are present are checked first, in the order of their names; whether one is missing shows only
afterwards. -/
namespace RemoteDev
namespace Json

def isSpace (c : Char) : Bool := c == ' ' || c == '\n' || c == '\t' || c == '\r'

def skipSpaces (s : List Char) : List Char := s.dropWhile isSpace

abbrev Reader (α : Type) := List Char → Except JsonFault (α × List Char)

def shortEscape? : Char → Option Char
  | '"' => some '"'
  | '\\' => some '\\'
  | '/' => some '/'
  | 'b' => some '\x08'
  | 'f' => some '\x0C'
  | 'n' => some '\n'
  | 'r' => some '\r'
  | 't' => some '\t'
  | _ => none

def hexUnit? (a b c d : Char) : Option Nat := Text.unsigned? 16 [a, b, c, d]

def plainUnit? (n : Nat) : Option Char :=
  if 0xD800 ≤ n ∧ n < 0xE000 then none else some (Char.ofNat n)

def unitPair? (n m : Nat) : Option Char :=
  if 0xD800 ≤ n ∧ n < 0xDC00 ∧ 0xDC00 ≤ m ∧ m < 0xE000 then
    some (Char.ofNat (0x10000 + (n - 0xD800) * 0x400 + (m - 0xDC00)))
  else none

/-- The rest of a string after its opening quote; `out` is what has been read, in reverse. -/
def stringBody (out : List Char) : Reader String
  | [] => .error .unexpectedEnd
  | '"' :: r => .ok (String.ofList out.reverse, r)
  | '\\' :: 'u' :: a :: b :: c :: d :: r =>
    match hexUnit? a b c d with
    | none => .error .badEscape
    | some n =>
      match plainUnit? n with
      | some ch => stringBody (ch :: out) r
      | none =>
        match r with
        | '\\' :: 'u' :: a' :: b' :: c' :: d' :: r' =>
          match (hexUnit? a' b' c' d').bind (unitPair? n) with
          | some ch => stringBody (ch :: out) r'
          | none => .error .badEscape
        | _ => .error .badEscape
  | '\\' :: c :: r =>
    match shortEscape? c with
    | some ch => stringBody (ch :: out) r
    | none => .error .badEscape
  | c :: r => if c.toNat < 0x20 then .error .controlCharacter else stringBody (c :: out) r

/-- The items of a list up to its end, where an item is due; `done` holds those already read,
in reverse. -/
def itemsAfter (item : Reader Json) (done : List Json) : Nat → Reader Json
  | 0, _ => .error .unexpectedEnd
  | fuel + 1, s => do
    let (x, r) ← item s
    match skipSpaces r with
    | ',' :: r' => itemsAfter item (x :: done) fuel (skipSpaces r')
    | ']' :: r' => return (.list (x :: done).reverse, r')
    | c :: _ => throw (.unexpected c)
    | [] => throw .unexpectedEnd

def memberOf (item : Reader Json) : Reader (String × Json)
  | '"' :: r => do
    let (name, r₁) ← stringBody [] r
    match skipSpaces r₁ with
    | ':' :: r₂ =>
      let (x, r₃) ← item (skipSpaces r₂)
      return ((name, x), r₃)
    | c :: _ => throw (.unexpected c)
    | [] => throw .unexpectedEnd
  | c :: _ => .error (.unexpected c)
  | [] => .error .unexpectedEnd

def membersAfter (item : Reader Json) (done : List (String × Json)) : Nat → Reader Json
  | 0, _ => .error .unexpectedEnd
  | fuel + 1, s => do
    let ((name, x), r) ← memberOf item s
    match skipSpaces r with
    | ',' :: r' => membersAfter item (setMember name x done) fuel (skipSpaces r')
    | '\x7d' :: r' => return (.object (setMember name x done), r')
    | c :: _ => throw (.unexpected c)
    | [] => throw .unexpectedEnd

def listBody (item : Reader Json) : Reader Json := fun s =>
  match skipSpaces s with
  | ']' :: r => .ok (.list [], r)
  | s' => itemsAfter item [] s'.length s'

def objectBody (item : Reader Json) : Reader Json := fun s =>
  match skipSpaces s with
  | '\x7d' :: r => .ok (.object [], r)
  | s' => membersAfter item [] s'.length s'

def spelled (rest : String) (x : Json) : Reader Json := fun s =>
  if rest.toList.isPrefixOf s then .ok (x, s.drop rest.toList.length)
  else .error (match s with | [] => .unexpectedEnd | c :: _ => .unexpected c)

/-- A value that nests lists and objects less than `depth` deep. -/
def value : Nat → Reader Json
  | _, [] => .error .unexpectedEnd
  | depth, c :: r =>
    if c == 'n' then spelled "ull" .null r
    else if c == 't' then spelled "rue" (.bool true) r
    else if c == 'f' then spelled "alse" (.bool false) r
    else if c == '"' then (stringBody [] r).map fun (s, r') => (.text s, r')
    else if c == '-' || Binary64.isDigit c then number (c :: r)
    else if c == '[' then
      match depth with
      | 0 | 1 => .error .tooDeep
      | depth + 2 => listBody (value (depth + 1)) r
    else if c == '\x7b' then
      match depth with
      | 0 | 1 => .error .tooDeep
      | depth + 2 => objectBody (value (depth + 1)) r
    else .error (.unexpected c)

/-- Lists and objects nest less than this deep. -/
def depthLimit : Nat := 128

def read (text : String) : Except JsonFault Json := do
  let (x, r) ← value depthLimit (skipSpaces text.toList)
  match skipSpaces r with
  | [] => return x
  | _ => throw .trailing

end Json

/-- Why a JSON reply cannot be used: it is no JSON, or lacks the integers it should hold. -/
inductive JsonError where
  | malformed (fault : Json.JsonFault)
  | missingMember (name : String)
  | notInteger (found : Json)

namespace Json

def described : Json → String
  | null => "invalid type: null"
  | bool b => "invalid type: boolean " ++ "\x60" ++ (if b then "true" else "false") ++ "\x60"
  | integer n => "invalid value: integer " ++ "\x60" ++ signedText n ++ "\x60"
  | float x => "invalid type: floating point " ++ "\x60" ++ x.quotedText ++ "\x60"
  | text s => "invalid type: string " ++ Text.quoted s
  | list _ => "invalid type: sequence"
  | object _ => "invalid type: map"

def word : Json → Except JsonError Int
  | integer n => if Text.inWordRange n then .ok n else .error (.notInteger (integer n))
  | other => .error (.notInteger other)

/-- The integers among the members of an object that have one of some names. -/
def words (names : List String) : Json → Except JsonError (List (String × Int))
  | object members => (members.filter fun (n, _) => names.contains n).mapM fun (n, v) => do
    return (n, ← word v)
  | other => .error (.notInteger other)

def wordNamed (found : List (String × Int)) (name : String) : Except JsonError Int :=
  match found.lookup name with
  | some n => .ok n
  | none => .error (.missingMember name)

end Json

def JsonError.message : JsonError → String
  | malformed fault => fault.message
  | missingMember name => "missing field \x60" ++ name ++ "\x60"
  | notInteger found => found.described ++ ", expected i64"

end RemoteDev
