import RemoteDev.Text.Basic

/-! Names and character data of markup documents: the escapes that writing uses, the references that
reading resolves, and what becomes of line ends. -/
namespace RemoteDev.Markup

inductive MarkupError where
  | forbiddenCharacter
  | badName
  | badTag
  | badAttribute
  | badReference
  | badComment
  | badDeclaration
  | badInstruction
  | unsupportedDeclaration
  | endOfTextMarker
  | unclosed
  | unexpectedEnd
  | contentOutsideRoot
  | mismatchedEnd
  | reservedNamespace
  | unknownNamespace (name : String)
  | duplicateAttribute (name : String)
deriving DecidableEq, Repr

def MarkupError.message : MarkupError → String
  | forbiddenCharacter => "a character that documents cannot hold"
  | badName => "invalid name"
  | badTag => "invalid tag"
  | badAttribute => "invalid attribute"
  | badReference => "invalid character reference"
  | badComment => "invalid comment"
  | badDeclaration => "invalid document declaration"
  | badInstruction => "invalid processing instruction"
  | unsupportedDeclaration => "unsupported declaration"
  | endOfTextMarker => "']]>' in character data"
  | unclosed => "an element is not closed"
  | unexpectedEnd => "an end tag without a start tag"
  | contentOutsideRoot => "content outside the root element"
  | mismatchedEnd => "an end tag that does not match its start tag"
  | reservedNamespace => "a reserved namespace"
  | unknownNamespace name => "unknown namespace '" ++ name ++ "'"
  | duplicateAttribute name => "duplicate attribute '" ++ name ++ "'"

def isDocumentChar (c : Char) : Bool :=
  let n := c.toNat
  if n < 0x20 then n == 9 || n == 10 || n == 13 else n != 0xFFFE && n != 0xFFFF

def isSpace (c : Char) : Bool := c == ' ' || c == '\t' || c == '\n' || c == '\r'

def isLetter (c : Char) : Bool := ('a' ≤ c && c ≤ 'z') || ('A' ≤ c && c ≤ 'Z')

def isWideNameStart (n : Nat) : Bool :=
  (0xC0 ≤ n && n ≤ 0xD6) || (0xD8 ≤ n && n ≤ 0xF6) || (0xF8 ≤ n && n ≤ 0x2FF) ||
  (0x370 ≤ n && n ≤ 0x37D) || (0x37F ≤ n && n ≤ 0x1FFF) || (0x200C ≤ n && n ≤ 0x200D) ||
  (0x2070 ≤ n && n ≤ 0x218F) || (0x2C00 ≤ n && n ≤ 0x2FEF) || (0x3001 ≤ n && n ≤ 0xD7FF) ||
  (0xF900 ≤ n && n ≤ 0xFDCF) || (0xFDF0 ≤ n && n ≤ 0xFFFD) || (0x10000 ≤ n && n ≤ 0xEFFFF)

def isNameStart (c : Char) : Bool :=
  isLetter c || c == ':' || c == '_' || isWideNameStart c.toNat

def isNameChar (c : Char) : Bool :=
  isNameStart c || ('0' ≤ c && c ≤ '9') || c == '-' || c == '.' || c.toNat == 0xB7 ||
  (0x300 ≤ c.toNat && c.toNat ≤ 0x36F) || c.toNat == 0x203F || c.toNat == 0x2040

structure QualifiedName where
  space : String
  base : String
deriving DecidableEq, Repr

def beginsName (cs : List Char) : Bool :=
  match cs with
  | [] => true
  | c :: _ => isNameStart c

def qualifiedName (s : List Char) : Except MarkupError (QualifiedName × List Char) :=
  let run := s.takeWhile isNameChar
  let rest := s.dropWhile isNameChar
  let front := run.takeWhile (· ≠ ':')
  let (space, base) := match run.dropWhile (· ≠ ':') with
    | [] => ([], front)
    | _ :: r => (front, r)
  if base.isEmpty || base.contains ':' || !beginsName space || !beginsName base then
    .error .badName
  else .ok (⟨String.ofList space, String.ofList base⟩, rest)

def plainName (s : List Char) : Except MarkupError (List Char × List Char) :=
  match s with
  | [] => .error .badName
  | c :: _ =>
    if isNameStart c then .ok (s.takeWhile isNameChar, s.dropWhile isNameChar)
    else .error .badName

/-- The written form of a character, in text and in attribute values alike. -/
def escapeChar (c : Char) : List Char :=
  if c = '<' then ['&', 'l', 't', ';']
  else if c = '>' then ['&', 'g', 't', ';']
  else if c = '&' then ['&', 'a', 'm', 'p', ';']
  else if c = '\'' then ['&', 'a', 'p', 'o', 's', ';']
  else if c = '"' then ['&', 'q', 'u', 'o', 't', ';']
  else [c]

def escape (cs : List Char) : List Char := cs.flatMap escapeChar

/-- The character of a code number; a number that is no character gives the replacement
character, and a character that documents cannot hold gives nothing. -/
def charOfCode? (n : Nat) : Option Char :=
  if 0x100000000 ≤ n then none
  else
    let c := if n.isValidChar then Char.ofNat n else '\uFFFD'
    if isDocumentChar c then some c else none

def referenced? (name : List Char) : Option Char :=
  match name with
  | '#' :: 'x' :: ds => (Text.unsigned? 16 ds).bind charOfCode?
  | '#' :: ds => (Text.unsigned? 10 ds).bind charOfCode?
  | ['l', 't'] => some '<'
  | ['g', 't'] => some '>'
  | ['a', 'm', 'p'] => some '&'
  | ['a', 'p', 'o', 's'] => some '\''
  | ['q', 'u', 'o', 't'] => some '"'
  | _ => none

/-- A character of the document: written as itself or by a reference. -/
inductive Piece where
  | literal (c : Char)
  | reference (c : Char)
deriving DecidableEq, Repr

theorem length_of_dropWhile_cons {p : Char → Bool} {s r : List Char} {c : Char}
    (h : s.dropWhile p = c :: r) : r.length < s.length := by
  have := (List.dropWhile_sublist p (l := s)).length_le
  rw [h, List.length_cons] at this
  exact this

def pieces (s : List Char) : Except MarkupError (List Piece) :=
  let plain := (s.takeWhile (· ≠ '&')).map Piece.literal
  match h : s.dropWhile (· ≠ '&') with
  | [] => .ok plain
  | _ :: r =>
    match h' : r.dropWhile (· ≠ ';') with
    | [] => .error .badReference
    | _ :: r' =>
      match referenced? (r.takeWhile (· ≠ ';')) with
      | none => .error .badReference
      | some c =>
        have := length_of_dropWhile_cons h
        have := length_of_dropWhile_cons h'
        (pieces r').map fun ps => plain ++ Piece.reference c :: ps
termination_by s.length

/-- Adds a literal character to text in reverse. A carriage return becomes a line feed, and
a line feed after it is dropped; the carriage return is told from the next character. -/
def pushLiteral (out : List Char) (c : Char) (atEnd : Bool) : List Char :=
  match out with
  | '\r' :: r =>
    if atEnd && c == '\r' then '\n' :: '\n' :: r
    else if c ≠ '\n' then c :: '\n' :: r
    else '\n' :: r
  | _ => if atEnd && c == '\r' then '\n' :: out else c :: out

/-- Joins the pieces of a text. Referenced characters are kept as they are, and so is the
literal character right after one until another literal follows. -/
def joinText (out : List Char) (afterReference : Bool) : List Piece → List Char
  | [] => out.reverse
  | .reference c :: r => joinText (c :: out) true r
  | .literal c :: r =>
    if afterReference then joinText (c :: out) false r
    else joinText (pushLiteral out c r.isEmpty) false r

def textOf (s : List Char) : Except MarkupError String :=
  (pieces s).map fun ps => String.ofList (joinText [] false ps)

def literalText (s : List Char) : String :=
  String.ofList (joinText [] false (s.map Piece.literal))

/-- Joins the pieces of an attribute value: literal blanks become spaces, and a literal line
end of two characters becomes one. -/
def joinValue : List Piece → List Char
  | [] => []
  | .reference c :: r => c :: joinValue r
  | .literal c :: r =>
    match c, r with
    | '\r', .literal '\n' :: _ => joinValue r
    | _, _ => (if c == '\n' || c == '\r' || c == '\t' then ' ' else c) :: joinValue r

def valueOf (s : List Char) : Except MarkupError String :=
  (pieces s).map fun ps => String.ofList (joinValue ps)

end RemoteDev.Markup
