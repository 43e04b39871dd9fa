import RemoteDev.Markup.CharacterData
import RemoteDev.Text.Basic

/-! Tokens of a markup document: tags with their attributes, stretches of character data and
what stands aside from the content. Character data is kept as written. -/
namespace RemoteDev.Markup

structure RawAttribute where
  name : QualifiedName
  value : List Char
deriving DecidableEq, Repr

inductive Token where
  | start (name : QualifiedName) (attributes : List RawAttribute) (closed : Bool)
  | stop (name : QualifiedName)
  | text (raw : List Char)
  | literal (raw : List Char)
  | aside
deriving DecidableEq, Repr

def skipSpaces (s : List Char) : List Char := s.dropWhile isSpace

def quoted (quote : Char) (s : List Char) : Except MarkupError (List Char × List Char) :=
  let value := s.takeWhile fun c => c ≠ quote && c ≠ '<'
  if !value.all isDocumentChar then .error .forbiddenCharacter
  else match s.dropWhile fun c => c ≠ quote && c ≠ '<' with
    | c :: r => if c = quote then .ok (value, r) else .error .badAttribute
    | [] => .error .badAttribute

def oneAttribute (s : List Char) : Except MarkupError (RawAttribute × List Char) := do
  let (name, s₁) ← qualifiedName s
  match skipSpaces s₁ with
  | '=' :: s₂ =>
    match skipSpaces s₂ with
    | '\'' :: s₃ => let (value, r) ← quoted '\'' s₃; return (⟨name, value⟩, r)
    | '"' :: s₃ => let (value, r) ← quoted '"' s₃; return (⟨name, value⟩, r)
    | _ => throw .badAttribute
  | _ => throw .badAttribute

/-- The attributes, at most `fuel` of them, and the end of a start tag; each attribute has a
space in front. -/
def attributes : Nat → List Char → Except MarkupError (List RawAttribute × Bool × List Char)
  | 0, _ => .error .unclosed
  | fuel + 1, s =>
    match skipSpaces s with
    | [] => .error .unclosed
    | '>' :: r => .ok ([], false, r)
    | '/' :: '>' :: r => .ok ([], true, r)
    | c :: r => do
      if !(s.headD c |> isSpace) then throw .badTag
      let (a, s₁) ← oneAttribute (c :: r)
      let (as, closed, s₂) ← attributes fuel s₁
      return (a :: as, closed, s₂)

def startTag (fuel : Nat) (s : List Char) : Except MarkupError (Token × List Char) := do
  let (name, s₁) ← qualifiedName s
  let (as, closed, s₂) ← attributes fuel s₁
  return (.start name as closed, s₂)

def endTag (s : List Char) : Except MarkupError (Token × List Char) := do
  let (name, s₁) ← qualifiedName s
  match skipSpaces s₁ with
  | '>' :: r => return (.stop name, r)
  | _ => throw .badTag

/-- A comment holds no two hyphens in a row and does not end in one. -/
def comment (s : List Char) : Except MarkupError (Token × List Char) :=
  match splitAtFirst ['-', '-', '>'] s with
  | none => .error .badComment
  | some (body, r) =>
    if !body.all isDocumentChar then .error .forbiddenCharacter
    else if occursIn ['-', '-'] body || body.getLast? == some '-' then .error .badComment
    else .ok (.aside, r)

def instruction (s : List Char) : Except MarkupError (Token × List Char) := do
  if "xml ".toList.isPrefixOf s then throw .badDeclaration
  let (_, s₁) ← plainName s
  match splitAtFirst ['?', '>'] (skipSpaces s₁) with
  | none => throw .badInstruction
  | some (body, r) =>
    if !body.all isDocumentChar then throw .forbiddenCharacter
    return (.aside, r)

def literalSection (s : List Char) : Except MarkupError (Token × List Char) :=
  match splitAtFirst [']', ']', '>'] s with
  | none => .error .unclosed
  | some (body, r) =>
    if !body.all isDocumentChar then .error .forbiddenCharacter
    else .ok (.literal body, r)

def characterData (s : List Char) : Except MarkupError (Token × List Char) :=
  let run := s.takeWhile (· ≠ '<')
  if !run.all isDocumentChar then .error .forbiddenCharacter
  else if occursIn [']', ']', '>'] run then .error .endOfTextMarker
  else .ok (.text run, s.dropWhile (· ≠ '<'))

/-- One token off the front of a text that is neither empty nor longer than `fuel`. -/
def token (fuel : Nat) (s : List Char) : Except MarkupError (Token × List Char) :=
  match s with
  | '<' :: '!' :: '-' :: '-' :: r => comment r
  | '<' :: '!' :: '[' :: 'C' :: 'D' :: 'A' :: 'T' :: 'A' :: '[' :: r => literalSection r
  | '<' :: '!' :: _ => .error .unsupportedDeclaration
  | '<' :: '?' :: r => instruction r
  | '<' :: '/' :: r => endTag r
  | '<' :: r => startTag fuel r
  | _ => characterData s

def tokensAfter (done : List Token) : Nat → List Char → Except MarkupError (List Token)
  | _, [] => .ok done.reverse
  | 0, _ :: _ => .error .unclosed
  | fuel + 1, c :: r =>
    match token (fuel + 1) (c :: r) with
    | .error e => .error e
    | .ok (t, rest) => tokensAfter (t :: done) fuel rest

def tokens (s : List Char) : Except MarkupError (List Token) := tokensAfter [] s.length s

def declarationGap (s : List Char) : Except MarkupError (List Char) :=
  match s with
  | [] => .ok []
  | c :: _ =>
    if isSpace c then .ok (skipSpaces s)
    else if ['?', '>'].isPrefixOf s then .ok s
    else .error .badDeclaration

def optionalAttribute (name : String) (s : List Char) :
    Except MarkupError (Bool × List Char) :=
  if name.toList.isPrefixOf s then (oneAttribute s).map fun (_, r) => (true, r)
  else .ok (false, s)

/-- The declaration that may open a document: a version, then perhaps an encoding and a
note on whether the document stands alone. -/
def declaration (s : List Char) : Except MarkupError (List Char) := do
  let (found, s₁) ← optionalAttribute "version" (skipSpaces s)
  if !found then throw .badDeclaration
  let s₂ ← declarationGap s₁
  let (encoded, s₃) ← optionalAttribute "encoding" s₂
  let s₄ ← if encoded then declarationGap s₃ else pure s₃
  let (_, s₅) ← optionalAttribute "standalone" s₄
  match skipSpaces s₅ with
  | '?' :: '>' :: r => return r
  | _ => throw .badDeclaration

/-- The tokens of a document, after the byte order mark and the declaration if it has them. -/
def documentTokens (s : List Char) : Except MarkupError (List Token) := do
  let s₁ := match s with
    | '\uFEFF' :: r => r
    | _ => s
  let s₂ ← if "<?xml ".toList.isPrefixOf s₁ then declaration (s₁.drop 5) else pure s₁
  tokens s₂

end RemoteDev.Markup
