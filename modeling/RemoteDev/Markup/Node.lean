import RemoteDev.Markup.CharacterData
import RemoteDev.Markup.Token

/-! The tree of a markup document: elements with their plain attributes, and text. An
element is written in one tag if it has no content. -/
namespace RemoteDev.Markup

/-- An element is known by its name without the namespace; attributes of a namespace and
comments are not part of the tree. -/
inductive Node where
  | element (name : String) (attributes : List (String × String)) (children : List Node)
  | text (content : String)

namespace Node

def writeAttributes (attributes : List (String × String)) : List Char :=
  attributes.flatMap fun (name, value) =>
    ' ' :: name.toList ++ ['=', '"'] ++ escape value.toList ++ ['"']

mutual

def writeOnto : Node → List Char → List Char
  | .text content, rest => escape content.toList ++ rest
  | .element name attributes children, rest =>
    '<' :: (name.toList ++ (writeAttributes attributes ++
      match children with
      | [] => '/' :: '>' :: rest
      | n :: r => '>' :: writeAllOnto (n :: r) ('<' :: '/' :: (name.toList ++ '>' :: rest))))

def writeAllOnto : List Node → List Char → List Char
  | [], rest => rest
  | n :: r, rest => writeOnto n (writeAllOnto r rest)

end

def write (n : Node) : List Char := n.writeOnto []

end Node

/-- An element that is not closed yet: its children are in reverse, and `scope` binds the
short names of namespaces. -/
structure Frame where
  name : QualifiedName
  attributes : List (String × String)
  scope : List (String × String)
  children : List Node

def Frame.node (f : Frame) : Node := .element f.name.base f.attributes f.children.reverse

/-- What has been read of a document: the open elements, innermost first, and the root once
it is closed. -/
structure Reading where
  stack : List Frame
  root : Option Node

namespace Reading

def initial : Reading := ⟨[], none⟩

def xmlNamespace : String := "http://www.w3.org/XML/1998/namespace"

def declarationNamespace : String := "http://www.w3.org/2000/xmlns/"

structure Sorted where
  bindings : List (String × String) := []
  others : List (QualifiedName × String) := []

/-- Sorts in one attribute. The reserved namespaces keep their names, and a tag binds a name
once. -/
def sortAttribute (sorted : Sorted) (a : RawAttribute) : Except MarkupError Sorted := do
  let value ← valueOf a.value
  if a.name.space == "xmlns" then
    if value == declarationNamespace then throw .reservedNamespace
    if (a.name.base == "xml") != (value == xmlNamespace) then throw .reservedNamespace
    if (sorted.bindings.lookup a.name.base).isSome then
      throw (.duplicateAttribute a.name.base)
    if value == xmlNamespace then return sorted
    return { sorted with bindings := sorted.bindings ++ [(a.name.base, value)] }
  else if a.name.base == "xmlns" then
    if value == declarationNamespace || value == xmlNamespace then throw .reservedNamespace
    return sorted
  else return { sorted with others := sorted.others ++ [(a.name, value)] }

def attributeNamespace (scope : List (String × String)) (name : QualifiedName) :
    Except MarkupError (Option String) :=
  if name.space == "" then .ok none
  else if name.space == "xml" then .ok (some xmlNamespace)
  else match scope.lookup name.space with
    | some uri => .ok (some uri)
    | none => .error (.unknownNamespace name.space)

/-- Resolves attributes and refuses two of one namespace and name. -/
def resolve (scope : List (String × String)) (seen : List (Option String × String)) :
    List (QualifiedName × String) → Except MarkupError (List (String × String))
  | [] => .ok []
  | (name, value) :: r => do
    let space ← attributeNamespace scope name
    if seen.contains (space, name.base) then throw (.duplicateAttribute name.base)
    let rest ← resolve scope ((space, name.base) :: seen) r
    return if space.isNone then (name.base, value) :: rest else rest

def openFrame (outer : List (String × String)) (name : QualifiedName)
    (attributes : List RawAttribute) : Except MarkupError Frame := do
  if name.space == "xmlns" then throw .reservedNamespace
  let sorted ← attributes.foldlM sortAttribute {}
  let scope := sorted.bindings ++ outer
  let plain ← resolve scope [] sorted.others
  if name.space != "" && (scope.lookup name.space).isNone then
    throw (.unknownNamespace name.space)
  return ⟨name, plain, scope, []⟩

def add (node : Node) (reading : Reading) : Except MarkupError Reading :=
  match reading.stack, reading.root with
  | f :: r, _ => .ok { reading with stack := { f with children := node :: f.children } :: r }
  | [], none => .ok { reading with root := some node }
  | [], some _ => .error .contentOutsideRoot

def step (reading : Reading) : Token → Except MarkupError Reading
  | .aside => .ok reading
  | .text raw =>
    if reading.stack.isEmpty then
      if raw.all isSpace then .ok reading else .error .contentOutsideRoot
    else do add (.text (← textOf raw)) reading
  | .literal raw =>
    if reading.stack.isEmpty then .error .contentOutsideRoot
    else add (.text (literalText raw)) reading
  | .start name attributes closed => do
    if reading.stack.isEmpty && reading.root.isSome then throw .contentOutsideRoot
    let outer := (reading.stack.head?.map Frame.scope).getD []
    let frame ← openFrame outer name attributes
    if closed then add frame.node reading
    else return { reading with stack := frame :: reading.stack }
  | .stop name =>
    match reading.stack with
    | [] => .error .unexpectedEnd
    | f :: r =>
      if f.name == name then add f.node { reading with stack := r } else .error .mismatchedEnd

def finish (reading : Reading) : Except MarkupError Node :=
  match reading.stack, reading.root with
  | [], some node => .ok node
  | _, _ => .error .unclosed

end Reading

def Node.read (text : String) : Except MarkupError Node := do
  let ts ← documentTokens text.toList
  let reading ← ts.foldlM Reading.step Reading.initial
  reading.finish

end RemoteDev.Markup
