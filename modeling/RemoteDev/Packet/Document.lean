import RemoteDev.Binary64.Text
import RemoteDev.Markup.Node
import RemoteDev.Packet.Basic
import RemoteDev.Text.Basic

/-! Packets as markup documents. Writing leaves absent slots out and keeps the array's length;
reading gives no value for whatever the vocabulary does not cover. -/
namespace RemoteDev

open Markup

def needsCode (c : Char) : Bool :=
  (c.toNat < 0x20 || c.toNat == 0x7F) && c ≠ '\t' && c ≠ '\n' && c ≠ '\r'

def codeNode (c : Char) : Node :=
  .element "char" [("code", String.ofList (hexPair (UInt8.ofNat c.toNat)))] []

def runNodes : List Char → List Node
  | [] => []
  | run => [.text (String.ofList run.reverse)]

/-- A text as runs and single characters by code; `run` is the present run in reverse. -/
def textNodes (run : List Char) : List Char → List Node
  | [] => runNodes run
  | c :: r =>
    if needsCode c then runNodes run ++ codeNode c :: textNodes [] r
    else textNodes (c :: run) r

namespace Value

mutual

def toNode : Value → Node
  | bool b => .element "boolean" [("value", if b then "true" else "false")] []
  | number x => .element "number" [] [.text x.packetText]
  | text s => .element "string" [] (textNodes [] s.toList)
  | array items => .element "array" [("length", decimalText items.length)] (itemNodes items)
  | struct fields => .element "struct" [("type", "java.util.HashMap")] (fieldNodes fields)

def itemNodes : List (Option Value) → List Node
  | [] => []
  | none :: r => itemNodes r
  | some v :: r => toNode v :: itemNodes r

/-- One element for every field, without content if the field is absent. -/
def fieldNodes : List (String × Option Value) → List Node
  | [] => []
  | (name, none) :: r => .element "var" [("name", name)] [] :: fieldNodes r
  | (name, some v) :: r => .element "var" [("name", name)] [toNode v] :: fieldNodes r

end

def toMarkup (v : Value) : String := String.ofList v.toNode.write

def directText : List Node → List Char
  | [] => []
  | .text s :: r => s.toList ++ directText r
  | .element _ _ _ :: r => directText r

def codeChar? (code : String) : Option Char :=
  (Text.natural? 16 code.toList).bind fun n =>
    if n.isValidChar then some (Char.ofNat n) else none

def codedText : List Node → List Char
  | [] => []
  | .text s :: r => s.toList ++ codedText r
  | .element name attributes _ :: r =>
    let c? := if name = "char" then (attributes.lookup "code").bind codeChar? else none
    c?.toList ++ codedText r

/-- The length that an array announces, if it is a count that fits a word. -/
def announcedLength? (length : String) : Option Nat :=
  (Text.natural? 10 (Text.trim length.toList)).filter (· < 0x10000000000000000)

/-- Values into the slots of an array of a given length; values beyond it are dropped. -/
def fitted (length : Nat) (values : List (Option Value)) : List (Option Value) :=
  values.take length ++ List.replicate (length - values.length) none

mutual

def ofNode? : Node → Option Value
  | .text _ => none
  | .element name attributes children =>
    match name with
    | "boolean" =>
      match attributes.lookup "value" with
      | some "true" => some (bool true)
      | some "false" => some (bool false)
      | _ => none
    | "number" => (Binary64.ofText? (Text.trim (directText children))).map number
    | "string" => some (text (String.ofList (codedText children)))
    | "array" =>
      let values := elementValues [] children
      let length? := match attributes.lookup "length" with
        | some length => announcedLength? length
        | none => some values.length
      length?.map fun length => array (fitted (min length maxLength) values)
    | "struct" => some (struct (structFields [] children))
    | _ => none

def elementValues (found : List (Option Value)) : List Node → List (Option Value)
  | [] => found.reverse
  | .text _ :: r => elementValues found r
  | .element name attributes children :: r =>
    elementValues (ofNode? (.element name attributes children) :: found) r

def firstValue? : List Node → Option Value
  | [] => none
  | .text _ :: r => firstValue? r
  | .element name attributes children :: _ => ofNode? (.element name attributes children)

def structFields (found : List (String × Option Value)) :
    List Node → List (String × Option Value)
  | [] => found
  | .text _ :: r => structFields found r
  | .element name attributes children :: r =>
    if name = "var" then
      match attributes.lookup "name" with
      | some field => structFields (setField field (firstValue? children) found) r
      | none => structFields found r
    else structFields found r

end

end Value

namespace Packet

def partNode (name : String) (value : Option Value) : Node :=
  .element name [] (value.toList.map Value.toNode)

def toNode (p : Packet) : Node :=
  .element "wddxPacket" [("version", "1.0")]
    [partNode "header" p.header, partNode "data" p.data]

def toMarkup (p : Packet) : String := String.ofList p.toNode.write

def part? (name : String) : List Node → Option Value
  | [] => none
  | .text _ :: r => part? name r
  | .element n _ children :: r =>
    if n = name then Value.firstValue? children else part? name r

/-- The packet that a root element stands for; any other root stands for an empty one. -/
def ofNode : Node → Packet
  | .text _ => empty
  | .element name _ children =>
    if name = "wddxPacket" then ⟨part? "header" children, part? "data" children⟩ else empty

def ofMarkup (text : String) : Except PacketError Packet :=
  match Node.read text with
  | .ok root => .ok (ofNode root)
  | .error e => .error (.malformed e)

end Packet
end RemoteDev
