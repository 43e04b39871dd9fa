import RemoteDev.Proofs.Field.Written
import RemoteDev.Wire

/-! The head of a request's message. It is a run of lines that hold no line end of their own, so
it ends at the first empty line, and its last line announces how many bytes follow. -/
namespace RemoteDev

def lineEnd : Bytes := [13, 10]

def linesOf : Bytes → List Bytes
  | [] => [[]]
  | 13 :: 10 :: r => [] :: linesOf r
  | b :: r => (linesOf r).modifyHead (b :: ·)

def joinedLines (first : Bytes) (others : List Bytes) : Bytes :=
  first ++ others.flatMap (lineEnd ++ ·)

theorem linesOf_cons {b : UInt8} (hb : b ≠ 13) (r : Bytes) :
    linesOf (b :: r) = (linesOf r).modifyHead (b :: ·) := by
  rw [linesOf]
  rintro r' rfl -
  exact hb rfl

theorem linesOf_append {line : Bytes} (hline : 13 ∉ line) (rest : Bytes) :
    linesOf (line ++ rest) = (linesOf rest).modifyHead (line ++ ·) := by
  induction line with
  | nil => cases h : linesOf rest <;> simp [h]
  | cons b r ih =>
    rw [List.mem_cons, not_or] at hline
    rw [List.cons_append, linesOf_cons (Ne.symm hline.1), ih hline.2]
    cases linesOf rest <;> rfl

theorem linesOf_joinedLines {first : Bytes} {others : List Bytes} (hfirst : 13 ∉ first)
    (hothers : ∀ line ∈ others, 13 ∉ line) :
    linesOf (joinedLines first others) = first :: others := by
  induction others generalizing first with
  | nil => simpa [joinedLines, linesOf] using linesOf_append hfirst []
  | cons line r ih =>
    have hrest := ih (hothers line List.mem_cons_self)
      fun l hl => hothers l (List.mem_cons_of_mem _ hl)
    have hjoined : joinedLines first (line :: r) = first ++ 13 :: 10 :: joinedLines line r := rfl
    rw [hjoined, linesOf_append hfirst, linesOf, hrest]
    simp

theorem splitAtFirst_headEnd_cons {b : UInt8} (hb : b ≠ 13) (r : Bytes) :
    splitAtFirst Reply.headEnd (b :: r) =
      (splitAtFirst Reply.headEnd r).map (Prod.map (b :: ·) id) := by
  have hbegins : Reply.headEnd.isPrefixOf (b :: r) = false := by
    simp [Reply.headEnd, List.isPrefixOf, Ne.symm hb]
  rw [splitAtFirst, hbegins]
  rfl

theorem splitAtFirst_headEnd_append {line : Bytes} (hline : 13 ∉ line) (rest : Bytes) :
    splitAtFirst Reply.headEnd (line ++ rest) =
      (splitAtFirst Reply.headEnd rest).map (Prod.map (line ++ ·) id) := by
  induction line with
  | nil => exact (congrFun Option.map_id _).symm
  | cons b r ih =>
    rw [List.mem_cons, not_or] at hline
    rw [List.cons_append, splitAtFirst_headEnd_cons (Ne.symm hline.1), ih hline.2, Option.map_map]
    rfl

/-- A line that is not empty does not let the head end before it. -/
theorem splitAtFirst_headEnd_lineEnd {line : Bytes} (hne : line ≠ []) (hline : 13 ∉ line)
    (rest : Bytes) :
    splitAtFirst Reply.headEnd (lineEnd ++ (line ++ rest)) =
      (splitAtFirst Reply.headEnd (line ++ rest)).map (Prod.map (lineEnd ++ ·) id) := by
  cases line with
  | nil => exact absurd rfl hne
  | cons b r =>
    rw [List.mem_cons, not_or] at hline
    have hbegins : Reply.headEnd.isPrefixOf (13 :: 10 :: b :: (r ++ rest)) = false := by
      simp [Reply.headEnd, List.isPrefixOf, hline.1]
    have hshown : lineEnd ++ (b :: r ++ rest) = 13 :: 10 :: b :: (r ++ rest) := rfl
    rw [hshown, splitAtFirst, hbegins, splitAtFirst_headEnd_cons (by decide : (10 : UInt8) ≠ 13)]
    simp only [Bool.false_eq_true, if_false, Option.map_map]
    rfl

/-- The head ends behind its last line, whatever follows. -/
theorem splitAtFirst_joinedLines {first : Bytes} {others : List Bytes} (hfirst : 13 ∉ first)
    (hothers : ∀ line ∈ others, line ≠ [] ∧ 13 ∉ line) (payload : Bytes) :
    splitAtFirst Reply.headEnd (joinedLines first others ++ (Reply.headEnd ++ payload)) =
      some (joinedLines first others, payload) := by
  induction others generalizing first with
  | nil =>
    have hend : splitAtFirst Reply.headEnd (Reply.headEnd ++ payload) = some ([], payload) := rfl
    have hjoined : joinedLines first [] = first := List.append_nil first
    rw [hjoined, splitAtFirst_headEnd_append hfirst, hend]
    simp
  | cons line r ih =>
    obtain ⟨hne, hline⟩ := hothers line List.mem_cons_self
    have hrest := ih hline fun l hl => hothers l (List.mem_cons_of_mem _ hl)
    have hjoined : joinedLines first (line :: r) = first ++ (lineEnd ++ joinedLines line r) := rfl
    have hopened : joinedLines line r = line ++ r.flatMap (lineEnd ++ ·) := rfl
    rw [hjoined, List.append_assoc, splitAtFirst_headEnd_append hfirst, List.append_assoc, hopened,
      List.append_assoc, splitAtFirst_headEnd_lineEnd hne hline, ← List.append_assoc line,
      ← hopened, hrest]
    rfl

namespace Request

def requestLine (action : String) : String :=
  "POST /CFIDE/main/ide.cfm?CFSRV=IDE&ACTION=" ++ action ++ " HTTP/1.0"

/-- The other lines of a head: to whom it goes, and last how many bytes follow it. -/
def headerLines (host : String) (port length : Nat) : List String :=
  ["Host: " ++ (if port = 80 then host else host ++ ":" ++ decimalText port),
    "Connection: close", "User-Agent: Mozilla/3.0 (compatible; Macromedia RDS Client)",
    "Accept: text/html, */*", "Accept-Encoding: deflate", "Content-type: text/html",
    "Content-length: " ++ decimalText length]

def headBytes (action host : String) (port length : Nat) : Bytes :=
  joinedLines (encodeText (requestLine action)) ((headerLines host port length).map encodeText)

theorem encodeText_head (request : Request) (host : String) (port length : Nat) :
    encodeText (request.head host port length) =
      headBytes request.action host port length ++ Reply.headEnd := by
  have hclosed {line whole : String} (h : line ++ "\r\n" = whole) :
      encodeText whole = encodeText line ++ lineEnd := by
    rw [← h, encodeText_append]
    rfl
  have hversion : encodeText " HTTP/1.0\r\n" = encodeText " HTTP/1.0" ++ lineEnd :=
    hclosed (by simp)
  have hconnection : encodeText "Connection: close\r\n" =
      encodeText "Connection: close" ++ lineEnd := hclosed (by simp)
  have hagent :
      encodeText "User-Agent: Mozilla/3.0 (compatible; Macromedia RDS Client)\r\n" =
        encodeText "User-Agent: Mozilla/3.0 (compatible; Macromedia RDS Client)" ++ lineEnd :=
    hclosed (by simp)
  have haccept : encodeText "Accept: text/html, */*\r\n" =
      encodeText "Accept: text/html, */*" ++ lineEnd := hclosed (by simp)
  have hencoding : encodeText "Accept-Encoding: deflate\r\n" =
      encodeText "Accept-Encoding: deflate" ++ lineEnd := hclosed (by simp)
  have htype : encodeText "Content-type: text/html\r\n" =
      encodeText "Content-type: text/html" ++ lineEnd := hclosed (by simp)
  have hline : encodeText "\r\n" = lineEnd := rfl
  have hend : encodeText "\r\n\r\n" = Reply.headEnd := rfl
  unfold head headBytes requestLine headerLines joinedLines
  simp only [encodeText_append, List.map_cons, List.map_nil, List.flatMap_cons, List.flatMap_nil,
    List.append_assoc, List.nil_append, hversion, hconnection, hagent, haccept, hencoding, htype,
    hline, hend]

def isOneLine (text : String) : Bool := text.toList.all fun c => c != '\r' && c != '\n'

@[simp] theorem isOneLine_append (s t : String) :
    isOneLine (s ++ t) = (isOneLine s && isOneLine t) := by
  simp [isOneLine, String.toList_append, List.all_append]

@[simp] theorem isOneLine_decimalText (n : Nat) : isOneLine (decimalText n) = true := by
  rw [isOneLine, decimalText, String.toList_ofList, List.all_eq_true]
  intro c hc
  have hdigit := (Text.isDigit_iff_toNat c).1 (Text.isDigit_of_mem_toDigits hc)
  have hne {d : Char} (hd : d.toNat < 48) : c ≠ d := by
    rintro rfl
    omega
  simp [hne (d := '\r') (by decide), hne (d := '\n') (by decide)]

theorem notMem_of_isOneLine {text : String} (h : isOneLine text = true) :
    13 ∉ encodeText text ∧ 10 ∉ encodeText text := by
  rw [isOneLine, List.all_eq_true] at h
  constructor
  · intro hmem
    exact absurd (h '\r' (Text.mem_of_mem_encodeText (by decide) hmem)) (by decide)
  · intro hmem
    exact absurd (h '\n' (Text.mem_of_mem_encodeText (by decide) hmem)) (by decide)

theorem isOneLine_requestLine (family : Family) :
    isOneLine (requestLine family.action) = true := by
  have haction : isOneLine family.action = true := by cases family <;> rfl
  have hpost : isOneLine "POST /CFIDE/main/ide.cfm?CFSRV=IDE&ACTION=" = true := rfl
  have hversion : isOneLine " HTTP/1.0" = true := rfl
  unfold requestLine
  simp only [isOneLine_append, haction, hpost, hversion, Bool.and_self]

theorem isOneLine_headerLines {host : String} (hhost : isOneLine host = true) (port length : Nat) :
    ∀ line ∈ headerLines host port length, line ≠ "" ∧ isOneLine line = true := by
  have hne {tag text : String} (h : tag ≠ "") : tag ++ text ≠ "" := by
    simp [h]
  have hhosts : isOneLine (if port = 80 then host else host ++ ":" ++ decimalText port) = true := by
    have hcolon : isOneLine ":" = true := rfl
    split <;> simp [hhost, hcolon]
  have hto : isOneLine "Host: " = true := rfl
  have hlength : isOneLine "Content-length: " = true := rfl
  simp only [headerLines, List.mem_cons, List.not_mem_nil, or_false, forall_eq_or_imp, forall_eq,
    isOneLine_append, isOneLine_decimalText, hhosts, hto, hlength, Bool.and_self, and_true]
  exact ⟨hne (by decide), ⟨by decide, rfl⟩, ⟨by decide, rfl⟩, ⟨by decide, rfl⟩, ⟨by decide, rfl⟩,
    ⟨by decide, rfl⟩, hne (by decide)⟩

theorem unbroken_headerLines {host : String} (hhost : isOneLine host = true) (port length : Nat) :
    ∀ line ∈ (headerLines host port length).map encodeText, line ≠ [] ∧ 13 ∉ line ∧ 10 ∉ line := by
  intro line hline
  obtain ⟨text, htext, rfl⟩ := List.mem_map.1 hline
  have ⟨hne, hone⟩ := isOneLine_headerLines hhost port length text htext
  exact ⟨fun hnil => hne (Text.encodeText_inj.1 hnil), notMem_of_isOneLine hone⟩

theorem linesOf_headBytes (family : Family) {host : String} (hhost : isOneLine host = true)
    (port length : Nat) :
    linesOf (headBytes family.action host port length) =
      encodeText (requestLine family.action) :: (headerLines host port length).map encodeText :=
  linesOf_joinedLines (notMem_of_isOneLine (isOneLine_requestLine family)).1
    fun line hline => (unbroken_headerLines hhost port length line hline).2.1

theorem splitAtFirst_headBytes (family : Family) {host : String} (hhost : isOneLine host = true)
    (port length : Nat) (payload : Bytes) :
    splitAtFirst Reply.headEnd
        (headBytes family.action host port length ++ (Reply.headEnd ++ payload)) =
      some (headBytes family.action host port length, payload) := by
  refine splitAtFirst_joinedLines (notMem_of_isOneLine (isOneLine_requestLine family)).1 ?_ payload
  intro line hline
  have hunbroken := unbroken_headerLines hhost port length line hline
  exact ⟨hunbroken.1, hunbroken.2.1⟩

/-- The length that a line announces, if it is a line that does so. -/
def announcedLength? (line : Bytes) : Option Nat :=
  let field := encodeText "Content-length: "
  if field.isPrefixOf line then Text.unsigned? 10 (Text.decodeLossy (line.drop field.length))
  else none

def announcedLengths (head : Bytes) : List Nat := (linesOf head).filterMap announcedLength?

theorem announcedLength?_contentLength (n : Nat) :
    announcedLength? (encodeText ("Content-length: " ++ decimalText n)) = some n := by
  have hprefix : (encodeText "Content-length: ").isPrefixOf
      (encodeText "Content-length: " ++ encodeText (decimalText n)) = true :=
    List.isPrefixOf_iff_prefix.2 (List.prefix_append _ _)
  simp only [announcedLength?, encodeText_append, hprefix, if_true, List.drop_left]
  rw [Text.decodeLossy_encodeText, decimalText, String.toList_ofList, Text.unsigned?_toDigits]

theorem announcedLengths_headBytes (family : Family) {host : String}
    (hhost : isOneLine host = true) (port length : Nat) :
    announcedLengths (headBytes family.action host port length) = [length] := by
  have hpost : announcedLength? (encodeText (requestLine family.action)) = none := by
    unfold requestLine
    rw [encodeText_append, encodeText_append]
    rfl
  have hto (text : String) : announcedLength? (encodeText ("Host: " ++ text)) = none := by
    rw [encodeText_append]
    rfl
  rw [announcedLengths, linesOf_headBytes family hhost]
  unfold headerLines
  simp only [List.map_cons, List.map_nil, List.filterMap_cons, List.filterMap_nil, hpost, hto,
    announcedLength?_contentLength]
  rfl

/-- What a head says: its first line names the family, and one line announces the length of what
follows the head. -/
structure Heads (family : Family) (payload head : Bytes) : Prop where
  first : (linesOf head).head? = some (encodeText (requestLine family.action))
  announces : announcedLengths head = [payload.length]
  /-- Nothing breaks a line but the line ends. -/
  unbroken : ∀ line ∈ linesOf head, 13 ∉ line ∧ 10 ∉ line

theorem splitAtFirst_frame (family : Family) (arguments : List Bytes) {host : String}
    (hhost : isOneLine host = true) (port : Nat) (payload : Bytes) :
    ∃ head, splitAtFirst Reply.headEnd
        ((ofFamily family arguments).frame host port payload).bytes = some (head, payload) ∧
      Heads family payload head := by
  refine ⟨headBytes family.action host port payload.length, ?_, ?_, ?_, ?_⟩
  · rw [frame, Buffer.bytes_append, Buffer.bytes_append, Buffer.bytes_empty, List.nil_append,
      encodeText_head, List.append_assoc]
    exact splitAtFirst_headBytes family hhost port payload.length payload
  · rw [linesOf_headBytes family hhost]
    rfl
  · exact announcedLengths_headBytes family hhost port payload.length
  · rw [linesOf_headBytes family hhost]
    intro line hline
    rcases List.mem_cons.1 hline with rfl | hline
    · exact notMem_of_isOneLine (isOneLine_requestLine family)
    · exact (unbroken_headerLines hhost port payload.length line hline).2

end Request
end RemoteDev
