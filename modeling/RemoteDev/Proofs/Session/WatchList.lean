import RemoteDev.Proofs.Command.Answer
import RemoteDev.Proofs.Command.WatchList
import RemoteDev.Proofs.Packet.Placement
import RemoteDev.Proofs.Session.Debugger
import RemoteDev.Transport.Scripted

/-! Watching variables. The names that are not empty are sent in their order, one slot for each. A
command that names none, lacks its session or names more than an array holds fails in this order of
causes, before its stream is touched. -/
namespace RemoteDev

namespace DebuggerCommand

def watchEntries (watched : List String) : List (String × Value) :=
  ("0,COMMAND", .text "SET_WATCH_VARIABLES") :: watchedEntries watched 0

variable {session : String} {watched : List String}

theorem packetOf_watchEntries (hnames : watched ≠ []) (hfit : watched.length ≤ Value.maxLength) :
    packetOf (watchEntries watched) =
      .ok (watching (watched.map fun name => some (.text name))) := by
  rw [watchEntries, packetOf_watchedEntries hnames, if_neg (Nat.not_lt.2 hfit)]
  rfl

theorem packetOf_watchEntries_of_lt (hnames : watched ≠ [])
    (hlong : Value.maxLength < watched.length) :
    packetOf (watchEntries watched) = .error (.indexTooLarge Value.maxLength) := by
  rw [watchEntries, packetOf_watchedEntries hnames, if_pos hlong]

theorem ofEntries_of_packetOf_error {entries : List (String × Value)} {e : PacketError}
    (hsession : session ≠ "") (h : packetOf entries = .error e) :
    ofEntries session entries = .error (.packet e) := by
  rw [ofEntries, required_eq_ok hsession, documentOf, h]
  rfl

theorem get?_watching (items : List (Option Value)) {i : Nat} (hi : i < Value.maxLength) :
    (watching items).get? ("0,WATCH," ++ decimalText i) = Value.slotAt items i := by
  have hindex : i < 10 ^ Segment.maxIndexDigits := Nat.lt_of_lt_of_le hi (by decide)
  have hpath : Path.parse ("0,WATCH," ++ decimalText i) =
      .ok [.index 0, .field "WATCH", .index i] := by
    rw [parse_watched hindex, if_pos hi]
  rw [Packet.get?_of_parse hpath]
  show (Value.slotAt items i).bind some = _
  exact Option.bind_fun_some _

theorem text?_watching (hfit : watched.length ≤ Value.maxLength) {i : Nat} {name : String}
    (h : watched[i]? = some name) :
    (watching (watched.map fun name => some (.text name))).text? ("0,WATCH," ++ decimalText i) =
      some name := by
  have hi : i < watched.length := (List.getElem?_eq_some_iff.1 h).1
  rw [Packet.text?, get?_watching _ (Nat.lt_of_lt_of_le hi hfit), Value.slotAt,
    List.getElem?_map, h]
  rfl

end DebuggerCommand

namespace Session

open DebuggerCommand

variable {σ : Type}

/-- A command that is withheld for a failure: this is its outcome, the stream stays as it is, and no
call is made on it. -/
structure Withheld (t : Transport σ) (s : Session σ) (c : Command) (f : Failure) : Prop where
  outcome : (s.run t c).1 = .error f
  stream : (s.run t c).2.stream = s.stream
  calls : s.callsOf t c = []

theorem withheld_of_request (t : Transport σ) (s : Session σ) {c : Command} {f : Failure}
    (h : c.request = .error f) (hfinal : c.answerOf? f = none) : Withheld t s c f where
  outcome := by
    rw [run_eq, h]
    exact Command.settle_of_none hfinal
  stream := by
    rw [run_eq, h]
    rfl
  calls := by
    rw [callsOf, run_eq, h]
    rfl

/-- The names that are not empty are watched. If there is none the command fails for that, else
without a session for that, and else with more names than an array holds for that; it is then
withheld. Otherwise its request carries the packet that the names make up when they are put one
after the other: its list has the watched names in their order and no slot beside them, and every
name stands at the path of its place. -/
theorem watches_names (t : Transport σ) (s : Session σ) (session : String) (names : List String) :
    let c : Command := .debugger (.watchVariables session names)
    let watched := names.filter (· ≠ "")
    (watched = [] → Withheld t s c (.invalidInput "no variables to watch")) ∧
    (watched ≠ [] → session = "" → Withheld t s c (.missingParameter "session id")) ∧
    (watched ≠ [] → session ≠ "" → Value.maxLength < watched.length →
      Withheld t s c (.packet (.indexTooLarge Value.maxLength))) ∧
    (watched ≠ [] → session ≠ "" → watched.length ≤ Value.maxLength → ∃ p,
      packetOf (watchEntries watched) = .ok p ∧
      Sends s.endpoint c .debugger
        [encodeText "DBG_REQUEST", encodeText session, encodeText p.toMarkup] ∧
      p.text? "0,COMMAND" = some "SET_WATCH_VARIABLES" ∧
      p.get? "0,WATCH" = some (.array (watched.map fun name => some (.text name))) ∧
      ∀ i name, watched[i]? = some name → p.text? ("0,WATCH," ++ decimalText i) = some name) := by
  intro c watched
  have hnone : watched = [] → c.request = .error (.invalidInput "no variables to watch") := by
    intro h
    exact (request_watchVariables_eq session names).trans (if_pos h)
  have hsome : watched ≠ [] → c.request = ofEntries session (watchEntries watched) := by
    intro h
    exact (request_watchVariables_eq session names).trans (if_neg h)
  refine ⟨fun h => ?_, fun h hsession => ?_, fun h hsession hlong => ?_, fun h hsession hfit => ?_⟩
  · exact withheld_of_request t s (hnone h) rfl
  · have hrequest : c.request = .error (.missingParameter "session id") := by
      rw [hsome h, hsession]
      rfl
    exact withheld_of_request t s hrequest rfl
  · have hrequest := (hsome h).trans
      (ofEntries_of_packetOf_error hsession (packetOf_watchEntries_of_lt h hlong))
    exact withheld_of_request t s hrequest rfl
  · have hpacket := packetOf_watchEntries h hfit
    have hrequest := (hsome h).trans (ofEntries_of_packetOf hsession hpacket)
    exact ⟨_, hpacket, sends_of_request s.endpoint hrequest, rfl, rfl,
      fun i name hname => text?_watching hfit hname⟩

/-- Two names among empty ones, the second of which looks like a path; and no session. -/
theorem watches_names_of_blanks :
    let s : Session Stage :=
      ⟨⟨"cf.local", 8500, "", "", by decide, by decide⟩, { scripts := [] }, none⟩
    let names := ["", "FORM.A", "", "0,WATCH,7"]
    let c : Command := .debugger (.watchVariables "é" names)
    names.filter (· ≠ "") = ["FORM.A", "0,WATCH,7"] ∧
      Withheld .scripted s (.debugger (.watchVariables "" names)) (.missingParameter "session id") ∧
      ∃ p : Packet, Sends s.endpoint c .debugger
          [encodeText "DBG_REQUEST", encodeText "é", encodeText p.toMarkup] ∧
        p.get? "0,WATCH" = some (.array [some (.text "FORM.A"), some (.text "0,WATCH,7")]) ∧
        p.text? "0,WATCH,1" = some "0,WATCH,7" := by
  intro s names c
  have hwatched : names.filter (· ≠ "") = ["FORM.A", "0,WATCH,7"] := by decide
  have hsome : names.filter (· ≠ "") ≠ [] := by decide
  have hfit : (names.filter (· ≠ "")).length ≤ Value.maxLength := by decide
  obtain ⟨-, hsession, -, -⟩ := watches_names .scripted s "" names
  obtain ⟨-, -, -, hsent⟩ := watches_names .scripted s "é" names
  obtain ⟨p, -, hsends, -, hlist, hplaces⟩ := hsent hsome (by decide) hfit
  exact ⟨hwatched, hsession hsome rfl, p, hsends, hlist, hplaces 1 "0,WATCH,7" rfl⟩

end Session
end RemoteDev
