import RemoteDev.Command.Debugger
import RemoteDev.Proofs.Packet.Path

/-! The list of watched variables. It is the array that putting the names one after the other at
the end of the list makes up, and it fails where that fails. -/
namespace RemoteDev.DebuggerCommand

/-- Every name at its own place in the list, counted from a number on. -/
def watchedEntries (names : List String) (start : Nat) : List (String × Value) :=
  (names.zipIdx start).map fun (name, i) => ("0,WATCH," ++ decimalText i, .text name)

theorem watchedEntries_cons (name : String) (names : List String) (start : Nat) :
    watchedEntries (name :: names) start =
      ("0,WATCH," ++ decimalText start, .text name) :: watchedEntries names (start + 1) := by
  rw [watchedEntries, List.zipIdx_cons, List.map_cons]
  rfl

def watching (items : List (Option Value)) : Packet :=
  ⟨none, some (.array [some (.struct [("COMMAND", some (.text "SET_WATCH_VARIABLES")),
    ("WATCH", some (.array items))])])⟩

theorem parse_watched {i : Nat} (hi : i < 10 ^ Segment.maxIndexDigits) :
    Path.parse ("0,WATCH," ++ decimalText i) =
      if i < Value.maxLength then .ok [.index 0, .field "WATCH", .index i]
      else .error (.indexTooLarge i) := by
  have hcomma : ',' ∉ (decimalText i).toList := by
    rw [decimalText, String.toList_ofList]
    exact fun h => absurd (Text.isDigit_of_mem_toDigits h) (by decide)
  have hempty : ("0,WATCH," ++ decimalText i).isEmpty = false := by simp
  have hstretches : stretches ',' ("0,WATCH," ++ decimalText i).toList =
      [['0'], ['W', 'A', 'T', 'C', 'H'], (decimalText i).toList] := by
    have hfront : ("0,WATCH," ++ decimalText i).toList =
        ['0'] ++ ',' :: (['W', 'A', 'T', 'C', 'H'] ++ ',' :: (decimalText i).toList) :=
      String.toList_append
    rw [hfront, stretches_append_cons (by decide), stretches_append_cons (by decide),
      stretches_of_not_mem hcomma]
  have hzero (path : String) : Segment.ofText path ['0'] = .ok (.index 0) := rfl
  have hwatch (path : String) :
      Segment.ofText path ['W', 'A', 'T', 'C', 'H'] = .ok (.field "WATCH") := rfl
  rw [Path.parse, hempty, hstretches]
  simp only [List.mapM_cons, hzero, hwatch, Segment.ofText_decimalText _ hi, ok_bind]
  by_cases h : i < Value.maxLength
  · rw [if_pos h, if_pos h]
    rfl
  · rw [if_neg h, if_neg h]
    rfl

theorem setSlot_length (items : List (Option Value)) (w : Value) :
    Value.setSlot items items.length w = items ++ [some w] := by
  simp [Value.setSlot]

/-- A name at the end of a list is added to it, unless the list is full. -/
theorem put_watched (items : List (Option Value)) (hitems : items.length ≤ Value.maxLength)
    (name : String) :
    (watching items).put ("0,WATCH," ++ decimalText items.length) (.text name) =
      if items.length < Value.maxLength then .ok (watching (items ++ [some (.text name)]))
      else .error (.indexTooLarge items.length) := by
  have hlength : items.length < 10 ^ Segment.maxIndexDigits :=
    Nat.lt_of_le_of_lt hitems (by decide)
  rw [Packet.put, parse_watched hlength]
  by_cases h : items.length < Value.maxLength
  · rw [if_pos h, if_pos h, ← setSlot_length]
    rfl
  · rw [if_neg h, if_neg h]
    rfl

theorem foldlM_put_watched (names : List String) (items : List (Option Value))
    (hitems : items.length ≤ Value.maxLength) :
    (watchedEntries names items.length).foldlM (fun p (path, value) => p.put path value)
        (watching items) =
      if Value.maxLength < items.length + names.length then .error (.indexTooLarge Value.maxLength)
      else .ok (watching (items ++ names.map fun n => some (.text n))) := by
  induction names generalizing items with
  | nil =>
    rw [List.length_nil, Nat.add_zero, if_neg (Nat.not_lt.2 hitems), List.map_nil,
      List.append_nil]
    rfl
  | cons name r ih =>
    have hput := put_watched items hitems name
    simp only [watchedEntries_cons, List.foldlM_cons, hput]
    by_cases h : items.length < Value.maxLength
    · have hrest := ih (items ++ [some (.text name)]) (by simpa using h)
      rw [List.length_append, List.length_singleton] at hrest
      rw [if_pos h, ok_bind]
      refine hrest.trans ?_
      rw [List.length_cons, Nat.add_right_comm, Nat.add_assoc, List.append_assoc,
        List.singleton_append, List.map_cons]
    · have hfull : items.length = Value.maxLength := by omega
      rw [if_neg h, if_pos (by rw [hfull, List.length_cons]; omega), hfull]
      rfl

theorem packetOf_watchedEntries {names : List String} (hnames : names ≠ []) :
    packetOf (("0,COMMAND", .text "SET_WATCH_VARIABLES") :: watchedEntries names 0) =
      if Value.maxLength < names.length then .error (.indexTooLarge Value.maxLength)
      else packetOf [("0,COMMAND", .text "SET_WATCH_VARIABLES"),
        ("0,WATCH", .array (names.map fun n => some (.text n)))] := by
  obtain ⟨name, r, rfl⟩ := List.exists_cons_of_ne_nil hnames
  let started : Packet :=
    ⟨none, some (.array [some (.struct [("COMMAND", some (.text "SET_WATCH_VARIABLES"))])])⟩
  have hcommand : Packet.empty.put "0,COMMAND" (.text "SET_WATCH_VARIABLES") = .ok started := rfl
  have hfirst : started.put ("0,WATCH," ++ decimalText 0) (.text name) =
      .ok (watching [some (.text name)]) := by
    rw [Packet.put, parse_watched (by decide), if_pos (by decide)]
    rfl
  have hwhole (list : List (Option Value)) :
      started.put "0,WATCH" (.array list) = .ok (watching list) := rfl
  have hone : [some (Value.text name)].length ≤ Value.maxLength := by simp [Value.maxLength]
  have hrest := foldlM_put_watched r [some (.text name)] hone
  rw [watchedEntries_cons]
  simp only [packetOf, List.foldlM_cons, hcommand, ok_bind, hfirst, hwhole]
  refine hrest.trans ?_
  rw [List.length_singleton, Nat.add_comm 1, List.length_cons]
  rfl

theorem request_watchVariables_eq (session : String) (names : List String) :
    (watchVariables session names).request =
      if names.filter (· ≠ "") = [] then .error (.invalidInput "no variables to watch")
      else ofEntries session (("0,COMMAND", .text "SET_WATCH_VARIABLES") ::
        watchedEntries (names.filter (· ≠ "")) 0) := by
  rw [request]
  generalize names.filter (· ≠ "") = watched
  by_cases hnone : watched = []
  · subst hnone
    rfl
  · have hpacket := packetOf_watchedEntries hnone
    have hempty : watched.isEmpty = false := by simpa using hnone
    rw [hempty, if_neg (by decide), if_neg hnone]
    by_cases hsession : session = ""
    · subst hsession
      rfl
    · have hid : required "session id" session = .ok session := if_neg hsession
      simp only [ofEntries, hid, ok_bind, documentOf, hpacket, watchList]
      by_cases hlong : Value.maxLength < watched.length
      · rw [if_pos hlong, if_pos hlong]
        rfl
      · rw [if_neg hlong, if_neg hlong]
        rfl

end RemoteDev.DebuggerCommand
