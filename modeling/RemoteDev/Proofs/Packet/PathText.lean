import Mathlib
import RemoteDev.Packet.Basic
import RemoteDev.Proofs.Packet.Path
import RemoteDev.Proofs.Packet.Placement

/-! Which texts are paths, and what is found along them. Between the commas of a path that is not
empty stand names and indices, and the first part that is neither decides why a text is no path. The
front parts of a path are paths themselves; what a path of two parts leads to can be looked up in
two steps, and it leads nowhere if either of the two is no path. -/
namespace RemoteDev

section SplitOn

variable {α : Type} [DecidableEq α] {separator : α} {xs part : List α}

theorem notMem_of_mem_splitOn (h : part ∈ xs.splitOn separator) : separator ∉ part := by
  induction xs generalizing part with
  | nil =>
    rw [List.splitOn_nil, List.mem_singleton] at h
    rw [h]
    exact List.not_mem_nil
  | cons a r ih =>
    rw [List.splitOn_cons_eq_if_modifyHead] at h
    split at h
    case isTrue =>
      rcases List.mem_cons.1 h with rfl | h
      · exact List.not_mem_nil
      · exact ih h
    case isFalse ha =>
      cases hr : r.splitOn separator with
      | nil => exact absurd hr (List.splitOn_ne_nil separator r)
      | cons first rest =>
        rw [hr] at h ih
        rcases List.mem_cons.1 h with rfl | h
        · rw [List.mem_cons, not_or]
          exact ⟨fun e => ha (by simp [e]), ih List.mem_cons_self⟩
        · exact ih (List.mem_cons_of_mem first h)

end SplitOn

namespace Segment

structure IsIndex (part : List Char) (i : Nat) : Prop where
  ne_nil : part ≠ []
  short : part.length ≤ maxIndexDigits
  digits : ∀ c ∈ part, c.isDigit = true
  shown : Nat.ofDigitChars 10 part 0 = i

/-- What a part of a path stands for: an index if it is one, and otherwise a name. -/
inductive Denotes : List Char → Segment → Prop
  | index {part : List Char} {i : Nat} (h : IsIndex part i) (hi : i < Value.maxLength) :
      Denotes part (.index i)
  | field {part : List Char} (hne : part ≠ []) (h : ∀ i, ¬ IsIndex part i) :
      Denotes part (.field (String.ofList part))

inductive Refused (path : String) : List Char → PacketError → Prop
  | empty : Refused path [] (.emptySegment path)
  | large {part : List Char} {i : Nat} (h : IsIndex part i) (hi : Value.maxLength ≤ i) :
      Refused path part (.indexTooLarge i)

variable {path : String} {part : List Char}

theorem index?_eq_some_iff {i : Nat} : index? part = some i ↔ IsIndex part i := by
  rw [index?]
  split
  case isTrue hshort =>
    rw [Text.unsigned?_eq_some_iff]
    constructor
    · rintro ⟨hne, hdigits, hshown⟩
      exact ⟨hne, hshort, hdigits, hshown⟩
    · intro h
      exact ⟨h.ne_nil, h.digits, h.shown⟩
  case isFalse hlong =>
    constructor
    · intro h
      cases h
    · intro h
      exact absurd h.short hlong

theorem index?_eq_none_iff : index? part = none ↔ ∀ i, ¬ IsIndex part i := by
  simp only [Option.eq_none_iff_forall_ne_some, ne_eq, index?_eq_some_iff]

theorem ofText_of_denotes {s : Segment} (h : Denotes part s) (path : String) :
    ofText path part = .ok s := by
  cases h with
  | @index i h hi =>
    rw [ofText, List.isEmpty_eq_false_iff.2 h.ne_nil, if_neg Bool.false_ne_true,
      index?_eq_some_iff.2 h]
    exact if_pos hi
  | field hne h =>
    rw [ofText, List.isEmpty_eq_false_iff.2 hne, if_neg Bool.false_ne_true,
      index?_eq_none_iff.2 h]

theorem ofText_of_refused {e : PacketError} (h : Refused path part e) :
    ofText path part = .error e := by
  cases h with
  | empty => rfl
  | @large _ i h hi =>
    rw [ofText, List.isEmpty_eq_false_iff.2 h.ne_nil, if_neg Bool.false_ne_true,
      index?_eq_some_iff.2 h]
    exact if_neg (Nat.not_lt.2 hi)

theorem denotes_or_refused (path : String) (part : List Char) :
    (∃ s, Denotes part s) ∨ ∃ e, Refused path part e := by
  by_cases hne : part = []
  · subst hne
    exact .inr ⟨_, .empty⟩
  by_cases hindex : ∃ i, IsIndex part i
  · obtain ⟨i, h⟩ := hindex
    rcases Nat.lt_or_ge i Value.maxLength with hi | hi
    · exact .inl ⟨_, .index h hi⟩
    · exact .inr ⟨_, .large h hi⟩
  · exact .inl ⟨_, .field hne (not_exists.1 hindex)⟩

theorem ofText_eq_ok_iff {s : Segment} : ofText path part = .ok s ↔ Denotes part s := by
  refine ⟨fun h => ?_, fun h => ofText_of_denotes h path⟩
  rcases denotes_or_refused path part with ⟨s', hs'⟩ | ⟨e, he⟩
  · rw [ofText_of_denotes hs' path, Except.ok.injEq] at h
    exact h ▸ hs'
  · rw [ofText_of_refused he] at h
    cases h

theorem ofText_eq_error_iff {e : PacketError} :
    ofText path part = .error e ↔ Refused path part e := by
  refine ⟨fun h => ?_, ofText_of_refused⟩
  rcases denotes_or_refused path part with ⟨s, hs⟩ | ⟨e', he'⟩
  · rw [ofText_of_denotes hs path] at h
    cases h
  · rw [ofText_of_refused he', Except.error.injEq] at h
    exact h ▸ he'

theorem Denotes.unique {s t : Segment} (hs : Denotes part s) (ht : Denotes part t) : s = t :=
  Except.ok.inj ((ofText_of_denotes hs "").symm.trans (ofText_of_denotes ht ""))

theorem Denotes.ne_nil {s : Segment} (h : Denotes part s) : part ≠ [] := by
  cases h with
  | index h => exact h.ne_nil
  | field hne => exact hne

theorem exists_denotes_of_mem {parts : List (List Char)} {segments : List Segment}
    (h : List.Forall₂ Denotes parts segments) : ∀ part ∈ parts, ∃ s, Denotes part s := by
  induction h with
  | nil => exact nofun
  | cons hfirst _ ih => exact List.forall_mem_cons.2 ⟨⟨_, hfirst⟩, ih⟩

end Segment

theorem forall₂_append_left_iff {α β : Type} {R : α → β → Prop} {front rest : List α}
    {ys : List β} :
    List.Forall₂ R (front ++ rest) ys ↔
      ∃ way more, List.Forall₂ R front way ∧ List.Forall₂ R rest more ∧ ys = way ++ more := by
  constructor
  · intro h
    induction front generalizing ys with
    | nil => exact ⟨[], ys, .nil, h, rfl⟩
    | cons x r ih =>
      obtain ⟨y, ys, hxy, hys, rfl⟩ := List.forall₂_cons_left_iff.1 h
      obtain ⟨way, more, hway, hmore, rfl⟩ := ih hys
      exact ⟨y :: way, more, .cons hxy hway, hmore, rfl⟩
  · rintro ⟨way, more, hway, hmore, rfl⟩
    exact List.rel_append hway hmore

theorem exists_of_forall₂_append_cons {α β : Type} {R : α → β → Prop} {front rest : List α}
    {x : α} {ys : List β} (h : List.Forall₂ R (front ++ x :: rest) ys) :
    ∃ way y more, ys = way ++ y :: more ∧ R x y ∧ List.Forall₂ R front way := by
  obtain ⟨way, tail, hway, htail, rfl⟩ := forall₂_append_left_iff.1 h
  obtain ⟨y, more, hxy, -, rfl⟩ := List.forall₂_cons_left_iff.1 htail
  exact ⟨way, y, more, rfl, hxy, hway⟩

namespace Path

def parts (path : String) : List (List Char) :=
  if path = "" then [] else path.toList.splitOn ','

def ofParts (parts : List (List Char)) : String := String.ofList ([','].intercalate parts)

/-- Why a text is no path: the first of its parts that is no segment decides. -/
inductive Refused (path : String) (e : PacketError) : Prop
  | intro {front rest : List (List Char)} {part : List Char}
      (hparts : parts path = front ++ part :: rest)
      (hfirst : ∀ earlier ∈ front, ∀ e', ¬ Segment.Refused path earlier e')
      (hpart : Segment.Refused path part e)

theorem parse_eq_mapM (path : String) :
    parse path = (parts path).mapM (Segment.ofText path) := by
  rw [parse, parts, ← stretches_eq_splitOn]
  by_cases h : path = ""
  · subst h
    rfl
  · rw [if_neg h, if_neg (by simpa using h)]

theorem parse_eq_ok_iff {path : String} {segments : List Segment} :
    parse path = .ok segments ↔ List.Forall₂ Segment.Denotes (parts path) segments := by
  rw [parse_eq_mapM, mapM_eq_ok_iff]
  simp only [Segment.ofText_eq_ok_iff]

theorem parse_eq_error_iff {path : String} {e : PacketError} :
    parse path = .error e ↔ Refused path e := by
  rw [parse_eq_mapM, mapM_eq_error_iff]
  simp only [Segment.ofText_eq_error_iff, Segment.ofText_eq_ok_iff]
  constructor
  · rintro ⟨front, part, rest, hparts, hfirst, hpart⟩
    refine ⟨hparts, fun earlier hearlier e' he' => ?_, hpart⟩
    obtain ⟨s, hs⟩ := hfirst earlier hearlier
    cases (Segment.ofText_of_denotes hs path).symm.trans (Segment.ofText_of_refused he')
  · rintro ⟨hparts, hfirst, hpart⟩
    refine ⟨_, _, _, hparts, fun earlier hearlier => ?_, hpart⟩
    exact (Segment.denotes_or_refused path earlier).resolve_right
      fun ⟨e', he'⟩ => hfirst earlier hearlier e' he'

theorem parts_ofParts {ps : List (List Char)} (h : ∀ part ∈ ps, part ≠ [] ∧ ',' ∉ part) :
    parts (ofParts ps) = ps := by
  cases ps with
  | nil => rfl
  | cons part r =>
    have hne : ofParts (part :: r) ≠ "" := by
      have hpart := (h part List.mem_cons_self).1
      cases r with
      | nil => simpa [ofParts] using hpart
      | cons next r => simp [ofParts]
    rw [parts, if_neg hne, ofParts, String.toList_ofList]
    exact List.splitOn_intercalate ',' (fun l hl => (h l hl).2) (List.cons_ne_nil part r)

theorem comma_notMem_of_mem_parts {path : String} {part : List Char} (h : part ∈ parts path) :
    ',' ∉ part := by
  rw [parts] at h
  split at h
  · exact absurd h List.not_mem_nil
  · exact notMem_of_mem_splitOn h

theorem parse_ofParts {path : String} {front rest : List (List Char)} {way : List Segment}
    (hparts : parts path = front ++ rest) (h : List.Forall₂ Segment.Denotes front way) :
    parse (ofParts front) = .ok way := by
  have hplain : ∀ part ∈ front, part ≠ [] ∧ ',' ∉ part := by
    intro part hpart
    obtain ⟨s, hs⟩ := Segment.exists_denotes_of_mem h part hpart
    have hmem : part ∈ parts path := hparts ▸ List.mem_append_left rest hpart
    exact ⟨hs.ne_nil, comma_notMem_of_mem_parts hmem⟩
  rwa [parse_eq_ok_iff, parts_ofParts hplain]

/-- The front parts of a path lead along the segments in front of that of the next part. -/
theorem exists_way_of_parts {path : String} {segments : List Segment}
    (h : parse path = .ok segments) {front rest : List (List Char)} {part : List Char}
    (hparts : parts path = front ++ part :: rest) :
    ∃ way s more, segments = way ++ s :: more ∧ Segment.Denotes part s ∧
      parse (ofParts front) = .ok way := by
  have hdenotes := parse_eq_ok_iff.1 h
  rw [hparts] at hdenotes
  obtain ⟨way, s, more, hsegments, hs, hway⟩ := exists_of_forall₂_append_cons hdenotes
  exact ⟨way, s, more, hsegments, hs, parse_ofParts hparts hway⟩

theorem exists_parts_of_way {path : String} {way more : List Segment} {s : Segment}
    (h : parse path = .ok (way ++ s :: more)) :
    ∃ front part rest, parts path = front ++ part :: rest ∧ Segment.Denotes part s ∧
      parse (ofParts front) = .ok way := by
  obtain ⟨front, part, rest, hparts, hs, hfront⟩ :=
    exists_of_forall₂_append_cons (parse_eq_ok_iff.1 h).flip
  exact ⟨front, part, rest, hparts, hs, parse_ofParts hparts hfront.flip⟩

variable {p q : String}

theorem parts_join (hp : p ≠ "") (hq : q ≠ "") : parts (p ++ "," ++ q) = parts p ++ parts q := by
  have hne : p ++ "," ++ q ≠ "" := by simp
  have hchars : (p ++ "," ++ q).toList = p.toList ++ ',' :: q.toList := by simp
  rw [parts, parts, parts, if_neg hne, if_neg hp, if_neg hq, hchars]
  exact List.splitOn_append_cons_self p.toList q.toList

theorem parse_join_eq_ok_iff (hp : p ≠ "") (hq : q ≠ "") {segments : List Segment} :
    parse (p ++ "," ++ q) = .ok segments ↔
      ∃ way more, parse p = .ok way ∧ parse q = .ok more ∧ segments = way ++ more := by
  simp only [parse_eq_ok_iff, parts_join hp hq, forall₂_append_left_iff]

end Path

namespace Value

theorem get?_eq_some_iff {v w : Value} {path : String} :
    v.get? path = some w ↔
      ∃ segments, Path.parse path = .ok segments ∧ v.descend segments = some w := by
  rw [get?]
  cases Path.parse path <;> simp

/-- What stands at the end of two joined paths is what the second one leads to from the end of the
first, below every node and in every packet. -/
theorem get?_join {p q : String} (hp : p ≠ "") (hq : q ≠ "") :
    (∀ v : Value, v.get? (p ++ "," ++ q) = (v.get? p).bind fun w => w.get? q) ∧
      ∀ packet : Packet, packet.get? (p ++ "," ++ q) = (packet.get? p).bind fun w => w.get? q := by
  have hnode (v : Value) : v.get? (p ++ "," ++ q) = (v.get? p).bind fun w => w.get? q := by
    refine Option.ext fun w => ?_
    rw [get?_eq_some_iff, Option.bind_eq_some_iff]
    constructor
    · rintro ⟨segments, hsegments, hw⟩
      obtain ⟨way, more, hway, hmore, rfl⟩ := (Path.parse_join_eq_ok_iff hp hq).1 hsegments
      rw [descend_append, Option.bind_eq_some_iff] at hw
      obtain ⟨u, hu, hw⟩ := hw
      exact ⟨u, get?_eq_some_iff.2 ⟨way, hway, hu⟩, get?_eq_some_iff.2 ⟨more, hmore, hw⟩⟩
    · rintro ⟨u, hu, hw⟩
      obtain ⟨way, hway, hu⟩ := get?_eq_some_iff.1 hu
      obtain ⟨more, hmore, hw⟩ := get?_eq_some_iff.1 hw
      refine ⟨way ++ more, (Path.parse_join_eq_ok_iff hp hq).2 ⟨way, more, hway, hmore, rfl⟩, ?_⟩
      rw [descend_append, hu]
      exact hw
  refine ⟨hnode, fun packet => ?_⟩
  rw [Packet.get?, Packet.get?, Option.bind_assoc]
  exact Option.bind_congr fun v _ => hnode v

/-- A path through a slot to a field, and the same path with an index beyond every array. -/
theorem get?_join_of_slot :
    let v : Value :=
      .struct [("A", some (.array [none, some (.struct [("B", some (.bool true))])]))]
    "A,01" ≠ "" ∧ "B" ≠ "" ∧ "65536,B" ≠ "" ∧
      v.get? "A,01,B" = some (.bool true) ∧
      v.get? ("A,01" ++ "," ++ "B") = (v.get? "A,01").bind (fun w => w.get? "B") ∧
      v.get? ("A" ++ "," ++ "65536,B") = (v.get? "A").bind (fun w => w.get? "65536,B") := by
  intro v
  have hslot : "A,01" ≠ "" := by decide
  have hfield : "B" ≠ "" := by decide
  have hbeyond : "65536,B" ≠ "" := by decide
  exact ⟨hslot, hfield, hbeyond, rfl, (get?_join hslot hfield).1 v,
    (get?_join (by decide) hbeyond).1 v⟩

end Value
end RemoteDev
