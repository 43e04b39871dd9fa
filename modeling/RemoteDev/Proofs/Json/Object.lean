import Mathlib
import RemoteDev.Json.Read
import RemoteDev.Proofs.Outcome

/-! Objects of JSON documents. Only what stands in braces is read as an object. Among the members
that are written under one name the last one counts, and the integers of an object are those of the
members that count. -/
namespace RemoteDev.Json

section Members

variable {members written : List (String × Json)} {name other : String} {value : Json}

def InOrder (members : List (String × Json)) : Prop := members.Pairwise fun a b => a.1 < b.1

theorem lookup_setMember_ne (h : name ≠ other) :
    (setMember name value members).lookup other = members.lookup other := by
  have hother : (other == name) = false := by simpa using h.symm
  induction members with
  | nil => simp [setMember, List.lookup_cons, hother]
  | cons m r ih =>
    obtain ⟨n, v⟩ := m
    rw [setMember]
    split
    case isTrue hn => simp [List.lookup_cons, hn, hother]
    case isFalse =>
      split
      case isTrue => rw [List.lookup_cons, hother]
      case isFalse => rw [List.lookup_cons, List.lookup_cons, ih]

theorem mem_setMember {m : String × Json} (h : m ∈ setMember name value members) :
    m = (name, value) ∨ m ∈ members := by
  induction members with
  | nil => exact .inl (List.mem_singleton.1 h)
  | cons first r ih =>
    rw [setMember] at h
    split at h
    case isTrue => exact (List.mem_cons.1 h).imp_right (List.mem_cons_of_mem first)
    case isFalse =>
      split at h
      case isTrue => exact List.mem_cons.1 h
      case isFalse =>
        rcases List.mem_cons.1 h with rfl | h
        · exact .inr List.mem_cons_self
        · exact (ih h).imp_right (List.mem_cons_of_mem first)

theorem inOrder_setMember (h : InOrder members) : InOrder (setMember name value members) := by
  induction members with
  | nil => exact List.pairwise_singleton _ _
  | cons first r ih =>
    obtain ⟨hfirst, hr⟩ := List.pairwise_cons.1 h
    rw [setMember]
    split
    case isTrue hn => exact List.pairwise_cons.2 ⟨hn ▸ hfirst, hr⟩
    case isFalse hn =>
      split
      case isTrue hlt =>
        refine List.pairwise_cons.2 ⟨fun m hm => ?_, h⟩
        rcases List.mem_cons.1 hm with rfl | hm
        · exact hlt
        · exact hlt.trans (hfirst m hm)
      case isFalse hlt =>
        refine List.pairwise_cons.2 ⟨fun m hm => ?_, ih hr⟩
        rcases mem_setMember hm with rfl | hm
        · exact lt_of_le_of_ne (not_lt.1 hlt) hn
        · exact hfirst m hm

theorem lookup_of_mem (h : InOrder members) (hm : (name, value) ∈ members) :
    members.lookup name = some value := by
  obtain ⟨front, rest, rfl⟩ := List.append_of_mem hm
  refine List.lookup_eq_some_iff.2 ⟨front, rest, rfl, fun m hfront => ?_⟩
  have hlt : m.1 < name := (List.pairwise_append.1 h).2.2 m hfront _ List.mem_cons_self
  simpa using hlt.ne'

/-- The members that count among those written, each name once. -/
def counted (written : List (String × Json)) : List (String × Json) :=
  written.foldl (fun members m => setMember m.1 m.2 members) []

theorem counted_nil : counted [] = [] := rfl

theorem counted_append_singleton (written : List (String × Json)) (m : String × Json) :
    counted (written ++ [m]) = setMember m.1 m.2 (counted written) := by
  rw [counted, List.foldl_append]
  rfl

theorem inOrder_counted (written : List (String × Json)) : InOrder (counted written) := by
  induction written using List.reverseRecOn with
  | nil => exact List.Pairwise.nil
  | append_singleton r m ih => rw [counted_append_singleton]; exact inOrder_setMember ih

theorem lookup_counted (written : List (String × Json)) (name : String) :
    (counted written).lookup name = written.reverse.lookup name := by
  induction written using List.reverseRecOn with
  | nil => rfl
  | append_singleton r m ih =>
    obtain ⟨n, v⟩ := m
    rw [counted_append_singleton, List.reverse_append, List.reverse_singleton,
      List.singleton_append, List.lookup_cons]
    by_cases h : n = name
    · rw [h, lookup_setMember_self, beq_self_eq_true]
    · have hne : (name == n) = false := by simpa using Ne.symm h
      rw [lookup_setMember_ne h, ih, hne]

theorem memberText?_eq_some_iff {json : Json} {name text : String} :
    json.memberText? name = some text ↔
      ∃ members, json = .object members ∧ members.lookup name = some (.text text) := by
  cases json with
  | object members =>
    cases hlookup : members.lookup name with
    | none => simp [memberText?, member?, hlookup]
    | some x => cases x <;> simp [memberText?, member?, hlookup, text?]
  | null | bool | integer | float | text | list => simp [memberText?, member?]

end Members

section Reading

variable {item : Reader Json} {s rest : List Char} {x : Json}

/-- Members one after the other, with commas between them, and the brace that ends them. -/
inductive Members (item : Reader Json) : List Char → List (String × Json) → List Char → Prop
  | last {s r rest : List Char} {m : String × Json} (h : memberOf item s = .ok (m, r))
      (hend : skipSpaces r = '\x7d' :: rest) : Members item s [m] rest
  | next {s r r' rest : List Char} {m : String × Json} {others : List (String × Json)}
      (h : memberOf item s = .ok (m, r)) (hcomma : skipSpaces r = ',' :: r')
      (hothers : Members item (skipSpaces r') others rest) : Members item s (m :: others) rest

theorem members_of_membersAfter {front : List (String × Json)} {fuel : Nat}
    (h : membersAfter item (counted front) fuel s = .ok (x, rest)) :
    ∃ written, Members item s written rest ∧ x = .object (counted (front ++ written)) := by
  -- what has been read so far are the members that count of those in front
  induction fuel generalizing front s with
  | zero => cases h
  | succ fuel ih =>
    obtain ⟨⟨m, r⟩, hm, h⟩ := bind_eq_ok.1 h
    dsimp only at h
    split at h
    case h_1 r' hcomma =>
      rw [← counted_append_singleton] at h
      obtain ⟨written, hwritten, rfl⟩ := ih h
      exact ⟨m :: written, .next hm hcomma hwritten, by rw [List.append_assoc]; rfl⟩
    case h_2 r' hend =>
      cases h
      exact ⟨[m], .last hm hend, by rw [counted_append_singleton]⟩
    case h_3 => cases h
    case h_4 => cases h

/-- What is not in braces is no object. -/
inductive IsPlain : Json → Prop
  | null : IsPlain .null
  | bool (b : Bool) : IsPlain (.bool b)
  | integer (n : Int) : IsPlain (.integer n)
  | float (y : Binary64) : IsPlain (.float y)
  | text (t : String) : IsPlain (.text t)
  | list (items : List Json) : IsPlain (.list items)

theorem isPlain_of_floatOf {negative : Bool} {significand : Nat} {exponent : Int}
    (h : floatOf negative significand exponent = .ok x) : IsPlain x := by
  obtain ⟨y, -, hx⟩ := bind_eq_ok.1 h
  cases hx
  exact .float _

theorem isPlain_of_withExponent {negative : Bool} {significand : Nat} {exponent : Int}
    (h : withExponent negative significand exponent s = .ok (x, rest)) : IsPlain x := by
  have hplain (h : (floatOf negative significand exponent).map (fun x => (x, s)) = .ok (x, rest)) :
      IsPlain x := by
    obtain ⟨y, hy, heq⟩ := map_eq_ok.1 h
    cases heq
    exact isPlain_of_floatOf hy
  unfold withExponent at h
  split at h
  case h_1 => exact hplain h
  case h_2 c r =>
    split at h
    case isTrue =>
      obtain ⟨⟨down, e, after⟩, -, h⟩ := bind_eq_ok.1 h
      dsimp only at h
      split at h
      case isTrue =>
        split at h
        · cases h
        · cases h
          exact .float _
      case isFalse =>
        obtain ⟨y, hy, h⟩ := bind_eq_ok.1 h
        cases h
        exact isPlain_of_floatOf hy
    case isFalse => exact hplain h

theorem isPlain_integerOf (negative : Bool) (n : Nat) : IsPlain (integerOf negative n) := by
  unfold integerOf
  split
  · exact .integer _
  · split
    · exact .float _
    · exact .integer _

theorem isPlain_of_unsignedNumber {negative : Bool}
    (h : unsignedNumber negative s = .ok (x, rest)) : IsPlain x := by
  obtain ⟨⟨ds, r⟩, -, h⟩ := bind_eq_ok.1 h
  dsimp only at h
  split at h
  case h_1 =>
    split at h
    · cases h
    · exact isPlain_of_withExponent h
  all_goals
    split at h
    · exact isPlain_of_withExponent h
    · cases h
      exact isPlain_integerOf _ _

theorem isPlain_of_itemsAfter {done : List Json} {fuel : Nat}
    (h : itemsAfter item done fuel s = .ok (x, rest)) : IsPlain x := by
  induction fuel generalizing done s with
  | zero => cases h
  | succ fuel ih =>
    obtain ⟨⟨y, r⟩, -, h⟩ := bind_eq_ok.1 h
    dsimp only at h
    split at h
    case h_1 => exact ih h
    case h_2 =>
      cases h
      exact .list _
    case h_3 => cases h
    case h_4 => cases h

theorem isPlain_of_listBody (h : listBody item s = .ok (x, rest)) : IsPlain x := by
  unfold listBody at h
  split at h
  case h_1 =>
    cases h
    exact .list _
  case h_2 => exact isPlain_of_itemsAfter h

theorem eq_of_spelled {word : String} {y : Json} (h : spelled word y s = .ok (x, rest)) :
    x = y := by
  unfold spelled at h
  split at h
  · cases h; rfl
  · cases h

theorem isPlain_or_braces {depth : Nat} (h : value depth s = .ok (x, rest)) :
    IsPlain x ∨ ∃ inner r, depth = inner + 2 ∧ s = '\x7b' :: r ∧
      objectBody (value (inner + 1)) r = .ok (x, rest) := by
  unfold value at h
  split at h
  case h_1 => cases h
  case h_2 depth c r =>
    -- the cases are those of the first character, of which the last is the brace
    split_ifs at h with hn ht hf hq hd hl hb
    · exact .inl (eq_of_spelled h ▸ .null)
    · exact .inl (eq_of_spelled h ▸ .bool true)
    · exact .inl (eq_of_spelled h ▸ .bool false)
    · obtain ⟨y, -, heq⟩ := map_eq_ok.1 h
      cases heq
      exact .inl (.text _)
    · unfold number at h
      split at h <;> exact .inl (isPlain_of_unsignedNumber h)
    · split at h
      · cases h
      · cases h
      · exact .inl (isPlain_of_listBody h)
    · split at h
      · cases h
      · cases h
      · cases beq_iff_eq.1 hb
        exact .inr ⟨_, r, rfl, rfl, h⟩

/-- The members of the object that a document is, as they are written. -/
inductive WritesObject (text : List Char) : List (String × Json) → Prop
  | empty {r rest : List Char} (hopen : skipSpaces text = '\x7b' :: r)
      (hend : skipSpaces r = '\x7d' :: rest) (hrest : skipSpaces rest = []) : WritesObject text []
  | members {r rest : List Char} {written : List (String × Json)}
      (hopen : skipSpaces text = '\x7b' :: r)
      (hmembers : Members (value (depthLimit - 1)) (skipSpaces r) written rest)
      (hrest : skipSpaces rest = []) : WritesObject text written

theorem exists_written {text : String} {members : List (String × Json)}
    (h : read text = .ok (.object members)) :
    ∃ written, WritesObject text.toList written ∧ members = counted written := by
  obtain ⟨⟨x, rest⟩, hvalue, h⟩ := bind_eq_ok.1 h
  dsimp only at h
  split at h
  case h_2 => cases h
  case h_1 hrest =>
    cases h
    obtain ⟨⟨⟩⟩ | ⟨inner, r, hdepth, hopen, hbody⟩ := isPlain_or_braces hvalue
    cases hdepth
    unfold objectBody at hbody
    split at hbody
    case h_1 hend =>
      cases hbody
      exact ⟨[], .empty hopen hend hrest, rfl⟩
    case h_2 =>
      rw [← counted_nil] at hbody
      obtain ⟨written, hwritten, heq⟩ := members_of_membersAfter hbody
      cases heq
      exact ⟨written, .members hopen hwritten hrest, rfl⟩

theorem inOrder_of_read {text : String} {members : List (String × Json)}
    (h : read text = .ok (.object members)) : InOrder members := by
  obtain ⟨written, -, rfl⟩ := exists_written h
  exact inOrder_counted written

end Reading

section Words

variable {members : List (String × Json)} {name : String} {names : List String} {n : Int}

structure HasWord (members : List (String × Json)) (name : String) (n : Int) : Prop where
  lookup : members.lookup name = some (.integer n)
  lower : -2 ^ 63 ≤ n
  upper : n < 2 ^ 63

theorem word_eq_ok_iff {x : Json} :
    word x = .ok n ↔ x = .integer n ∧ -2 ^ 63 ≤ n ∧ n < 2 ^ 63 := by
  cases x with
  | integer m =>
    rw [word, Text.inWordRange]
    split
    case isTrue h =>
      simp only [Bool.and_eq_true, decide_eq_true_eq] at h
      simp only [Except.ok.injEq, integer.injEq]
      omega
    case isFalse h =>
      simp only [Bool.and_eq_true, decide_eq_true_eq] at h
      simp only [reduceCtorEq, integer.injEq, false_iff]
      omega
  | null | bool | float | text | list | object => exact iff_of_false nofun nofun

def IsWordOf (m : String × Json) (f : String × Int) : Prop := m.1 = f.1 ∧ word m.2 = .ok f.2

theorem words_eq_ok_iff {found : List (String × Int)} :
    words names (.object members) = .ok found ↔
      List.Forall₂ IsWordOf (members.filter fun m => names.contains m.1) found := by
  have hmember (m : String × Json) (f : String × Int) :
      (do return (m.1, ← word m.2) : Except JsonError (String × Int)) = .ok f ↔ IsWordOf m f := by
    obtain ⟨name, n⟩ := f
    rw [IsWordOf, bind_eq_ok]
    constructor
    · rintro ⟨n, hn, ⟨⟩⟩
      exact ⟨rfl, hn⟩
    · rintro ⟨rfl, hn⟩
      exact ⟨n, hn, rfl⟩
  rw [words, mapM_eq_ok_iff]
  simp only [hmember]

theorem lookup_filter (h : name ∈ names) :
    (members.filter fun m => names.contains m.1).lookup name = members.lookup name := by
  induction members with
  | nil => rfl
  | cons m r ih =>
    rw [List.filter_cons]
    split
    case isTrue => rw [List.lookup_cons, List.lookup_cons, ih]
    case isFalse hm =>
      have hne : (name == m.1) = false := by
        rw [beq_eq_false_iff_ne]
        rintro rfl
        exact hm (List.contains_iff_mem.2 h)
      rw [ih, List.lookup_cons, hne]

theorem lookup_of_isWordOf {found : List (String × Int)}
    (h : List.Forall₂ IsWordOf members found) :
    found.lookup name = some n ↔ ∃ x, members.lookup name = some x ∧ word x = .ok n := by
  induction h with
  | nil => simp
  | @cons m f r found hfirst _ ih =>
    obtain ⟨hname, hword⟩ := hfirst
    rw [List.lookup_cons, List.lookup_cons, hname]
    cases name == f.1 with
    | true => simp [hword]
    | false => exact ih

theorem wordNamed_eq_ok_iff {found : List (String × Int)}
    (h : words names (.object members) = .ok found) (hname : name ∈ names) :
    wordNamed found name = .ok n ↔ HasWord members name n := by
  have hfound : wordNamed found name = .ok n ↔ found.lookup name = some n := by
    rw [wordNamed]
    cases found.lookup name <;> simp
  rw [hfound, lookup_of_isWordOf (words_eq_ok_iff.1 h), lookup_filter hname]
  simp only [word_eq_ok_iff]
  constructor
  · rintro ⟨_, hx, rfl, hlower, hupper⟩
    exact ⟨hx, hlower, hupper⟩
  · rintro ⟨hx, hlower, hupper⟩
    exact ⟨_, hx, rfl, hlower, hupper⟩

/-- Only the members that count are tested, so that integers under all names are all found. -/
theorem exists_words (horder : InOrder members)
    (h : ∀ name ∈ names, ∃ n, HasWord members name n) :
    ∃ found, words names (.object members) = .ok found := by
  cases hwords : words names (.object members) with
  | ok found => exact ⟨found, rfl⟩
  | error e =>
    obtain ⟨front, ⟨name, x⟩, rest, hfilter, -, herror⟩ := mapM_eq_error_iff.1 hwords
    have hmem : (name, x) ∈ members.filter fun m => names.contains m.1 := by
      rw [hfilter]
      exact List.mem_append_right front List.mem_cons_self
    obtain ⟨hmem, hname⟩ := List.mem_filter.1 hmem
    obtain ⟨n, hlookup, hlower, hupper⟩ := h name (List.contains_iff_mem.1 hname)
    cases hlookup.symm.trans (lookup_of_mem horder hmem)
    dsimp only at herror
    rw [word_eq_ok_iff.2 ⟨rfl, hlower, hupper⟩] at herror
    cases herror

end Words
end RemoteDev.Json
