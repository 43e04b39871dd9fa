import RemoteDev.Packet.Basic
import RemoteDev.Proofs.Outcome

/-! What a tree has become once a value is put at a path: the subtree at the path is the value,
the nodes on the way are containers that differ from what they were in one place only, and
whatever does not lie on the path is as it was. -/
namespace RemoteDev

namespace Value

def HasSlots (slot : Option Value) (items : List (Option Value)) : Prop :=
  slot = some (array items) ∨ slot = none ∧ items = []

def HasFields (slot : Option Value) (fields : List (String × Option Value)) : Prop :=
  slot = some (struct fields) ∨ slot = none ∧ fields = []

/-- A container that has a given child where a segment leads, and is otherwise what it was. -/
inductive Holds (w : Value) : Segment → Option Value → Value → Prop
  | index {i : Nat} {before : Option Value} {items : List (Option Value)}
      (h : HasSlots before items) : Holds w (.index i) before (array (setSlot items i w))
  | field {name : String} {before : Option Value} {fields : List (String × Option Value)}
      (h : HasFields before fields) :
      Holds w (.field name) before (struct (setField name (some w) fields))

/-- All that placing does at one node. -/
theorem place_cons {leaf v : Value} {s : Segment} {r : List Segment} {before : Option Value}
    (h : place leaf (s :: r) before = .ok v) :
    ∃ w, place leaf r (before.bind fun u => u.child? s) = .ok w ∧ Holds w s before v := by
  cases s with
  | index i =>
    cases before with
    | none =>
      obtain ⟨w, hw, hv⟩ := bind_eq_ok.1 h
      cases hv
      exact ⟨w, hw, .index (.inr ⟨rfl, rfl⟩)⟩
    | some u =>
      cases u with
      | array items =>
        obtain ⟨w, hw, hv⟩ := bind_eq_ok.1 h
        cases hv
        exact ⟨w, hw, .index (.inl rfl)⟩
      | bool | number | text | struct => cases h
  | field name =>
    cases before with
    | none =>
      obtain ⟨w, hw, hv⟩ := bind_eq_ok.1 h
      cases hv
      exact ⟨w, hw, .field (.inr ⟨rfl, rfl⟩)⟩
    | some u =>
      cases u with
      | struct fields =>
        obtain ⟨w, hw, hv⟩ := bind_eq_ok.1 h
        cases hv
        exact ⟨w, hw, .field (.inl rfl)⟩
      | bool | number | text | array => cases h

/-- A property of trees that passes to children, and from the new child to the container on the
way, passes from the leaf to the tree. -/
theorem of_place {P : Value → Prop} {leaf v : Value} {segments : List Segment}
    {before : Option Value} (hchild : ∀ u w s, P u → u.child? s = some w → P w)
    (hholds : ∀ s ∈ segments, ∀ before w u, (∀ old, before = some old → P old) → P w →
      Holds w s before u → P u)
    (hleaf : P leaf) (hbefore : ∀ u, before = some u → P u)
    (h : place leaf segments before = .ok v) : P v := by
  induction segments generalizing before v with
  | nil =>
    simp only [place, Except.ok.injEq] at h
    exact h ▸ hleaf
  | cons s r ih =>
    obtain ⟨w, hw, hv⟩ := place_cons h
    have hbelow : ∀ u, (before.bind fun u => u.child? s) = some u → P u := by
      intro u hu
      obtain ⟨node, hnode, hu⟩ := Option.bind_eq_some_iff.1 hu
      exact hchild node u s (hbefore node hnode) hu
    have hplaced : P w := ih (fun t ht => hholds t (List.mem_cons_of_mem s ht)) hbelow hw
    exact hholds s List.mem_cons_self before w v hbefore hplaced hv

theorem fieldOf_setField_ne {name other : String} (v : Option Value)
    (fields : List (String × Option Value)) (h : name ≠ other) :
    fieldOf (setField name v fields) other = fieldOf fields other := by
  have hother : (other == name) = false := by simpa using h.symm
  induction fields with
  | nil => simp [setField, fieldOf, List.lookup_cons, hother]
  | cons f r ih =>
    obtain ⟨n, w⟩ := f
    by_cases hn : n = name
    · subst hn
      simp [setField, fieldOf, List.lookup_cons, hother]
    · by_cases ho : other = n
      · simp [setField, fieldOf, hn, ho]
      · have ho' : (other == n) = false := by simpa using ho
        simpa [setField, fieldOf, List.lookup_cons, hn, ho'] using ih

theorem Holds.child?_self {w v : Value} {s : Segment} {before : Option Value}
    (h : Holds w s before v) : v.child? s = some w := by
  cases h with
  | index => exact slotAt_setSlot_self _ _ _
  | field => exact fieldOf_setField_self _ _ _

theorem Holds.child?_ne {w v : Value} {s t : Segment} {before : Option Value}
    (h : Holds w s before v) (hst : s ≠ t) :
    v.child? t = before.bind fun u => u.child? t := by
  cases h with
  | @index i _ items hitems =>
    cases t with
    | index j =>
      have hij : i ≠ j := fun e => hst (congrArg Segment.index e)
      have hslot : slotAt (setSlot items i w) j = slotAt items j := slotAt_setSlot_ne items w hij
      rcases hitems with rfl | ⟨rfl, rfl⟩
      · exact hslot
      · exact hslot.trans rfl
    | field name => rcases hitems with rfl | ⟨rfl, -⟩ <;> rfl
  | @field name _ fields hfields =>
    cases t with
    | index j => rcases hfields with rfl | ⟨rfl, -⟩ <;> rfl
    | field other =>
      have hno : name ≠ other := fun e => hst (congrArg Segment.field e)
      have hfield := fieldOf_setField_ne (some w) fields hno
      rcases hfields with rfl | ⟨rfl, rfl⟩
      · exact hfield
      · exact hfield.trans rfl

theorem descend_place_append {leaf v : Value} {segments : List Segment} {before : Option Value}
    (h : place leaf segments before = .ok v) (below : List Segment) :
    v.descend (segments ++ below) = leaf.descend below := by
  induction segments generalizing before v with
  | nil =>
    simp only [place, Except.ok.injEq] at h
    rw [List.nil_append, h]
  | cons s r ih =>
    obtain ⟨w, hw, hholds⟩ := place_cons h
    rw [List.cons_append, descend, hholds.child?_self, Option.bind_some]
    exact ih hw

/-- Where a path leaves the segments, it finds what it found before. -/
theorem descend_place_ne {leaf v : Value} {front rest aside : List Segment} {s t : Segment}
    {before : Option Value} (h : place leaf (front ++ s :: rest) before = .ok v) (hst : s ≠ t) :
    v.descend (front ++ t :: aside) = before.bind fun u => u.descend (front ++ t :: aside) := by
  induction front generalizing before v with
  | nil =>
    obtain ⟨w, -, hholds⟩ := place_cons h
    rw [List.nil_append, descend, hholds.child?_ne hst]
    cases before <;> rfl
  | cons f r ih =>
    obtain ⟨w, hw, hholds⟩ := place_cons h
    rw [List.cons_append, descend, hholds.child?_self, Option.bind_some, ih hw]
    cases before <;> rfl

/-- On the way to the end of the segments there are containers, and each holds the next one. -/
theorem descend_place_front {leaf v : Value} {front rest : List Segment} {s : Segment}
    {before : Option Value} (h : place leaf (front ++ s :: rest) before = .ok v) :
    ∃ node w, v.descend front = some node ∧
      Holds w s (before.bind fun u => u.descend front) node := by
  induction front generalizing before v with
  | nil =>
    obtain ⟨w, -, hholds⟩ := place_cons h
    refine ⟨v, w, rfl, ?_⟩
    cases before <;> exact hholds
  | cons f r ih =>
    obtain ⟨u, hu, hfirst⟩ := place_cons h
    obtain ⟨node, w, hnode, hholds⟩ := ih hu
    refine ⟨node, w, ?_, ?_⟩
    · rw [descend, hfirst.child?_self, Option.bind_some, hnode]
    · cases before <;> exact hholds

theorem mem_of_slotAt {items : List (Option Value)} {i : Nat} {v : Value}
    (h : slotAt items i = some v) : some v ∈ items :=
  List.mem_of_getElem? (Option.join_eq_some_iff.1 h)

theorem mem_of_fieldOf {fields : List (String × Option Value)} {name : String} {v : Value}
    (h : fieldOf fields name = some v) : (name, some v) ∈ fields := by
  obtain ⟨front, rest, rfl, -⟩ := List.lookup_eq_some_iff.1 (Option.join_eq_some_iff.1 h)
  exact List.mem_append_right front List.mem_cons_self

theorem mem_setSlot {items : List (Option Value)} {i : Nat} {w v : Value}
    (h : some v ∈ setSlot items i w) : v = w ∨ some v ∈ items := by
  rcases List.mem_or_eq_of_mem_set h with h | h
  · rcases List.mem_append.1 h with h | h
    · exact .inr h
    · cases List.eq_of_mem_replicate h
  · exact .inl (Option.some.inj h)

theorem mem_setField {name : String} {slot : Option Value} {fields : List (String × Option Value)}
    {f : String × Option Value} (h : f ∈ setField name slot fields) :
    f = (name, slot) ∨ f ∈ fields := by
  induction fields with
  | nil => exact .inl (List.mem_singleton.1 h)
  | cons g r ih =>
    rw [setField] at h
    split at h
    case isTrue hname =>
      rcases List.mem_cons.1 h with h | h
      · exact .inl (hname ▸ h)
      · exact .inr (List.mem_cons_of_mem g h)
    case isFalse =>
      rcases List.mem_cons.1 h with h | h
      · exact .inr (h ▸ List.mem_cons_self)
      · exact (ih h).imp_right (List.mem_cons_of_mem g)

theorem names_setField (name : String) (v : Option Value) (fields : List (String × Option Value)) :
    (setField name v fields).map Prod.fst =
      if name ∈ fields.map Prod.fst then fields.map Prod.fst
      else fields.map Prod.fst ++ [name] := by
  induction fields with
  | nil => rfl
  | cons f r ih =>
    obtain ⟨n, w⟩ := f
    by_cases hn : n = name
    · simp [setField, hn]
    · have hname : name ≠ n := fun e => hn e.symm
      rw [setField, if_neg hn, List.map_cons, ih]
      by_cases hmem : name ∈ r.map Prod.fst
      · simp [hmem]
      · simp [hmem, hname]

theorem getElem?_setField_ne (name : String) (v : Option Value)
    (fields : List (String × Option Value)) {k : Nat}
    (h : k ≠ (fields.map Prod.fst).idxOf name) : (setField name v fields)[k]? = fields[k]? := by
  induction fields generalizing k with
  | nil =>
    cases k with
    | zero => exact absurd rfl h
    | succ k => rfl
  | cons f r ih =>
    obtain ⟨n, w⟩ := f
    by_cases hn : n = name
    · cases k with
      | zero => simp [hn] at h
      | succ k => simp [setField, hn]
    · cases k with
      | zero => simp [setField, hn]
      | succ k =>
        have hk : k ≠ (r.map Prod.fst).idxOf name := by
          intro e
          apply h
          have hbeq : (n == name) = false := by simpa using hn
          rw [List.map_cons, List.idxOf_cons, hbeq, cond_false, ← e]
        rw [setField, if_neg hn, List.getElem?_cons_succ, List.getElem?_cons_succ, ih hk]

end Value

namespace Packet

open Value

def at? (p : Packet) (segments : List Segment) : Option Value :=
  p.data.bind fun v => v.descend segments

theorem get?_of_parse {p : Packet} {path : String} {segments : List Segment}
    (h : Path.parse path = .ok segments) : p.get? path = p.at? segments := by
  simp only [get?, at?, Value.get?, h]

/-- How the packets before and after are related when a value has been put at the end of the
segments. -/
structure Replaced (segments : List Segment) (v : Value) (before after : Packet) : Prop where
  /-- There and below there is the value. -/
  inside (below : List Segment) : after.at? (segments ++ below) = v.descend below
  /-- Wherever a path leaves the segments there is what was there before. -/
  outside {front rest : List Segment} {s t : Segment} (aside : List Segment)
    (h : segments = front ++ s :: rest) (hst : s ≠ t) :
    after.at? (front ++ t :: aside) = before.at? (front ++ t :: aside)
  /-- Before an index there is an array, long enough and with all other slots as they were. -/
  arrays {front rest : List Segment} {i : Nat} (h : segments = front ++ .index i :: rest) :
    ∃ old new, HasSlots (before.at? front) old ∧ after.at? front = some (.array new) ∧
      new.length = max old.length (i + 1) ∧ ∀ j, j ≠ i → slotAt new j = slotAt old j
  /-- Before a field name there is a struct with the old names in their order, perhaps one more
  at the end, and with all other fields as they were. -/
  structs {front rest : List Segment} {name : String}
    (h : segments = front ++ .field name :: rest) :
    ∃ old new, HasFields (before.at? front) old ∧ after.at? front = some (.struct new) ∧
      new.map Prod.fst = (if name ∈ old.map Prod.fst then old.map Prod.fst
        else old.map Prod.fst ++ [name]) ∧
      ∀ k, k ≠ (old.map Prod.fst).idxOf name → new[k]? = old[k]?
  header : after.header = before.header

theorem put_eq_ok {p q : Packet} {path : String} {v : Value} :
    p.put path v = .ok q ↔ ∃ segments data, Path.parse path = .ok segments ∧
      v.place segments p.data = .ok data ∧ q = { p with data := some data } := by
  rw [put, bind_eq_ok]
  constructor
  · rintro ⟨segments, hparse, hplace⟩
    cases hdata : v.place segments p.data with
    | error s => simp [hdata, throw, throwThe, MonadExceptOf.throw] at hplace
    | ok data =>
      simp only [hdata, pure, Except.pure, Except.ok.injEq] at hplace
      exact ⟨segments, data, hparse, hdata, hplace.symm⟩
  · rintro ⟨segments, data, hparse, hdata, rfl⟩
    exact ⟨segments, hparse, by simp only [hdata]; rfl⟩

theorem replaced_of_place {p : Packet} {segments : List Segment} {v data : Value}
    (h : v.place segments p.data = .ok data) :
    Replaced segments v p { p with data := some data } where
  inside below := descend_place_append h below
  outside aside hs hst := by
    subst hs
    exact descend_place_ne h hst
  arrays hs := by
    subst hs
    obtain ⟨node, w, hnode, hholds⟩ := descend_place_front h
    cases hholds with
    | index hold =>
      exact ⟨_, _, hold, hnode, length_setSlot _ _ _,
        fun j hj => slotAt_setSlot_ne _ w (Ne.symm hj)⟩
  structs hs := by
    subst hs
    obtain ⟨node, w, hnode, hholds⟩ := descend_place_front h
    cases hholds with
    | field hold =>
      exact ⟨_, _, hold, hnode, names_setField _ _ _, fun k hk => getElem?_setField_ne _ _ _ hk⟩
  header := rfl

/-- A put that succeeds replaces the subtree at its path and nothing else. Paths are compared
by their segments, so that different texts may name one path. -/
theorem replaced_of_put {p q : Packet} {path : String} {v : Value} (h : p.put path v = .ok q) :
    ∃ segments, Path.parse path = .ok segments ∧ Replaced segments v p q ∧
      q.get? path = some v ∧
      (∀ inner below rest, Path.parse below = .ok rest →
        Path.parse inner = .ok (segments ++ rest) → q.get? inner = v.get? below) ∧
      (∀ outer front s t rest aside, segments = front ++ s :: rest → s ≠ t →
        Path.parse outer = .ok (front ++ t :: aside) → q.get? outer = p.get? outer) := by
  obtain ⟨segments, data, hparse, hplace, rfl⟩ := put_eq_ok.1 h
  have hlaw := replaced_of_place hplace
  refine ⟨segments, hparse, hlaw, ?_, ?_, ?_⟩
  · have hleaf := hlaw.inside []
    rw [List.append_nil, descend_nil] at hleaf
    rw [get?_of_parse hparse, hleaf]
  · intro inner below rest hbelow hinner
    rw [get?_of_parse hinner, hlaw.inside rest, Value.get?, hbelow]
  · intro outer front s t rest aside hs hst houter
    rw [get?_of_parse houter, get?_of_parse houter, hlaw.outside aside hs hst]

/-- A put that makes a struct in the third slot of an array, beside a struct in its first. -/
theorem replaced_of_put_in_third_slot :
    let p : Packet := ⟨none, some (.array [some (.struct [("NAME", some (.bool true))])])⟩
    let q : Packet := ⟨none, some (.array [some (.struct [("NAME", some (.bool true))]), none,
      some (.struct [("LINE", some (.text "x"))])])⟩
    p.put "02,LINE" (.text "x") = .ok q ∧
    ∃ segments, Path.parse "02,LINE" = .ok segments ∧ Replaced segments (.text "x") p q ∧
      q.get? "02,LINE" = some (.text "x") ∧
      (∀ inner below rest, Path.parse below = .ok rest →
        Path.parse inner = .ok (segments ++ rest) →
          q.get? inner = (Value.text "x").get? below) ∧
      (∀ outer front s t rest aside, segments = front ++ s :: rest → s ≠ t →
        Path.parse outer = .ok (front ++ t :: aside) → q.get? outer = p.get? outer) :=
  ⟨rfl, replaced_of_put rfl⟩

end Packet
end RemoteDev
