import Mathlib
import RemoteDev.Proofs.Packet.PathText

/-! When a value can be put at a path. Placing it comes to the same as following the path through
the tree, which may be refused, and building the tree anew along it, which would overwrite whatever
stands in the way. Main statement: a put is refused exactly for its path or for a node of the wrong
kind on the way, it is refused before anything has changed, and otherwise nothing stood in the
way. -/
namespace RemoteDev

namespace Value

def admits : Value → Segment → Bool
  | array _, .index _ => true
  | struct _, .field _ => true
  | _, _ => false

/-- Follows the segments as far as there are nodes, and refuses the first one that leads into a
node of the wrong kind. -/
def follow : List Segment → Option Value → Except Segment Unit
  | s :: r, some node => if node.admits s then follow r (node.child? s) else .error s
  | _, _ => .ok ()

def slotsOf : Option Value → List (Option Value)
  | some (array items) => items
  | _ => []

def fieldsOf : Option Value → List (String × Option Value)
  | some (struct fields) => fields
  | _ => []

/-- The container with a child where the segment leads: the one that is there, or a new one in the
place of nothing or of a node of the wrong kind. -/
def withChild (before : Option Value) (w : Value) : Segment → Value
  | .index i => array (setSlot (slotsOf before) i w)
  | .field name => struct (setField name (some w) (fieldsOf before))

def build (leaf : Value) : List Segment → Option Value → Value
  | [], _ => leaf
  | s :: r, before => withChild before (build leaf r (before.bind fun u => u.child? s)) s

theorem follow_none (segments : List Segment) : follow segments none = .ok () := by
  cases segments <;> rfl

/-- Placing is following the segments and then building the tree. -/
theorem place_eq (leaf : Value) (segments : List Segment) (before : Option Value) :
    place leaf segments before =
      (follow segments before).map fun _ => build leaf segments before := by
  induction segments generalizing before with
  | nil => cases before <;> rfl
  | cons s r ih =>
    have hmap (f : Value → Value) (outcome : Except Segment Unit) (w : Value) :
        (do return f (← outcome.map fun _ => w)) = outcome.map fun _ => f w := by
      cases outcome <;> rfl
    cases before with
    | none =>
      cases s with
      | index i =>
        show (do return array (setSlot [] i (← place leaf r none))) = _
        rw [ih, hmap, follow_none]
        rfl
      | field name =>
        show (do return struct (setField name (some (← place leaf r none)) [])) = _
        rw [ih, hmap fun w => struct (setField name (some w) []), follow_none]
        rfl
    | some u =>
      cases s with
      | index i =>
        cases u with
        | array items =>
          show (do return array (setSlot items i (← place leaf r (slotAt items i)))) = _
          rw [ih, hmap]
          rfl
        | bool | number | text | struct => rfl
      | field name =>
        cases u with
        | struct fields =>
          show (do
            return struct (setField name (some (← place leaf r (fieldOf fields name))) fields)) = _
          rw [ih, hmap fun w => struct (setField name (some w) fields)]
          rfl
        | bool | number | text | array => rfl

theorem admits_of_child? {u w : Value} {s : Segment} (h : u.child? s = some w) :
    u.admits s = true := by
  cases u <;> cases s <;> first | rfl | cases h

theorem follow_eq_error_iff {segments : List Segment} {before : Option Value} {s : Segment} :
    follow segments before = .error s ↔ ∃ front rest node, segments = front ++ s :: rest ∧
      (before.bind fun v => v.descend front) = some node ∧ node.admits s = false := by
  induction segments generalizing before with
  | nil =>
    constructor
    · intro h
      cases before <;> cases h
    · rintro ⟨front, rest, node, h, -⟩
      simp at h
  | cons t r ih =>
    cases before with
    | none =>
      constructor
      · intro h
        cases h
      · rintro ⟨front, rest, node, -, h, -⟩
        cases h
    | some u =>
      rw [follow]
      cases ht : u.admits t with
      | true =>
        rw [if_pos rfl, ih]
        constructor
        · rintro ⟨front, rest, node, rfl, hnode, hkind⟩
          exact ⟨t :: front, rest, node, rfl, hnode, hkind⟩
        · rintro ⟨front, rest, node, hsegments, hnode, hkind⟩
          cases front with
          | nil =>
            cases hsegments
            cases hnode
            rw [ht] at hkind
            cases hkind
          | cons f front =>
            cases hsegments
            exact ⟨front, rest, node, rfl, hnode, hkind⟩
      | false =>
        rw [if_neg Bool.false_ne_true, Except.error.injEq]
        constructor
        · rintro rfl
          exact ⟨[], r, u, rfl, rfl, ht⟩
        · rintro ⟨front, rest, node, hsegments, hnode, hkind⟩
          cases front with
          | nil =>
            cases hsegments
            rfl
          | cons f front =>
            cases hsegments
            have hway : ((u.child? t).bind fun w => w.descend front) = some node := hnode
            obtain ⟨w, hw, -⟩ := Option.bind_eq_some_iff.1 hway
            rw [admits_of_child? hw] at ht
            cases ht

end Value

namespace Packet

open Value

variable {p q : Packet} {path : String} {v : Value}

/-- Putting into a packet that is at hand: the path is read and followed first, and the data tree
is built only then. -/
def update (path : String) (v : Value) : ExceptT PacketError (StateM Packet) Unit := do
  let segments ← liftM (Path.parse path)
  let p ← get
  liftM ((follow segments p.data).mapError fun s => s.mismatch path)
  set { p with data := some (build v segments p.data) }

/-- A path that leads into a node of the wrong kind: its front parts lead to a node that is no
array while the next part is an index, or no struct while the next part is a name. -/
inductive Mismatched (p : Packet) (path : String) : PacketError → Prop
  | array {front rest : List (List Char)} {part : List Char} {i : Nat} {node : Value}
      (hparts : Path.parts path = front ++ part :: rest)
      (hindex : Segment.Denotes part (.index i))
      (hnode : p.get? (Path.ofParts front) = some node) (hkind : ∀ items, node ≠ .array items) :
      Mismatched p path (.needsArray path (decimalText i))
  | struct {front rest : List (List Char)} {part : List Char} {name : String} {node : Value}
      (hparts : Path.parts path = front ++ part :: rest)
      (hname : Segment.Denotes part (.field name))
      (hnode : p.get? (Path.ofParts front) = some node)
      (hkind : ∀ fields, node ≠ .struct fields) : Mismatched p path (.needsStruct path name)

theorem put_of_parse_error {e : PacketError} (h : Path.parse path = .error e) (p : Packet)
    (v : Value) : p.put path v = .error e := by
  rw [put, h]
  rfl

theorem put_of_parse {segments : List Segment} (h : Path.parse path = .ok segments) (p : Packet)
    (v : Value) : p.put path v = ((follow segments p.data).mapError fun s => s.mismatch path).map
      fun _ => { p with data := some (build v segments p.data) } := by
  rw [put, h, ok_bind, place_eq]
  cases follow segments p.data <;> rfl

/-- A refusal stops a change and leaves what there is at that time. -/
theorem run_liftM_bind {ε σ α β : Type} (outcome : Except ε α)
    (next : α → ExceptT ε (StateM σ) β) (state : σ) :
    ((liftM outcome >>= next : ExceptT ε (StateM σ) β)).run.run state = match outcome with
      | .ok a => (next a).run.run state
      | .error e => (.error e, state) := by
  cases outcome <;> rfl

theorem run_get_bind {ε σ β : Type} (next : σ → ExceptT ε (StateM σ) β) (state : σ) :
    ((get >>= next : ExceptT ε (StateM σ) β)).run.run state = (next state).run.run state := rfl

theorem run_update (p : Packet) (path : String) (v : Value) :
    (update path v).run.run p = match p.put path v with
      | .ok q => (.ok (), q)
      | .error e => (.error e, p) := by
  rw [update, run_liftM_bind]
  cases hparse : Path.parse path with
  | error e => rw [put_of_parse_error hparse]
  | ok segments =>
    dsimp only
    rw [run_get_bind, run_liftM_bind, put_of_parse hparse]
    cases follow segments p.data <;> rfl

theorem follow_eq_error_of_parts {segments : List Segment} (h : Path.parse path = .ok segments)
    {front rest : List (List Char)} {part : List Char} {s : Segment} {node : Value}
    (hparts : Path.parts path = front ++ part :: rest) (hpart : Segment.Denotes part s)
    (hnode : p.get? (Path.ofParts front) = some node) (hwrong : node.admits s = false) :
    follow segments p.data = .error s := by
  obtain ⟨way, t, more, hsegments, ht, hway⟩ := Path.exists_way_of_parts h hparts
  rw [get?_of_parse hway] at hnode
  rw [ht.unique hpart] at hsegments
  exact follow_eq_error_iff.2 ⟨way, more, node, hsegments, hnode, hwrong⟩

theorem mismatched_iff_of_parse {segments : List Segment} (h : Path.parse path = .ok segments)
    {e : PacketError} :
    p.Mismatched path e ↔ ∃ s, follow segments p.data = .error s ∧ s.mismatch path = e := by
  constructor
  · intro hmismatched
    cases hmismatched with
    | @array _ _ _ i node hparts hindex hnode hkind =>
      have hwrong : node.admits (.index i) = false := by
        cases node with
        | array items => exact absurd rfl (hkind items)
        | bool | number | text | struct => rfl
      exact ⟨_, follow_eq_error_of_parts h hparts hindex hnode hwrong, rfl⟩
    | @struct _ _ _ name node hparts hname hnode hkind =>
      have hwrong : node.admits (.field name) = false := by
        cases node with
        | struct fields => exact absurd rfl (hkind fields)
        | bool | number | text | array => rfl
      exact ⟨_, follow_eq_error_of_parts h hparts hname hnode hwrong, rfl⟩
  · rintro ⟨s, hs, rfl⟩
    obtain ⟨way, more, node, rfl, hnode, hwrong⟩ := follow_eq_error_iff.1 hs
    obtain ⟨front, part, rest, hparts, hpart, hway⟩ := Path.exists_parts_of_way h
    have hget : p.get? (Path.ofParts front) = some node := (get?_of_parse hway).trans hnode
    cases s with
    | index i =>
      refine .array hparts hpart hget ?_
      rintro items rfl
      cases hwrong
    | field name =>
      refine .struct hparts hpart hget ?_
      rintro fields rfl
      cases hwrong

theorem put_eq_error_iff {e : PacketError} :
    p.put path v = .error e ↔
      Path.Refused path e ∨ (∀ e', ¬ Path.Refused path e') ∧ p.Mismatched path e := by
  cases hparse : Path.parse path with
  | error e₀ =>
    have hrefused : Path.Refused path e₀ := Path.parse_eq_error_iff.1 hparse
    rw [put_of_parse_error hparse]
    constructor
    · intro h
      cases h
      exact .inl hrefused
    · rintro (h | ⟨hnone, -⟩)
      · cases hparse.symm.trans (Path.parse_eq_error_iff.2 h)
        rfl
      · exact absurd hrefused (hnone e₀)
  | ok segments =>
    have hnone (e' : PacketError) : ¬ Path.Refused path e' := by
      rw [← Path.parse_eq_error_iff, hparse]
      exact nofun
    rw [put_of_parse hparse, mismatched_iff_of_parse hparse]
    constructor
    · intro h
      refine .inr ⟨hnone, ?_⟩
      cases hfollow : follow segments p.data with
      | error s =>
        rw [hfollow] at h
        cases h
        exact ⟨s, rfl, rfl⟩
      | ok =>
        rw [hfollow] at h
        cases h
    · rintro (h | ⟨-, s, hs, rfl⟩)
      · exact absurd h (hnone e)
      · rw [hs]
        rfl

/-- A put fails exactly if a part of its path is no segment, of which the first one decides, or
else if the path leads into a node of the wrong kind. If it fails, the packet at hand stays as it
is. If it succeeds, no node on the way has given way to a new container, and nothing but the subtree
at the path is replaced. -/
theorem put_whole_or_refused (p : Packet) (path : String) (v : Value) :
    (∀ e, p.put path v = .error e ↔
      Path.Refused path e ∨ (∀ e', ¬ Path.Refused path e') ∧ p.Mismatched path e) ∧
    (update path v).run.run p = (match p.put path v with
      | .ok q => (.ok (), q)
      | .error e => (.error e, p)) ∧
    ∀ q, p.put path v = .ok q → ∃ segments, Path.parse path = .ok segments ∧
      q = { p with data := some (build v segments p.data) } ∧
      (∀ way s more node, segments = way ++ s :: more → p.at? way = some node →
        node.admits s = true) ∧
      Replaced segments v p q := by
  refine ⟨fun e => put_eq_error_iff, run_update p path v, fun q hput => ?_⟩
  obtain ⟨segments, data, hparse, hplace, rfl⟩ := put_eq_ok.1 hput
  have hlaw := replaced_of_place hplace
  rw [place_eq] at hplace
  obtain ⟨⟨⟩, hfollow, rfl⟩ := map_eq_ok.1 hplace
  refine ⟨segments, hparse, rfl, ?_, hlaw⟩
  intro way s more node hsegments hnode
  by_contra hwrong
  rw [Bool.not_eq_true] at hwrong
  have hfails := follow_eq_error_iff.2 ⟨way, more, node, hsegments, hnode, hwrong⟩
  cases hfollow.symm.trans hfails

/-- A name that a struct in an array does not have yet, and a part behind a text. -/
theorem put_whole_or_refused_of_new_name :
    let p : Packet := ⟨some (.bool true),
      some (.array [some (.struct [("NAME", some (.text "Alice"))])])⟩
    let q : Packet := ⟨some (.bool true), some (.array [some (.struct
      [("NAME", some (.text "Alice")), ("LINE", some (.text "x"))])])⟩
    (update "0,NAME,01" (.text "x")).run.run p = (.error (.needsArray "0,NAME,01" "1"), p) ∧
    p.put "00,LINE" (.text "x") = .ok q ∧
    ∃ segments, Path.parse "00,LINE" = .ok segments ∧
      q = { p with data := some (build (.text "x") segments p.data) } ∧
      (∀ way s more node, segments = way ++ s :: more → p.at? way = some node →
        node.admits s = true) ∧
      Replaced segments (.text "x") p q :=
  ⟨(put_whole_or_refused _ "0,NAME,01" (.text "x")).2.1, rfl,
    (put_whole_or_refused _ "00,LINE" (.text "x")).2.2 _ rfl⟩

end Packet
end RemoteDev
