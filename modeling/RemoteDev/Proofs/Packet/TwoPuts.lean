import Mathlib
import RemoteDev.Proofs.Packet.Reordered

/-! Two puts one after the other. At one path the last put decides, and what the first one built is
what the last one would have built alone. At paths that part neither put is seen along the other
path, and the puts may change places: the packet is the same but for the order of fields. -/
namespace RemoteDev

namespace Value

theorem follow_build_self (leaf : Value) (segments : List Segment) (before : Option Value) :
    follow segments (some (build leaf segments before)) = .ok () := by
  induction segments generalizing before with
  | nil => rfl
  | cons s r ih =>
    rw [build, follow, admits_withChild, Segment.alike_self, child?_withChild_self, ih]
    rfl

/-- The second of two leaves at one place replaces the first, and all that was built for the first
is what would have been built for the second. -/
theorem build_build_self (v w : Value) (segments : List Segment) (before : Option Value) :
    build w segments (some (build v segments before)) = build w segments before := by
  induction segments generalizing before with
  | nil => rfl
  | cons s r ih =>
    rw [build, build, Option.bind_some, child?_withChild_self, ih, withChild_withChild_self]
    rfl

theorem follow_cons_eq_ok_iff {s : Segment} {r : List Segment} {before : Option Value} :
    follow (s :: r) before = .ok () ↔ (∀ u, before = some u → u.admits s = true) ∧
      follow r (before.bind fun u => u.child? s) = .ok () := by
  cases before with
  | none => simp [follow, follow_none]
  | some u => by_cases hu : u.admits s = true <;> simp [follow, hu]

/-- Whether segments can be followed through a tree that was built along others, from which they
part at some place: they could be followed without it, and both go on from there into the same kind
of container. -/
theorem follow_build_apart {front rest aside : List Segment} {s t : Segment} (hst : s ≠ t)
    {before : Option Value} (h : follow (front ++ s :: rest) before = .ok ()) (leaf : Value) :
    follow (front ++ t :: aside) (some (build leaf (front ++ s :: rest) before)) = .ok () ↔
      s.alike t = true ∧ follow (front ++ t :: aside) before = .ok () := by
  induction front generalizing before with
  | nil =>
    obtain ⟨hkind, -⟩ := follow_cons_eq_ok_iff.1 h
    have haside := (holds_withChild hkind
      (build leaf rest (before.bind fun u => u.child? s))).child?_ne hst
    simp only [List.nil_append, build, follow_cons_eq_ok_iff, Option.bind_some, haside,
      Option.some.injEq, forall_eq', admits_withChild]
    constructor
    · rintro ⟨halike, hway⟩
      exact ⟨halike, fun u hu => admits_of_alike (hkind u hu) halike, hway⟩
    · rintro ⟨halike, -, hway⟩
      exact ⟨halike, hway⟩
  | cons f front ih =>
    obtain ⟨hkind, hway⟩ := follow_cons_eq_ok_iff.1 h
    simp only [List.cons_append, build, follow_cons_eq_ok_iff, Option.bind_some,
      child?_withChild_self, Option.some.injEq, forall_eq', admits_withChild, ih hway]
    exact ⟨fun ⟨_, halike, haside⟩ => ⟨halike, hkind, haside⟩,
      fun ⟨halike, _, haside⟩ => ⟨f.alike_self, halike, haside⟩⟩

theorem reordered_build_build {front rest aside : List Segment} {s t : Segment} (hst : s ≠ t)
    (hkind : s.alike t = true) {before : Option Value}
    (hs : follow (front ++ s :: rest) before = .ok ())
    (ht : follow (front ++ t :: aside) before = .ok ()) (v w : Value) :
    Reordered (build w (front ++ t :: aside) (some (build v (front ++ s :: rest) before)))
      (build v (front ++ s :: rest) (some (build w (front ++ t :: aside) before))) := by
  induction front generalizing before with
  | nil =>
    have hsaside := (holds_withChild (follow_cons_eq_ok_iff.1 hs).1
      (build v rest (before.bind fun u => u.child? s))).child?_ne hst
    have htaside := (holds_withChild (follow_cons_eq_ok_iff.1 ht).1
      (build w aside (before.bind fun u => u.child? t))).child?_ne hst.symm
    simp only [List.nil_append, build, Option.bind_some, hsaside, htaside]
    exact reordered_withChild_withChild hst hkind before _ _
  | cons f front ih =>
    simp only [List.cons_append, build, Option.bind_some, child?_withChild_self,
      withChild_withChild_self]
    exact reordered_withChild
      (ih (follow_cons_eq_ok_iff.1 hs).2 (follow_cons_eq_ok_iff.1 ht).2) before f

end Value

namespace Packet

open Value

/-- The last of two puts at one path decides: the first one leaves no trace, it succeeds exactly if
the second one alone does, and it fails as that does. -/
theorem put_put (p : Packet) (path : String) (v w : Value) :
    (p.put path v).isOk = (p.put path w).isOk ∧
      (p.put path v >>= fun q => q.put path w) = p.put path w := by
  cases hparse : Path.parse path with
  | error e =>
    rw [put_of_parse_error hparse, put_of_parse_error hparse]
    exact ⟨rfl, rfl⟩
  | ok segments =>
    have hagain : put { p with data := some (build v segments p.data) } path w =
        .ok { p with data := some (build w segments p.data) } := by
      rw [put_of_parse hparse, follow_build_self, build_build_self]
      rfl
    rw [put_of_parse hparse, put_of_parse hparse]
    cases follow segments p.data with
    | error s => exact ⟨rfl, rfl⟩
    | ok => exact ⟨rfl, hagain⟩

structure Reordered (p q : Packet) : Prop where
  header : p.header = q.header
  data : Option.Rel Value.Reordered p.data q.data

theorem put_eq_ok_iff_of_parse {p q : Packet} {path : String} {segments : List Segment} {v : Value}
    (h : Path.parse path = .ok segments) :
    p.put path v = .ok q ↔ follow segments p.data = .ok () ∧
      q = { p with data := some (build v segments p.data) } := by
  rw [put_of_parse h]
  cases follow segments p.data with
  | error s => simp [Except.map, Except.mapError]
  | ok => simp [Except.map, Except.mapError, eq_comm]

/-- Segments that part at some place if neither leads on from the other. -/
theorem exists_parting {xs ys : List Segment} (h : ¬ xs <+: ys) (h' : ¬ ys <+: xs) :
    ∃ front s t rest aside, xs = front ++ s :: rest ∧ ys = front ++ t :: aside ∧ s ≠ t := by
  induction xs generalizing ys with
  | nil => exact absurd List.nil_prefix h
  | cons s xs ih =>
    cases ys with
    | nil => exact absurd List.nil_prefix h'
    | cons t ys =>
      by_cases hst : s = t
      · subst hst
        rw [List.cons_prefix_cons] at h h'
        obtain ⟨front, s', t', rest, aside, rfl, rfl, hne⟩ :=
          ih (fun e => h ⟨rfl, e⟩) (fun e => h' ⟨rfl, e⟩)
        exact ⟨s :: front, s', t', rest, aside, rfl, rfl, hne⟩
      · exact ⟨[], s, t, xs, ys, rfl, rfl, hst⟩

theorem get?_of_put_apart {p q : Packet} {path other : String} {segments others : List Segment}
    {v : Value} (hparse : Path.parse path = .ok segments) (hother : Path.parse other = .ok others)
    (hapart : ¬ segments <+: others) (hapart' : ¬ others <+: segments) (h : p.put path v = .ok q) :
    q.get? other = p.get? other := by
  obtain ⟨front, s, t, rest, aside, rfl, rfl, hst⟩ := exists_parting hapart hapart'
  obtain ⟨segments, data, hsegments, hplace, rfl⟩ := put_eq_ok.1 h
  cases hsegments.symm.trans hparse
  rw [get?_of_parse hother, get?_of_parse hother, (replaced_of_place hplace).outside aside rfl hst]

/-- Two puts at paths of which neither leads on from the other may be made in either order, and
come to the same packet but for the order of fields. -/
theorem put_comm {p p' p'' : Packet} {path other : String} {segments others : List Segment}
    {v w : Value} (hparse : Path.parse path = .ok segments)
    (hother : Path.parse other = .ok others) (hapart : ¬ segments <+: others)
    (hapart' : ¬ others <+: segments) (hfirst : p.put path v = .ok p')
    (hsecond : p'.put other w = .ok p'') :
    ∃ q' q'', p.put other w = .ok q' ∧ q'.put path v = .ok q'' ∧ p''.Reordered q'' := by
  obtain ⟨front, s, t, rest, aside, rfl, rfl, hst⟩ := exists_parting hapart hapart'
  obtain ⟨hway, rfl⟩ := (put_eq_ok_iff_of_parse hparse).1 hfirst
  obtain ⟨hboth, rfl⟩ := (put_eq_ok_iff_of_parse hother).1 hsecond
  obtain ⟨hkind, haside⟩ := (follow_build_apart hst hway v).1 hboth
  -- the first path is followed through what the second one has built, as the other way round
  have hlast := (follow_build_apart hst.symm haside w).2 ⟨(s.alike_comm t).symm.trans hkind, hway⟩
  refine ⟨_, _, (put_eq_ok_iff_of_parse hother).2 ⟨haside, rfl⟩,
    (put_eq_ok_iff_of_parse hparse).2 ⟨hlast, rfl⟩, rfl, ?_⟩
  exact .some (reordered_build_build hst hkind hway haside v w)

/-- Each of two paths adds a field to the struct that the other one has to make. -/
theorem put_comm_of_two_new_fields :
    let p' : Packet := ⟨none, some (.array [some (.struct [("A", some (.text "x"))])])⟩
    let p'' : Packet := ⟨none, some (.array [some (.struct
      [("A", some (.text "x")), ("B", some (.array [none, some (.bool true)]))])])⟩
    empty.put "0,A" (.text "x") = .ok p' ∧ p'.put "00,B,1" (.bool true) = .ok p'' ∧
    ∃ q' q'', empty.put "00,B,1" (.bool true) = .ok q' ∧ q'.put "0,A" (.text "x") = .ok q'' ∧
      p''.Reordered q'' :=
  have hpath : Path.parse "0,A" = .ok [.index 0, .field "A"] := rfl
  have hother : Path.parse "00,B,1" = .ok [.index 0, .field "B", .index 1] := rfl
  ⟨rfl, rfl, put_comm hpath hother (by decide) (by decide) rfl rfl⟩

end Packet
end RemoteDev
