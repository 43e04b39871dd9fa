import Mathlib
import RemoteDev.Proofs.Separator
import RemoteDev.Proofs.Uri.Spelling
import RemoteDev.Uri

/-! Paths that are written with escapes. Their segments are the written segments of the path, and
only the segments that consist of points are written by points; so a path without a segment of one
or two points is kept as it is written. -/
namespace RemoteDev

namespace Percent

variable {keeps : Char → Bool} {bs : Bytes} {cs : List Char}

theorem Spells.append {as : Bytes} {ds : List Char} (h : Spells keeps bs cs)
    (h' : Spells keeps as ds) : Spells keeps (bs ++ as) (cs ++ ds) := by
  induction h with
  | nil => exact h'
  | keep hb _ ih => exact .keep hb ih
  | escape hb hhigh hlow hvalue _ ih => exact .escape hb hhigh hlow hvalue ih

theorem Spells.exists_of_append {as bs : Bytes} (h : Spells keeps (as ++ bs) cs) :
    ∃ front rest, cs = front ++ rest ∧ Spells keeps as front ∧ Spells keeps bs rest := by
  induction as generalizing cs with
  | nil => exact ⟨[], cs, rfl, .nil, h⟩
  | cons a as ih =>
    cases h with
    | keep hb hr =>
      obtain ⟨front, rest, rfl, hfront, hrest⟩ := ih hr
      exact ⟨_ :: front, rest, rfl, .keep hb hfront, hrest⟩
    | escape hb hhigh hlow hvalue hr =>
      obtain ⟨front, rest, rfl, hfront, hrest⟩ := ih hr
      exact ⟨_ :: _ :: _ :: front, rest, rfl, .escape hb hhigh hlow hvalue hfront, hrest⟩

theorem Spells.eq_of_keeps {c : Char} (hc : keeps c = true) (hlow : c.toNat < 0x80)
    (h : Spells keeps (String.utf8EncodeChar c) cs) : cs = [c] := by
  have hbyte : Char.ofNat (UInt8.ofNat c.toNat).toNat = c := by
    rw [UInt8.toNat_ofNat', Nat.mod_eq_of_lt (by omega), Char.ofNat_toNat]
  rw [utf8EncodeChar_of_lt hlow] at h
  cases h with
  | keep _ hr =>
    cases hr
    rw [hbyte]
  | escape hb =>
    rw [hbyte, hc] at hb
    cases hb

theorem Spells.notMem {c d : Char} (hd : isSpelled d = false) (hlow : d.toNat < 0x80) (hne : c ≠ d)
    (h : Spells keeps (String.utf8EncodeChar c) cs) : d ∉ cs := by
  intro hmem
  rcases h.mem hmem with ⟨-, b, hb, hcode⟩ | hspelled
  · have hbyte : d.toNat = b.toNat := by rw [← hcode, toNat_ofNat_toNat]
    exact hne (Char.toNat_inj.1 ((Text.mem_utf8EncodeChar (hbyte ▸ hlow) hb).trans hbyte.symm))
  · exact ne_of_isSpelled hspelled hd rfl

end Percent

namespace Uri

open Percent

def SpellsPart (part written : List Char) : Prop :=
  Spells isKeptInPath (part.flatMap String.utf8EncodeChar) written

theorem forall₂_stretches {cs written : List Char} (h : SpellsPart cs written) :
    List.Forall₂ SpellsPart (stretches '/' cs) (stretches '/' written) := by
  induction cs generalizing written with
  | nil =>
    cases h
    exact .cons .nil .nil
  | cons c r ih =>
    rw [SpellsPart, List.flatMap_cons] at h
    obtain ⟨front, rest, rfl, hfront, hrest⟩ := h.exists_of_append
    have hstretches := ih hrest
    by_cases hc : c = '/'
    · rw [hc] at hfront
      rw [hfront.eq_of_keeps (by decide) (by decide), hc, List.singleton_append, stretches,
        stretches, if_pos rfl, if_pos rfl]
      exact .cons .nil hstretches
    · have hslash : '/' ∉ front := hfront.notMem (by decide) (by decide) hc
      obtain ⟨part, parts, hparts⟩ := List.exists_cons_of_ne_nil (stretches_ne_nil '/' r)
      obtain ⟨piece, pieces, hpieces⟩ := List.exists_cons_of_ne_nil (stretches_ne_nil '/' rest)
      have hfirst : '/' ∉ [c] := fun h => hc (List.mem_singleton.1 h).symm
      rw [hparts, hpieces, List.forall₂_cons] at hstretches
      rw [← List.singleton_append, stretches_append hfirst hparts, stretches_append hslash hpieces]
      refine .cons ?_ hstretches.2
      rw [SpellsPart, List.singleton_append, List.flatMap_cons]
      exact hfront.append hstretches.1

theorem exists_of_forall₂ {α β : Type} {R : α → β → Prop} {xs : List α} {ys : List β}
    (h : List.Forall₂ R xs ys) {y : β} (hy : y ∈ ys) : ∃ x ∈ xs, R x y := by
  induction h with
  | nil => cases hy
  | @cons x y' _ _ hxy _ ih =>
    rcases List.mem_cons.1 hy with rfl | hy
    · exact ⟨x, List.mem_cons_self, hxy⟩
    · obtain ⟨x, hx, hxy⟩ := ih hy
      exact ⟨x, List.mem_cons_of_mem _ hx, hxy⟩

/-- A segment is counted as points if it begins with one, which may be escaped. -/
theorem pointCount?_cons {c : Char} {r : List Char} {n : ℕ} (h : pointCount? (c :: r) = some n) :
    (c = '.' ∧ ∃ m, pointCount? r = some m ∧ n = m + 1) ∨
      c = '%' ∧ ∃ r', r = '2' :: 'e' :: r' ∨ r = '2' :: 'E' :: r' := by
  unfold pointCount? at h
  split at h
  case h_1 heq => cases heq
  case h_2 heq =>
    cases heq
    obtain ⟨m, hm, rfl⟩ := Option.map_eq_some_iff.1 h
    exact .inl ⟨rfl, m, hm, rfl⟩
  case h_3 r' heq =>
    cases heq
    exact .inr ⟨rfl, r', .inl rfl⟩
  case h_4 r' heq =>
    cases heq
    exact .inr ⟨rfl, r', .inr rfl⟩
  case h_5 => cases h

/-- Only a point is written as one, since it needs no escape. -/
theorem eq_point_of_pointCount? {c : Char} {front rest : List Char} {n : ℕ}
    (h : Spells isKeptInPath (String.utf8EncodeChar c) front)
    (hn : pointCount? (front ++ rest) = some n) : c = '.' := by
  obtain ⟨b, bs, hbytes⟩ := List.exists_cons_of_ne_nil (String.utf8EncodeChar_ne_nil (c := c))
  rw [hbytes] at h
  cases h with
  | keep hb hr =>
    rcases pointCount?_cons hn with ⟨hpoint, -⟩ | ⟨hsign, -⟩
    · have hcode : ('.' : Char).toNat = b.toNat := by rw [← hpoint, toNat_ofNat_toNat]
      have hmem : b ∈ String.utf8EncodeChar c := hbytes ▸ List.mem_cons_self
      have hpoint' := Text.mem_utf8EncodeChar (hcode ▸ by decide) hmem
      exact Char.toNat_inj.1 (hpoint'.trans hcode.symm)
    · rw [hsign] at hb
      exact absurd hb (by decide)
  | @escape _ _ high low i j _ hb hhigh hlow hvalue hr =>
    rw [List.cons_append, List.cons_append, List.cons_append] at hn
    rcases pointCount?_cons hn with ⟨hpoint, -⟩ | ⟨-, r', hdigits⟩
    · exact absurd hpoint (by decide)
    · -- the escape of a point, which is never written
      have hcodes : high.toNat = 50 ∧ (low.toNat = 101 ∨ low.toNat = 69) := by
        simp only [List.cons.injEq] at hdigits
        rcases hdigits with ⟨rfl, rfl, -⟩ | ⟨rfl, rfl, -⟩ <;> decide
      have hcode : b.toNat = 46 := by
        unfold IsHexDigit at hhigh hlow
        omega
      rw [hcode] at hb
      exact absurd hb (by decide)

theorem eq_replicate_of_pointCount? {part written : List Char} {n : ℕ}
    (h : SpellsPart part written) (hn : pointCount? written = some n) :
    part = List.replicate n '.' := by
  induction part generalizing written n with
  | nil =>
    cases h
    cases hn
    rfl
  | cons c r ih =>
    rw [SpellsPart, List.flatMap_cons] at h
    obtain ⟨front, rest, rfl, hfront, hrest⟩ := h.exists_of_append
    obtain rfl := eq_point_of_pointCount? hfront hn
    rw [hfront.eq_of_keeps (by decide) (by decide), List.singleton_append] at hn
    rcases pointCount?_cons hn with ⟨-, m, hm, rfl⟩ | ⟨h, -⟩
    · rw [ih hrest hm, List.replicate_succ]
    · exact absurd h (by decide)

theorem walk_eq (directories : List (List Char)) {parts : List (List Char)}
    (h : ∀ part ∈ parts, pointCount? part ≠ some 1 ∧ pointCount? part ≠ some 2) :
    walk directories parts = directoryPath directories ++ ['/'].intercalate parts := by
  induction parts generalizing directories with
  | nil => simp [walk]
  | cons part r ih =>
    obtain ⟨hone, htwo⟩ := h part List.mem_cons_self
    cases r with
    | nil =>
      simp only [walk]
      rw [List.intercalate_singleton]
    | cons next r =>
      have hrest := ih (part :: directories) fun p hp =>
        h p (List.mem_cons_of_mem part hp)
      simp only [walk]
      rw [hrest, List.intercalate_cons_cons]
      simp [directoryPath]

theorem eq_or_isSpelled_of_mem {bs : Bytes} {written : List Char}
    (h : Spells isKeptInPath bs written) {c : Char} (hc : c ∈ written) :
    c = '/' ∨ isSpelled c = true := by
  rcases h.mem hc with ⟨hkept, -⟩ | hspelled
  · rw [isKeptInPath, Bool.or_eq_true, beq_iff_eq] at hkept
    exact hkept.imp_right isSpelled_of_isUnreserved
  · exact .inr hspelled

theorem exists_of_spellsPart {r written : List Char} (h : SpellsPart ('/' :: r) written) :
    ∃ rest, written = '/' :: rest := by
  rw [SpellsPart, List.flatMap_cons] at h
  obtain ⟨front, rest, rfl, hfront, -⟩ := h.exists_of_append
  rw [hfront.eq_of_keeps (by decide) (by decide)]
  exact ⟨rest, rfl⟩

/-- No written segment is counted as one or two points if no segment is one or two points. -/
theorem pointCount?_ne_of_mem {cs written piece : List Char} (h : SpellsPart cs written)
    (hparts : ['.'] ∉ stretches '/' cs ∧ ['.', '.'] ∉ stretches '/' cs)
    (hpiece : piece ∈ stretches '/' written) :
    pointCount? piece ≠ some 1 ∧ pointCount? piece ≠ some 2 := by
  obtain ⟨part, hmem, hspells⟩ := exists_of_forall₂ (forall₂_stretches h) hpiece
  constructor
  · intro hn
    have hpoint : part = ['.'] := eq_replicate_of_pointCount? hspells hn
    exact hparts.1 (hpoint ▸ hmem)
  · intro hn
    have hpoints : part = ['.', '.'] := eq_replicate_of_pointCount? hspells hn
    exact hparts.2 (hpoints ▸ hmem)

theorem takeWhile_eq_of_spells {bs : Bytes} {written : List Char}
    (h : Spells isKeptInPath bs written) :
    written.takeWhile (fun c => c ≠ '?' && c ≠ '#') = written := by
  refine List.takeWhile_eq_self_iff.2 fun c hc => ?_
  have hne (d : Char) (hd : d ≠ '/') (hspelled : isSpelled d = false) : c ≠ d := by
    rcases eq_or_isSpelled_of_mem h hc with rfl | hc
    · exact hd.symm
    · exact ne_of_isSpelled hc hspelled
  simpa using ⟨hne '?' (by decide) (by decide), hne '#' (by decide) (by decide)⟩

theorem pathOf_eq {path : String} {written : List Char}
    (h : Spells isKeptInPath (encodeText path) written)
    (hslash : path = "" ∨ ∃ r, path.toList = '/' :: r)
    (hparts : ['.'] ∉ stretches '/' path.toList ∧ ['.', '.'] ∉ stretches '/' path.toList) :
    pathOf written = written := by
  have htake := takeWhile_eq_of_spells h
  rcases hslash with rfl | ⟨r, hr⟩
  · cases h
    rfl
  · have hpart : SpellsPart path.toList written := h
    rw [hr] at hpart
    obtain ⟨rest, rfl⟩ := exists_of_spellsPart hpart
    have hcount : ∀ piece ∈ stretches '/' rest,
        pointCount? piece ≠ some 1 ∧ pointCount? piece ≠ some 2 := by
      intro piece hpiece
      have hmem : piece ∈ stretches '/' ('/' :: rest) := by
        rw [stretches, if_pos rfl]
        exact List.mem_cons_of_mem _ hpiece
      exact pointCount?_ne_of_mem (h : SpellsPart path.toList _) hparts hmem
    rw [pathOf, htake]
    simp only []
    rw [walk_eq [] hcount, stretches_eq_splitOn, List.intercalate_splitOn]
    rfl

end Uri
end RemoteDev
