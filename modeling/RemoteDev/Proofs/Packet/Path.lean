import RemoteDev.Packet.Basic
import RemoteDev.Proofs.Binary64.Basic
import RemoteDev.Proofs.Markup.CharacterData
import RemoteDev.Proofs.Outcome
import RemoteDev.Proofs.Separator
import RemoteDev.Proofs.Text.Numeral

/-! The segments of paths: names of letters, and indices in decimal. -/
namespace RemoteDev

open Markup

theorem exists_stretch_of_mem_parse {path : String} {segments : List Segment}
    (h : Path.parse path = .ok segments) {s : Segment} (hs : s ∈ segments) :
    ∃ cs ∈ stretches ',' path.toList, Segment.ofText path cs = .ok s := by
  rw [Path.parse] at h
  split at h
  · cases h
    exact absurd hs List.not_mem_nil
  · exact exists_of_mem_mapM h hs

theorem mem_path_of_mem_name {path : String} {segments : List Segment}
    (h : Path.parse path = .ok segments) {name : String} (hname : .field name ∈ segments) {c : Char}
    (hc : c ∈ name.toList) : c ∈ path.toList := by
  obtain ⟨cs, hcs, hfield⟩ := exists_stretch_of_mem_parse h hname
  have hchars : name = String.ofList cs := by
    unfold Segment.ofText at hfield
    split at hfield
    · cases hfield
    · split at hfield
      · split at hfield <;> cases hfield
      · cases hfield
        rfl
  rw [hchars, String.toList_ofList] at hc
  exact mem_of_mem_stretches hcs hc

theorem lt_maxLength_of_mem_parse {path : String} {segments : List Segment}
    (h : Path.parse path = .ok segments) {i : Nat} (hi : .index i ∈ segments) :
    i < Value.maxLength := by
  obtain ⟨cs, -, hindex⟩ := exists_stretch_of_mem_parse h hi
  unfold Segment.ofText at hindex
  split at hindex
  · cases hindex
  · split at hindex
    · split at hindex
      case isTrue hlt =>
        cases hindex
        exact hlt
      case isFalse => cases hindex
    · cases hindex

namespace Segment

theorem index?_of_isLetter {c : Char} (hc : isLetter c = true) (r : List Char) :
    index? (c :: r) = none := by
  have hcode := (isLetter_iff_toNat c).1 hc
  have hdigit : Text.digitValue? 10 c = none := by
    simp only [Text.digitValue?, Bool.and_eq_true, decide_eq_true_eq]
    rw [if_neg (by omega)]
    split_ifs
    · rw [Option.filter_some, if_neg (by simp; omega)]
    · rw [Option.filter_some, if_neg (by simp; omega)]
    · rfl
  rw [index?, Text.unsigned?, Text.digitsValue?, hdigit]
  split <;> rfl

theorem ofText_of_isLetter (path : String) {c : Char} (hc : isLetter c = true) (r : List Char) :
    ofText path (c :: r) = .ok (.field (String.ofList (c :: r))) := by
  rw [ofText, index?_of_isLetter hc, List.isEmpty_cons]
  rfl

theorem ofText_decimalText (path : String) {i : Nat} (hi : i < 10 ^ maxIndexDigits) :
    ofText path (decimalText i).toList =
      if i < Value.maxLength then .ok (.index i) else .error (.indexTooLarge i) := by
  have hdigits : (Nat.toDigits 10 i).length ≤ maxIndexDigits :=
    (Decimal.digitCount_le_iff (by decide)).2 hi
  have hindex : index? (Nat.toDigits 10 i) = some i := by
    rw [index?, if_pos hdigits, Text.unsigned?_toDigits]
  have hempty : (Nat.toDigits 10 i).isEmpty = false := by simp
  rw [decimalText, String.toList_ofList, ofText, hempty, hindex]
  rfl

end Segment

theorem Path.parse_first {name : String} {c : Char} {r : List Char} (hname : name.toList = c :: r)
    (hc : isLetter c = true) (hcomma : ',' ∉ name.toList) :
    Path.parse ("0," ++ name) = .ok [.index 0, .field name] := by
  have hempty : ("0," ++ name).isEmpty = false := by simp
  have hstretches : stretches ',' ("0," ++ name).toList = [['0'], name.toList] := by
    have hfront : ("0," ++ name).toList = ['0'] ++ ',' :: name.toList := String.toList_append
    rw [hfront, stretches_append_cons (by decide), stretches_of_not_mem hcomma]
  have hindex (path : String) : Segment.ofText path ['0'] = .ok (.index 0) := rfl
  have hfield (path : String) : Segment.ofText path name.toList = .ok (.field name) := by
    rw [hname, Segment.ofText_of_isLetter path hc, ← hname, String.ofList_toList]
  rw [Path.parse, hempty, hstretches]
  simp only [List.mapM_cons, hindex, hfield, ok_bind]
  rfl

end RemoteDev
