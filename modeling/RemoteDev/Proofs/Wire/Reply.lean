import RemoteDev.Proofs.Field.Cut
import RemoteDev.Wire

/-! Replies that are cut short. The head, the count and its colon are found in the beginning of
a message as in the whole, or they are not all there. -/
namespace RemoteDev

theorem splitAtFirst_append_right {α : Type} [BEq α] [LawfulBEq α]
    {separator xs front rest : List α} (hne : separator ≠ []) (more : List α)
    (h : splitAtFirst separator xs = some (front, rest)) :
    splitAtFirst separator (xs ++ more) = some (front, rest ++ more) := by
  induction xs generalizing front with
  | nil =>
    have hempty : separator.isEmpty = false := by simpa using hne
    simp [splitAtFirst, hempty] at h
  | cons a r ih =>
    have hwhole := eq_of_splitAtFirst h
    by_cases hp : separator.isPrefixOf (a :: r) = true
    · have hbegins := List.isPrefixOf_iff_prefix.1 hp
      have hlonger : separator.isPrefixOf (a :: (r ++ more)) = true :=
        List.isPrefixOf_iff_prefix.2 (hbegins.trans (List.prefix_append (a :: r) more))
      simp only [splitAtFirst, hp, if_true, Option.some.injEq, Prod.mk.injEq] at h
      obtain ⟨rfl, rfl⟩ := h
      have hdrop : (a :: (r ++ more)).drop separator.length =
          (a :: r).drop separator.length ++ more :=
        List.drop_append_of_le_length hbegins.length_le
      simp only [List.cons_append, splitAtFirst, hlonger, if_true, hdrop]
    · simp only [splitAtFirst, hp] at h
      obtain ⟨⟨front', rest'⟩, hr, heq⟩ := Option.map_eq_some_iff.1 h
      simp only [Prod.mk.injEq] at heq
      obtain ⟨rfl, rfl⟩ := heq
      have hlength : separator.length ≤ (a :: r).length := by
        rw [hwhole, List.length_append, List.length_append]
        omega
      have hlonger : ¬ separator.isPrefixOf (a :: (r ++ more)) = true := by
        intro hq
        have hq' := List.isPrefixOf_iff_prefix.1 hq
        exact hp (List.isPrefixOf_iff_prefix.2
          (List.prefix_of_prefix_length_le hq' (List.prefix_append (a :: r) more) hlength))
      simp only [List.cons_append, splitAtFirst, hlonger, ih hr, Option.map_some]
      rfl

namespace Reply

open FieldReader

theorem bodyOf?_eq_some_iff {raw body : Bytes} :
    bodyOf? raw = some body ↔ (∃ line ∈ statusLines, line <+: raw) ∧
      ∃ head, splitAtFirst headEnd raw = some (head, body) := by
  have hany : (statusLines.any fun line => line.isPrefixOf raw) = true ↔
      ∃ line ∈ statusLines, line <+: raw := by
    simp only [List.any_eq_true, List.isPrefixOf_iff_prefix]
  rw [← hany]
  constructor
  · intro h
    unfold bodyOf? at h
    split at h
    case isTrue hline =>
      obtain ⟨⟨head, rest⟩, hsplit, rfl⟩ := Option.map_eq_some_iff.1 h
      exact ⟨hline, head, hsplit⟩
    case isFalse => cases h
  · rintro ⟨hline, head, hsplit⟩
    rw [bodyOf?, if_pos hline, hsplit]
    rfl

theorem bodyOf?_append {front more body body' : Bytes} (h : bodyOf? (front ++ more) = some body)
    (h' : bodyOf? front = some body') : body = body' ++ more := by
  obtain ⟨-, head, hsplit⟩ := bodyOf?_eq_some_iff.1 h
  obtain ⟨-, head', hsplit'⟩ := bodyOf?_eq_some_iff.1 h'
  have hlonger := splitAtFirst_append_right (by decide) more hsplit'
  rw [hsplit, Option.some.injEq, Prod.mk.injEq] at hlonger
  exact hlonger.2

theorem parse_eq_ok {raw : Bytes} {reply : Reply} :
    parse raw = .ok reply ↔ ∃ body, bodyOf? raw = some body ∧
      number.run body = .ok ((reply.count : Int), reply.body) := by
  constructor
  · intro h
    unfold parse at h
    split at h
    case h_1 => cases h
    case h_2 body hbody =>
      split at h
      case h_1 => cases h
      case h_2 count rest hnumber =>
        split at h
        case isTrue => cases h
        case isFalse hcount =>
          cases h
          refine ⟨body, hbody, ?_⟩
          rw [Int.toNat_of_nonneg (Int.not_lt.1 hcount)]
          exact hnumber
  · rintro ⟨body, hbody, hnumber⟩
    have hcount : ¬ (reply.count : Int) < 0 := by omega
    simp only [StateT.run] at hnumber
    simp only [parse, hbody, hnumber, hcount, if_false, Int.toNat_natCast]

/-- The beginning of a reply shows the same count and the beginning of the fields, or it breaks
off before the colon of the count. -/
theorem parse_cut {front more : Bytes} {reply : Reply}
    (h : parse (front ++ more) = .ok reply) :
    (∃ body, parse front = .ok ⟨reply.count, body⟩ ∧ reply.body = body ++ more) ∨
      parse front = .error .replyNotFound ∨
      parse front = .error (.field .unterminatedNumber) := by
  obtain ⟨body, hbody, hnumber⟩ := parse_eq_ok.1 h
  cases hfront : bodyOf? front with
  | none =>
    right; left
    simp only [parse, hfront]
  | some body' =>
    rw [bodyOf?_append hbody hfront] at hnumber
    rcases number_cut hnumber with ⟨rest, hrest, heq⟩ | herror
    · exact .inl ⟨rest, parse_eq_ok.2 ⟨body', hfront, hrest⟩, heq⟩
    · right; right
      simp only [StateT.run] at herror
      simp only [parse, hfront, herror]

theorem body_suffix_of_parse {raw : Bytes} {reply : Reply} (h : parse raw = .ok reply) :
    reply.body <:+ raw := by
  obtain ⟨body, hbody, hnumber⟩ := parse_eq_ok.1 h
  obtain ⟨-, head, hsplit⟩ := bodyOf?_eq_some_iff.1 hbody
  obtain ⟨digits, hcolon, -⟩ := number_eq_ok.1 hnumber
  have hraw := eq_of_splitAtFirst hsplit
  have hrest := (splitColon_eq_some_iff.1 hcolon).1
  refine ⟨head ++ headEnd ++ (digits ++ [colon]), ?_⟩
  rw [hraw, hrest]
  simp only [List.append_assoc, List.singleton_append]

end Reply
end RemoteDev
