import RemoteDev.Proofs.Markup.CharacterData

/-! What reading makes of the line ends of a text: each is shown by some line end, and nothing but
line ends is changed. -/
namespace RemoteDev.Markup

/-- A text with a line feed for every line end: a carriage return with a line feed behind it, or
either of the two alone. -/
def unifiedLines : List Char → List Char
  | [] => []
  | '\r' :: '\n' :: r => '\n' :: unifiedLines r
  | '\r' :: r => '\n' :: unifiedLines r
  | c :: r => c :: unifiedLines r

theorem unifiedLines_cons {c : Char} (hc : c ≠ '\r') (r : List Char) :
    unifiedLines (c :: r) = c :: unifiedLines r := by
  rw [unifiedLines]
  · exact fun _ h => absurd h hc
  · exact hc

theorem unifiedLines_return_cons {c : Char} (hc : c ≠ '\n') (r : List Char) :
    unifiedLines ('\r' :: c :: r) = '\n' :: unifiedLines (c :: r) := by
  rw [unifiedLines]
  intro s h
  exact hc (List.cons.inj h).1

/-- Line ends do not reach across another character. -/
theorem unifiedLines_append_cons {c : Char} (hreturn : c ≠ '\r') (hline : c ≠ '\n')
    (front rest : List Char) :
    unifiedLines (front ++ c :: rest) = unifiedLines front ++ c :: unifiedLines rest := by
  fun_induction unifiedLines front with
  | case1 => exact unifiedLines_cons hreturn rest
  | case2 r ih => rw [List.cons_append, List.cons_append, unifiedLines, ih, List.cons_append]
  | case3 r hr ih =>
    cases r with
    | nil =>
      rw [List.nil_append] at ih
      rw [List.cons_append, List.nil_append, unifiedLines_return_cons hline, ih, List.cons_append]
    | cons d r =>
      have hd : d ≠ '\n' := fun h => hr r (h ▸ rfl)
      rw [List.cons_append, List.cons_append, unifiedLines_return_cons hd, ← List.cons_append, ih,
        List.cons_append]
  | case4 d r _ hd ih => rw [List.cons_append, unifiedLines_cons hd, ih, List.cons_append]

theorem pieceOf_cases (c : Char) :
    pieceOf c = .literal c ∨ pieceOf c = .reference c ∧ c ≠ '\r' ∧ c ≠ '\n' := by
  by_cases h : escapeChar c = [c]
  · exact .inl (if_pos h)
  · refine .inr ⟨if_neg h, ?_, ?_⟩ <;>
      · rintro rfl
        exact h rfl

theorem pushLiteral_of_head {out : List Char} (hout : out.head? ≠ some '\r') (c : Char)
    (atEnd : Bool) :
    pushLiteral out c atEnd = (if atEnd && c == '\r' then '\n' else c) :: out := by
  unfold pushLiteral
  split
  · exact absurd rfl hout
  · split <;> rfl

/-- A text that is `out` in order and then some characters, but for the line ends of these. -/
def Shows (out text cs : List Char) : Prop :=
  ∃ t, text = out.reverse ++ t ∧ unifiedLines t = unifiedLines cs

theorem Shows.cons {out text cs : List Char} {c : Char} (h : Shows (c :: out) text cs)
    (hc : c ≠ '\r') : Shows out text (c :: cs) := by
  obtain ⟨t, rfl, hunified⟩ := h
  refine ⟨c :: t, ?_, ?_⟩
  · rw [List.reverse_cons, List.append_assoc, List.singleton_append]
  · rw [unifiedLines_cons hc, unifiedLines_cons hc, hunified]

theorem Shows.congr {out text cs cs' : List Char} (h : Shows out text cs)
    (hcs : unifiedLines cs = unifiedLines cs') : Shows out text cs' :=
  let ⟨t, ht, hunified⟩ := h
  ⟨t, ht, hunified.trans hcs⟩

theorem Shows.cons_return {out text cs : List Char} {c : Char}
    (h : Shows (c :: '\r' :: out) text cs) (hc : c ≠ '\r') (hline : c ≠ '\n') :
    Shows out text ('\r' :: c :: cs) := by
  obtain ⟨t, rfl, hunified⟩ := h
  refine ⟨'\r' :: c :: t, by simp, ?_⟩
  rw [unifiedLines_return_cons hline, unifiedLines_return_cons hline, unifiedLines_cons hc,
    unifiedLines_cons hc, hunified]

/-- What joining makes of characters: behind text that does not end in a carriage return, and
behind a carriage return that is not settled yet because a line feed may follow. -/
theorem shows_joinText (cs : List Char) :
    (∀ out after, out.head? ≠ some '\r' →
      Shows out (joinText out after (cs.map pieceOf)) cs) ∧
    ∀ out, Shows out (joinText ('\r' :: out) false (cs.map pieceOf)) ('\r' :: cs) := by
  induction cs with
  | nil =>
    refine ⟨fun out after _ => ⟨[], ?_, rfl⟩, fun out => ⟨['\r'], ?_, rfl⟩⟩
    · rw [List.map_nil, joinText, List.append_nil]
    · rw [List.map_nil, joinText, List.reverse_cons]
  | cons c r ih =>
    obtain ⟨hsettled, hreturn⟩ := ih
    have hcons {d : Char} (hd : d ≠ '\r') (out : List Char) (after : Bool) :
        Shows (d :: out) (joinText (d :: out) after (r.map pieceOf)) r :=
      hsettled (d :: out) after (by simpa using hd)
    have hpushed (out : List Char) :
        Shows out (joinText (c :: out) false (r.map pieceOf)) (c :: r) := by
      by_cases hc : c = '\r'
      · subst hc
        exact hreturn out
      · exact (hcons hc out false).cons hc
    have hlast (h : ((r.map pieceOf).isEmpty && c == '\r') = true) :
        r = [] ∧ c = '\r' := by simpa using h
    refine ⟨fun out after hout => ?_, fun out => ?_⟩
    · rcases pieceOf_cases c with hpiece | ⟨hpiece, hc, -⟩
      · rw [List.map_cons, hpiece, joinText]
        split
        · exact hpushed out
        · rw [pushLiteral_of_head hout]
          split
          case isTrue h =>
            obtain ⟨rfl, rfl⟩ := hlast h
            exact ⟨['\n'], by simp [joinText], rfl⟩
          case isFalse => exact hpushed out
      · rw [List.map_cons, hpiece, joinText]
        exact (hcons hc out true).cons hc
    · rcases pieceOf_cases c with hpiece | ⟨hpiece, hc, hline⟩
      · rw [List.map_cons, hpiece, joinText, if_neg (by decide), pushLiteral]
        split
        case isTrue h =>
          obtain ⟨rfl, rfl⟩ := hlast h
          exact ⟨['\n', '\n'], by simp [joinText], rfl⟩
        case isFalse =>
          split
          case isTrue hline =>
            refine ((hpushed ('\n' :: out)).cons (by decide)).congr ?_
            rw [unifiedLines_cons (by decide), unifiedLines_return_cons hline]
          case isFalse hline =>
            obtain rfl : c = '\n' := by simpa using hline
            refine ((@hcons '\n' (by decide) out false).cons (by decide)).congr ?_
            rw [unifiedLines_cons (by decide), unifiedLines]
      · rw [List.map_cons, hpiece, joinText]
        exact (hcons hc ('\r' :: out) true).cons_return hc hline

theorem unifiedLines_shownText (s : String) :
    unifiedLines (shownText s).toList = unifiedLines s.toList := by
  obtain ⟨t, ht, hunified⟩ := (shows_joinText s.toList).1 [] false nofun
  rw [shownText, String.toList_ofList, ht]
  exact hunified

example : shownText "a\r\n\rb\r" = "a\n\nb\n" := by rfl

end RemoteDev.Markup
