import RemoteDev.Markup.Node
import RemoteDev.Proofs.Markup.CharacterData
import RemoteDev.Proofs.Outcome

/-! Tags and text are read back one token at a time, whatever is written behind them, unless they
hold a character that documents cannot hold. -/
namespace RemoteDev.Markup

section IfAllowed

variable {α β : Type}

/-- What reading a text yields, unless the text holds a forbidden character. -/
def ifAllowed (allowed : Bool) (outcome : Except MarkupError α) : Except MarkupError α :=
  if allowed then outcome else .error .forbiddenCharacter

@[simp] theorem ifAllowed_true (outcome : Except MarkupError α) :
    ifAllowed true outcome = outcome := rfl

theorem ifAllowed_and (a b : Bool) (outcome : Except MarkupError α) :
    ifAllowed (a && b) outcome = ifAllowed a (ifAllowed b outcome) := by cases a <;> rfl

theorem ifAllowed_bind (a : Bool) (outcome : Except MarkupError α)
    (next : α → Except MarkupError β) :
    (ifAllowed a outcome >>= next) = ifAllowed a (outcome >>= next) := by cases a <;> rfl

end IfAllowed

/-- An attribute whose name is read as written and binds no namespace. -/
structure IsPlainAttribute (a : String × String) : Prop where
  name : isPlainName a.1 = true
  unreserved : a.1 ≠ "xmlns"

def valuesCharsIn (inValue : Char → Bool) (as : List (String × String)) : Bool :=
  as.all fun a => a.2.toList.all inValue

def rawAttributes (as : List (String × String)) : List RawAttribute :=
  as.map fun (name, value) => ⟨⟨"", name⟩, escape value.toList⟩

def shownAttributes (as : List (String × String)) : List (String × String) :=
  as.map fun (name, value) => (name, shownValue value)

theorem quoted_escape (cs rest : List Char) :
    quoted '"' (escape cs ++ '"' :: rest) =
      ifAllowed (cs.all isDocumentChar) (.ok (escape cs, rest)) := by
  have hchar : ∀ d ∈ escape cs, (d ≠ '"' && d ≠ '<') = true := by
    intro d hd
    obtain ⟨hlt, -, hquote⟩ := of_mem_escape hd
    simp [hlt, hquote]
  have htake : (escape cs ++ '"' :: rest).takeWhile (fun d => d ≠ '"' && d ≠ '<') =
      escape cs := by
    rw [List.takeWhile_append_of_pos hchar]
    simp
  have hdrop : (escape cs ++ '"' :: rest).dropWhile (fun d => d ≠ '"' && d ≠ '<') =
      '"' :: rest := by
    rw [List.dropWhile_append_of_pos hchar]
    simp
  rw [quoted, htake, hdrop, all_escape]
  cases cs.all isDocumentChar <;> rfl

theorem oneAttribute_append {a : String × String} (ha : IsPlainAttribute a) (rest : List Char) :
    oneAttribute (a.1.toList ++ '=' :: '"' :: (escape a.2.toList ++ '"' :: rest)) =
      ifAllowed (a.2.toList.all isDocumentChar) (.ok (⟨⟨"", a.1⟩, escape a.2.toList⟩, rest)) := by
  have hskip : ∀ {d : Char} {r : List Char}, isSpace d = false → skipSpaces (d :: r) = d :: r :=
    fun hd => List.dropWhile_cons_of_neg (by simp [hd])
  rw [oneAttribute, qualifiedName_append ha.name (by decide)]
  simp only [ok_bind, hskip (show isSpace '=' = false by decide),
    hskip (show isSpace '"' = false by decide), quoted_escape, ifAllowed_bind]
  rfl

theorem writeAttributes_cons (a : String × String) (as : List (String × String))
    (rest : List Char) :
    Node.writeAttributes (a :: as) ++ rest =
      ' ' :: (a.1.toList ++ '=' :: '"' :: (escape a.2.toList ++ '"' ::
        (Node.writeAttributes as ++ rest))) := by
  simp [Node.writeAttributes]

def tagEnd (closed : Bool) (rest : List Char) : List Char :=
  if closed then '/' :: '>' :: rest else '>' :: rest

theorem attributes_tagEnd (fuel : Nat) (closed : Bool) (rest : List Char) :
    attributes (fuel + 1) (tagEnd closed rest) = .ok ([], closed, rest) := by
  cases closed <;> rfl

theorem attributes_writeAttributes {as : List (String × String)}
    (has : ∀ a ∈ as, IsPlainAttribute a) (closed : Bool) (rest : List Char) :
    ∀ {fuel : Nat}, as.length < fuel →
      attributes fuel (Node.writeAttributes as ++ tagEnd closed rest) =
        ifAllowed (valuesCharsIn isDocumentChar as) (.ok (rawAttributes as, closed, rest)) := by
  induction as with
  | nil =>
    intro fuel hfuel
    obtain ⟨fuel, rfl⟩ := Nat.exists_eq_add_one_of_ne_zero (Nat.ne_of_gt hfuel)
    exact attributes_tagEnd fuel closed rest
  | cons a r ih =>
    intro fuel hfuel
    obtain ⟨fuel, rfl⟩ := Nat.exists_eq_add_one_of_ne_zero (Nat.ne_zero_of_lt hfuel)
    have ha := has a List.mem_cons_self
    have hrest := ih (fun b hb => has b (List.mem_cons_of_mem a hb)) (Nat.lt_of_succ_lt_succ hfuel)
    have hone := oneAttribute_append ha (Node.writeAttributes r ++ tagEnd closed rest)
    obtain ⟨c, cs, hname, hstart, -, -⟩ := exists_of_isPlainName ha.name
    rw [writeAttributes_cons, valuesCharsIn, List.all_cons, ifAllowed_and, ← valuesCharsIn]
    rw [hname, List.cons_append] at hone ⊢
    have hskip : ∀ s, skipSpaces (' ' :: c :: s) = c :: s := by
      intro s
      rw [skipSpaces, List.dropWhile_cons_of_pos (by decide),
        List.dropWhile_cons_of_neg (by simp [isSpace_of_isNameStart hstart])]
    rw [attributes, hskip]
    generalize cs ++ '=' :: '"' :: (escape a.2.toList ++ '"' ::
      (Node.writeAttributes r ++ tagEnd closed rest)) = written at hone ⊢
    split
    case h_1 h => cases h
    case h_2 h =>
      cases h
      exact absurd rfl (ne_of_isNameStart hstart (by decide))
    case h_3 h =>
      cases h
      exact absurd rfl (ne_of_isNameStart hstart (by decide))
    case h_4 h =>
      cases h
      simp only [hone, ifAllowed_bind, ok_bind, hrest]
      rfl

/-- What stands behind the name of a start tag does not continue the name. -/
theorem exists_of_afterName (as : List (String × String)) (closed : Bool) (rest : List Char) :
    ∃ d r, Node.writeAttributes as ++ tagEnd closed rest = d :: r ∧ isNameChar d = false := by
  cases as with
  | nil => cases closed <;> exact ⟨_, _, rfl, by decide⟩
  | cons a r =>
    rw [writeAttributes_cons]
    exact ⟨_, _, rfl, by decide⟩

theorem token_startTag {name : String} (hname : isPlainName name = true)
    {as : List (String × String)} (has : ∀ a ∈ as, IsPlainAttribute a) (closed : Bool)
    (rest : List Char) {fuel : Nat} (hfuel : as.length < fuel) :
    token fuel ('<' :: (name.toList ++ (Node.writeAttributes as ++ tagEnd closed rest))) =
      ifAllowed (valuesCharsIn isDocumentChar as)
        (.ok (.start ⟨"", name⟩ (rawAttributes as) closed, rest)) := by
  have htag : startTag fuel (name.toList ++ (Node.writeAttributes as ++ tagEnd closed rest)) =
      ifAllowed (valuesCharsIn isDocumentChar as)
        (.ok (.start ⟨"", name⟩ (rawAttributes as) closed, rest)) := by
    have hattributes := attributes_writeAttributes has closed rest hfuel
    obtain ⟨d, r, hafter, hd⟩ := exists_of_afterName as closed rest
    rw [hafter] at hattributes ⊢
    simp only [startTag, qualifiedName_append hname hd, ok_bind, hattributes, ifAllowed_bind]
    rfl
  obtain ⟨c, cs, hcons, hstart, -, -⟩ := exists_of_isPlainName hname
  rw [hcons, List.cons_append] at htag ⊢
  have hexclamation : c ≠ '!' := ne_of_isNameStart hstart (by decide)
  have hquestion : c ≠ '?' := ne_of_isNameStart hstart (by decide)
  have hslash : c ≠ '/' := ne_of_isNameStart hstart (by decide)
  unfold token
  split
  case h_6 h => cases h; exact htag
  case h_7 h => exact absurd rfl (h _)
  all_goals
    next h =>
      simp only [List.cons.injEq, hexclamation, hquestion, hslash, false_and, and_false] at h

theorem token_endTag {name : String} (hname : isPlainName name = true) (rest : List Char)
    (fuel : Nat) :
    token fuel ('<' :: '/' :: (name.toList ++ '>' :: rest)) = .ok (.stop ⟨"", name⟩, rest) := by
  have hskip : skipSpaces ('>' :: rest) = '>' :: rest :=
    List.dropWhile_cons_of_neg (by decide)
  rw [token]
  simp only [endTag, qualifiedName_append hname (show isNameChar '>' = false by decide), ok_bind,
    hskip]
  rfl

theorem token_escape {cs : List Char} (hcs : cs ≠ []) (rest : List Char) (fuel : Nat) :
    token fuel (escape cs ++ '<' :: rest) =
      ifAllowed (cs.all isDocumentChar) (.ok (.text (escape cs), '<' :: rest)) := by
  have hlt : ∀ d ∈ escape cs, (d ≠ '<' : Bool) = true := by
    intro d hd
    simp [(of_mem_escape hd).1]
  have htake : (escape cs ++ '<' :: rest).takeWhile (· ≠ '<') = escape cs := by
    rw [List.takeWhile_append_of_pos hlt]
    simp
  have hdrop : (escape cs ++ '<' :: rest).dropWhile (· ≠ '<') = '<' :: rest := by
    rw [List.dropWhile_append_of_pos hlt]
    simp
  have hmarker : occursIn [']', ']', '>'] (escape cs) = false := by
    rw [occursIn, Option.isSome_eq_false_iff, Option.isNone_iff_eq_none]
    cases hsplit : splitAtFirst [']', ']', '>'] (escape cs) with
    | none => rfl
    | some parts =>
      have hgt : '>' ∈ escape cs := by
        rw [eq_of_splitAtFirst hsplit]
        simp
      exact absurd rfl (of_mem_escape hgt).2.1
  have hdata : characterData (escape cs ++ '<' :: rest) =
      ifAllowed (cs.all isDocumentChar) (.ok (.text (escape cs), '<' :: rest)) := by
    rw [characterData, htake, hdrop, all_escape, hmarker]
    cases cs.all isDocumentChar <;> rfl
  obtain ⟨c, r, hcons⟩ := List.exists_cons_of_ne_nil (escape_ne_nil hcs)
  have hc : c ≠ '<' := (of_mem_escape (hcons ▸ List.mem_cons_self)).1
  rw [hcons] at hdata ⊢
  unfold token
  split
  case h_7 => exact hdata
  all_goals
    next h =>
      simp only [List.cons_append, List.cons.injEq] at h
      exact absurd h.1 hc

end RemoteDev.Markup
