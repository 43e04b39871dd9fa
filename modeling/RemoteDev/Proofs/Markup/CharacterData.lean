import Mathlib.Data.List.TakeWhile
import RemoteDev.Markup.CharacterData

/-! Names without a namespace are read as they are written. Escaped text shows what was escaped:
references give their characters back, and only line ends and the blanks of attribute values are not
kept. Escaping neither adds nor hides a character that documents cannot hold. -/
namespace RemoteDev.Markup

theorem isLetter_iff_toNat (c : Char) :
    isLetter c = true ↔ 97 ≤ c.toNat ∧ c.toNat ≤ 122 ∨ 65 ≤ c.toNat ∧ c.toNat ≤ 90 := by
  simp [isLetter, UInt32.le_iff_toNat_le, Char.le_def]

theorem isDocumentChar_of_isLetter {c : Char} (h : isLetter c = true) :
    isDocumentChar c = true := by
  have hc := (isLetter_iff_toNat c).1 h
  simp only [isDocumentChar]
  rw [if_neg (by omega)]
  simp
  omega

theorem ne_of_isNameStart {c d : Char} (hc : isNameStart c = true) (hd : isNameStart d = false) :
    c ≠ d := by
  rintro rfl
  rw [hd] at hc
  cases hc

theorem isSpace_of_isNameStart {c : Char} (h : isNameStart c = true) : isSpace c = false := by
  have hblank : c ≠ ' ' := ne_of_isNameStart h (by decide)
  have htab : c ≠ '\t' := ne_of_isNameStart h (by decide)
  have hline : c ≠ '\n' := ne_of_isNameStart h (by decide)
  have hreturn : c ≠ '\r' := ne_of_isNameStart h (by decide)
  simp [isSpace, hblank, htab, hline, hreturn]

def isPlainName (name : String) : Bool :=
  match name.toList with
  | [] => false
  | c :: r => isNameStart c && (c :: r).all fun d => isNameChar d && d ≠ ':'

theorem exists_of_isPlainName {name : String} (h : isPlainName name = true) :
    ∃ c r, name.toList = c :: r ∧ isNameStart c = true ∧
      (∀ d ∈ c :: r, isNameChar d = true) ∧ ∀ d ∈ c :: r, d ≠ ':' := by
  unfold isPlainName at h
  split at h
  case h_1 => cases h
  case h_2 c r hname =>
    simp only [Bool.and_eq_true, List.all_eq_true, decide_eq_true_eq] at h
    exact ⟨c, r, hname, h.1, fun d hd => (h.2 d hd).1, fun d hd => (h.2 d hd).2⟩

theorem qualifiedName_append {name : String} (hname : isPlainName name = true) {d : Char}
    (hd : isNameChar d = false) (rest : List Char) :
    qualifiedName (name.toList ++ d :: rest) = .ok (⟨"", name⟩, d :: rest) := by
  obtain ⟨c, r, hcons, hstart, hchars, hcolons⟩ := exists_of_isPlainName hname
  have hofList : String.ofList (c :: r) = name := by rw [← hcons, String.ofList_toList]
  have htake : (c :: r ++ d :: rest).takeWhile isNameChar = c :: r := by
    rw [List.takeWhile_append_of_pos hchars, List.takeWhile_cons_of_neg (by simp [hd]),
      List.append_nil]
  have hdrop : (c :: r ++ d :: rest).dropWhile isNameChar = d :: rest := by
    rw [List.dropWhile_append_of_pos hchars, List.dropWhile_cons_of_neg (by simp [hd])]
  have hfront : (c :: r).takeWhile (· ≠ ':') = c :: r :=
    List.takeWhile_eq_self_iff.2 fun d hd => by simp [hcolons d hd]
  have hback : (c :: r).dropWhile (· ≠ ':') = [] :=
    List.dropWhile_eq_nil_iff.2 fun d hd => by simp [hcolons d hd]
  have hcolon : (c :: r).contains ':' = false := by
    simpa using fun h => hcolons ':' h rfl
  rw [hcons, qualifiedName]
  simp only [htake, hdrop, hfront, hback, hcolon, beginsName, hstart]
  simp [hofList]

def isTextChar (c : Char) : Bool := isDocumentChar c && c ≠ '\r'

def isValueChar (c : Char) : Bool := 0x20 ≤ c.toNat && c.toNat ≠ 0xFFFE && c.toNat ≠ 0xFFFF

theorem isDocumentChar_of_isTextChar {c : Char} (h : isTextChar c = true) :
    isDocumentChar c = true := by
  rw [isTextChar, Bool.and_eq_true] at h
  exact h.1

theorem isValueChar_iff (c : Char) :
    isValueChar c = true ↔ 0x20 ≤ c.toNat ∧ c.toNat ≠ 0xFFFE ∧ c.toNat ≠ 0xFFFF := by
  simp [isValueChar, and_assoc]

theorem isDocumentChar_of_isValueChar {c : Char} (h : isValueChar c = true) :
    isDocumentChar c = true := by
  obtain ⟨hlow, hfffe, hffff⟩ := (isValueChar_iff c).1 h
  simp only [isDocumentChar]
  rw [if_neg (by omega)]
  simp [hfffe, hffff]

theorem ne_break_of_isValueChar {c : Char} (h : isValueChar c = true) :
    c ≠ '\n' ∧ c ≠ '\r' ∧ c ≠ '\t' := by
  refine ⟨?_, ?_, ?_⟩ <;>
    · rintro rfl
      exact absurd h (by decide)

theorem isTextChar_of_isValueChar {c : Char} (h : isValueChar c = true) : isTextChar c = true := by
  rw [isTextChar, isDocumentChar_of_isValueChar h]
  simpa using (ne_break_of_isValueChar h).2.1

def Piece.char : Piece → Char
  | literal c => c
  | reference c => c

@[simp] theorem Piece.char_literal (c : Char) : (literal c).char = c := rfl

@[simp] theorem Piece.char_reference (c : Char) : (reference c).char = c := rfl

theorem escapeChar_cases (c : Char) :
    (c ≠ '&' ∧ c ≠ '<' ∧ c ≠ '>' ∧ c ≠ '"' ∧ escapeChar c = [c]) ∨
      ∃ name, escapeChar c = '&' :: (name ++ [';']) ∧ name.all isLetter = true ∧
        referenced? name = some c := by
  by_cases hlt : c = '<'
  · subst hlt; exact .inr ⟨['l', 't'], rfl, by decide, rfl⟩
  by_cases hgt : c = '>'
  · subst hgt; exact .inr ⟨['g', 't'], rfl, by decide, rfl⟩
  by_cases hamp : c = '&'
  · subst hamp; exact .inr ⟨['a', 'm', 'p'], rfl, by decide, rfl⟩
  by_cases hapos : c = '\''
  · subst hapos; exact .inr ⟨['a', 'p', 'o', 's'], rfl, by decide, rfl⟩
  by_cases hquot : c = '"'
  · subst hquot; exact .inr ⟨['q', 'u', 'o', 't'], rfl, by decide, rfl⟩
  · exact .inl ⟨hamp, hlt, hgt, hquot, by simp [escapeChar, hlt, hgt, hamp, hapos, hquot]⟩

theorem escape_cons (c : Char) (r : List Char) : escape (c :: r) = escapeChar c ++ escape r :=
  List.flatMap_cons

theorem escape_ne_nil {cs : List Char} (h : cs ≠ []) : escape cs ≠ [] := by
  cases cs with
  | nil => exact absurd rfl h
  | cons c r =>
    rw [escape_cons]
    rcases escapeChar_cases c with ⟨-, -, -, -, hself⟩ | ⟨name, hname, -, -⟩
    · simp [hself]
    · simp [hname]

/-- The characters that a character is written with end neither text nor a value. -/
theorem of_mem_escapeChar {c d : Char} (h : d ∈ escapeChar c) : d ≠ '<' ∧ d ≠ '>' ∧ d ≠ '"' := by
  rcases escapeChar_cases c with ⟨-, hlt, hgt, hquote, hself⟩ | ⟨name, hname, hletters, -⟩
  · rw [hself, List.mem_singleton] at h
    rw [h]
    exact ⟨hlt, hgt, hquote⟩
  · rw [hname, List.mem_cons, List.mem_append, List.mem_singleton] at h
    rcases h with rfl | hd | rfl
    · exact ⟨by decide, by decide, by decide⟩
    · have hletter : isLetter d = true := List.all_eq_true.1 hletters d hd
      refine ⟨?_, ?_, ?_⟩ <;>
        · rintro rfl
          exact absurd hletter (by decide)
    · exact ⟨by decide, by decide, by decide⟩

theorem of_mem_escape {cs : List Char} {d : Char} (h : d ∈ escape cs) :
    d ≠ '<' ∧ d ≠ '>' ∧ d ≠ '"' := by
  obtain ⟨c, -, hd⟩ := List.mem_flatMap.1 h
  exact of_mem_escapeChar hd

theorem all_escapeChar (c : Char) : (escapeChar c).all isDocumentChar = isDocumentChar c := by
  unfold escapeChar
  split_ifs
  case neg => rw [List.all_cons, List.all_nil, Bool.and_true]
  all_goals
    subst c
    rfl

theorem all_escape (cs : List Char) : (escape cs).all isDocumentChar = cs.all isDocumentChar := by
  induction cs with
  | nil => rfl
  | cons c r ih => rw [escape_cons, List.all_append, all_escapeChar, ih, List.all_cons]

theorem pieces_eq (s : List Char) :
    pieces s =
      match s.dropWhile (· ≠ '&') with
      | [] => .ok ((s.takeWhile (· ≠ '&')).map .literal)
      | _ :: r =>
        match r.dropWhile (· ≠ ';') with
        | [] => .error .badReference
        | _ :: r' =>
          match referenced? (r.takeWhile (· ≠ ';')) with
          | none => .error .badReference
          | some c =>
            (pieces r').map fun ps =>
              (s.takeWhile (· ≠ '&')).map .literal ++ .reference c :: ps := by
  rw [pieces]
  split
  case h_1 h => simp only [h]
  case h_2 c r h =>
    simp only [h]
    split
    case h_1 h' => simp only [h']
    case h_2 h' =>
      cases referenced? (r.takeWhile (· ≠ ';')) with
      | none => simp only [h']
      | some c => simp only [h']

theorem pieces_nil : pieces [] = .ok [] := by
  rw [pieces_eq]; rfl

theorem pieces_cons_of_ne {c : Char} (h : c ≠ '&') (s : List Char) :
    pieces (c :: s) = (pieces s).map fun ps => .literal c :: ps := by
  have htake : (c :: s).takeWhile (· ≠ '&') = c :: s.takeWhile (· ≠ '&') := by simp [h]
  have hdrop : (c :: s).dropWhile (· ≠ '&') = s.dropWhile (· ≠ '&') := by simp [h]
  rw [pieces_eq (c :: s), pieces_eq s, htake, hdrop]
  cases s.dropWhile (· ≠ '&') with
  | nil => rfl
  | cons d r =>
    dsimp only
    cases r.dropWhile (· ≠ ';') with
    | nil => rfl
    | cons e r' =>
      dsimp only
      cases referenced? (r.takeWhile (· ≠ ';')) with
      | none => rfl
      | some x =>
        dsimp only
        cases pieces r' <;> rfl

theorem pieces_reference {name : List Char} {c : Char} (hname : ∀ d ∈ name, d ≠ ';')
    (hc : referenced? name = some c) (s : List Char) :
    pieces ('&' :: (name ++ ';' :: s)) = (pieces s).map fun ps => .reference c :: ps := by
  have htake : (name ++ ';' :: s).takeWhile (· ≠ ';') = name := by
    rw [List.takeWhile_append_of_pos (fun d hd => by simp [hname d hd])]
    simp
  have hdrop : (name ++ ';' :: s).dropWhile (· ≠ ';') = ';' :: s := by
    rw [List.dropWhile_append_of_pos (fun d hd => by simp [hname d hd])]
    simp
  rw [pieces_eq, List.dropWhile_cons_of_neg (by simp), List.takeWhile_cons_of_neg (by simp)]
  simp only [htake, hdrop, hc]
  rfl

def pieceOf (c : Char) : Piece := if escapeChar c = [c] then .literal c else .reference c

@[simp] theorem char_pieceOf (c : Char) : (pieceOf c).char = c := by
  unfold pieceOf
  split <;> rfl

theorem map_char_pieceOf (cs : List Char) : (cs.map pieceOf).map Piece.char = cs := by
  rw [List.map_map]
  exact List.map_id'' char_pieceOf cs

theorem pieces_escape (cs : List Char) : pieces (escape cs) = .ok (cs.map pieceOf) := by
  induction cs with
  | nil => exact pieces_nil
  | cons c r ih =>
    rw [escape_cons, List.map_cons]
    rcases escapeChar_cases c with ⟨hamp, -, -, -, hself⟩ | ⟨name, hname, hletters, hc⟩
    · rw [pieceOf, if_pos hself, hself, List.singleton_append, pieces_cons_of_ne hamp, ih]
      rfl
    · have hsemicolon : ∀ d ∈ name, d ≠ ';' := by
        rintro d hd rfl
        exact absurd (List.all_eq_true.1 hletters ';' hd) (by decide)
      have hother : escapeChar c ≠ [c] := by simp [hname]
      rw [pieceOf, if_neg hother, hname, List.cons_append, List.append_assoc,
        List.singleton_append, pieces_reference hsemicolon hc, ih]
      rfl

/-- Without carriage returns the pieces are joined as they are. -/
theorem joinText_of_no_return {ps : List Piece} (hps : ∀ p ∈ ps, p.char ≠ '\r') :
    ∀ {out : List Char} (after : Bool), '\r' ∉ out →
      joinText out after ps = out.reverse ++ ps.map Piece.char := by
  induction ps with
  | nil =>
    intro out after hout
    rw [joinText, List.map_nil, List.append_nil]
  | cons p r ih =>
    intro out after hout
    have hchar : p.char ≠ '\r' := hps p List.mem_cons_self
    have hrest := @ih fun q hq => hps q (List.mem_cons_of_mem p hq)
    have hpush : '\r' ∉ p.char :: out := by
      rw [List.mem_cons]
      rintro (h | h)
      · exact hchar h.symm
      · exact hout h
    have hjoin : ∀ after, joinText (p.char :: out) after r =
        out.reverse ++ (p :: r).map Piece.char := by
      intro after
      rw [hrest after hpush, List.reverse_cons, List.append_assoc]
      rfl
    cases p with
    | reference c => exact hjoin true
    | literal c =>
      rw [joinText]
      split
      · exact hjoin false
      · have hliteral : pushLiteral out c r.isEmpty = c :: out := by
          unfold pushLiteral
          split
          · exact absurd List.mem_cons_self hout
          · rw [if_neg (by simp [show c ≠ '\r' from hchar])]
        rw [hliteral]
        exact hjoin false

/-- Without line ends and tabs the pieces of an attribute value are joined as they are. -/
theorem joinValue_of_no_break {ps : List Piece}
    (hps : ∀ p ∈ ps, p.char ≠ '\n' ∧ p.char ≠ '\r' ∧ p.char ≠ '\t') :
    joinValue ps = ps.map Piece.char := by
  induction ps with
  | nil => rfl
  | cons p r ih =>
    have hrest := ih fun q hq => hps q (List.mem_cons_of_mem p hq)
    cases p with
    | reference c => rw [joinValue, hrest]; rfl
    | literal c =>
      obtain ⟨hline, hreturn, htab⟩ := hps (.literal c) List.mem_cons_self
      rw [Piece.char_literal] at hline hreturn htab
      rw [joinValue, if_neg (by simp [hline, hreturn, htab]), hrest]
      · rfl
      · exact fun _ h => absurd h hreturn

def shownText (s : String) : String := String.ofList (joinText [] false (s.toList.map pieceOf))

def shownValue (s : String) : String := String.ofList (joinValue (s.toList.map pieceOf))

theorem textOf_escape (s : String) : textOf (escape s.toList) = .ok (shownText s) := by
  rw [textOf, pieces_escape]
  rfl

theorem valueOf_escape (s : String) : valueOf (escape s.toList) = .ok (shownValue s) := by
  rw [valueOf, pieces_escape]
  rfl

theorem shownText_of_no_return {s : String} (h : ∀ c ∈ s.toList, c ≠ '\r') : shownText s = s := by
  have hjoin : joinText [] false (s.toList.map pieceOf) = s.toList := by
    rw [joinText_of_no_return _ false List.not_mem_nil, map_char_pieceOf]
    · rfl
    · intro p hp
      obtain ⟨c, hc, rfl⟩ := List.mem_map.1 hp
      rw [char_pieceOf]
      exact h c hc
  rw [shownText, hjoin, String.ofList_toList]

theorem shownValue_of_no_break {s : String}
    (h : ∀ c ∈ s.toList, c ≠ '\n' ∧ c ≠ '\r' ∧ c ≠ '\t') : shownValue s = s := by
  have hjoin : joinValue (s.toList.map pieceOf) = s.toList := by
    rw [joinValue_of_no_break, map_char_pieceOf]
    intro p hp
    obtain ⟨c, hc, rfl⟩ := List.mem_map.1 hp
    rw [char_pieceOf]
    exact h c hc
  rw [shownValue, hjoin, String.ofList_toList]

end RemoteDev.Markup
