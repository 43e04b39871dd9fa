import RemoteDev.Proofs.Markup.Token

/-! A tree that is written down is read back: its text splits into the tokens of the tree, and
the tokens build the tree again, with the line ends of its texts and the blanks of its attributes
as reading shows them. Reading fails only on characters that documents cannot hold. -/
namespace RemoteDev.Markup

structure IsPlainTag (name : String) (attributes : List (String × String)) : Prop where
  named : isPlainName name = true
  plain : ∀ a ∈ attributes, IsPlainAttribute a
  distinct : (attributes.map Prod.fst).Nodup

namespace Node

def isText : Node → Bool
  | text _ => true
  | element _ _ _ => false

mutual

/-- A tree in which no text is empty or has another text right behind it. -/
def Shaped : Node → Prop
  | text content => content ≠ ""
  | element name attributes children => IsPlainTag name attributes ∧ ShapedAll children

def ShapedAll : List Node → Prop
  | [] => True
  | n :: r => Shaped n ∧ (n.isText = true → ∀ m ∈ r.head?, m.isText = false) ∧ ShapedAll r

end

mutual

def charsIn (inText inValue : Char → Bool) : Node → Bool
  | text content => content.toList.all inText
  | element _ attributes children =>
    valuesCharsIn inValue attributes && charsInAll inText inValue children

def charsInAll (inText inValue : Char → Bool) : List Node → Bool
  | [] => true
  | n :: r => charsIn inText inValue n && charsInAll inText inValue r

end

mutual

def shown : Node → Node
  | text content => text (shownText content)
  | element name attributes children =>
    element name (shownAttributes attributes) (shownAll children)

def shownAll : List Node → List Node
  | [] => []
  | n :: r => shown n :: shownAll r

end

/-- A tree that is read back as it is. -/
def Tidy (n : Node) : Prop := n.Shaped ∧ n.charsIn isTextChar isValueChar = true

theorem charsInAll_append (inText inValue : Char → Bool) (ns ms : List Node) :
    charsInAll inText inValue (ns ++ ms) =
      (charsInAll inText inValue ns && charsInAll inText inValue ms) := by
  induction ns with
  | nil => rw [List.nil_append, charsInAll, Bool.true_and]
  | cons n r ih => rw [List.cons_append, charsInAll, charsInAll, ih, Bool.and_assoc]

mutual

def tokens : Node → List Token
  | text content => [.text (escape content.toList)]
  | element name attributes children =>
    match children with
    | [] => [.start ⟨"", name⟩ (rawAttributes attributes) true]
    | n :: r =>
      .start ⟨"", name⟩ (rawAttributes attributes) false ::
        (tokensAll (n :: r) ++ [.stop ⟨"", name⟩])

def tokensAll : List Node → List Token
  | [] => []
  | n :: r => tokens n ++ tokensAll r

end

end Node

/-- A text that is taken apart into the given tokens, or fails to be. -/
def SplitsInto (s : List Char) (outcome : Except MarkupError (List Token)) : Prop :=
  ∀ fuel, s.length ≤ fuel → ∀ done, tokensAfter done fuel s = outcome.map (done.reverse ++ ·)

def behind (allowed : Bool) (front : List Token) (outcome : Except MarkupError (List Token)) :
    Except MarkupError (List Token) :=
  ifAllowed allowed (outcome.map (front ++ ·))

theorem behind_behind (a b : Bool) (front middle : List Token)
    (outcome : Except MarkupError (List Token)) :
    behind a front (behind b middle outcome) = behind (a && b) (front ++ middle) outcome := by
  cases a <;> cases b <;> cases outcome <;> simp [behind, ifAllowed, Except.map]

theorem splitsInto_nil : SplitsInto [] (.ok []) := by
  intro fuel _ done
  rw [tokensAfter, Except.map, List.append_nil]

theorem SplitsInto.cons {s rest : List Char} {allowed : Bool} {t : Token}
    {outcome : Except MarkupError (List Token)} (h : SplitsInto rest outcome)
    (hlength : rest.length < s.length)
    (htoken : ∀ fuel, s.length ≤ fuel → token fuel s = ifAllowed allowed (.ok (t, rest))) :
    SplitsInto s (behind allowed [t] outcome) := by
  intro fuel hfuel done
  cases s with
  | nil => exact absurd hlength (Nat.not_lt_zero _)
  | cons c r =>
    obtain ⟨fuel, rfl⟩ := Nat.exists_eq_add_one_of_ne_zero
      (Nat.ne_zero_of_lt (Nat.lt_of_lt_of_le hlength hfuel))
    simp only [tokensAfter, htoken (fuel + 1) hfuel]
    cases allowed with
    | false => rfl
    | true =>
      simp only [ifAllowed_true, behind]
      rw [h fuel (by omega) (t :: done)]
      cases outcome with
      | error e => rfl
      | ok ts => simp [Except.map]

namespace Node

theorem length_le_writeAttributes (as : List (String × String)) :
    as.length ≤ (writeAttributes as).length := by
  induction as with
  | nil => exact Nat.le_refl 0
  | cons a r ih =>
    have hcons := congrArg List.length (writeAttributes_cons a r [])
    simp only [List.append_nil, List.length_cons, List.length_append] at hcons ⊢
    omega

theorem splitsInto_text {content : String} (hne : content ≠ "") {rest : List Char}
    {outcome : Except MarkupError (List Token)} (hrest : SplitsInto ('<' :: rest) outcome) :
    SplitsInto ((text content).writeOnto ('<' :: rest))
      (behind (content.toList.all isDocumentChar) (text content).tokens outcome) := by
  have hnil : content.toList ≠ [] := by simpa using hne
  have hlength := List.length_pos_iff.2 (escape_ne_nil hnil)
  rw [writeOnto, tokens]
  exact hrest.cons (by rw [List.length_append]; omega) fun fuel _ => token_escape hnil rest fuel

theorem splitsInto_startTag {name : String} {as : List (String × String)} (h : IsPlainTag name as)
    (closed : Bool) {rest : List Char} {outcome : Except MarkupError (List Token)}
    (hrest : SplitsInto rest outcome) :
    SplitsInto ('<' :: (name.toList ++ (writeAttributes as ++ tagEnd closed rest)))
      (behind (valuesCharsIn isDocumentChar as) [.start ⟨"", name⟩ (rawAttributes as) closed]
        outcome) := by
  have hend : rest.length < (tagEnd closed rest).length := by
    cases closed with
    | false => exact Nat.lt_add_one _
    | true => exact Nat.lt_add_of_pos_right Nat.two_pos
  have hattributes := length_le_writeAttributes as
  refine hrest.cons ?_ fun fuel hfuel => token_startTag h.named h.plain closed rest ?_
  · simp only [List.length_cons, List.length_append]
    omega
  · simp only [List.length_cons, List.length_append] at hfuel
    omega

theorem splitsInto_endTag {name : String} (hname : isPlainName name = true) {rest : List Char}
    {outcome : Except MarkupError (List Token)} (hrest : SplitsInto rest outcome) :
    SplitsInto ('<' :: '/' :: (name.toList ++ '>' :: rest))
      (behind true [.stop ⟨"", name⟩] outcome) := by
  refine hrest.cons ?_ fun fuel _ => token_endTag hname rest fuel
  simp only [List.length_cons, List.length_append]
  omega

theorem exists_lt_writeAllOnto {ns : List Node} (h : ∀ n ∈ ns.head?, n.isText = false)
    (rest : List Char) : ∃ s, writeAllOnto ns ('<' :: rest) = '<' :: s := by
  cases ns with
  | nil => exact ⟨rest, by rw [writeAllOnto]⟩
  | cons n r =>
    cases n with
    | text content => cases h _ rfl
    | element name attributes children =>
      cases children <;> exact ⟨_, by rw [writeAllOnto, writeOnto]⟩

mutual

/-- A written tree splits into the tokens of the tree, unless it holds a forbidden character;
behind text there has to be a tag. -/
theorem splitsInto_writeOnto : (n : Node) → n.Shaped → ∀ {rest : List Char}
    {outcome : Except MarkupError (List Token)}, (n.isText = true → ∃ s, rest = '<' :: s) →
      SplitsInto rest outcome →
        SplitsInto (n.writeOnto rest)
          (behind (n.charsIn isDocumentChar isDocumentChar) n.tokens outcome)
  | text content, h, rest, outcome, hbehind, hrest => by
    obtain ⟨s, rfl⟩ := hbehind rfl
    rw [Shaped] at h
    rw [charsIn]
    exact splitsInto_text h hrest
  | element name attributes [], h, rest, outcome, _, hrest => by
    rw [Shaped] at h
    have htag := splitsInto_startTag h.1 true hrest
    rw [writeOnto, tokens, charsIn, charsInAll, Bool.and_true]
    exact htag
  | element name attributes (n :: r), h, rest, outcome, _, hrest => by
    rw [Shaped] at h
    have hlast := splitsInto_endTag h.1.named hrest
    have hchildren := splitsInto_writeAllOnto (n :: r) h.2 hlast
    have htag := splitsInto_startTag h.1 false hchildren
    rw [behind_behind, behind_behind, Bool.and_true, List.singleton_append] at htag
    rw [writeOnto, tokens, charsIn]
    exact htag

theorem splitsInto_writeAllOnto : (ns : List Node) → ShapedAll ns → ∀ {rest : List Char}
    {outcome : Except MarkupError (List Token)}, SplitsInto ('<' :: rest) outcome →
      SplitsInto (writeAllOnto ns ('<' :: rest))
        (behind (charsInAll isDocumentChar isDocumentChar ns) (tokensAll ns) outcome)
  | [], _, rest, outcome, hrest => by
    have hnone : behind true [] outcome = outcome := by cases outcome <;> rfl
    rw [writeAllOnto, tokensAll, charsInAll, hnone]
    exact hrest
  | n :: r, h, rest, outcome, hrest => by
    rw [ShapedAll] at h
    have hbehind := splitsInto_writeAllOnto r h.2.2 hrest
    rw [writeAllOnto, tokensAll, charsInAll, ← behind_behind]
    refine splitsInto_writeOnto n h.1 ?_ hbehind
    intro htext
    exact exists_lt_writeAllOnto (h.2.1 htext) rest

end

theorem documentTokens_write {n : Node} (h : n.Shaped) (hroot : n.isText = false) :
    documentTokens n.write =
      ifAllowed (n.charsIn isDocumentChar isDocumentChar) (.ok n.tokens) := by
  have hsplit := splitsInto_writeOnto n h (fun ht => by rw [hroot] at ht; cases ht) splitsInto_nil
  have htokens : Markup.tokens n.write =
      ifAllowed (n.charsIn isDocumentChar isDocumentChar) (.ok n.tokens) := by
    have hall := hsplit _ (Nat.le_refl _) []
    rw [behind, Except.map, List.append_nil] at hall
    refine hall.trans ?_
    cases n.charsIn isDocumentChar isDocumentChar <;> rfl
  cases n with
  | text content => cases hroot
  | element name attributes children =>
    rw [Shaped] at h
    obtain ⟨c, r, hcons, hstart, -, -⟩ := exists_of_isPlainName h.1.named
    obtain ⟨s, hwrite⟩ : ∃ s, (element name attributes children).write = '<' :: c :: s := by
      rw [write]
      cases children <;> exact ⟨_, by rw [writeOnto, hcons, List.cons_append]⟩
    have hquestion : ('?' == c) = false :=
      beq_eq_false_iff_ne.2 (ne_of_isNameStart hstart (by decide)).symm
    rw [hwrite] at htokens ⊢
    have hdeclaration : "<?xml ".toList.isPrefixOf ('<' :: c :: s) = false := by
      simp [List.isPrefixOf, hquestion]
    show (do
      let s₂ ← if "<?xml ".toList.isPrefixOf ('<' :: c :: s) then
        declaration (List.drop 5 ('<' :: c :: s)) else pure ('<' :: c :: s)
      Markup.tokens s₂) = _
    rw [hdeclaration]
    exact htokens

end Node

namespace Reading

def plainAttributes (as : List (String × String)) : List (QualifiedName × String) :=
  as.map fun (name, value) => (⟨"", name⟩, value)

theorem sortAttribute_of_plain {a : String × String} (ha : IsPlainAttribute a) (sorted : Sorted) :
    sortAttribute sorted ⟨⟨"", a.1⟩, escape a.2.toList⟩ =
      .ok { sorted with others := sorted.others ++ [(⟨"", a.1⟩, shownValue a.2)] } := by
  have hspace : ("" == "xmlns") = false := by decide
  have hbase : (a.1 == "xmlns") = false := beq_eq_false_iff_ne.2 ha.unreserved
  simp only [sortAttribute, valueOf_escape, ok_bind, hspace, hbase]
  rfl

theorem foldlM_sortAttribute {as : List (String × String)} (has : ∀ a ∈ as, IsPlainAttribute a)
    (sorted : Sorted) :
    (rawAttributes as).foldlM sortAttribute sorted =
      .ok { sorted with
        others := sorted.others ++ plainAttributes (shownAttributes as) } := by
  induction as generalizing sorted with
  | nil =>
    show Except.ok sorted = _
    rw [shownAttributes, List.map_nil, plainAttributes, List.map_nil, List.append_nil]
  | cons a r ih =>
    have hrest := ih fun b hb => has b (List.mem_cons_of_mem a hb)
    rw [rawAttributes, List.map_cons, List.foldlM_cons,
      sortAttribute_of_plain (has a List.mem_cons_self), ok_bind]
    refine (hrest _).trans ?_
    simp [plainAttributes, shownAttributes]

theorem resolve_plainAttributes (scope : List (String × String)) {as : List (String × String)} :
    ∀ {seen : List (Option String × String)}, (as.map Prod.fst).Nodup →
      (∀ a ∈ as, (none, a.1) ∉ seen) → resolve scope seen (plainAttributes as) = .ok as := by
  induction as with
  | nil => intro seen _ _; rfl
  | cons a r ih =>
    intro seen hdistinct hseen
    rw [List.map_cons, List.nodup_cons] at hdistinct
    have hnew : seen.contains (none, a.1) = false := by
      simpa using hseen a List.mem_cons_self
    have hrest : resolve scope ((none, a.1) :: seen) (plainAttributes r) = .ok r := by
      refine ih hdistinct.2 fun b hb => ?_
      rw [List.mem_cons]
      rintro (h | h)
      · rw [Prod.mk.injEq] at h
        exact hdistinct.1 (h.2 ▸ List.mem_map_of_mem hb)
      · exact hseen b (List.mem_cons_of_mem a hb) h
    have hnamespace : attributeNamespace scope ⟨"", a.1⟩ = .ok none := rfl
    rw [plainAttributes] at hrest
    rw [plainAttributes, List.map_cons, resolve]
    simp only [hnamespace, ok_bind, hnew, hrest]
    rfl

theorem openFrame_of_plain {name : String} {as : List (String × String)} (h : IsPlainTag name as)
    (scope : List (String × String)) :
    openFrame scope ⟨"", name⟩ (rawAttributes as) =
      .ok ⟨⟨"", name⟩, shownAttributes as, scope, []⟩ := by
  have hsorted := foldlM_sortAttribute h.plain {}
  have hnames : (shownAttributes as).map Prod.fst = as.map Prod.fst := by
    rw [shownAttributes, List.map_map]
    rfl
  have hresolve : resolve scope [] (plainAttributes (shownAttributes as)) =
      .ok (shownAttributes as) :=
    resolve_plainAttributes scope (hnames ▸ h.distinct) fun _ _ => List.not_mem_nil
  have hspace : ("" == "xmlns") = false := by decide
  simp only [openFrame, hspace, hsorted, ok_bind, List.nil_append, hresolve]
  rfl

/-- Elements can stand anywhere but behind the root, text only in an element. -/
def Accepts (reading : Reading) (n : Node) : Prop :=
  reading.stack ≠ [] ∨ (reading.root = none ∧ n.isText = false)

theorem step_text {content : String} {reading : Reading}
    (haccepts : reading.Accepts (.text content)) :
    reading.step (.text (escape content.toList)) =
      reading.add (.text (shownText content)) := by
  have hstack : reading.stack.isEmpty = false := by
    rcases haccepts with hstack | ⟨-, htext⟩
    · simpa using hstack
    · cases htext
  simp only [step, hstack, textOf_escape, ok_bind]
  rfl

theorem step_start {name : String} {as : List (String × String)} (h : IsPlainTag name as)
    {reading : Reading} {children : List Node}
    (haccepts : reading.Accepts (.element name as children)) (closed : Bool) :
    ∃ scope, reading.step (.start ⟨"", name⟩ (rawAttributes as) closed) =
      if closed then reading.add (.element name (shownAttributes as) [])
      else .ok ⟨⟨⟨"", name⟩, shownAttributes as, scope, []⟩ :: reading.stack, reading.root⟩ := by
  have hinside : (reading.stack.isEmpty && reading.root.isSome) = false := by
    rcases haccepts with hstack | ⟨hroot, -⟩
    · simp [hstack]
    · simp [hroot]
  have hopen := openFrame_of_plain h ((reading.stack.head?.map Frame.scope).getD [])
  refine ⟨(reading.stack.head?.map Frame.scope).getD [], ?_⟩
  simp only [step, hinside, hopen, ok_bind]
  cases closed <;> rfl

mutual

theorem foldlM_step_tokens : (n : Node) → n.Shaped → ∀ reading : Reading, reading.Accepts n →
    n.tokens.foldlM step reading = reading.add n.shown
  | .text content, _, reading, haccepts => by
    rw [Node.tokens, List.foldlM_cons, step_text haccepts, Node.shown]
    cases reading.add (.text (shownText content)) <;> rfl
  | .element name as [], h, reading, haccepts => by
    rw [Node.Shaped] at h
    obtain ⟨scope, hstart⟩ := step_start h.1 haccepts true
    rw [Node.tokens, List.foldlM_cons, hstart, if_pos rfl, Node.shown, Node.shownAll]
    cases reading.add (.element name (shownAttributes as) []) <;> rfl
  | .element name as (n :: r), h, reading, haccepts => by
    rw [Node.Shaped] at h
    obtain ⟨scope, hstart⟩ := step_start h.1 haccepts false
    have hchildren := foldlM_step_tokensAll (n :: r) h.2
      ⟨⟨"", name⟩, shownAttributes as, scope, []⟩ reading.stack reading.root
    rw [Node.tokens, List.foldlM_cons, hstart, if_neg (by decide), ok_bind, List.foldlM_append,
      hchildren, ok_bind, List.foldlM_cons, Node.shown]
    simp only [step, beq_self_eq_true, if_true, Frame.node, List.append_nil, List.reverse_reverse]
    cases reading.add (.element name (shownAttributes as) (Node.shownAll (n :: r))) <;> rfl

theorem foldlM_step_tokensAll : (ns : List Node) → Node.ShapedAll ns → ∀ (f : Frame)
    (stack : List Frame) (root : Option Node),
      (Node.tokensAll ns).foldlM step ⟨f :: stack, root⟩ =
        .ok ⟨{ f with children := (Node.shownAll ns).reverse ++ f.children } :: stack, root⟩
  | [], _, f, stack, root => by
    rw [Node.tokensAll, Node.shownAll]
    rfl
  | n :: r, h, f, stack, root => by
    rw [Node.ShapedAll] at h
    have hnode := foldlM_step_tokens n h.1 ⟨f :: stack, root⟩
      (.inl (List.cons_ne_nil f stack))
    have hrest := foldlM_step_tokensAll r h.2.2 { f with children := n.shown :: f.children }
      stack root
    rw [Node.tokensAll, List.foldlM_append, hnode, add]
    dsimp only
    rw [ok_bind, hrest, Node.shownAll, List.reverse_cons, List.append_assoc,
      List.singleton_append]

end

end Reading

namespace Node

theorem read_write_of_shaped {n : Node} (h : n.Shaped) (hroot : n.isText = false) :
    Node.read (String.ofList n.write) =
      ifAllowed (n.charsIn isDocumentChar isDocumentChar) (.ok n.shown) := by
  have hreading := Reading.foldlM_step_tokens n h .initial (.inr ⟨rfl, hroot⟩)
  rw [Node.read, String.toList_ofList, documentTokens_write h hroot, ifAllowed_bind, ok_bind,
    hreading]
  rfl

theorem valuesCharsIn_mono {p q : Char → Bool} (h : ∀ c, p c = true → q c = true)
    {as : List (String × String)} (has : valuesCharsIn p as = true) :
    valuesCharsIn q as = true := by
  simp only [valuesCharsIn, List.all_eq_true] at has ⊢
  exact fun a ha c hc => h c (has a ha c hc)

theorem shownAttributes_of_charsIn {as : List (String × String)}
    (has : valuesCharsIn isValueChar as = true) : shownAttributes as = as := by
  refine (List.map_congr_left fun a ha => ?_).trans (List.map_id as)
  simp only [valuesCharsIn, List.all_eq_true] at has
  exact Prod.ext rfl (shownValue_of_no_break fun c hc => ne_break_of_isValueChar (has a ha c hc))

mutual

theorem shown_of_charsIn : (n : Node) → n.charsIn isTextChar isValueChar = true →
    n.charsIn isDocumentChar isDocumentChar = true ∧ n.shown = n
  | text content, h => by
    rw [charsIn, List.all_eq_true] at h
    rw [charsIn, List.all_eq_true, shown]
    refine ⟨fun c hc => isDocumentChar_of_isTextChar (h c hc), ?_⟩
    rw [shownText_of_no_return fun c hc => ?_]
    have hchar := h c hc
    simp only [isTextChar, Bool.and_eq_true, decide_eq_true_eq] at hchar
    exact hchar.2
  | element name attributes children, h => by
    rw [charsIn, Bool.and_eq_true] at h
    obtain ⟨hchars, hshown⟩ := shownAll_of_charsIn children h.2
    rw [charsIn, hchars, valuesCharsIn_mono (fun _ => isDocumentChar_of_isValueChar) h.1, shown,
      hshown, shownAttributes_of_charsIn h.1]
    exact ⟨rfl, rfl⟩

theorem shownAll_of_charsIn : (ns : List Node) → charsInAll isTextChar isValueChar ns = true →
    charsInAll isDocumentChar isDocumentChar ns = true ∧ shownAll ns = ns
  | [], _ => ⟨rfl, rfl⟩
  | n :: r, h => by
    rw [charsInAll, Bool.and_eq_true] at h
    obtain ⟨hchars, hshown⟩ := shown_of_charsIn n h.1
    obtain ⟨hrest, hrestShown⟩ := shownAll_of_charsIn r h.2
    rw [charsInAll, hchars, hrest, shownAll, hshown, hrestShown]
    exact ⟨rfl, rfl⟩

end

theorem read_write {n : Node} (h : n.Tidy) (hroot : n.isText = false) :
    Node.read (String.ofList n.write) = .ok n := by
  obtain ⟨hchars, hshown⟩ := shown_of_charsIn n h.2
  rw [read_write_of_shaped h.1 hroot, hchars, hshown, ifAllowed_true]

end Node
end RemoteDev.Markup
