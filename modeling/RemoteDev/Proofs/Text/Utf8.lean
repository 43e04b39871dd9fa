import Mathlib.Tactic.SplitIfs
import RemoteDev.Text.Utf8

/-! Lossy reading loses nothing of UTF-8: the bytes of a text show that text, whatever bytes
come after them, and bytes of which none had to be replaced are those of the text that they show. -/
namespace RemoteDev.Text

theorem isTail_iff (b : UInt8) : isTail b = true ↔ 0x80 ≤ b.toNat ∧ b.toNat ≤ 0xBF := by
  simp [isTail, UInt8.le_iff_toNat_le]

theorem decodeLossy_one {a : UInt8} (ha : a.toNat < 0x80) (rest : Bytes) :
    decodeLossy (a :: rest) = Char.ofNat a.toNat :: decodeLossy rest := by
  have hlow : a < 0x80 := by rw [UInt8.lt_iff_toNat_lt]; exact ha
  rw [decodeLossy, if_pos hlow]

theorem decodeLossy_two {a b : UInt8} (ha : 0xC2 ≤ a.toNat ∧ a.toNat ≤ 0xDF)
    (hb : 0x80 ≤ b.toNat ∧ b.toNat ≤ 0xBF) (rest : Bytes) :
    decodeLossy (a :: b :: rest) =
      Char.ofNat (a.toNat % 32 * 64 + b.toNat % 64) :: decodeLossy rest := by
  have hlow : ¬ a < 0x80 := by simp [UInt8.lt_iff_toNat_lt]; omega
  have hlead : lead? a = some ⟨0x80, 0xBF, 1⟩ := by
    simp [lead?, UInt8.le_iff_toNat_le, ha]
  have hb' : (decide (0x80 ≤ b) && decide (b ≤ 0xBF)) = true := (isTail_iff b).2 hb
  rw [decodeLossy, if_neg hlow, hlead]
  simp only [hb', if_true, BEq.rfl, tailBits]

/-- The second byte of three is bounded more narrowly after the first and one other lead. -/
theorem lead?_three {a b : UInt8} (ha : 0xE0 ≤ a.toNat ∧ a.toNat ≤ 0xEF)
    (hb : 0x80 ≤ b.toNat ∧ b.toNat ≤ 0xBF) (hfirst : a.toNat = 0xE0 → 0xA0 ≤ b.toNat)
    (hsurrogate : a.toNat = 0xED → b.toNat ≤ 0x9F) :
    ∃ low high, lead? a = some ⟨low, high, 2⟩ ∧ low ≤ b ∧ b ≤ high := by
  simp only [lead?, UInt8.le_iff_toNat_le, Bool.and_eq_true, decide_eq_true_eq, beq_iff_eq,
    ← UInt8.toNat_inj, UInt8.reduceToNat]
  rw [if_neg (by omega)]
  by_cases h₁ : a.toNat = 0xE0
  · exact ⟨0xA0, 0xBF, by rw [if_pos h₁], hfirst h₁, hb.2⟩
  · rw [if_neg h₁]
    by_cases h₂ : a.toNat = 0xED
    · exact ⟨0x80, 0x9F, by rw [if_pos h₂], hb.1, hsurrogate h₂⟩
    · exact ⟨0x80, 0xBF, by rw [if_neg h₂, if_pos (by omega)], hb⟩

theorem decodeLossy_three {a b c : UInt8} (ha : 0xE0 ≤ a.toNat ∧ a.toNat ≤ 0xEF)
    (hb : 0x80 ≤ b.toNat ∧ b.toNat ≤ 0xBF) (hfirst : a.toNat = 0xE0 → 0xA0 ≤ b.toNat)
    (hsurrogate : a.toNat = 0xED → b.toNat ≤ 0x9F) (hc : 0x80 ≤ c.toNat ∧ c.toNat ≤ 0xBF)
    (rest : Bytes) :
    decodeLossy (a :: b :: c :: rest) =
      Char.ofNat ((a.toNat % 16 * 64 + b.toNat % 64) * 64 + c.toNat % 64) ::
        decodeLossy rest := by
  have hlow : ¬ a < 0x80 := by simp [UInt8.lt_iff_toNat_lt]; omega
  obtain ⟨low, high, hlead, h₁, h₂⟩ := lead?_three ha hb hfirst hsurrogate
  have hc' := (isTail_iff c).2 hc
  rw [decodeLossy, if_neg hlow, hlead]
  simp [h₁, h₂, hc', tailBits]

/-- The second byte of four is bounded more narrowly after the first and the last lead. -/
theorem lead?_four {a b : UInt8} (ha : 0xF0 ≤ a.toNat ∧ a.toNat ≤ 0xF4)
    (hb : 0x80 ≤ b.toNat ∧ b.toNat ≤ 0xBF) (hfirst : a.toNat = 0xF0 → 0x90 ≤ b.toNat)
    (hlast : a.toNat = 0xF4 → b.toNat ≤ 0x8F) :
    ∃ low high, lead? a = some ⟨low, high, 3⟩ ∧ low ≤ b ∧ b ≤ high := by
  simp only [lead?, UInt8.le_iff_toNat_le, Bool.and_eq_true, decide_eq_true_eq, beq_iff_eq,
    ← UInt8.toNat_inj, UInt8.reduceToNat]
  rw [if_neg (by omega), if_neg (by omega), if_neg (by omega), if_neg (by omega)]
  by_cases h₁ : a.toNat = 0xF0
  · exact ⟨0x90, 0xBF, by rw [if_pos h₁], hfirst h₁, hb.2⟩
  · rw [if_neg h₁]
    by_cases h₂ : a.toNat = 0xF4
    · exact ⟨0x80, 0x8F, by rw [if_neg (by omega), if_pos h₂], hb.1, hlast h₂⟩
    · exact ⟨0x80, 0xBF, by rw [if_pos (by omega)], hb⟩

theorem decodeLossy_four {a b c d : UInt8} (ha : 0xF0 ≤ a.toNat ∧ a.toNat ≤ 0xF4)
    (hb : 0x80 ≤ b.toNat ∧ b.toNat ≤ 0xBF) (hfirst : a.toNat = 0xF0 → 0x90 ≤ b.toNat)
    (hlast : a.toNat = 0xF4 → b.toNat ≤ 0x8F) (hc : 0x80 ≤ c.toNat ∧ c.toNat ≤ 0xBF)
    (hd : 0x80 ≤ d.toNat ∧ d.toNat ≤ 0xBF) (rest : Bytes) :
    decodeLossy (a :: b :: c :: d :: rest) =
      Char.ofNat (((a.toNat % 8 * 64 + b.toNat % 64) * 64 + c.toNat % 64) * 64 + d.toNat % 64) ::
        decodeLossy rest := by
  have hlow : ¬ a < 0x80 := by simp [UInt8.lt_iff_toNat_lt]; omega
  obtain ⟨low, high, hlead, h₁, h₂⟩ := lead?_four ha hb hfirst hlast
  have hc' := (isTail_iff c).2 hc
  have hd' := (isTail_iff d).2 hd
  rw [decodeLossy, if_neg hlow, hlead]
  simp [h₁, h₂, hc', hd', tailBits]

theorem decodeLossy_utf8EncodeChar (c : Char) (rest : Bytes) :
    decodeLossy (String.utf8EncodeChar c ++ rest) = c :: decodeLossy rest := by
  have hv : c.val.toNat < 0xD800 ∨ 0xDFFF < c.val.toNat ∧ c.val.toNat < 0x110000 := c.valid
  have hc : Char.ofNat c.val.toNat = c := Char.ofNat_toNat c
  have hbyte {n : Nat} (h : n < 256) : (UInt8.ofNat n).toNat = n := by simp; omega
  unfold String.utf8EncodeChar
  generalize c.val.toNat = v at *
  simp only []
  split_ifs with h₁ h₂ h₃
  · rw [List.singleton_append, decodeLossy_one] <;> rw [hbyte (by omega)]
    · rw [hc]
    · omega
  · simp only [List.cons_append, List.nil_append]
    rw [decodeLossy_two] <;> rw [hbyte (by omega)]
    · rw [hbyte (by omega), ← hc]
      congr 2
      omega
    all_goals omega
  · simp only [List.cons_append, List.nil_append]
    rw [decodeLossy_three]
    · rw [hbyte (by omega), hbyte (by omega), hbyte (by omega), ← hc]
      congr 2
      omega
    all_goals repeat rw [hbyte (by omega)]
    all_goals omega
  · simp only [List.cons_append, List.nil_append]
    rw [decodeLossy_four]
    · rw [hbyte (by omega), hbyte (by omega), hbyte (by omega), hbyte (by omega), ← hc]
      congr 2
      omega
    all_goals repeat rw [hbyte (by omega)]
    all_goals omega

theorem decodeLossy_flatMap_append (cs : List Char) (rest : Bytes) :
    decodeLossy (cs.flatMap String.utf8EncodeChar ++ rest) = cs ++ decodeLossy rest := by
  induction cs with
  | nil => rfl
  | cons c r ih =>
    rw [List.flatMap_cons, List.append_assoc, decodeLossy_utf8EncodeChar, ih, List.cons_append]

theorem decodeLossy_encodeText (text : String) : decodeLossy (encodeText text) = text.toList := by
  have h := decodeLossy_flatMap_append text.toList []
  rw [List.append_nil, decodeLossy, List.append_nil] at h
  exact h

theorem lossy_encodeText (text : String) : lossy (encodeText text) = text := by
  rw [lossy, decodeLossy_encodeText, String.ofList_toList]

theorem encodeText_inj {s t : String} : encodeText s = encodeText t ↔ s = t := by
  constructor
  · intro h
    have hshown := congrArg decodeLossy h
    rwa [decodeLossy_encodeText, decodeLossy_encodeText, String.toList_inj] at hshown
  · rintro rfl
    rfl

theorem val_ofNat {n : Nat} (h : n < 0xD800 ∨ 0xDFFF < n ∧ n < 0x110000) :
    (Char.ofNat n).val.toNat = n := by
  have hn : n.isValidChar := h
  rw [Char.ofNat, dif_pos hn]
  rfl

/-- What a lead byte and the byte after it allow, by the length that they announce. -/
theorem lead?_cases {a b : UInt8} {ld : Lead} (hlead : lead? a = some ld) (hlow : ld.low ≤ b)
    (hhigh : b ≤ ld.high) :
    (ld.extra = 1 ∧ (0xC2 ≤ a.toNat ∧ a.toNat ≤ 0xDF) ∧ (0x80 ≤ b.toNat ∧ b.toNat ≤ 0xBF)) ∨
    (ld.extra = 2 ∧ (0xE0 ≤ a.toNat ∧ a.toNat ≤ 0xEF) ∧ (0x80 ≤ b.toNat ∧ b.toNat ≤ 0xBF) ∧
      (a.toNat = 0xE0 → 0xA0 ≤ b.toNat) ∧ (a.toNat = 0xED → b.toNat ≤ 0x9F)) ∨
    (ld.extra = 3 ∧ (0xF0 ≤ a.toNat ∧ a.toNat ≤ 0xF4) ∧ (0x80 ≤ b.toNat ∧ b.toNat ≤ 0xBF) ∧
      (a.toNat = 0xF0 → 0x90 ≤ b.toNat) ∧ (a.toNat = 0xF4 → b.toNat ≤ 0x8F)) := by
  simp only [lead?, UInt8.le_iff_toNat_le, Bool.and_eq_true, decide_eq_true_eq, beq_iff_eq,
    ← UInt8.toNat_inj, UInt8.reduceToNat] at hlead
  split_ifs at hlead <;> cases hlead <;>
    simp only [UInt8.le_iff_toNat_le, UInt8.reduceToNat] at hlow hhigh <;> simp <;> omega

theorem utf8EncodeChar_one {a : UInt8} (ha : a.toNat < 0x80) :
    String.utf8EncodeChar (Char.ofNat a.toNat) = [a] := by
  have hv := val_ofNat (n := a.toNat) (by omega)
  simp only [String.utf8EncodeChar, hv]
  rw [if_pos (by omega), UInt8.ofNat_toNat]

theorem utf8EncodeChar_two {a b : UInt8} (ha : 0xC2 ≤ a.toNat ∧ a.toNat ≤ 0xDF)
    (hb : 0x80 ≤ b.toNat ∧ b.toNat ≤ 0xBF) :
    String.utf8EncodeChar (Char.ofNat (a.toNat % 32 * 64 + b.toNat % 64)) = [a, b] := by
  have hv := val_ofNat (n := a.toNat % 32 * 64 + b.toNat % 64) (by omega)
  simp only [String.utf8EncodeChar, hv]
  rw [if_neg (by omega), if_pos (by omega)]
  simp only [List.cons.injEq, and_true, ← UInt8.toNat_inj, UInt8.toNat_ofNat']
  omega

theorem utf8EncodeChar_three {a b c : UInt8} (ha : 0xE0 ≤ a.toNat ∧ a.toNat ≤ 0xEF)
    (hb : 0x80 ≤ b.toNat ∧ b.toNat ≤ 0xBF) (hfirst : a.toNat = 0xE0 → 0xA0 ≤ b.toNat)
    (hsurrogate : a.toNat = 0xED → b.toNat ≤ 0x9F) (hc : 0x80 ≤ c.toNat ∧ c.toNat ≤ 0xBF) :
    String.utf8EncodeChar
      (Char.ofNat ((a.toNat % 16 * 64 + b.toNat % 64) * 64 + c.toNat % 64)) = [a, b, c] := by
  have hv := val_ofNat (n := (a.toNat % 16 * 64 + b.toNat % 64) * 64 + c.toNat % 64) (by omega)
  simp only [String.utf8EncodeChar, hv]
  rw [if_neg (by omega), if_neg (by omega), if_pos (by omega)]
  simp only [List.cons.injEq, and_true, ← UInt8.toNat_inj, UInt8.toNat_ofNat']
  omega

theorem utf8EncodeChar_four {a b c d : UInt8} (ha : 0xF0 ≤ a.toNat ∧ a.toNat ≤ 0xF4)
    (hb : 0x80 ≤ b.toNat ∧ b.toNat ≤ 0xBF) (hfirst : a.toNat = 0xF0 → 0x90 ≤ b.toNat)
    (hlast : a.toNat = 0xF4 → b.toNat ≤ 0x8F) (hc : 0x80 ≤ c.toNat ∧ c.toNat ≤ 0xBF)
    (hd : 0x80 ≤ d.toNat ∧ d.toNat ≤ 0xBF) :
    String.utf8EncodeChar (Char.ofNat
      (((a.toNat % 8 * 64 + b.toNat % 64) * 64 + c.toNat % 64) * 64 + d.toNat % 64)) =
        [a, b, c, d] := by
  have hv := val_ofNat
    (n := ((a.toNat % 8 * 64 + b.toNat % 64) * 64 + c.toNat % 64) * 64 + d.toNat % 64) (by omega)
  simp only [String.utf8EncodeChar, hv]
  rw [if_neg (by omega), if_neg (by omega), if_neg (by omega)]
  simp only [List.cons.injEq, and_true, ← UInt8.toNat_inj, UInt8.toNat_ofNat']
  omega

theorem flatMap_decodeLossy {data : Bytes} (h : replacement ∉ decodeLossy data) :
    (decodeLossy data).flatMap String.utf8EncodeChar = data := by
  induction data using decodeLossy.induct with
  | case1 => rfl
  | case2 a r ha ih =>
    have ha' : a.toNat < 0x80 := UInt8.lt_iff_toNat_lt.1 ha
    rw [decodeLossy_one ha'] at h ⊢
    rw [List.flatMap_cons, utf8EncodeChar_one ha', ih fun hr => h (List.mem_cons_of_mem _ hr)]
    rfl
  | case5 a ha ld hlead b r hb hextra ih =>
    simp only [Bool.and_eq_true, decide_eq_true_eq] at hb
    obtain ⟨-, ha', hb'⟩ | ⟨hn, -⟩ | ⟨hn, -⟩ := lead?_cases hlead hb.1 hb.2
    · rw [decodeLossy_two ha' hb'] at h ⊢
      rw [List.flatMap_cons, utf8EncodeChar_two ha' hb', ih fun hr => h (List.mem_cons_of_mem _ hr)]
      rfl
    all_goals simp [hn] at hextra
  | case7 a ha ld hlead b hb hshort c r hc hextra ih =>
    simp only [Bool.and_eq_true, decide_eq_true_eq] at hb
    obtain ⟨hn, -⟩ | ⟨-, ha', hb', hfirst, hsurrogate⟩ | ⟨hn, -⟩ := lead?_cases hlead hb.1 hb.2
    · simp [hn] at hextra
    · rw [decodeLossy_three ha' hb' hfirst hsurrogate ((isTail_iff c).1 hc)] at h ⊢
      rw [List.flatMap_cons, utf8EncodeChar_three ha' hb' hfirst hsurrogate ((isTail_iff c).1 hc),
        ih fun hr => h (List.mem_cons_of_mem _ hr)]
      rfl
    · simp [hn] at hextra
  | case9 a ha ld hlead b hb hshort c hc hmiddle d r hd ih =>
    simp only [Bool.and_eq_true, decide_eq_true_eq] at hb
    obtain ⟨hn, -⟩ | ⟨hn, -⟩ | ⟨-, ha', hb', hfirst, hlast⟩ := lead?_cases hlead hb.1 hb.2
    · simp [hn] at hshort
    · simp [hn] at hmiddle
    · rw [decodeLossy_four ha' hb' hfirst hlast ((isTail_iff c).1 hc) ((isTail_iff d).1 hd)] at h ⊢
      rw [List.flatMap_cons, utf8EncodeChar_four ha' hb' hfirst hlast ((isTail_iff c).1 hc)
        ((isTail_iff d).1 hd), ih fun hr => h (List.mem_cons_of_mem _ hr)]
      rfl
  | case3 a r ha hlead ih => simp [decodeLossy, ha, hlead] at h
  | case4 a ha ld hlead => simp [decodeLossy, ha, hlead] at h
  | case6 a ha ld hlead b hb hshort =>
    rw [decodeLossy, if_neg ha, hlead] at h
    simp [hb, hshort] at h
  | case8 a ha ld hlead b hb hshort c hc hmiddle =>
    rw [decodeLossy, if_neg ha, hlead] at h
    simp [hb, hshort, hc, hmiddle] at h
  | case10 a ha ld hlead b hb hshort c hc hmiddle d r hd ih =>
    rw [decodeLossy, if_neg ha, hlead] at h
    simp [hb, hshort, hc, hmiddle, hd] at h
  | case11 a ha ld hlead b hb hshort c r hc ih =>
    rw [decodeLossy, if_neg ha, hlead] at h
    simp [hb, hshort, hc] at h
  | case12 a ha ld hlead b r hb ih =>
    rw [decodeLossy, if_neg ha, hlead] at h
    simp [hb] at h

theorem mem_utf8EncodeChar {b : UInt8} (hb : b.toNat < 0x80) {c : Char}
    (h : b ∈ String.utf8EncodeChar c) : c.toNat = b.toNat := by
  have hc : c.toNat = c.val.toNat := rfl
  unfold String.utf8EncodeChar at h
  rw [hc]
  generalize c.val.toNat = v at *
  simp only [] at h
  split_ifs at h
  all_goals
    simp only [List.mem_cons, List.not_mem_nil, or_false, ← UInt8.toNat_inj,
      UInt8.toNat_ofNat'] at h
    omega

theorem mem_of_mem_encodeText {c : Char} (hc : c.toNat < 0x80) {t : String}
    (h : UInt8.ofNat c.toNat ∈ encodeText t) : c ∈ t.toList := by
  obtain ⟨d, hd, hmem⟩ := List.mem_flatMap.1 h
  have hbyte : (UInt8.ofNat c.toNat).toNat = c.toNat := by
    rw [UInt8.toNat_ofNat']
    omega
  have heq := mem_utf8EncodeChar (by omega) hmem
  rw [hbyte] at heq
  have hdc : d = c := Char.toNat_inj.1 heq
  exact hdc ▸ hd

end RemoteDev.Text
