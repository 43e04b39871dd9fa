import RemoteDev.Buffer

/-! Buffers under any steps. A buffer holds what was written to it in turn, whatever its readers
were lent and left behind, and its capacity goes up in two ways: past the next kilobyte boundary
for what is appended, and by exactly what is missing for what is read. -/
namespace RemoteDev.Buffer

variable {ε : Type} {b b' : Buffer} {more : Bytes} {parts : List Bytes}

namespace Step

def pieces : Step ε → List Bytes
  | .append more => [more]
  | .appendText text => [encodeText text]
  | .appendCount n => [encodeText (decimalText n), [58]]
  | .appendField field =>
    [encodeText "STR:", encodeText (decimalText field.length), [58], field]
  | .reserveAbove _ | .fill _ _ | .clone => []

def written : Step ε → Bytes
  | .fill chunk read =>
    match read (.zeros chunk) with
    | (.ok n, left) => left.1.take (min n chunk)
    | (.error _, _) => []
  | step => step.pieces.flatten

def readings : Step ε → List (Reading ε)
  | .fill chunk read => [⟨List.replicate chunk 0, (read (.zeros chunk)).1⟩]
  | _ => []

end Step

/-- A capacity that has grown to hold `needed` bytes. -/
structure HasGrown (needed capacity : Nat) : Prop where
  eq : capacity = grownCapacity needed
  dvd : 1024 ∣ capacity
  above : needed + 513 ≤ capacity
  below : capacity ≤ needed + 1536

theorem hasGrown_grownCapacity (needed : Nat) : HasGrown needed (grownCapacity needed) where
  eq := rfl
  dvd := Nat.dvd_mul_left 1024 _
  above := by unfold grownCapacity; omega
  below := by unfold grownCapacity; omega

/-- A buffer with more bytes at its end. Its capacity grows if they do not fit. -/
structure Appends (b : Buffer) (more : Bytes) (b' : Buffer) : Prop where
  bytes_eq : b'.bytes = b.bytes ++ more
  kept : b.length + more.length ≤ b.capacity → b'.capacity = b.capacity
  grown : b.capacity < b.length + more.length → HasGrown (b.length + more.length) b'.capacity

/-- A buffer with more bytes at its end that came in pieces. -/
inductive AppendsAll : Buffer → List Bytes → Buffer → Prop
  | nil (b : Buffer) : AppendsAll b [] b
  | cons {b b' b'' : Buffer} {piece : Bytes} {pieces : List Bytes} :
    Appends b piece b' → AppendsAll b' pieces b'' → AppendsAll b (piece :: pieces) b''

theorem capacity_append (b : Buffer) (more : Bytes) :
    (b.append more).capacity =
      if b.capacity < b.length + more.length then grownCapacity (b.length + more.length)
      else b.capacity :=
  b.capacity_reserveFor more.length

theorem appends_append (b : Buffer) (more : Bytes) : Appends b more (b.append more) where
  bytes_eq := b.bytes_append more
  kept h := by rw [capacity_append, if_neg (Nat.not_lt.2 h)]
  grown h := by
    rw [capacity_append, if_pos h]
    exact hasGrown_grownCapacity _

namespace Appends

theorem length_eq (h : Appends b more b') : b'.length = b.length + more.length := by
  rw [length, h.bytes_eq, List.length_append, length]

theorem capacity_le (h : Appends b more b') : b.capacity ≤ b'.capacity := by
  rcases Nat.lt_or_ge b.capacity (b.length + more.length) with hlt | hle
  · have := (h.grown hlt).above
    omega
  · exact Nat.le_of_eq (h.kept hle).symm

end Appends

namespace AppendsAll

theorem foldl_append (b : Buffer) (parts : List Bytes) :
    AppendsAll b parts (parts.foldl append b) := by
  induction parts generalizing b with
  | nil => exact .nil b
  | cons part parts ih => exact .cons (b.appends_append part) (ih _)

theorem bytes_eq (h : AppendsAll b parts b') : b'.bytes = b.bytes ++ parts.flatten := by
  induction h with
  | nil b => exact (List.append_nil _).symm
  | cons hpart _ ih => rw [ih, hpart.bytes_eq, List.append_assoc, List.flatten_cons]

theorem capacity_le (h : AppendsAll b parts b') : b.capacity ≤ b'.capacity := by
  induction h with
  | nil b => exact Nat.le_refl _
  | cons hpart _ ih => exact Nat.le_trans hpart.capacity_le ih

theorem kept (h : AppendsAll b parts b') (hfit : b.length + parts.flatten.length ≤ b.capacity) :
    b'.capacity = b.capacity := by
  induction h with
  | nil b => rfl
  | cons hpart _ ih =>
    rw [List.flatten_cons, List.length_append] at hfit
    have hkept := hpart.kept (by omega)
    have hlength := hpart.length_eq
    exact (ih (by omega)).trans hkept

/-- Pieces that do not fit all together make the capacity grow for the last one that does not. -/
theorem grown (h : AppendsAll b parts b') (hover : b.capacity < b.length + parts.flatten.length) :
    ∃ needed, b.capacity < needed ∧ needed ≤ b.length + parts.flatten.length ∧
      HasGrown needed b'.capacity := by
  induction h with
  | nil b => exact absurd hover (Nat.not_lt.2 b.length_le)
  | @cons b b₁ _ part parts hpart hrest ih =>
    have hlength := hpart.length_eq
    have hle := hpart.capacity_le
    rw [List.flatten_cons, List.length_append] at hover ⊢
    rcases Nat.lt_or_ge b₁.capacity (b₁.length + parts.flatten.length) with hover₁ | hfit₁
    · obtain ⟨needed, hlow, hhigh, hgrown⟩ := ih hover₁
      exact ⟨needed, by omega, by omega, hgrown⟩
    · have hpartOver : b.capacity < b.length + part.length := Nat.lt_of_not_le fun hpartFits => by
        have hkept := hpart.kept hpartFits
        omega
      refine ⟨b.length + part.length, hpartOver, by omega, ?_⟩
      rw [hrest.kept hfit₁]
      exact hpart.grown hpartOver

theorem appends (h : AppendsAll b [more] b') : Appends b more b' := by
  cases h with
  | cons hpart hrest =>
    cases hrest
    exact hpart

end AppendsAll

namespace Step

theorem appendsAll_apply {step : Step ε} (h : step.pieces ≠ []) (b : Buffer) :
    AppendsAll b step.pieces (step.apply b).1 := by
  cases step with
  | append | appendText | appendCount | appendField => exact .foldl_append b _
  | reserveAbove | fill | clone => exact absurd rfl h

theorem written_of_pieces {step : Step ε} (h : step.pieces ≠ []) :
    step.written = step.pieces.flatten := by
  cases step with
  | append | appendText | appendCount | appendField => rfl
  | reserveAbove | fill | clone => exact absurd rfl h

theorem apply_fill (b : Buffer) (chunk : Nat) (read : Slice chunk → Except ε Nat × Slice chunk) :
    let step := fill chunk read
    (step.apply b).1.bytes = b.bytes ++ step.written ∧
      (step.apply b).1.capacity = capacityAbove b.capacity b.length chunk ∧
      (step.apply b).2 = step.readings := by
  simp only [apply, fill_eq, written, readings]
  rcases read (.zeros chunk) with ⟨e | n, left⟩
  · exact ⟨by simp [Except.toOption], rfl, rfl⟩
  · exact ⟨rfl, rfl, rfl⟩

/-- What a step adds to the contents and to the record of readings does not depend on the buffer. -/
theorem apply_accounts (step : Step ε) (b : Buffer) :
    (step.apply b).1.bytes = b.bytes ++ step.written ∧ (step.apply b).2 = step.readings := by
  cases step with
  | append | appendText | appendCount | appendField =>
    exact ⟨(appendsAll_apply (by simp [pieces]) b).bytes_eq, rfl⟩
  | reserveAbove spare =>
    exact ⟨(b.bytes_reserveAbove spare).trans (List.append_nil _).symm, rfl⟩
  | fill chunk read =>
    obtain ⟨hbytes, -, hreadings⟩ := apply_fill b chunk read
    exact ⟨hbytes, hreadings⟩
  | clone => exact ⟨(List.append_nil _).symm, rfl⟩

/-- Only a clone gives capacity back. -/
theorem capacity_le_apply {step : Step ε} (h : step ≠ clone) (b : Buffer) :
    b.capacity ≤ (step.apply b).1.capacity := by
  cases step with
  | append | appendText | appendCount | appendField =>
    exact (appendsAll_apply (by simp [pieces]) b).capacity_le
  | reserveAbove spare =>
    rw [apply, capacity_reserveAbove]
    exact capacity_le_capacityAbove b.capacity b.length spare
  | fill chunk read =>
    obtain ⟨-, hcapacity, -⟩ := apply_fill b chunk read
    rw [hcapacity]
    exact capacity_le_capacityAbove b.capacity b.length chunk
  | clone => exact absurd rfl h

end Step

theorem applyAll_accounts (steps : List (Step ε)) (b : Buffer) :
    (b.applyAll steps).1.bytes = b.bytes ++ steps.flatMap Step.written ∧
      (b.applyAll steps).2 = steps.flatMap Step.readings := by
  induction steps generalizing b with
  | nil => exact ⟨(List.append_nil _).symm, rfl⟩
  | cons step steps ih =>
    obtain ⟨hbytes, hreadings⟩ := step.apply_accounts b
    obtain ⟨hbytes', hreadings'⟩ := ih (step.apply b).1
    refine ⟨?_, ?_⟩
    · rw [applyAll, hbytes', hbytes, List.append_assoc, List.flatMap_cons]
    · rw [applyAll, hreadings', hreadings, List.flatMap_cons]

/-- After any steps a new buffer holds what they wrote, in turn: what was appended, and of each
slice that was lent to a reader, as the reader left it, as many bytes as the reader reported, or
none if it failed. Every reader was lent zeros, as many as it was to be lent. The length is within
the capacity, and whatever the next step is, only a clone gives capacity back. A piece that is
appended leaves the capacity alone if it fits; if not, the capacity becomes a multiple of 1024 that
leaves at least 513 and at most 1536 bytes to spare. Steps that append several pieces append one
after the other, and leave the capacity alone if all of them fit; if not, it has grown for the last
piece that did not. -/
theorem run_contents_and_capacity (steps : List (Step ε)) :
    let b := (run steps).1
    b.bytes = steps.flatMap Step.written ∧
      (run steps).2 = steps.flatMap Step.readings ∧
      b.length ≤ b.capacity ∧
      ∀ step : Step ε,
        let b' := (step.apply b).1
        (step ≠ .clone → b.capacity ≤ b'.capacity) ∧
        (∀ more, step.pieces = [more] → Appends b more b') ∧
        (step.pieces ≠ [] →
          AppendsAll b step.pieces b' ∧
          (b.length + step.written.length ≤ b.capacity → b'.capacity = b.capacity) ∧
          (b.capacity < b.length + step.written.length →
            ∃ needed, b.capacity < needed ∧ needed ≤ b.length + step.written.length ∧
              HasGrown needed b'.capacity)) := by
  intro b
  obtain ⟨hbytes, hreadings⟩ := applyAll_accounts steps empty
  refine ⟨hbytes, hreadings, b.length_le, fun step => ⟨(step.capacity_le_apply · b), ?_, ?_⟩⟩
  · intro more hpieces
    have hall := Step.appendsAll_apply (hpieces ▸ List.cons_ne_nil more []) b
    exact (hpieces ▸ hall).appends
  · intro hpieces
    have hall := Step.appendsAll_apply hpieces b
    rw [Step.written_of_pieces hpieces]
    exact ⟨hall, hall.kept, hall.grown⟩

/-- A reader that reports more than its slice holds, one that fails after it has written, a clone
that leaves no room, and what is then appended to it. -/
theorem run_contents_and_capacity_of_cloned :
    let boasts : Slice 4 → Except String Nat × Slice 4 := fun _ => (.ok 9, ⟨[1, 2, 3, 4], rfl⟩)
    let fails : Slice 3 → Except String Nat × Slice 3 := fun _ => (.error "", ⟨[7, 7, 7], rfl⟩)
    let steps := [.appendCount 20, .fill 4 boasts, .fill 3 fails, .clone]
    let b := (run steps).1
    b.bytes = [50, 48, 58, 1, 2, 3, 4] ∧
      (run steps).2 = [⟨[0, 0, 0, 0], .ok 9⟩, ⟨[0, 0, 0], .error ""⟩] ∧
      b.length ≤ b.capacity ∧ b.capacity = 7 ∧
      b.capacity ≤ (b.reserveAbove 2).capacity ∧
      Appends b [] (b.append []) ∧ HasGrown 8 (b.append [255]).capacity ∧
      AppendsAll b [encodeText "STR:", encodeText "1", [58], [255]] (b.appendField [255]) := by
  intro boasts fails steps b
  obtain ⟨hbytes, hreadings, hlength, hstep⟩ := run_contents_and_capacity steps
  obtain ⟨hreserves, -, -⟩ := hstep (.reserveAbove 2)
  obtain ⟨-, hnothing, -⟩ := hstep (.append [])
  obtain ⟨-, hbyte, -⟩ := hstep (.append [255])
  obtain ⟨-, -, hfield⟩ := hstep (.appendField [255])
  exact ⟨hbytes, hreadings, hlength, rfl, hreserves nofun, hnothing [] rfl,
    (hbyte [255] rfl).grown (by decide), (hfield (by decide)).1⟩

end RemoteDev.Buffer
