import RemoteDev.Text.Basic

/-! Byte buffers that account for their capacity. Appending past the capacity grows it past
the next kilobyte boundary; reading grows it by exactly what is asked for. -/
namespace RemoteDev

def grownCapacity (needed : Nat) : Nat := ((needed + 512) / 1024 + 1) * 1024

theorem le_grownCapacity (needed : Nat) : needed ≤ grownCapacity needed := by
  unfold grownCapacity; omega

def capacityAbove (capacity length spare : Nat) : Nat :=
  if capacity - length < spare then length + spare else capacity

theorem le_capacityAbove {capacity length : Nat} (spare : Nat) (h : length ≤ capacity) :
    length + spare ≤ capacityAbove capacity length spare := by
  unfold capacityAbove; split <;> omega

theorem capacity_le_capacityAbove (capacity length spare : Nat) :
    capacity ≤ capacityAbove capacity length spare := by
  unfold capacityAbove; split <;> omega

/-- Bytes in their place, which whoever is lent them may change but not resize. -/
abbrev Slice (n : Nat) : Type := { bytes : Bytes // bytes.length = n }

namespace Slice

def zeros (n : Nat) : Slice n := ⟨List.replicate n 0, List.length_replicate⟩

def cast {m n : Nat} (slice : Slice m) (h : m = n) : Slice n := ⟨slice.1, slice.2.trans h⟩

end Slice

/-- A buffer's bytes and how many it can hold before it has to grow. -/
structure Buffer where
  bytes : Bytes
  capacity : Nat
  length_le : bytes.length ≤ capacity

namespace Buffer

def empty : Buffer := ⟨[], 0, Nat.le_refl 0⟩

def length (b : Buffer) : Nat := b.bytes.length

def reserveExact (b : Buffer) (spare : Nat) : Buffer where
  bytes := b.bytes
  capacity := capacityAbove b.capacity b.length spare
  length_le := Nat.le_trans (Nat.le_add_right _ spare) (le_capacityAbove spare b.length_le)

/-- Grows past the next kilobyte boundary unless `n` more bytes fit. -/
def reserveFor (b : Buffer) (n : Nat) : Buffer :=
  if b.capacity < b.length + n then
    b.reserveExact (grownCapacity (b.length + n) - b.length)
  else b

def reserveAbove (b : Buffer) (spare : Nat) : Buffer :=
  if b.capacity - b.length < spare then b.reserveExact spare else b

@[simp] theorem bytes_reserveFor (b : Buffer) (n : Nat) : (b.reserveFor n).bytes = b.bytes := by
  unfold reserveFor; split <;> rfl

@[simp] theorem bytes_reserveAbove (b : Buffer) (spare : Nat) :
    (b.reserveAbove spare).bytes = b.bytes := by
  unfold reserveAbove; split <;> rfl

theorem length_reserveFor (b : Buffer) (n : Nat) : (b.reserveFor n).length = b.length :=
  congrArg List.length (b.bytes_reserveFor n)

theorem length_reserveAbove (b : Buffer) (spare : Nat) :
    (b.reserveAbove spare).length = b.length :=
  congrArg List.length (b.bytes_reserveAbove spare)

theorem capacity_reserveFor (b : Buffer) (n : Nat) :
    (b.reserveFor n).capacity =
      if b.capacity < b.length + n then grownCapacity (b.length + n) else b.capacity := by
  have hgrown := le_grownCapacity (b.length + n)
  have hlength : b.length ≤ b.capacity := b.length_le
  unfold reserveFor
  split
  · simp only [reserveExact, capacityAbove]
    split <;> omega
  · rfl

theorem capacity_reserveAbove (b : Buffer) (spare : Nat) :
    (b.reserveAbove spare).capacity = capacityAbove b.capacity b.length spare := by
  unfold reserveAbove
  split
  · rfl
  · rw [capacityAbove, if_neg ‹_›]

theorem length_add_le_reserveFor (b : Buffer) (n : Nat) :
    (b.reserveFor n).length + n ≤ (b.reserveFor n).capacity := by
  have hgrown := le_grownCapacity (b.length + n)
  rw [length_reserveFor, capacity_reserveFor]
  split <;> omega

theorem length_add_le_reserveAbove (b : Buffer) (spare : Nat) :
    (b.reserveAbove spare).length + spare ≤ (b.reserveAbove spare).capacity := by
  rw [length_reserveAbove, capacity_reserveAbove]
  exact le_capacityAbove spare b.length_le

def extend (b : Buffer) (more : Bytes) (room : b.length + more.length ≤ b.capacity) : Buffer where
  bytes := b.bytes ++ more
  capacity := b.capacity
  length_le := by rw [List.length_append]; exact room

def resize (b : Buffer) (n : Nat) (room : n ≤ b.capacity) : Buffer where
  bytes := b.bytes.take n ++ List.replicate (n - b.length) 0
  capacity := b.capacity
  length_le := by
    rw [List.length_append, List.length_take, List.length_replicate, length]
    omega

def truncate (b : Buffer) (n : Nat) : Buffer where
  bytes := b.bytes.take n
  capacity := b.capacity
  length_le := Nat.le_trans (List.length_take_le' n b.bytes) b.length_le

def slice (b : Buffer) (start : Nat) : Slice (b.length - start) :=
  ⟨b.bytes.drop start, List.length_drop⟩

def overwrite (b : Buffer) (start : Nat) (left : Slice (b.length - start)) : Buffer where
  bytes := b.bytes.take start ++ left.1
  capacity := b.capacity
  length_le := by
    have hlength := b.length_le
    rw [List.length_append, List.length_take, left.2, length]
    omega

def append (b : Buffer) (more : Bytes) : Buffer :=
  (b.reserveFor more.length).extend more (b.length_add_le_reserveFor more.length)

def appendText (b : Buffer) (text : String) : Buffer := b.append (encodeText text)

def appendCount (b : Buffer) (n : Nat) : Buffer :=
  (b.appendText (decimalText n)).append [58]

def appendField (b : Buffer) (field : Bytes) : Buffer :=
  ((b.append (encodeText "STR:")).appendCount field.length).append field

def trimmed (b : Buffer) : Buffer := ⟨b.bytes, b.bytes.length, Nat.le_refl _⟩

def offer (b : Buffer) (chunk : Nat) : Buffer :=
  let reserved := b.reserveAbove chunk
  reserved.resize (reserved.length + chunk) (b.length_add_le_reserveAbove chunk)

@[simp] theorem bytes_offer (b : Buffer) (chunk : Nat) :
    (b.offer chunk).bytes = b.bytes ++ List.replicate chunk 0 := by
  simp [offer, resize, length, List.take_of_length_le]

theorem length_offer_sub (b : Buffer) (chunk : Nat) :
    (b.offer chunk).length - b.length = chunk := by
  simp [length]

/-- Lends a reader `chunk` zero bytes at the end and keeps those that it reports as read, at most
the chunk, or none of them if it fails. -/
def fill {ε σ : Type} (b : Buffer) (chunk : Nat)
    (read : Slice chunk → Except ε Nat × Slice chunk × σ) : Except ε Nat × Buffer × σ :=
  let start := b.length
  let offered := b.offer chunk
  have length_eq : offered.length - start = chunk := b.length_offer_sub chunk
  let (answer, left, s) := read ((offered.slice start).cast length_eq)
  let kept := match answer with
    | .ok n => min n chunk
    | .error _ => 0
  (answer, (offered.overwrite start (left.cast length_eq.symm)).truncate (start + kept), s)

/-- Takes over the bytes a reader left in a chunk: as many as it reports, at most the chunk. -/
def absorb (b : Buffer) (chunk reported : Nat) (left : Bytes) : Buffer where
  bytes := b.bytes ++ left.take (min reported chunk)
  capacity := capacityAbove b.capacity b.length chunk
  length_le := by
    have h : (left.take (min reported chunk)).length ≤ chunk := by
      rw [List.length_take]; omega
    rw [List.length_append]
    exact Nat.le_trans (Nat.add_le_add_left h _) (le_capacityAbove chunk b.length_le)

@[simp] theorem bytes_empty : empty.bytes = [] := rfl

@[simp] theorem bytes_append (b : Buffer) (more : Bytes) :
    (b.append more).bytes = b.bytes ++ more :=
  congrArg (· ++ more) (b.bytes_reserveFor more.length)

@[simp] theorem bytes_appendText (b : Buffer) (text : String) :
    (b.appendText text).bytes = b.bytes ++ encodeText text :=
  b.bytes_append _

@[simp] theorem bytes_appendCount (b : Buffer) (n : Nat) :
    (b.appendCount n).bytes = b.bytes ++ (encodeText (decimalText n) ++ [58]) := by
  simp [appendCount]

@[simp] theorem bytes_appendField (b : Buffer) (field : Bytes) :
    (b.appendField field).bytes = b.bytes ++
      (encodeText "STR:" ++ (encodeText (decimalText field.length) ++ 58 :: field)) := by
  simp [appendField]

theorem slice_offer (b : Buffer) (chunk : Nat) :
    ((b.offer chunk).slice b.length).cast (b.length_offer_sub chunk) = .zeros chunk := by
  apply Subtype.ext
  simp [Slice.cast, slice, Slice.zeros, length]

theorem truncate_overwrite_offer (b : Buffer) (chunk n : Nat)
    (left : Slice ((b.offer chunk).length - b.length)) :
    ((b.offer chunk).overwrite b.length left).truncate (b.length + min n chunk) =
      b.absorb chunk n left.1 := by
  have hcapacity : (b.offer chunk).capacity = capacityAbove b.capacity b.length chunk :=
    b.capacity_reserveAbove chunk
  simp [truncate, overwrite, absorb, length, hcapacity, List.take_append, List.take_of_length_le]

/-- Reading into the end of a buffer is reading into zeros and taking over what was read. -/
theorem fill_eq {ε σ : Type} (b : Buffer) (chunk : Nat)
    (read : Slice chunk → Except ε Nat × Slice chunk × σ) :
    b.fill chunk read =
      let (answer, left, s) := read (.zeros chunk)
      (answer, b.absorb chunk (answer.toOption.getD 0) left.1, s) := by
  simp only [fill, slice_offer]
  obtain ⟨answer, left, s⟩ := read (.zeros chunk)
  have hkept (n : Nat) := b.truncate_overwrite_offer chunk n
    (left.cast (b.length_offer_sub chunk).symm)
  cases answer with
  | ok n => exact congrArg (fun b' => (_, b', s)) (hkept n)
  | error e => exact congrArg (fun b' => (_, b', s)) (by simpa using hkept 0)

@[simp] theorem bytes_absorb (b : Buffer) (chunk reported : Nat) (left : Bytes) :
    (b.absorb chunk reported left).bytes = b.bytes ++ left.take (min reported chunk) := rfl

structure Reading (ε : Type) where
  offered : Bytes
  answer : Except ε Nat

/-- What can be done to a buffer. A reader answers and leaves a slice in place of the one it was
lent. -/
inductive Step (ε : Type)
  | append (more : Bytes)
  | appendText (text : String)
  | appendCount (n : Nat)
  | appendField (field : Bytes)
  | reserveAbove (spare : Nat)
  | fill (chunk : Nat) (read : Slice chunk → Except ε Nat × Slice chunk)
  | clone

variable {ε : Type}

def Step.apply (b : Buffer) : Step ε → Buffer × List (Reading ε)
  | append more => (b.append more, [])
  | appendText text => (b.appendText text, [])
  | appendCount n => (b.appendCount n, [])
  | appendField field => (b.appendField field, [])
  | reserveAbove spare => (b.reserveAbove spare, [])
  | fill chunk read =>
    let (answer, b', offered) := b.fill chunk fun slice =>
      let (answer, left) := read slice
      (answer, left, slice.1)
    (b', [⟨offered, answer⟩])
  | clone => (b.trimmed, [])

def applyAll : Buffer → List (Step ε) → Buffer × List (Reading ε)
  | b, [] => (b, [])
  | b, step :: steps =>
    let next := step.apply b
    let last := next.1.applyAll steps
    (last.1, next.2 ++ last.2)

def run (steps : List (Step ε)) : Buffer × List (Reading ε) := empty.applyAll steps

end Buffer
end RemoteDev
