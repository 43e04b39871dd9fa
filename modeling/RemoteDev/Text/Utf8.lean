import RemoteDev.Text.Basic

/-! Lossy reading of UTF-8. Well-formed sequences become their characters; each maximal
beginning of a well-formed sequence that is cut short, and each byte that begins none,
becomes one replacement character. -/
namespace RemoteDev.Text

def replacement : Char := '\uFFFD'

/-- What a lead byte announces: the range of the second byte and how many bytes follow. -/
structure Lead where
  low : UInt8
  high : UInt8
  extra : Nat

/-- The lead bytes of the sequences of two, three and four bytes. -/
def lead? (b : UInt8) : Option Lead :=
  if 0xC2 ≤ b && b ≤ 0xDF then some ⟨0x80, 0xBF, 1⟩
  else if b == 0xE0 then some ⟨0xA0, 0xBF, 2⟩
  else if b == 0xED then some ⟨0x80, 0x9F, 2⟩
  else if 0xE1 ≤ b && b ≤ 0xEF then some ⟨0x80, 0xBF, 2⟩
  else if b == 0xF0 then some ⟨0x90, 0xBF, 3⟩
  else if 0xF1 ≤ b && b ≤ 0xF3 then some ⟨0x80, 0xBF, 3⟩
  else if b == 0xF4 then some ⟨0x80, 0x8F, 3⟩
  else none

def isTail (b : UInt8) : Bool := 0x80 ≤ b && b ≤ 0xBF

def tailBits (b : UInt8) : Nat := b.toNat % 64

def decodeLossy : Bytes → List Char
  | [] => []
  | a :: r =>
    if a < 0x80 then Char.ofNat a.toNat :: decodeLossy r
    else match lead? a with
      | none => replacement :: decodeLossy r
      | some ld =>
        match r with
        | [] => [replacement]
        | b :: r' =>
          if ld.low ≤ b && b ≤ ld.high then
            if ld.extra == 1 then
              Char.ofNat (a.toNat % 32 * 64 + tailBits b) :: decodeLossy r'
            else match r' with
              | [] => [replacement]
              | c :: r'' =>
                if isTail c then
                  if ld.extra == 2 then
                    Char.ofNat ((a.toNat % 16 * 64 + tailBits b) * 64 + tailBits c)
                      :: decodeLossy r''
                  else match r'' with
                    | [] => [replacement]
                    | d :: r''' =>
                      if isTail d then
                        Char.ofNat (((a.toNat % 8 * 64 + tailBits b) * 64 + tailBits c) * 64
                          + tailBits d) :: decodeLossy r'''
                      else replacement :: decodeLossy (d :: r''')
                else replacement :: decodeLossy (c :: r'')
          else replacement :: decodeLossy (b :: r')

def lossy (bytes : Bytes) : String := String.ofList (decodeLossy bytes)

@[simp] theorem lossy_nil : lossy [] = "" := rfl

end RemoteDev.Text
