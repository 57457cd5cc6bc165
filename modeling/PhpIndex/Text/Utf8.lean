/-!
Texts read from bytes that need not be valid UTF-8.

* `Pending`: a character of which some bytes have been read;
* `startOf`: what a byte begins;
* `decodeLossy`: the text of some bytes, where each longest beginning of a character that
  breaks off, and each byte that begins none, is replaced by the replacement character.
-/

namespace PhpIndex.Text.Utf8

/-- What stands for bytes that are not valid. -/
def replacement : Char := '\uFFFD'

/-- A character of which some bytes have been read: the number they spell so far, how many
bytes follow the next one, and the range the next one must lie in. -/
structure Pending where
  value : Nat
  more : Nat
  low : UInt8 := 0x80
  high : UInt8 := 0xBF

/-- What a byte begins: a character of its own, or one that needs more bytes. The ranges leave
out the forms that are too long, the surrogates and what lies above the last code point. -/
def startOf (b : UInt8) : Char ⊕ Pending :=
  if b < 0x80 then .inl (Char.ofNat b.toNat)
  else if b < 0xC2 then .inl replacement
  else if b < 0xE0 then .inr { value := b.toNat - 0xC0, more := 0 }
  else if b = 0xE0 then .inr { value := 0, more := 1, low := 0xA0 }
  else if b = 0xED then .inr { value := 0xD, more := 1, high := 0x9F }
  else if b < 0xF0 then .inr { value := b.toNat - 0xE0, more := 1 }
  else if b = 0xF0 then .inr { value := 0, more := 2, low := 0x90 }
  else if b < 0xF4 then .inr { value := b.toNat - 0xF0, more := 2 }
  else if b = 0xF4 then .inr { value := 4, more := 2, high := 0x8F }
  else .inl replacement

/-- The number that a pending character spells once its next byte is read. -/
def Pending.extend (p : Pending) (b : UInt8) : Nat := p.value * 64 + (b.toNat - 0x80)

/-- The text of some bytes after a character of which some bytes have been read, if any. -/
def decodeFrom : Option Pending → List UInt8 → List Char
  | none, [] => []
  | some _, [] => [replacement]
  | none, b :: rest =>
      match startOf b with
      | .inl c => c :: decodeFrom none rest
      | .inr p => decodeFrom (some p) rest
  | some p, b :: rest =>
      if p.low ≤ b ∧ b ≤ p.high then
        match p.more with
        | 0 => Char.ofNat (p.extend b) :: decodeFrom none rest
        | more + 1 => decodeFrom (some { value := p.extend b, more := more }) rest
      else
        replacement ::
          match startOf b with
          | .inl c => c :: decodeFrom none rest
          | .inr p => decodeFrom (some p) rest

/-- The text of some bytes, with the replacement character for what is not valid. -/
def decodeLossy (bytes : List UInt8) : String := String.ofList (decodeFrom none bytes)

/-- ASCII bytes are their own characters. -/
theorem decodeFrom_ascii {bytes : List UInt8} (h : ∀ b ∈ bytes, b < 0x80) :
    decodeFrom none bytes = bytes.map fun b => Char.ofNat b.toNat := by
  induction bytes with
  | nil => rfl
  | cons b rest ih =>
      have hb : b < 0x80 := h b (by simp)
      rw [decodeFrom, startOf, if_pos hb, List.map_cons, ih fun x hx => h x (by simp [hx])]

end PhpIndex.Text.Utf8
