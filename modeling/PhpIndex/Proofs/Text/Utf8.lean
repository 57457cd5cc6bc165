import Mathlib.Algebra.Group.Nat.Defs
import Mathlib.Data.List.Infix
import PhpIndex.Text.Utf8

/-!
The decoding of bytes that need not be valid UTF-8, against the encoding of characters.

* `Begins`: bytes with which the encoding of some character begins;
* `Decodes`: what some bytes are decoded to, where encodings give their characters, and each of the
  longest beginnings of characters that do not go on, and each byte that begins none, gives the
  replacement character;
* `Pending.Ends`: the bytes that end a character of which some have been read;
* `encode_eq_cons_iff`: a character is spelled by one byte of ASCII, or by a byte that leaves it
  pending and those that end it;
* `decodes_iff`: **bytes are decoded by these rules, which leave no choice**;
* `decodeFrom_flatMap_encode`: the bytes of a text are decoded to it.
-/

namespace PhpIndex.Text.Utf8

/-! ### The rules of decoding -/

/-- The bytes of a character. -/
abbrev encode (c : Char) : List UInt8 := String.utf8EncodeChar c

/-- Whether the bytes of some character begin with these. -/
def Begins (bytes : List UInt8) : Prop := ∃ c, bytes <+: encode c

/-- What bytes are decoded to. -/
inductive Decodes : List UInt8 → List Char → Prop
  | nil : Decodes [] []
  | char (c : Char) {rest : List UInt8} {cs : List Char} (h : Decodes rest cs) :
      Decodes (encode c ++ rest) (c :: cs)
  /-- The beginning of a character that does not go on is replaced as a whole. -/
  | broken {part rest : List UInt8} {cs : List Char} (ne_nil : part ≠ [])
      (begins : ∃ c, part <+: encode c ∧ part ≠ encode c)
      (longest : ∀ b ∈ rest.head?, ¬ Begins (part ++ [b])) (h : Decodes rest cs) :
      Decodes (part ++ rest) (replacement :: cs)
  /-- A byte that begins no character is replaced. -/
  | stray {b : UInt8} {rest : List UInt8} {cs : List Char} (begins : ¬ Begins [b])
      (h : Decodes rest cs) : Decodes (b :: rest) (replacement :: cs)

/-! ### Pending characters -/

namespace Pending

/-- Whether the pending character goes on with a byte. -/
def Takes (p : Pending) (b : UInt8) : Prop := p.low ≤ b ∧ b ≤ p.high

/-- The bytes that end a pending character, and the number that is spelled then. -/
inductive Ends : Pending → List UInt8 → Nat → Prop
  | last {p : Pending} {b : UInt8} (takes : p.Takes b) (more : p.more = 0) :
      Ends p [b] (p.extend b)
  | step {p : Pending} {b : UInt8} {n v : Nat} {bytes : List UInt8} (takes : p.Takes b)
      (more : p.more = n + 1) (h : Ends { value := p.extend b, more := n } bytes v) :
      Ends p (b :: bytes) v

variable {p : Pending} {b : UInt8} {bytes rest : List UInt8} {v : Nat}

lemma Ends.takes (h : p.Ends (b :: bytes) v) : p.Takes b := by
  cases h <;> assumption

/-- After its second byte a character goes on with all bytes of the middle range. -/
lemma takes_middle (value more : Nat) : Takes { value := value, more := more } 0x80 := by
  have hle : (0x80 : UInt8) ≤ 0xBF := by decide
  exact ⟨UInt8.le_refl _, hle⟩

/-- Each byte that a pending character takes can be followed by others that end it. -/
lemma Takes.exists_ends (h : p.Takes b) : ∃ bytes v, p.Ends (b :: bytes) v := by
  obtain ⟨n, hmore⟩ : ∃ n, p.more = n := ⟨_, rfl⟩
  induction n generalizing p b with
  | zero => exact ⟨[], _, .last h hmore⟩
  | succ n ih =>
      obtain ⟨bytes, v, hends⟩ := ih (takes_middle (p.extend b) n) rfl
      exact ⟨0x80 :: bytes, v, .step h hmore hends⟩

lemma ends_zero_iff (hmore : p.more = 0) :
    p.Ends bytes v ↔ ∃ b, p.Takes b ∧ p.extend b = v ∧ bytes = [b] := by
  constructor
  · rintro (⟨htakes, -⟩ | ⟨-, hmore', -⟩)
    · exact ⟨_, htakes, rfl, rfl⟩
    · rw [hmore] at hmore'; cases hmore'
  · rintro ⟨b, htakes, rfl, rfl⟩
    exact .last htakes hmore

lemma ends_succ_iff {n : Nat} (hmore : p.more = n + 1) :
    p.Ends bytes v ↔ ∃ b tail, p.Takes b ∧
      Ends { value := p.extend b, more := n } tail v ∧ bytes = b :: tail := by
  constructor
  · rintro (⟨-, hmore'⟩ | ⟨htakes, hmore', h⟩)
    · rw [hmore] at hmore'; cases hmore'
    · obtain rfl := Nat.succ.inj (hmore.symm.trans hmore')
      exact ⟨_, _, htakes, h, rfl⟩
  · rintro ⟨b, tail, htakes, h, rfl⟩
    exact .step htakes hmore h

/-- The number of further bytes is fixed, and so is what follows each of them. -/
lemma ends_cons_iff {n : Nat} (htakes : p.Takes b) (hmore : p.more = n + 1) :
    p.Ends (b :: bytes) v ↔ Ends { value := p.extend b, more := n } bytes v := by
  rw [ends_succ_iff hmore]
  constructor
  · rintro ⟨b', tail, -, h, hcons⟩
    obtain ⟨rfl, rfl⟩ := List.cons.inj hcons
    exact h
  · intro h
    exact ⟨b, bytes, htakes, h, rfl⟩

lemma decodeFrom_of_takes (htakes : p.Takes b) (hmore : p.more = 0) :
    decodeFrom (some p) (b :: rest) = Char.ofNat (p.extend b) :: decodeFrom none rest := by
  rw [decodeFrom, if_pos (show p.low ≤ b ∧ b ≤ p.high from htakes), hmore]

lemma decodeFrom_of_takes_of_more {n : Nat} (htakes : p.Takes b) (hmore : p.more = n + 1) :
    decodeFrom (some p) (b :: rest) =
      decodeFrom (some { value := p.extend b, more := n }) rest := by
  rw [decodeFrom, if_pos (show p.low ≤ b ∧ b ≤ p.high from htakes), hmore]

/-- A byte with which the character does not go on is read once more. -/
lemma decodeFrom_of_not_takes (h : ∀ b ∈ rest.head?, ¬ p.Takes b) :
    decodeFrom (some p) rest = replacement :: decodeFrom none rest := by
  cases rest with
  | nil => rfl
  | cons b rest =>
      have htakes : ¬ (p.low ≤ b ∧ b ≤ p.high) := h b rfl
      conv_lhs => rw [decodeFrom, if_neg htakes]
      rw [decodeFrom]

/-- A pending character that ends is decoded. -/
lemma Ends.decodeFrom_append (h : p.Ends bytes v) :
    decodeFrom (some p) (bytes ++ rest) = Char.ofNat v :: decodeFrom none rest := by
  induction h with
  | last htakes hmore => exact decodeFrom_of_takes htakes hmore
  | step htakes hmore _ ih =>
      rw [List.cons_append, decodeFrom_of_takes_of_more htakes hmore, ih]

/-- One that does not go on is replaced. -/
lemma decodeFrom_append_of_broken (h : ∃ b bytes' v, p.Ends (bytes ++ b :: bytes') v)
    (hrest : ∀ b ∈ rest.head?, ∀ bytes' v, ¬ p.Ends (bytes ++ b :: bytes') v) :
    decodeFrom (some p) (bytes ++ rest) = replacement :: decodeFrom none rest := by
  induction bytes generalizing p with
  | nil =>
      refine decodeFrom_of_not_takes fun b hb htakes => ?_
      obtain ⟨bytes', v, hends⟩ := htakes.exists_ends
      exact hrest b hb bytes' v hends
  | cons x bytes ih =>
      obtain ⟨b, bytes', v, hends⟩ := h
      have htakes := hends.takes
      cases hmore : p.more with
      | zero =>
          -- the last byte of a character is not followed by another one
          obtain ⟨tail, htail⟩ : ∃ tail, bytes ++ b :: bytes' = tail := ⟨_, rfl⟩
          rw [List.cons_append, htail] at hends
          cases hends with
          | last => simp at htail
          | step _ hmore' => rw [hmore] at hmore'; cases hmore'
      | succ n =>
          rw [List.cons_append, decodeFrom_of_takes_of_more htakes hmore]
          refine ih ⟨b, bytes', v, (ends_cons_iff htakes hmore).mp hends⟩ fun b hb bytes' v h => ?_
          exact hrest b hb bytes' v ((ends_cons_iff htakes hmore).mpr h)

/-- Bytes after a pending character end it, or there is a place where it does not go on. -/
lemma ends_or_broken (h : ∃ b, p.Takes b) (tail : List UInt8) :
    (∃ bytes rest v, tail = bytes ++ rest ∧ p.Ends bytes v) ∨
      ∃ bytes rest, tail = bytes ++ rest ∧ (∃ b bytes' v, p.Ends (bytes ++ b :: bytes') v) ∧
        ∀ b ∈ rest.head?, ∀ bytes' v, ¬ p.Ends (bytes ++ b :: bytes') v := by
  have hgoesOn : ∃ b bytes' v, p.Ends (b :: bytes') v := h.imp fun _ htakes => htakes.exists_ends
  induction tail generalizing p with
  | nil => exact .inr ⟨[], [], rfl, hgoesOn, fun _ hb => nomatch hb⟩
  | cons x tail ih =>
      by_cases htakes : p.Takes x
      · cases hmore : p.more with
        | zero => exact .inl ⟨[x], tail, _, rfl, .last htakes hmore⟩
        | succ n =>
            have hiff {bytes : List UInt8} {v : Nat} : p.Ends (x :: bytes) v ↔
                Ends { value := p.extend x, more := n } bytes v := ends_cons_iff htakes hmore
            have hmiddle := takes_middle (p.extend x) n
            obtain ⟨bytes, rest, v, rfl, hends⟩ |
                ⟨bytes, rest, rfl, ⟨b, bytes', v, hends⟩, hrest⟩ :=
              ih ⟨0x80, hmiddle⟩ ⟨0x80, hmiddle.exists_ends⟩
            · exact .inl ⟨x :: bytes, rest, v, rfl, hiff.mpr hends⟩
            · exact .inr ⟨x :: bytes, rest, rfl, ⟨b, bytes', v, hiff.mpr hends⟩,
                fun b hb bytes' v h => hrest b hb bytes' v (hiff.mp h)⟩
      · refine .inr ⟨[], x :: tail, rfl, hgoesOn, fun b hb bytes' v h => ?_⟩
        obtain rfl := Option.some.inj hb
        exact htakes h.takes

end Pending

/-! ### The digits of characters -/

/-- The bytes that spell the last digits of a number to the base 64. -/
def digits (v : Nat) : Nat → List UInt8
  | 0 => []
  | n + 1 => UInt8.ofNat (v / 64 ^ n % 64 + 0x80) :: digits v n

/-- The bytes of a number, the first of which says how many there are. -/
def spelling (v : Nat) : List UInt8 :=
  if v < 0x80 then [UInt8.ofNat v]
  else if v < 0x800 then UInt8.ofNat (v / 64 + 0xC0) :: digits v 1
  else if v < 0x10000 then UInt8.ofNat (v / 64 ^ 2 + 0xE0) :: digits v 2
  else UInt8.ofNat (v / 64 ^ 3 + 0xF0) :: digits v 3

lemma encode_eq (c : Char) : encode c = spelling c.toNat := by
  have hvalid : c.toNat.isValidChar := c.valid
  have hv : c.val.toNat = c.toNat := rfl
  simp only [encode, String.utf8EncodeChar, hv]
  generalize c.toNat = v at hvalid ⊢
  rw [Nat.isValidChar] at hvalid
  simp only [spelling, digits]
  by_cases h1 : v < 0x80
  · rw [if_pos (show v ≤ 127 by omega), if_pos h1]
  · rw [if_neg (show ¬ v ≤ 127 by omega), if_neg h1]
    by_cases h2 : v < 0x800
    · rw [if_pos (show v ≤ 2047 by omega), if_pos h2, Nat.mod_eq_of_lt (a := v / 64) (by omega)]
      simp
    · rw [if_neg (show ¬ v ≤ 2047 by omega), if_neg h2]
      by_cases h3 : v < 0x10000
      · rw [if_pos (show v ≤ 65535 by omega), if_pos h3,
          Nat.mod_eq_of_lt (a := v / 4096) (by omega)]
        simp
      · rw [if_neg (show ¬ v ≤ 65535 by omega), if_neg h3,
          Nat.mod_eq_of_lt (a := v / 262144) (by omega)]
        simp

lemma ofNat_eq_iff {k : Nat} (hk : k < 256) {b : UInt8} : UInt8.ofNat k = b ↔ b.toNat = k := by
  rw [← UInt8.toNat_inj, UInt8.toNat_ofNat', Nat.mod_eq_of_lt (by omega), eq_comm]

lemma spelling_eq_cons_iff_digits {v : Nat} {b : UInt8} {bytes : List UInt8} :
    v.isValidChar ∧ spelling v = b :: bytes ↔
      (v < 0x80 ∧ b.toNat = v ∧ bytes = []) ∨
      (0x80 ≤ v ∧ v < 0x800 ∧ b.toNat = v / 64 ^ 1 + 0xC0 ∧ bytes = digits v 1) ∨
      (0x800 ≤ v ∧ v < 0x10000 ∧ ¬ (0xD800 ≤ v ∧ v < 0xE000) ∧ b.toNat = v / 64 ^ 2 + 0xE0 ∧
        bytes = digits v 2) ∨
      (0x10000 ≤ v ∧ v < 0x110000 ∧ b.toNat = v / 64 ^ 3 + 0xF0 ∧ bytes = digits v 3) := by
  rw [spelling, Nat.isValidChar]
  by_cases hv : v < 0x110000
  swap
  · grind
  by_cases h1 : v < 0x80
  · rw [if_pos h1, List.cons.injEq, ofNat_eq_iff (by omega), eq_comm (a := [])]
    grind
  · rw [if_neg h1]
    by_cases h2 : v < 0x800
    · rw [if_pos h2, List.cons.injEq, ofNat_eq_iff (by omega), eq_comm (b := bytes)]
      grind
    · rw [if_neg h2]
      by_cases h3 : v < 0x10000
      · rw [if_pos h3, List.cons.injEq, ofNat_eq_iff (by omega), eq_comm (b := bytes)]
        grind
      · rw [if_neg h3, List.cons.injEq, ofNat_eq_iff (by omega), eq_comm (b := bytes)]
        grind

lemma toNat_digit (v : Nat) : (UInt8.ofNat (v % 64 + 0x80)).toNat = v % 64 + 0x80 :=
  (ofNat_eq_iff (by omega)).mp rfl

namespace Pending

lemma takes_iff {p : Pending} {b : UInt8} :
    p.Takes b ↔ p.low.toNat ≤ b.toNat ∧ b.toNat ≤ p.high.toNat := Iff.rfl

/-- After its second byte a character goes on with each digit. -/
lemma takes_digit (value more v : Nat) :
    Takes { value := value, more := more } (UInt8.ofNat (v % 64 + 0x80)) := by
  have hlow : 0x80 ≤ (UInt8.ofNat (v % 64 + 0x80)).toNat := by rw [toNat_digit]; omega
  have hhigh : (UInt8.ofNat (v % 64 + 0x80)).toNat ≤ 0xBF := by rw [toNat_digit]; omega
  exact takes_iff.mpr ⟨hlow, hhigh⟩

/-- One more byte gives one more digit. -/
lemma extend_eq_iff {p : Pending} (hlow : 0x80 ≤ p.low.toNat) (hhigh : p.high.toNat ≤ 0xBF)
    {b : UInt8} (htakes : p.Takes b) {v : Nat} :
    p.extend b = v ↔ v / 64 = p.value ∧ b = UInt8.ofNat (v % 64 + 0x80) := by
  obtain ⟨hl, hh⟩ := takes_iff.mp htakes
  have hdigit {x y : Nat} (hlow : 0x80 ≤ y) (hhigh : y ≤ 0xBF) :
      x * 64 + (y - 0x80) = v ↔ v / 64 = x ∧ y = v % 64 + 0x80 := by omega
  rw [eq_comm (a := b), ofNat_eq_iff (by omega)]
  exact hdigit (hlow.trans hl) (hh.trans hhigh)

/-- After its next byte a pending character ends with the last digits of its number. -/
lemma ends_iff_exists {n : Nat} {p : Pending} (hmore : p.more = n) {bytes : List UInt8} {v : Nat} :
    p.Ends bytes v ↔ ∃ b, p.Takes b ∧ p.extend b = v / 64 ^ n ∧ bytes = b :: digits v n := by
  induction n generalizing p bytes with
  | zero => rw [ends_zero_iff hmore, Nat.pow_zero, Nat.div_one]; rfl
  | succ n ih =>
      have hdiv : v / 64 ^ (n + 1) = v / 64 ^ n / 64 := by
        rw [Nat.pow_succ, ← Nat.div_div_eq_div_mul]
      have htail (value : Nat) (tail : List UInt8) :
          Ends { value := value, more := n } tail v ↔
            value = v / 64 ^ n / 64 ∧ tail = digits v (n + 1) := by
        rw [ih rfl]
        constructor
        · rintro ⟨b, htakes, hext, rfl⟩
          obtain ⟨hv, rfl⟩ := (extend_eq_iff (Nat.le_refl _) (Nat.le_refl _) htakes).mp hext
          exact ⟨hv.symm, rfl⟩
        · rintro ⟨rfl, rfl⟩
          have htakes := takes_digit (v / 64 ^ n / 64) n (v / 64 ^ n)
          exact ⟨_, htakes,
            (extend_eq_iff (Nat.le_refl _) (Nat.le_refl _) htakes).mpr ⟨rfl, rfl⟩, rfl⟩
      rw [ends_succ_iff hmore, hdiv]
      constructor
      · rintro ⟨b, tail, htakes, h, rfl⟩
        obtain ⟨hv, rfl⟩ := (htail _ tail).mp h
        exact ⟨b, htakes, hv, rfl⟩
      · rintro ⟨b, htakes, hv, rfl⟩
        exact ⟨b, _, htakes, (htail _ _).mpr ⟨hv, rfl⟩, rfl⟩

/-- A pending character ends with the last digits of its number. -/
lemma ends_iff {n : Nat} {p : Pending} (hmore : p.more = n) (hlow : 0x80 ≤ p.low.toNat)
    (hhigh : p.high.toNat ≤ 0xBF) {bytes : List UInt8} {v : Nat} :
    p.Ends bytes v ↔ bytes = digits v (n + 1) ∧ v / 64 ^ n / 64 = p.value ∧
      p.low.toNat ≤ v / 64 ^ n % 64 + 0x80 ∧ v / 64 ^ n % 64 + 0x80 ≤ p.high.toNat := by
  have hdigit : p.Takes (UInt8.ofNat (v / 64 ^ n % 64 + 0x80)) ↔
      p.low.toNat ≤ v / 64 ^ n % 64 + 0x80 ∧ v / 64 ^ n % 64 + 0x80 ≤ p.high.toNat := by
    rw [takes_iff, toNat_digit]
  rw [ends_iff_exists hmore, ← hdigit]
  constructor
  · rintro ⟨b, htakes, hext, rfl⟩
    obtain ⟨hv, rfl⟩ := (extend_eq_iff hlow hhigh htakes).mp hext
    exact ⟨rfl, hv, htakes⟩
  · rintro ⟨rfl, hv, htakes⟩
    exact ⟨_, htakes, (extend_eq_iff hlow hhigh htakes).mpr ⟨hv, rfl⟩, rfl⟩

end Pending

/-! ### First bytes -/

lemma startOf_eq (b : UInt8) : startOf b =
    if b.toNat < 0x80 then .inl (Char.ofNat b.toNat)
    else if b.toNat < 0xC2 then .inl replacement
    else if b.toNat < 0xE0 then .inr { value := b.toNat - 0xC0, more := 0 }
    else if b.toNat = 0xE0 then .inr { value := 0, more := 1, low := 0xA0 }
    else if b.toNat = 0xED then .inr { value := 0xD, more := 1, high := 0x9F }
    else if b.toNat < 0xF0 then .inr { value := b.toNat - 0xE0, more := 1 }
    else if b.toNat = 0xF0 then .inr { value := 0, more := 2, low := 0x90 }
    else if b.toNat < 0xF4 then .inr { value := b.toNat - 0xF0, more := 2 }
    else if b.toNat = 0xF4 then .inr { value := 4, more := 2, high := 0x8F }
    else .inl replacement := by
  simp only [startOf, UInt8.lt_iff_toNat_lt, ← UInt8.toNat_inj]
  rfl

/-- The bytes that begin characters of several bytes, and what is known after them. -/
lemma startOf_eq_inr_iff {b : UInt8} {p : Pending} : startOf b = .inr p ↔
    (0xC2 ≤ b.toNat ∧ b.toNat < 0xE0 ∧ p = { value := b.toNat - 0xC0, more := 0 }) ∨
    (0xE0 ≤ b.toNat ∧ b.toNat < 0xF0 ∧ p =
      { value := b.toNat - 0xE0, more := 1
        low := if b.toNat = 0xE0 then 0xA0 else 0x80
        high := if b.toNat = 0xED then 0x9F else 0xBF }) ∨
    (0xF0 ≤ b.toNat ∧ b.toNat ≤ 0xF4 ∧ p =
      { value := b.toNat - 0xF0, more := 2
        low := if b.toNat = 0xF0 then 0x90 else 0x80
        high := if b.toNat = 0xF4 then 0x8F else 0xBF }) := by
  rw [startOf_eq]
  split_ifs <;> simp only [Sum.inr.injEq, eq_comm (a := p)] <;> grind

/-- A character of two bytes. -/
lemma two_bytes_iff {v : Nat} {b : UInt8} {bytes : List UInt8} :
    0x80 ≤ v ∧ v < 0x800 ∧ b.toNat = v / 64 ^ 1 + 0xC0 ∧ bytes = digits v 1 ↔
      0xC2 ≤ b.toNat ∧ b.toNat < 0xE0 ∧
        Pending.Ends { value := b.toNat - 0xC0, more := 0 } bytes v := by
  have hmod : v / 64 ^ 0 % 64 + 0x80 ≤ 0xBF := by omega
  have hzero : v / 64 ^ 0 / 64 = v / 64 := by rw [Nat.pow_zero, Nat.div_one]
  rw [Pending.ends_iff rfl (Nat.le_refl _) (Nat.le_refl _), Nat.pow_one, hzero]
  constructor
  · rintro ⟨h1, h2, hb, rfl⟩
    have hv : v / 64 = b.toNat - 0xC0 := by omega
    exact ⟨by omega, by omega, rfl, hv, Nat.le_add_left _ _, hmod⟩
  · rintro ⟨h1, h2, rfl, hv, -⟩
    replace hv : v / 64 = b.toNat - 0xC0 := hv
    exact ⟨by omega, by omega, by omega, rfl⟩

/-- A character of three bytes. -/
lemma three_bytes_iff {v : Nat} {b : UInt8} {bytes : List UInt8} :
    0x800 ≤ v ∧ v < 0x10000 ∧ ¬ (0xD800 ≤ v ∧ v < 0xE000) ∧ b.toNat = v / 64 ^ 2 + 0xE0 ∧
        bytes = digits v 2 ↔
      0xE0 ≤ b.toNat ∧ b.toNat < 0xF0 ∧
        Pending.Ends { value := b.toNat - 0xE0, more := 1
                       low := if b.toNat = 0xE0 then 0xA0 else 0x80
                       high := if b.toNat = 0xED then 0x9F else 0xBF } bytes v := by
  have hlow : (if b.toNat = 0xE0 then 0xA0 else 0x80 : UInt8).toNat =
      if b.toNat = 0xE0 then 0xA0 else 0x80 := by split_ifs <;> rfl
  have hhigh : (if b.toNat = 0xED then 0x9F else 0xBF : UInt8).toNat =
      if b.toNat = 0xED then 0x9F else 0xBF := by split_ifs <;> rfl
  have hsq : v / 64 ^ 2 = v / 64 / 64 := by rw [Nat.pow_two, Nat.div_div_eq_div_mul]
  rw [Pending.ends_iff rfl (by rw [hlow]; split_ifs <;> decide)
    (by rw [hhigh]; split_ifs <;> decide), hlow, hhigh, Nat.pow_one, hsq]
  constructor
  · rintro ⟨h1, h2, hs, hb, rfl⟩
    have hv : v / 64 / 64 = b.toNat - 0xE0 := by omega
    refine ⟨by omega, by omega, rfl, hv, ?_, ?_⟩ <;> split_ifs <;> omega
  · rintro ⟨h1, h2, rfl, hv, hl, hh⟩
    replace hv : v / 64 / 64 = b.toNat - 0xE0 := hv
    refine ⟨?_, by omega, ?_, by omega, rfl⟩ <;> split_ifs at hl hh <;> omega

/-- A character of four bytes. -/
lemma four_bytes_iff {v : Nat} {b : UInt8} {bytes : List UInt8} :
    0x10000 ≤ v ∧ v < 0x110000 ∧ b.toNat = v / 64 ^ 3 + 0xF0 ∧ bytes = digits v 3 ↔
      0xF0 ≤ b.toNat ∧ b.toNat ≤ 0xF4 ∧
        Pending.Ends { value := b.toNat - 0xF0, more := 2
                       low := if b.toNat = 0xF0 then 0x90 else 0x80
                       high := if b.toNat = 0xF4 then 0x8F else 0xBF } bytes v := by
  have hlow : (if b.toNat = 0xF0 then 0x90 else 0x80 : UInt8).toNat =
      if b.toNat = 0xF0 then 0x90 else 0x80 := by split_ifs <;> rfl
  have hhigh : (if b.toNat = 0xF4 then 0x8F else 0xBF : UInt8).toNat =
      if b.toNat = 0xF4 then 0x8F else 0xBF := by split_ifs <;> rfl
  have hcube : v / 64 ^ 3 = v / 64 ^ 2 / 64 := by rw [Nat.div_div_eq_div_mul, ← Nat.pow_succ]
  have hsq : v / 64 ^ 2 = v / 4096 := rfl
  rw [Pending.ends_iff rfl (by rw [hlow]; split_ifs <;> decide)
    (by rw [hhigh]; split_ifs <;> decide), hlow, hhigh, hcube, hsq]
  constructor
  · rintro ⟨h1, h2, hb, rfl⟩
    have hv : v / 4096 / 64 = b.toNat - 0xF0 := by omega
    refine ⟨by omega, by omega, rfl, hv, ?_, ?_⟩ <;> split_ifs <;> omega
  · rintro ⟨h1, h2, rfl, hv, hl, hh⟩
    replace hv : v / 4096 / 64 = b.toNat - 0xF0 := hv
    refine ⟨?_, ?_, by omega, rfl⟩ <;> split_ifs at hl hh <;> omega

/-- A number is spelled by one byte, or by a byte that begins it and those that end it. -/
lemma spelling_eq_cons_iff {v : Nat} {b : UInt8} {bytes : List UInt8} :
    v.isValidChar ∧ spelling v = b :: bytes ↔
      (v < 0x80 ∧ b.toNat = v ∧ bytes = []) ∨ ∃ p, startOf b = .inr p ∧ p.Ends bytes v := by
  rw [spelling_eq_cons_iff_digits, two_bytes_iff, three_bytes_iff, four_bytes_iff]
  simp only [startOf_eq_inr_iff, or_and_right, exists_or, and_assoc, exists_and_left,
    exists_eq_left]

lemma toNat_ofNat {v : Nat} (h : v.isValidChar) : (Char.ofNat v).toNat = v := by
  rw [Char.ofNat, dif_pos h]
  rfl

/-- A character is spelled by one byte, or by a byte that leaves it pending and those that end
it. -/
lemma encode_eq_cons_iff {c : Char} {b : UInt8} {bytes : List UInt8} :
    encode c = b :: bytes ↔
      (startOf b = .inl c ∧ b.toNat < 0x80 ∧ bytes = []) ∨
        ∃ p, startOf b = .inr p ∧ p.Ends bytes c.toNat := by
  have hvalid : c.toNat.isValidChar := c.valid
  have hascii : (startOf b = .inl c ∧ b.toNat < 0x80 ∧ bytes = []) ↔
      (c.toNat < 0x80 ∧ b.toNat = c.toNat ∧ bytes = []) := by
    constructor
    · rintro ⟨h, hb, rfl⟩
      rw [startOf_eq, if_pos hb] at h
      obtain rfl := Sum.inl.inj h
      rw [toNat_ofNat (.inl (by omega))]
      exact ⟨hb, rfl, rfl⟩
    · rintro ⟨hc, hb, rfl⟩
      rw [startOf_eq, hb, if_pos hc, Char.ofNat_toNat]
      exact ⟨rfl, hc, rfl⟩
  rw [hascii, ← spelling_eq_cons_iff, encode_eq, and_iff_right hvalid]

/-- The bytes that end a pending character spell one together with the byte that began it. -/
lemma encode_ofNat {b : UInt8} {p : Pending} (hstart : startOf b = .inr p) {bytes : List UInt8}
    {v : Nat} (h : p.Ends bytes v) : encode (Char.ofNat v) = b :: bytes := by
  obtain ⟨hvalid, hspelling⟩ := spelling_eq_cons_iff.mpr (.inr ⟨p, hstart, h⟩)
  rw [encode_eq, toNat_ofNat hvalid, hspelling]

/-- The character that is left pending can go on. -/
lemma exists_takes {b : UInt8} {p : Pending} (hstart : startOf b = .inr p) : ∃ b, p.Takes b := by
  refine ⟨p.low, Pending.takes_iff.mpr ⟨Nat.le_refl _, ?_⟩⟩
  obtain ⟨-, -, rfl⟩ | ⟨-, -, rfl⟩ | ⟨-, -, rfl⟩ := startOf_eq_inr_iff.mp hstart <;> dsimp only
  · decide
  · split_ifs
    · omega
    all_goals decide
  · split_ifs
    · omega
    all_goals decide

/-- A byte that is decoded by itself is ASCII, or begins no character and is replaced. -/
lemma startOf_eq_inl {b : UInt8} {c : Char} (h : startOf b = .inl c) :
    encode c = [b] ∨ ¬ Begins [b] ∧ c = replacement := by
  by_cases hb : b.toNat < 0x80
  · exact .inl (encode_eq_cons_iff.mpr (.inl ⟨h, hb, rfl⟩))
  · refine .inr ⟨?_, ?_⟩
    · rintro ⟨c', bytes, hbytes⟩
      obtain ⟨-, hlt, -⟩ | ⟨p, hp, -⟩ := encode_eq_cons_iff.mp hbytes.symm
      · exact hb hlt
      · rw [h] at hp; cases hp
    · rw [startOf_eq, if_neg hb] at h
      split_ifs at h <;> exact (Sum.inl.inj h).symm

/-! ### The reader and the rules -/

lemma decodeFrom_cons_of_inl {b : UInt8} {c : Char} (h : startOf b = .inl c)
    (rest : List UInt8) : decodeFrom none (b :: rest) = c :: decodeFrom none rest := by
  rw [decodeFrom, h]

lemma decodeFrom_cons_of_inr {b : UInt8} {p : Pending} (h : startOf b = .inr p)
    (rest : List UInt8) : decodeFrom none (b :: rest) = decodeFrom (some p) rest := by
  rw [decodeFrom, h]

/-- A character is decoded from its bytes. -/
lemma decodeFrom_encode_append (c : Char) (rest : List UInt8) :
    decodeFrom none (encode c ++ rest) = c :: decodeFrom none rest := by
  obtain ⟨b, bytes, hbytes⟩ : ∃ b bytes, encode c = b :: bytes :=
    List.exists_cons_of_ne_nil String.utf8EncodeChar_ne_nil
  rw [hbytes, List.cons_append]
  obtain ⟨hstart, -, rfl⟩ | ⟨p, hstart, hends⟩ := encode_eq_cons_iff.mp hbytes
  · exact decodeFrom_cons_of_inl hstart rest
  · rw [decodeFrom_cons_of_inr hstart, hends.decodeFrom_append, Char.ofNat_toNat]

/-- The beginning of a character that does not go on is replaced. -/
lemma decodeFrom_append_of_longest {part rest : List UInt8} (ne_nil : part ≠ [])
    (begins : ∃ c, part <+: encode c ∧ part ≠ encode c)
    (longest : ∀ b ∈ rest.head?, ¬ Begins (part ++ [b])) :
    decodeFrom none (part ++ rest) = replacement :: decodeFrom none rest := by
  obtain ⟨b, part, rfl⟩ := List.exists_cons_of_ne_nil ne_nil
  obtain ⟨c, ⟨tail, htail⟩, hne⟩ := begins
  obtain ⟨x, tail, rfl⟩ : ∃ x xs, tail = x :: xs :=
    List.exists_cons_of_ne_nil fun h => hne (by rw [← htail, h, List.append_nil])
  obtain ⟨-, -, h⟩ | ⟨p, hstart, hends⟩ := encode_eq_cons_iff.mp htail.symm
  · simp at h
  · rw [List.cons_append, decodeFrom_cons_of_inr hstart]
    refine Pending.decodeFrom_append_of_broken ⟨x, tail, _, hends⟩ fun y hy bytes v h => ?_
    refine longest y hy ⟨Char.ofNat v, bytes, ?_⟩
    rw [encode_ofNat hstart h]
    simp

/-- All bytes are decoded by the rules. -/
lemma exists_decodes (bytes : List UInt8) : ∃ cs, Decodes bytes cs := by
  induction hn : bytes.length using Nat.strongRecOn generalizing bytes with
  | ind n ih =>
  subst hn
  cases bytes with
  | nil => exact ⟨[], .nil⟩
  | cons b tail =>
      cases hstart : startOf b with
      | inl c =>
          obtain ⟨cs, hcs⟩ := ih _ (Nat.lt_succ_self _) tail rfl
          obtain hc | ⟨hstray, -⟩ := startOf_eq_inl hstart
          · exact ⟨c :: cs, by simpa [hc] using Decodes.char c hcs⟩
          · exact ⟨_, .stray hstray hcs⟩
      | inr p =>
          obtain ⟨bytes, rest, v, rfl, hends⟩ | ⟨bytes, rest, rfl, ⟨x, bytes', v, hends⟩, hrest⟩ :=
            Pending.ends_or_broken (exists_takes hstart) tail
          all_goals
            have hlt : rest.length < (b :: (bytes ++ rest)).length := by
              rw [List.length_cons, List.length_append]
              omega
            obtain ⟨cs, hcs⟩ := ih _ hlt rest rfl
          · have hchar := Decodes.char (Char.ofNat v) hcs
            rw [encode_ofNat hstart hends] at hchar
            exact ⟨_, hchar⟩
          · refine ⟨_, Decodes.broken (List.cons_ne_nil b bytes) ?_ ?_ hcs⟩
            · refine ⟨Char.ofNat v, ⟨x :: bytes', ?_⟩, ?_⟩ <;> rw [encode_ofNat hstart hends]
              · rfl
              · simp
            · rintro y hy ⟨c, suffix, hsuffix⟩
              rw [List.append_assoc, List.cons_append, List.singleton_append] at hsuffix
              obtain ⟨-, -, h⟩ | ⟨p', hp', h⟩ := encode_eq_cons_iff.mp hsuffix.symm
              · simp at h
              · obtain rfl := Sum.inr.inj (hstart.symm.trans hp')
                exact hrest y hy suffix _ h

/-- Bytes are decoded by the rules, which leave no choice. -/
theorem decodes_iff {bytes : List UInt8} {cs : List Char} :
    Decodes bytes cs ↔ decodeFrom none bytes = cs := by
  have hdecoded {bytes : List UInt8} {cs : List Char} (h : Decodes bytes cs) :
      decodeFrom none bytes = cs := by
    induction h with
    | nil => rfl
    | char c _ ih => rw [decodeFrom_encode_append, ih]
    | broken ne_nil begins longest _ ih =>
        rw [decodeFrom_append_of_longest ne_nil begins longest, ih]
    | @stray b rest cs begins _ ih =>
        cases hstart : startOf b with
        | inl c =>
            obtain hc | ⟨-, rfl⟩ := startOf_eq_inl hstart
            · exact absurd ⟨c, by rw [hc]⟩ begins
            · rw [decodeFrom_cons_of_inl hstart, ih]
        | inr p =>
            obtain ⟨x, hx⟩ := exists_takes hstart
            obtain ⟨tail, v, hends⟩ := hx.exists_ends
            exact absurd ⟨Char.ofNat v, x :: tail, (encode_ofNat hstart hends).symm⟩ begins
  refine ⟨hdecoded, ?_⟩
  rintro rfl
  obtain ⟨cs, h⟩ := exists_decodes bytes
  rwa [hdecoded h]

/-- The bytes of a text are decoded to it. -/
theorem decodeFrom_flatMap_encode (cs : List Char) : decodeFrom none (cs.flatMap encode) = cs := by
  induction cs with
  | nil => rfl
  | cons c cs ih => rw [List.flatMap_cons, decodeFrom_encode_append, ih]

end PhpIndex.Text.Utf8
