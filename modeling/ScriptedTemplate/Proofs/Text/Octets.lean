import ScriptedTemplate.Text.Octets

/-
  Octets — text is shown as itself

  Every character is written with as many bytes as its code needs, each byte within the
  bounds that the ones before it leave, so none of them breaks off.

  What is proved: `text_encoded` — the bytes of a text are shown as that text.
-/

namespace ScriptedTemplate

namespace Octets

variable {bs : List UInt8}

/-! ## One byte -/

theorem textFrom_first {n : Nat} (hn : n < 256) {p : Pending} (hp : begun? n = some p)
    (hwanted : p.wanted ≠ []) : textFrom .nothing (UInt8.ofNat n :: bs) = textFrom p bs := by
  obtain ⟨code, wanted⟩ := p
  cases wanted with
  | nil => exact absurd rfl hwanted
  | cons range rest =>
    have hstep : step .nothing (UInt8.ofNat n).toNat = ([], ⟨code, range :: rest⟩) := by
      rw [UInt8.toNat_ofNat_of_lt' hn, step]
      simp [Pending.nothing, hp, settle]
    rw [textFrom, hstep, List.nil_append]

theorem textFrom_later {code low high n : Nat} {next : Nat × Nat} {rest : List (Nat × Nat)}
    (hn : n < 256) (hlow : low ≤ n) (hhigh : n ≤ high) :
    textFrom ⟨code, (low, high) :: next :: rest⟩ (UInt8.ofNat n :: bs) =
      textFrom ⟨code * 64 + n % 64, next :: rest⟩ bs := by
  rw [textFrom, UInt8.toNat_ofNat_of_lt' hn]
  simp [step, settle, hlow, hhigh]

theorem textFrom_last {code low high n : Nat} (hn : n < 256) (hlow : low ≤ n) (hhigh : n ≤ high) :
    textFrom ⟨code, [(low, high)]⟩ (UInt8.ofNat n :: bs) =
      Char.ofNat (code * 64 + n % 64) :: textFrom .nothing bs := by
  rw [textFrom, UInt8.toNat_ofNat_of_lt' hn]
  simp [step, settle, hlow, hhigh]

/-! ## One character -/

theorem textFrom_one {v : Nat} (hv : v ≤ 0x7F) :
    textFrom .nothing (UInt8.ofNat v :: bs) = Char.ofNat v :: textFrom .nothing bs := by
  have hfirst : begun? v = some ⟨v, []⟩ := by
    simp only [begun?]
    rw [if_pos (by omega)]
  have hstep : step .nothing (UInt8.ofNat v).toNat = ([Char.ofNat v], .nothing) := by
    rw [UInt8.toNat_ofNat_of_lt' (by omega : v < 256), step]
    simp [Pending.nothing, hfirst, settle]
  rw [textFrom, hstep]
  rfl

theorem textFrom_two {v : Nat} (hlow : 0x80 ≤ v) (hhigh : v < 0x800) :
    textFrom .nothing (UInt8.ofNat (v / 64 % 32 + 0xC0) :: UInt8.ofNat (v % 64 + 0x80) :: bs) =
      Char.ofNat v :: textFrom .nothing bs := by
  have hfirst : begun? (v / 64 % 32 + 0xC0) = some ⟨v / 64, [later]⟩ := by
    have hcode : v / 64 % 32 + 0xC0 - 0xC0 = v / 64 := by omega
    simp only [begun?]
    rw [if_neg (by omega), if_neg (by omega), if_pos (by omega), hcode]
  rw [textFrom_first (by omega) hfirst (by simp), later,
    textFrom_last (by omega) (by omega) (by omega)]
  congr 2
  omega

theorem textFrom_three {v : Nat} (hlow : 0x800 ≤ v) (hhigh : v < 0x10000)
    (hvalid : v < 0xD800 ∨ 0xDFFF < v) :
    textFrom .nothing (UInt8.ofNat (v / 4096 % 16 + 0xE0) :: UInt8.ofNat (v / 64 % 64 + 0x80) ::
      UInt8.ofNat (v % 64 + 0x80) :: bs) = Char.ofNat v :: textFrom .nothing bs := by
  obtain ⟨low, high, hfirst, hsecond⟩ : ∃ low high,
      begun? (v / 4096 % 16 + 0xE0) = some ⟨v / 4096, [(low, high), later]⟩ ∧
      low ≤ v / 64 % 64 + 0x80 ∧ v / 64 % 64 + 0x80 ≤ high := by
    -- The bounds are narrower for the least codes and for those beside the surrogates.
    have hcode : v / 4096 % 16 + 0xE0 - 0xE0 = v / 4096 := by omega
    simp only [begun?]
    rw [if_neg (by omega), if_neg (by omega), if_neg (by omega), if_pos (by omega), hcode]
    split
    · exact ⟨_, _, rfl, by omega, by omega⟩
    · split
      · exact ⟨_, _, rfl, by omega, by omega⟩
      · exact ⟨_, _, rfl, by omega, by omega⟩
  rw [textFrom_first (by omega) hfirst (by simp), later,
    textFrom_later (by omega) hsecond.1 hsecond.2,
    textFrom_last (by omega) (by omega) (by omega)]
  congr 2
  omega

theorem textFrom_four {v : Nat} (hlow : 0x10000 ≤ v) (hhigh : v < 0x110000) :
    textFrom .nothing (UInt8.ofNat (v / 262144 % 8 + 0xF0) ::
      UInt8.ofNat (v / 4096 % 64 + 0x80) :: UInt8.ofNat (v / 64 % 64 + 0x80) ::
      UInt8.ofNat (v % 64 + 0x80) :: bs) = Char.ofNat v :: textFrom .nothing bs := by
  obtain ⟨low, high, hfirst, hsecond⟩ : ∃ low high,
      begun? (v / 262144 % 8 + 0xF0) = some ⟨v / 262144, [(low, high), later, later]⟩ ∧
      low ≤ v / 4096 % 64 + 0x80 ∧ v / 4096 % 64 + 0x80 ≤ high := by
    -- The bounds are narrower for the least codes and for the greatest.
    have hcode : v / 262144 % 8 + 0xF0 - 0xF0 = v / 262144 := by omega
    simp only [begun?]
    rw [if_neg (by omega), if_neg (by omega), if_neg (by omega), if_neg (by omega),
      if_pos (by omega), hcode]
    split
    · exact ⟨_, _, rfl, by omega, by omega⟩
    · split
      · exact ⟨_, _, rfl, by omega, by omega⟩
      · exact ⟨_, _, rfl, by omega, by omega⟩
  rw [textFrom_first (by omega) hfirst (by simp), later,
    textFrom_later (by omega) hsecond.1 hsecond.2,
    textFrom_later (by omega) (by omega) (by omega),
    textFrom_last (by omega) (by omega) (by omega)]
  congr 2
  omega

theorem textFrom_encoded (c : Char) (bs : List UInt8) :
    textFrom .nothing (String.utf8EncodeChar c ++ bs) = c :: textFrom .nothing bs := by
  have hvalid : c.val.toNat < 0xD800 ∨ 0xDFFF < c.val.toNat ∧ c.val.toNat < 0x110000 := c.valid
  have hchar : Char.ofNat c.val.toNat = c := Char.ofNat_toNat c
  rw [String.utf8EncodeChar]
  generalize c.val.toNat = v at hvalid hchar
  subst hchar
  split
  · next hone => exact textFrom_one hone
  · split
    · exact textFrom_two (by omega) (by omega)
    · split
      · exact textFrom_three (by omega) (by omega) (by omega)
      · exact textFrom_four (by omega) (by omega)

/-- The bytes of a text are shown as that text. -/
theorem text_encoded (t : Text) : text (t.flatMap String.utf8EncodeChar) = t := by
  rw [text]
  induction t with
  | nil => rfl
  | cons c t ih => rw [List.flatMap_cons, textFrom_encoded, ih]

/-- A character that breaks off, and a byte with which none begins. -/
example : text [0x61, 0xE2, 0x82, 0x62, 0xFF] = ['a', replacement, 'b', replacement] := by decide

end Octets

end ScriptedTemplate
