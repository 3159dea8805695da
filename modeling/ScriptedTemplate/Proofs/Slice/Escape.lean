import ScriptedTemplate.Slice.Basic
import ScriptedTemplate.Script.Literal

/-
  The inside of a literal — what may stand between two quotes

  `Inside` is the grammar of plain literals: characters other than a quote and a
  backslash, and the three escapes for a backslash, a quote and a line feed. The
  payload of every text slice is of this kind, and an output payload may be, with
  its quotes.

  What is proved:
    1. `inside_escape`, `unescape_escape` — what is escaped is the inside of a
       literal, and reading it back gives the text up to line ends.
    2. `closeString_append` — where a string is closed does not depend on what
       follows it.
    3. `Inside.closeString`, `Inside.unescape?` — the reader of programs finds the
       end of such a literal at its closing quote and gives it the same value.
-/

namespace ScriptedTemplate

namespace Slice

/-- The inside of a literal in which nothing but a backslash, a quote and a line
feed is escaped. -/
inductive Inside : Text → Prop where
  | nil : Inside []
  | plain {c : Char} {q : Text} : c ≠ '"' → c ≠ '\\' → Inside q → Inside (c :: q)
  | backslash {q : Text} : Inside q → Inside ('\\' :: '\\' :: q)
  | quote {q : Text} : Inside q → Inside ('\\' :: '"' :: q)
  | lineFeed {q : Text} : Inside q → Inside ('\\' :: 'n' :: q)

theorem escape_plain {c : Char} {t : Text} (hb : c ≠ '\\') (hq : c ≠ '"') (hn : c ≠ '\n')
    (hr : ∀ u, c = '\r' → t ≠ '\n' :: u) : escape (c :: t) = c :: escape t := by
  rw [escape]
  · exact hb
  · exact hq
  · exact hn
  · intro u hc ht
    exact hr u hc ht

theorem normalize_plain {c : Char} {t : Text} (hr : ∀ u, c = '\r' → t ≠ '\n' :: u) :
    normalize (c :: t) = c :: normalize t := by
  rw [normalize]
  intro u hc ht
  exact hr u hc ht

theorem unescape_plain {c : Char} (hb : c ≠ '\\') (t : Text) :
    unescape (c :: t) = c :: unescape t := by
  rw [unescape]
  · intro u hc
    exact absurd hc hb
  · intro d u hc
    exact absurd hc hb

theorem inside_escape (raw : Text) : Inside (escape raw) := by
  induction raw using escape.induct with
  | case1 => exact .nil
  | case2 t ih => exact .backslash ih
  | case3 t ih => exact .quote ih
  | case4 t ih => exact .lineFeed ih
  | case5 t ih =>
    rw [escape]
    exact ih
  | case6 c t hb hq hn hr ih =>
    rw [escape_plain hb hq hn hr]
    exact .plain hq hb ih

/-- Reading back what was escaped gives the text with every CR LF turned into
LF. -/
theorem unescape_escape (raw : Text) : unescape (escape raw) = normalize raw := by
  induction raw using escape.induct with
  | case1 => rfl
  | case2 t ih =>
    rw [normalize_plain (by simp), ← ih]
    rfl
  | case3 t ih =>
    rw [normalize_plain (by simp), ← ih]
    rfl
  | case4 t ih =>
    rw [normalize_plain (by simp), ← ih]
    rfl
  | case5 t ih =>
    rw [escape, normalize]
    exact ih
  | case6 c t hb hq hn hr ih =>
    rw [escape_plain hb hq hn hr, unescape_plain hb, normalize_plain hr, ih]

end Slice

/-! ## Closed strings -/

namespace Literal

variable {q : Char}

theorem closeString_delimiter (t : Text) : closeString q (q :: t) = some ([], t) := by
  cases t <;> simp [closeString]

theorem closeString_escape (hq : '\\' ≠ q) (d : Char) (t : Text) : closeString q ('\\' :: d :: t) =
    (closeString q t).map fun found => ('\\' :: d :: found.1, found.2) := by
  simp [closeString, hq]

theorem closeString_plain {c : Char} (hq : c ≠ q) (hslash : c ≠ '\\') (t : Text) :
    closeString q (c :: t) = (closeString q t).map fun found => (c :: found.1, found.2) := by
  cases t <;> simp [closeString, hq, hslash]

/-- A string that is closed is closed at the same place whatever follows the text. -/
theorem closeString_append (u : Text) : ∀ {t inside rest : Text},
    closeString q t = some (inside, rest) → closeString q (t ++ u) = some (inside, rest ++ u) := by
  intro t
  induction t using closeString.induct q with
  | case1 =>
    intro inside rest h
    cases h
  | case2 t =>
    intro inside rest h
    rw [closeString_delimiter] at h
    cases h
    exact closeString_delimiter _
  | case3 hq =>
    intro inside rest h
    simp [closeString, hq] at h
  | case4 d t hq ih =>
    intro inside rest h
    rw [closeString_escape hq] at h
    obtain ⟨found, hfound, heq⟩ := Option.map_eq_some_iff.mp h
    cases heq
    rw [List.cons_append, List.cons_append, closeString_escape hq, ih hfound]
    rfl
  | case5 c t hq hslash ih =>
    intro inside rest h
    rw [closeString_plain hq hslash] at h
    obtain ⟨found, hfound, heq⟩ := Option.map_eq_some_iff.mp h
    cases heq
    rw [List.cons_append, closeString_plain hq hslash, ih hfound]
    rfl

end Literal

namespace Slice.Inside

theorem closeString {q : Text} (h : Inside q) (k : Text) :
    Literal.closeString '"' (q ++ '"' :: k) = some (q, k) := by
  induction h with
  | nil => exact Literal.closeString_delimiter k
  | plain hq hb _ ih =>
    rw [List.cons_append, Literal.closeString_plain hq hb, ih]
    rfl
  | backslash _ ih =>
    rw [List.cons_append, List.cons_append, Literal.closeString_escape (by decide), ih]
    rfl
  | quote _ ih =>
    rw [List.cons_append, List.cons_append, Literal.closeString_escape (by decide), ih]
    rfl
  | lineFeed _ ih =>
    rw [List.cons_append, List.cons_append, Literal.closeString_escape (by decide), ih]
    rfl

theorem unescapeFrom_plain {c : Char} (hb : c ≠ '\\') (fuel : Nat) (t : Text) :
    Literal.unescapeFrom (fuel + 1) none (c :: t) =
      (Literal.unescapeFrom fuel none t).map (c :: ·) := by
  rw [Literal.unescapeFrom]
  all_goals simp [hb]

theorem unescapeFrom {q : Text} (h : Inside q) : ∀ {fuel : Nat}, q.length < fuel →
    Literal.unescapeFrom fuel none q = some (Slice.unescape q) := by
  induction h with
  | nil =>
    intro fuel hfuel
    obtain ⟨fuel, rfl⟩ := Nat.exists_eq_succ_of_ne_zero (Nat.ne_of_gt hfuel)
    rfl
  | @plain c q hq hb _ ih =>
    intro fuel hfuel
    obtain ⟨fuel, rfl⟩ := Nat.exists_eq_succ_of_ne_zero (Nat.ne_zero_of_lt hfuel)
    have hrest : q.length < fuel := by simpa using hfuel
    rw [unescape_plain hb, unescapeFrom_plain hb, ih hrest]
    rfl
  | @backslash q _ ih =>
    intro fuel hfuel
    obtain ⟨fuel, rfl⟩ := Nat.exists_eq_succ_of_ne_zero (Nat.ne_zero_of_lt hfuel)
    have hrest : q.length < fuel := by simp at hfuel; omega
    simp [Literal.unescapeFrom, Literal.shortEscape?, Slice.unescape, ih hrest]
  | @quote q _ ih =>
    intro fuel hfuel
    obtain ⟨fuel, rfl⟩ := Nat.exists_eq_succ_of_ne_zero (Nat.ne_zero_of_lt hfuel)
    have hrest : q.length < fuel := by simp at hfuel; omega
    simp [Literal.unescapeFrom, Literal.shortEscape?, Slice.unescape, ih hrest]
  | @lineFeed q _ ih =>
    intro fuel hfuel
    obtain ⟨fuel, rfl⟩ := Nat.exists_eq_succ_of_ne_zero (Nat.ne_zero_of_lt hfuel)
    have hrest : q.length < fuel := by simp at hfuel; omega
    simp [Literal.unescapeFrom, Literal.shortEscape?, Slice.unescape, ih hrest]

theorem unescape? {q : Text} (h : Inside q) : Literal.unescape? q = some (Slice.unescape q) :=
  h.unescapeFrom (Nat.lt_succ_self _)

end Slice.Inside

end ScriptedTemplate
