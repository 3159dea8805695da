import ScriptedTemplate.Proofs.Slice.Escape
import ScriptedTemplate.Proofs.Text.Replacement

/-
  Payloads of texts — confined to their literal, and read back from it

  A program holds the payload of a text between two quotes. Whatever the text is,
  the reader of literals does not leave the payload before the second quote, and it
  reads back the text with its line ends as LF. Each character of that text has a
  payload of its own: a carriage return is dropped before anything is escaped.

  What is proved: `payload_confined_and_read_back` — with any text behind it, the
  payload ends at the quote that follows it; it holds no line feed and three kinds
  of escapes only; its value is the text with CR LF replaced by LF; and two texts
  have one slice exactly when they agree after that replacement.
-/

namespace ScriptedTemplate

namespace Slice

/-- The characters that backslashes take with them. -/
def escapes : Text → Text
  | '\\' :: c :: t => c :: escapes t
  | _ :: t => escapes t
  | [] => []

/-- The payload of one character. -/
def escapedChar : Char → Text
  | '\\' => ['\\', '\\']
  | '"' => ['\\', '"']
  | '\n' => ['\\', 'n']
  | c => [c]

/-! ## Escapes -/

theorem escapes_plain {c : Char} (hb : c ≠ '\\') (t : Text) : escapes (c :: t) = escapes t := by
  rw [escapes]
  intro d u hc
  exact absurd hc hb

/-- Inside a literal a backslash, a quote and an `n` are escaped, and nothing else. -/
theorem Inside.escapes_subset {p : Text} (h : Inside p) : escapes p ⊆ ['\\', '"', 'n'] := by
  induction h with
  | nil => exact List.nil_subset _
  | plain _ hb _ ih =>
    rw [escapes_plain hb]
    exact ih
  | backslash _ ih => exact List.cons_subset.mpr ⟨by decide, ih⟩
  | quote _ ih => exact List.cons_subset.mpr ⟨by decide, ih⟩
  | lineFeed _ ih => exact List.cons_subset.mpr ⟨by decide, ih⟩

/-! ## Characters -/

theorem escapedChar_plain {c : Char} (hb : c ≠ '\\') (hq : c ≠ '"') (hn : c ≠ '\n') :
    escapedChar c = [c] := by
  rw [escapedChar]
  · exact hb
  · exact hq
  · exact hn

theorem lineFeed_notMem_escapedChar (c : Char) : '\n' ∉ escapedChar c := by
  cases c using escapedChar.fun_cases with
  | case1 => decide
  | case2 => decide
  | case3 => decide
  | case4 c hb hq hn =>
    rw [escapedChar_plain hb hq hn, List.mem_singleton]
    exact Ne.symm hn

/-- A text is escaped by escaping the characters that are left of it when its line
ends are LF. -/
theorem escape_eq_flatMap (t : Text) : escape t = (normalize t).flatMap escapedChar := by
  induction t using escape.induct with
  | case1 => rfl
  | case2 t ih =>
    rw [normalize_plain (by simp), escape, ih]
    rfl
  | case3 t ih =>
    rw [normalize_plain (by simp), escape, ih]
    rfl
  | case4 t ih =>
    rw [normalize_plain (by simp), escape, ih]
    rfl
  | case5 t ih =>
    rw [escape, normalize]
    exact ih
  | case6 c t hb hq hn hr ih =>
    rw [escape_plain hb hq hn hr, normalize_plain hr, List.flatMap_cons,
      escapedChar_plain hb hq hn, ih]
    rfl

theorem lineFeed_notMem_escape (t : Text) : '\n' ∉ escape t := by
  rw [escape_eq_flatMap, List.mem_flatMap]
  rintro ⟨c, -, hc⟩
  exact lineFeed_notMem_escapedChar c hc

/-- Texts with the same payload are the same up to line ends, and the other way
round. -/
theorem escape_eq_escape_iff {t u : Text} : escape t = escape u ↔ normalize t = normalize u := by
  constructor
  · intro h
    rw [← unescape_escape, ← unescape_escape, h]
  · intro h
    rw [escape_eq_flatMap, escape_eq_flatMap, h]

/-! ## Texts put together -/

/-- Two texts are escaped one by one, unless a line end stands across the seam. -/
theorem escape_append {a b : Text} (h : a.getLast? = some '\r' → b.head? ≠ some '\n') :
    escape (a ++ b) = escape a ++ escape b := by
  have hlast : ∀ {c : Char} {t : Text}, t.getLast? = some '\r' → (c :: t).getLast? = some '\r' := by
    intro c t ht
    rw [List.getLast?_cons, ht]
    rfl
  induction a using escape.induct with
  | case1 => rfl
  | case2 t ih =>
    rw [List.cons_append, escape, escape, ih fun ht => h (hlast ht)]
    rfl
  | case3 t ih =>
    rw [List.cons_append, escape, escape, ih fun ht => h (hlast ht)]
    rfl
  | case4 t ih =>
    rw [List.cons_append, escape, escape, ih fun ht => h (hlast ht)]
    rfl
  | case5 t ih =>
    have ih := ih fun ht => h (hlast ht)
    rw [List.cons_append, List.cons_append, escape, escape]
    exact ih
  | case6 c t hb hq hn hr ih =>
    have hr' : ∀ u, c = '\r' → t ++ b ≠ '\n' :: u := by
      rintro u rfl hu
      rcases List.append_eq_cons_iff.mp hu with ⟨rfl, rfl⟩ | ⟨v, rfl, -⟩
      · exact h rfl rfl
      · exact hr v rfl rfl
    rw [List.cons_append, escape_plain hb hq hn hr', escape_plain hb hq hn hr,
      ih fun ht => h (hlast ht)]
    rfl

/-- A line end across the seam is escaped as one: the carriage return before it is
dropped. -/
theorem escape_append_lineEnd {a b : Text} (ha : a.getLast? = some '\r')
    (hb : b.head? = some '\n') : ∃ p, escape a = p ++ ['\r'] ∧ escape (a ++ b) = p ++ escape b := by
  obtain ⟨a, rfl⟩ := List.getLast?_eq_some_iff.mp ha
  obtain ⟨b, rfl⟩ := List.head?_eq_some_iff.mp hb
  refine ⟨escape a, escape_append (by simp), ?_⟩
  calc escape (a ++ ['\r'] ++ '\n' :: b) = escape (a ++ '\r' :: '\n' :: b) := by simp
    _ = escape a ++ escape ('\r' :: '\n' :: b) := escape_append (by simp)
    _ = escape a ++ escape ('\n' :: b) := rfl

/-! ## Line ends -/

/-- Line ends become LF by replacing CR LF from left to right. -/
theorem normalize_eq_replaced (t : Text) : normalize t = Text.replaced ['\r', '\n'] ['\n'] t := by
  have hpair : (['\r', '\n'] : Text) ≠ [] := by simp
  induction t using normalize.induct with
  | case1 => rw [Text.replaced_nil hpair, normalize]
  | case2 t ih =>
    -- The LF of the pair is not replaced once more.
    have halone : ¬ ['\r', '\n'] <+: '\n' :: t := by simp
    rw [normalize, ih, Text.replaced_cons hpair _ halone]
    exact (Text.replaced_append hpair ['\n'] t).symm
  | case3 c t hr ih =>
    have halone : ¬ ['\r', '\n'] <+: c :: t := by
      rintro ⟨u, hu⟩
      obtain ⟨rfl, rfl⟩ := List.cons.inj hu
      exact hr u rfl rfl
    rw [normalize_plain hr, Text.replaced_cons hpair _ halone, ih]

end Slice

/-- The payload of a text is confined to its literal and read back from it. Behind the
payload the literal ends at the next quote, whatever follows; the payload holds no line
feed and no escape but that of a backslash, a quote and a line feed; and reading it
back, by the plain rule or by that of programs, gives the text with every CR LF
replaced by LF. So two texts have the same slice exactly when they are the same after
that replacement. -/
theorem payload_confined_and_read_back (raw : Text) :
    ∃ p, Slice.ofText raw = .text p ∧
      (∀ behind, Literal.closeString '"' (p ++ '"' :: behind) = some (p, behind)) ∧
      '\n' ∉ p ∧
      Slice.escapes p ⊆ ['\\', '"', 'n'] ∧
      Slice.unescape p = Text.replaced ['\r', '\n'] ['\n'] raw ∧
      Literal.unescape? p = some (Text.replaced ['\r', '\n'] ['\n'] raw) ∧
      ∀ other, Slice.ofText raw = Slice.ofText other ↔
        Text.replaced ['\r', '\n'] ['\n'] raw = Text.replaced ['\r', '\n'] ['\n'] other := by
  have hinside := Slice.inside_escape raw
  have hvalue : Slice.unescape (Slice.escape raw) = Text.replaced ['\r', '\n'] ['\n'] raw :=
    (Slice.unescape_escape raw).trans (Slice.normalize_eq_replaced raw)
  refine ⟨Slice.escape raw, rfl, hinside.closeString, Slice.lineFeed_notMem_escape raw,
    hinside.escapes_subset, hvalue, ?_, ?_⟩
  · rw [hinside.unescape?, hvalue]
  · intro other
    rw [← Slice.normalize_eq_replaced, ← Slice.normalize_eq_replaced,
      ← Slice.escape_eq_escape_iff]
    exact ⟨Slice.text.inj, congrArg Slice.text⟩

/-- The text `\"` CR CR LF `\n` CR. Its backslashes stand before a quote and before an
`n`, of its carriage returns only the one before the line feed is dropped, and the text
that is read back has a payload of its own. -/
theorem payload_confined_and_read_back_backslashes :
    ∃ p, Slice.ofText ['\\', '"', '\r', '\r', '\n', '\\', 'n', '\r'] = .text p ∧
      p = ['\\', '\\', '\\', '"', '\r', '\\', 'n', '\\', '\\', 'n', '\r'] ∧
      Literal.closeString '"' (p ++ ['"', '"', ')']) = some (p, ['"', ')']) ∧
      Slice.escapes p ⊆ ['\\', '"', 'n'] ∧
      Literal.unescape? p = some ['\\', '"', '\r', '\n', '\\', 'n', '\r'] ∧
      Slice.ofText ['\\', '"', '\r', '\r', '\n', '\\', 'n', '\r'] ≠
        Slice.ofText ['\\', '"', '\r', '\n', '\\', 'n', '\r'] := by
  obtain ⟨p, hp, hclose, -, hescapes, -, hvalue, hsame⟩ :=
    payload_confined_and_read_back ['\\', '"', '\r', '\r', '\n', '\\', 'n', '\r']
  have hreplaced : Text.replaced ['\r', '\n'] ['\n']
      ['\\', '"', '\r', '\r', '\n', '\\', 'n', '\r'] =
        ['\\', '"', '\r', '\n', '\\', 'n', '\r'] := by decide
  refine ⟨p, hp, ?_, hclose _, hescapes, hreplaced ▸ hvalue, ?_⟩
  · cases hp
    decide
  · rw [ne_eq, hsame]
    decide

end ScriptedTemplate
