import ScriptedTemplate.Proofs.Slice.Escape
import Mathlib.Logic.Function.Iterate

/-
  The indent of a text — what trimming takes from the text before it is escaped

  Trimming works on a payload, where a line end is written as two characters. On the
  text itself it takes the spaces in front together with the line end directly
  behind them, LF or CR LF, and nothing when no line end stands there.

  What is proved:
    1. `dropIndent_escape` — trimming the payload of a text gives the payload of the
       text without its indent.
    2. `trimLeading_iterate_ofText` — a text slice that is trimmed any number of times
       is the slice of the text from which as many indents are taken; what the indent
       of a text is, `Indented` says by its form.
-/

namespace ScriptedTemplate

namespace Slice

/-- What stands behind the spaces a text starts with and the line end directly
after them, if there is one. -/
def behindIndent? : Text → Option Text
  | ' ' :: t => behindIndent? t
  | '\n' :: t => some t
  | '\r' :: '\n' :: t => some t
  | _ => none

/-- The text without the spaces in front and the line end after them; without such
a line end, the text itself. -/
def unindent (t : Text) : Text := (behindIndent? t).getD t

/-- A character of which an indent is made. -/
def IsIndent (c : Char) : Prop := c = ' ' ∨ c = '\r' ∨ c = '\n'

theorem exists_indent {t u : Text} (h : behindIndent? t = some u) :
    ∃ v, t = v ++ u ∧ ∀ c ∈ v, IsIndent c := by
  induction t using behindIndent?.induct with
  | case1 t ih =>
    obtain ⟨v, rfl, hv⟩ := ih h
    exact ⟨' ' :: v, rfl, List.forall_mem_cons.mpr ⟨.inl rfl, hv⟩⟩
  | case2 t =>
    cases h
    exact ⟨['\n'], rfl, by simp [IsIndent]⟩
  | case3 t =>
    cases h
    exact ⟨['\r', '\n'], rfl, by simp [IsIndent]⟩
  | case4 t hs hn hr =>
    rw [behindIndent?] at h
    · cases h
    · exact hs
    · exact hn
    · exact hr

theorem exists_unindent (t : Text) : ∃ v, t = v ++ unindent t ∧ ∀ c ∈ v, IsIndent c := by
  cases h : behindIndent? t with
  | none =>
    refine ⟨[], ?_, by simp⟩
    rw [unindent, h]
    rfl
  | some u =>
    rw [unindent, h]
    exact exists_indent h

theorem behindIndent?_append {c : Char} (hc : ¬ IsIndent c) (t u : Text) :
    behindIndent? (t ++ c :: u) = (behindIndent? t).map (· ++ c :: u) := by
  induction t using behindIndent?.induct with
  | case1 t ih => exact ih
  | case2 t => rfl
  | case3 t => rfl
  | case4 t hs hn hr =>
    -- The text in front is no indent, and `c` does not make it one.
    rw [behindIndent?.eq_4 t hs hn hr, behindIndent?]
    · rfl
    · intro v hv
      rcases List.append_eq_cons_iff.mp hv with ⟨rfl, hcons⟩ | ⟨w, rfl, -⟩
      · exact hc (.inl (List.cons.inj hcons).1)
      · exact hs w rfl
    · intro v hv
      rcases List.append_eq_cons_iff.mp hv with ⟨rfl, hcons⟩ | ⟨w, rfl, -⟩
      · exact hc (.inr (.inr (List.cons.inj hcons).1))
      · exact hn w rfl
    · intro v hv
      rcases List.append_eq_cons_iff.mp hv with ⟨rfl, hcons⟩ | ⟨w, rfl, hw⟩
      · exact hc (.inr (.inl (List.cons.inj hcons).1))
      · rcases List.append_eq_cons_iff.mp hw.symm with ⟨rfl, hcons⟩ | ⟨w, rfl, -⟩
        · exact hc (.inr (.inr (List.cons.inj hcons).1))
        · exact hr w rfl

theorem unindent_append {c : Char} (hc : ¬ IsIndent c) (t u : Text) :
    unindent (t ++ c :: u) = unindent t ++ c :: u := by
  rw [unindent, unindent, behindIndent?_append hc]
  cases behindIndent? t <;> rfl

/-! ## Trimming the payload -/

/-- The payload of a text with an indent: spaces, the token of a line feed, and the
payload of what stands behind. -/
theorem dropWhile_escape {t u : Text} (h : behindIndent? t = some u) :
    (escape t).dropWhile (· == ' ') = '\\' :: 'n' :: escape u := by
  induction t using behindIndent?.induct with
  | case1 t ih =>
    rw [escape_plain (by decide) (by decide) (by decide) (by simp), List.dropWhile_cons_of_pos rfl]
    exact ih h
  | case2 t =>
    cases h
    rfl
  | case3 t =>
    cases h
    rfl
  | case4 t hs hn hr =>
    rw [behindIndent?.eq_4 t hs hn hr] at h
    cases h

/-- The payload of a text without an indent does not begin so. A backslash that the
text begins with is written as two. -/
theorem dropWhile_escape_ne {t : Text} (h : behindIndent? t = none) (v : Text) :
    (escape t).dropWhile (· == ' ') ≠ '\\' :: 'n' :: v := by
  induction t using behindIndent?.induct with
  | case1 t ih =>
    rw [escape_plain (by decide) (by decide) (by decide) (by simp), List.dropWhile_cons_of_pos rfl]
    exact ih h
  | case2 t => cases h
  | case3 t => cases h
  | case4 t hs hn hr =>
    cases t using escape.fun_cases with
    | case1 => intro hv; cases hv
    | case2 t => intro hv; cases hv
    | case3 t => intro hv; cases hv
    | case4 t => exact absurd rfl (hn t)
    | case5 t => exact absurd rfl (hr t)
    | case6 c t hb hq hn' hr' =>
      have hc : (c == ' ') = false := by
        rw [beq_eq_false_iff_ne]
        rintro rfl
        exact hs t rfl
      rw [escape_plain hb hq hn' hr', List.dropWhile_cons_of_neg (by simp [hc])]
      intro hv
      exact hb (List.cons.inj hv).1

/-- Trimming the payload of a text gives the payload of the text without its
indent. -/
theorem dropIndent_escape (raw : Text) : dropIndent (escape raw) = escape (unindent raw) := by
  cases h : behindIndent? raw with
  | none =>
    rw [unindent, h, dropIndent]
    split
    · next v hv => exact absurd hv (dropWhile_escape_ne h v)
    · rfl
  | some u =>
    rw [unindent, h, dropIndent, dropWhile_escape h]
    rfl

theorem trimLeading_ofText (raw : Text) : (ofText raw).trimLeading = ofText (unindent raw) :=
  congrArg text (dropIndent_escape raw)

/-! ## The form of an indent -/

/-- The text begins with spaces, or without any, and a line end; `rest` stands
behind. -/
def Indented (t rest : Text) : Prop :=
  ∃ n : Nat, t = List.replicate n ' ' ++ ['\n'] ++ rest ∨
    t = List.replicate n ' ' ++ ['\r', '\n'] ++ rest

/-- What is left of a text that loses its indent, if it has one. -/
def Strips (t left : Text) : Prop := Indented t left ∨ left = t ∧ ∀ rest, ¬ Indented t rest

theorem behindIndent?_replicate (n : Nat) (t : Text) :
    behindIndent? (List.replicate n ' ' ++ t) = behindIndent? t := by
  induction n with
  | zero => rfl
  | succ n ih => exact ih

theorem behindIndent?_eq_some_iff {t u : Text} : behindIndent? t = some u ↔ Indented t u := by
  constructor
  · intro h
    induction t using behindIndent?.induct with
    | case1 t ih =>
      obtain ⟨n, hn⟩ := ih h
      refine ⟨n + 1, hn.imp ?_ ?_⟩
      · intro hline
        rw [hline]
        rfl
      · intro hline
        rw [hline]
        rfl
    | case2 t =>
      cases h
      exact ⟨0, .inl rfl⟩
    | case3 t =>
      cases h
      exact ⟨0, .inr rfl⟩
    | case4 t hs hn hr =>
      rw [behindIndent?.eq_4 t hs hn hr] at h
      cases h
  · rintro ⟨n, rfl | rfl⟩
    · rw [List.append_assoc, behindIndent?_replicate]
      rfl
    · rw [List.append_assoc, behindIndent?_replicate]
      rfl

theorem strips_iff {t left : Text} : Strips t left ↔ unindent t = left := by
  simp only [Strips, ← behindIndent?_eq_some_iff, unindent]
  cases behindIndent? t with
  | none => simp [eq_comm]
  | some u => simp

/-- Trimming commutes with escaping. A text slice that is trimmed `n` times is the slice
of the text that has lost its indent `n` times, where an indent is any number of spaces
with LF or CR LF directly behind them, and a text that does not begin so loses nothing. -/
theorem trimLeading_iterate_ofText (raw : Text) :
    (∀ left, Strips raw left ↔ unindent raw = left) ∧
    ∀ n, trimLeading^[n] (ofText raw) = ofText (unindent^[n] raw) := by
  have hsemiconj : Function.Semiconj ofText unindent trimLeading :=
    fun t => (trimLeading_ofText t).symm
  exact ⟨fun left => strips_iff, fun n => (hsemiconj.iterate_right n raw).symm⟩

/-- A backslash before an `n` is no line end, and a return not before a line feed is
neither. -/
example : trimLeading^[2] (ofText [' ', '\r', '\n', ' ', '\n', '\r', '\r', '\n']) =
      ofText ['\r', '\r', '\n'] ∧
    (ofText ['\r', '\r', '\n']).trimLeading = ofText ['\r', '\r', '\n'] ∧
    (ofText [' ', '\\', 'n']).trimLeading = ofText [' ', '\\', 'n'] := by
  decide

end Slice

end ScriptedTemplate
