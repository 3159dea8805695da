import ScriptedTemplate.Slice.Offsets
import Mathlib.Data.List.Basic

/-
  Offsets in texts — where a text can be cut

  A text that is made of parts can be cut at their widths, and the cuts are the
  parts; however wide the characters are, no other fact about offsets is needed to
  read a template. Cutting where the characters stand gives the first characters of
  a text and the last ones, as many as asked for or all there are.
-/

namespace ScriptedTemplate

namespace Text

/-- An offset between two characters of a text, or at one of its ends. -/
def IsBoundary (t : Text) (i : Nat) : Prop := ∃ a : Text, a <+: t ∧ a.bytes = i

/-! ## Widths -/

@[simp] theorem bytes_nil : bytes [] = 0 := rfl

@[simp] theorem bytes_cons (c : Char) (t : Text) : bytes (c :: t) = c.utf8Size + bytes t := rfl

@[simp] theorem bytes_append (a b : Text) : bytes (a ++ b) = bytes a + bytes b := by
  induction a with
  | nil => simp
  | cons c a ih => simp only [List.cons_append, bytes_cons, ih, Nat.add_assoc]

/-- A character has a width, so the rest of a cut is found by a smaller offset. -/
theorem exists_bytes_cons (c : Char) (a : Text) :
    ∃ n, bytes (c :: a) = n + 1 ∧ c.utf8Size ≤ n + 1 ∧ n + 1 - c.utf8Size = bytes a := by
  have hpos := c.utf8Size_pos
  refine ⟨bytes (c :: a) - 1, ?_⟩
  rw [bytes_cons]
  omega

theorem IsBoundary.le {t : Text} {i : Nat} (h : t.IsBoundary i) : i ≤ t.bytes := by
  obtain ⟨a, ⟨b, rfl⟩, rfl⟩ := h
  rw [bytes_append]
  exact Nat.le_add_right _ _

/-! ## Cuts -/

theorem before?_append (a b : Text) : before? (bytes a) (a ++ b) = some a := by
  induction a with
  | nil => rw [bytes_nil, before?]
  | cons c a ih =>
    obtain ⟨n, hn, hle, hrest⟩ := exists_bytes_cons c a
    rw [hn, List.cons_append, before?, if_pos hle, hrest, ih]
    rfl

theorem after?_append (a b : Text) : after? (bytes a) (a ++ b) = some b := by
  induction a with
  | nil => rw [bytes_nil, after?, List.nil_append]
  | cons c a ih =>
    obtain ⟨n, hn, hle, hrest⟩ := exists_bytes_cons c a
    rw [hn, List.cons_append, after?, if_pos hle, hrest, ih]

theorem cut?_append (a b t : Text) :
    cut? (bytes a) (bytes (a ++ b)) (a ++ b ++ t) = some b := by
  have hwidth : bytes (a ++ b) - bytes a = bytes b := by
    rw [bytes_append]
    exact Nat.add_sub_cancel_left _ _
  rw [cut?, if_pos (by rw [bytes_append]; exact Nat.le_add_right _ _), List.append_assoc,
    after?_append, Option.bind_some, hwidth, before?_append]

/-! ## Both ends -/

theorem placedFrom_append (a b : Text) : ∀ i : Nat,
    placedFrom i (a ++ b) = placedFrom i a ++ placedFrom (i + bytes a) b := by
  induction a with
  | nil => intro i; rfl
  | cons c a ih =>
    intro i
    rw [List.cons_append, placedFrom, ih, placedFrom, bytes_cons, Nat.add_assoc, List.cons_append]

theorem length_placedFrom (t : Text) : ∀ i : Nat, (placedFrom i t).length = t.length := by
  induction t with
  | nil => intro i; rfl
  | cons c t ih => intro i; exact congrArg (· + 1) (ih _)

theorem placedFrom_getElem? (a : Text) (c : Char) (b : Text) :
    (placedFrom 0 (a ++ c :: b))[a.length]? = some (bytes a, c) := by
  rw [placedFrom_append, List.getElem?_append_right (Nat.le_of_eq (length_placedFrom a 0)),
    length_placedFrom, Nat.sub_self, Nat.zero_add]
  rfl

/-- Every place of a text parts it into what is before it, a character and the
rest. -/
theorem exists_split {t : Text} {n : Nat} (h : n < t.length) :
    ∃ a c b, t = a ++ c :: b ∧ a.length = n := by
  refine ⟨t.take n, t[n], t.drop (n + 1), ?_, List.length_take_of_le (Nat.le_of_lt h)⟩
  rw [← List.drop_eq_getElem_cons h, List.take_append_drop]

theorem leading?_eq (n : Nat) (t : Text) : t.leading? n = some (t.first n) := by
  rw [leading?]
  rcases Nat.lt_or_ge n t.length with hlt | hge
  · obtain ⟨a, c, b, rfl, rfl⟩ := exists_split hlt
    rw [placedFrom_getElem?]
    simp only [before?_append, first, List.take_left]
  · rw [List.getElem?_eq_none (by rwa [length_placedFrom])]
    exact congrArg some (List.take_of_length_le hge).symm

theorem trailing?_eq (n : Nat) (t : Text) : t.trailing? n = some (t.last n) := by
  rw [trailing?]
  split
  · next hn =>
    subst hn
    rw [last, Nat.sub_zero, List.drop_length]
  · next hn =>
    rcases Nat.lt_or_ge (n - 1) t.length with hlt | hge
    · -- The `n`-th character from the end is the one before which all but `n` stand.
      have hfrom : t.length - n < t.length := by omega
      obtain ⟨a, c, b, rfl, hlen⟩ := exists_split hfrom
      have hplace : (a ++ c :: b).length - 1 - (n - 1) = a.length := by omega
      rw [List.getElem?_reverse (by rwa [length_placedFrom]), length_placedFrom, hplace,
        placedFrom_getElem?]
      simp only [after?_append, last, ← hlen, List.drop_left]
    · rw [List.getElem?_eq_none (by rwa [List.length_reverse, length_placedFrom])]
      have hall : t.length - n = 0 := by omega
      simp only [last, hall, List.drop_zero]

end Text

end ScriptedTemplate
