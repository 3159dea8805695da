import ScriptedTemplate.Text.Edit
import Mathlib.Data.List.Infix

/-
  Replacement — a text read from left to right

  A text is divided at the occurrences of another one, and the pieces are joined
  with a new one between them. The division counts its steps down from the length
  of the text; as every occurrence shortens what is left, the count never runs out
  and does not show in the result.

  What is proved: `replaced_nil`, `replaced_append`, `replaced_cons` — an occurrence
  in front is replaced and reading goes on behind it; a character at which no
  occurrence begins is kept. These three determine `replaced`.
-/

namespace ScriptedTemplate

namespace Text

/-! ## Occurrences -/

theorem stripPrefix?_eq_some_iff {p t u : Text} : stripPrefix? p t = some u ↔ t = p ++ u := by
  induction p generalizing t with
  | nil => simp [stripPrefix?]
  | cons d p ih =>
    cases t with
    | nil => simp [stripPrefix?]
    | cons c t =>
      by_cases hd : d = c
      · simp [stripPrefix?, hd, ih]
      · simp [stripPrefix?, hd, Ne.symm hd]

theorem stripPrefix?_append (p u : Text) : stripPrefix? p (p ++ u) = some u :=
  stripPrefix?_eq_some_iff.mpr rfl

theorem stripPrefix?_eq_none_iff {p t : Text} : stripPrefix? p t = none ↔ ¬ p <+: t := by
  constructor
  · rintro h ⟨u, rfl⟩
    rw [stripPrefix?_append] at h
    cases h
  · intro h
    cases hu : stripPrefix? p t with
    | none => rfl
    | some u => exact absurd ⟨u, (stripPrefix?_eq_some_iff.mp hu).symm⟩ h

theorem append_of_splitAt? {p t before rest : Text} (h : splitAt? p t = some (before, rest)) :
    t = before ++ p ++ rest := by
  induction t generalizing before with
  | nil =>
    rw [splitAt?] at h
    split at h
    · next hp =>
      cases h
      rw [hp]
      rfl
    · cases h
  | cons c t ih =>
    rw [splitAt?] at h
    split at h
    · next u hu =>
      cases h
      exact stripPrefix?_eq_some_iff.mp hu
    · obtain ⟨⟨b, r⟩, hfound, hsplit⟩ := Option.map_eq_some_iff.mp h
      cases hsplit
      rw [ih hfound]
      rfl

theorem splitAt?_append {p : Text} (hp : p ≠ []) (t : Text) :
    splitAt? p (p ++ t) = some ([], t) := by
  obtain ⟨c, q, rfl⟩ := List.exists_cons_of_ne_nil hp
  rw [List.cons_append, splitAt?, ← List.cons_append, stripPrefix?_append]

theorem splitAt?_cons {p : Text} {c : Char} {t : Text} (h : ¬ p <+: c :: t) :
    splitAt? p (c :: t) = (splitAt? p t).map fun found => (c :: found.1, found.2) := by
  rw [splitAt?, stripPrefix?_eq_none_iff.mpr h]

/-! ## Pieces -/

theorem piecesFrom_succ (sep : Text) (fuel : Nat) (t : Text) :
    piecesFrom sep (fuel + 1) none t =
      match splitAt? sep t with
      | none => [t]
      | some (before, rest) => before :: piecesFrom sep fuel none rest := by
  rw [piecesFrom, if_neg (by simp)]
  rfl

theorem piecesFrom_ne_nil (sep : Text) (fuel : Nat) (t : Text) :
    piecesFrom sep fuel none t ≠ [] := by
  cases fuel with
  | zero => simp [piecesFrom]
  | succ fuel =>
    rw [piecesFrom_succ]
    split <;> simp

theorem piecesFrom_congr {sep : Text} (hsep : sep ≠ []) {fuel : Nat} :
    ∀ {fuel' : Nat} {t : Text}, t.length < fuel → t.length < fuel' →
      piecesFrom sep fuel none t = piecesFrom sep fuel' none t := by
  induction fuel with
  | zero => intro fuel' t h; omega
  | succ fuel ih =>
    intro fuel' t h h'
    obtain ⟨fuel', rfl⟩ := Nat.exists_eq_succ_of_ne_zero (Nat.ne_zero_of_lt h')
    rw [piecesFrom_succ, piecesFrom_succ]
    split
    · rfl
    · next before rest hsplit =>
      -- What is left is shorter by the separator at least.
      have hlen := congrArg List.length (append_of_splitAt? hsplit)
      have hpos := List.length_pos_iff.mpr hsep
      simp only [List.length_append] at hlen
      have hrest : rest.length < fuel := by omega
      have hrest' : rest.length < fuel' := by omega
      rw [ih hrest hrest']

theorem joined_cons {sep t : Text} {ts : List Text} (h : ts ≠ []) :
    joined sep (t :: ts) = t ++ sep ++ joined sep ts := by
  obtain ⟨u, us, rfl⟩ := List.exists_cons_of_ne_nil h
  rfl

/-! ## The laws of replacement -/

theorem replaced_eq {old : Text} (hold : old ≠ []) (new : Text) {t : Text} {fuel : Nat}
    (hfuel : t.length < fuel) : replaced old new t = joined new (piecesFrom old fuel none t) := by
  rw [replaced, pieces, if_neg (by simp), if_neg hold,
    piecesFrom_congr hold (Nat.lt_succ_self _) hfuel]

theorem replaced_nil {old : Text} (hold : old ≠ []) (new : Text) : replaced old new [] = [] := by
  rw [replaced_eq hold new (Nat.lt_succ_self _), piecesFrom_succ, splitAt?, if_neg hold]
  rfl

theorem replaced_append {old : Text} (hold : old ≠ []) (new t : Text) :
    replaced old new (old ++ t) = new ++ replaced old new t := by
  have hpos := List.length_pos_iff.mpr hold
  have hlen : t.length < (old ++ t).length := by
    rw [List.length_append]
    omega
  rw [replaced_eq hold new (Nat.lt_succ_self _), piecesFrom_succ, splitAt?_append hold,
    joined_cons (piecesFrom_ne_nil _ _ _), ← replaced_eq hold new hlen]
  rfl

theorem replaced_cons {old : Text} (hold : old ≠ []) (new : Text) {c : Char} {t : Text}
    (h : ¬ old <+: c :: t) : replaced old new (c :: t) = c :: replaced old new t := by
  have hlen : t.length < (c :: t).length + 1 := by
    rw [List.length_cons]
    omega
  rw [replaced_eq hold new (Nat.lt_succ_self _), replaced_eq hold new hlen, piecesFrom_succ,
    piecesFrom_succ, splitAt?_cons h]
  -- The character is added to the first piece, whether more pieces follow or not.
  cases splitAt? old t with
  | none => rfl
  | some found =>
    simp only [Option.map_some, joined_cons (piecesFrom_ne_nil _ _ _), List.cons_append]

end Text

end ScriptedTemplate
