import ScriptedTemplate.Proofs.Script.Lexing
import ScriptedTemplate.Proofs.Text.Replacement

/-
  Reading an argument — how far the lexer looks

  What stands between the brackets of a call is read character by character, and the
  lexer looks ahead at most to the bracket that closes the call: no token of an
  argument goes on with that bracket.

  What is proved:
    1. `course` — a text with a closing bracket behind it is read through, or it ends
       the block before its own end, or it fails; which of these, and with what
       tokens, does not depend on what stands behind the bracket.
    2. `fragment_or_astray` — so the call of the sink with a text is a block that is
       read wherever it stands, or its program has no end of a block, or more than
       one block.
-/

namespace ScriptedTemplate

namespace Literal

section

variable {q : Char}

theorem closeString_eq_none {t : Text} (ht : q ∉ t) : closeString q t = none := by
  induction t using closeString.induct q with
  | case1 => rfl
  | case2 t => exact absurd List.mem_cons_self ht
  | case3 hq => simp [closeString, hq]
  | case4 d t hq ih =>
    rw [closeString_escape hq, ih fun h => ht (by simp [h])]
    rfl
  | case5 c t hq hslash ih =>
    rw [closeString_plain hq hslash, ih fun h => ht (by simp [h])]
    rfl

/-- A string that is open is not closed by a text without its quote. -/
theorem closeString_append_eq_none {u : Text} (hu : q ∉ u) {t : Text} :
    closeString q t = none → closeString q (t ++ u) = none := by
  induction t using closeString.induct q with
  | case1 => exact fun _ => closeString_eq_none hu
  | case2 t =>
    intro h
    rw [closeString_delimiter] at h
    cases h
  | case3 hq =>
    intro _
    cases u with
    | nil => simp [closeString, hq]
    | cons d u =>
      rw [List.cons_append, List.nil_append, closeString_escape hq,
        closeString_eq_none (List.not_mem_of_not_mem_cons hu)]
      rfl
  | case4 d t hq ih =>
    intro h
    rw [closeString_escape hq, Option.map_eq_none_iff] at h
    rw [List.cons_append, List.cons_append, closeString_escape hq, ih h]
    rfl
  | case5 c t hq hslash ih =>
    intro h
    rw [closeString_plain hq hslash, Option.map_eq_none_iff] at h
    rw [List.cons_append, closeString_plain hq hslash, ih h]
    rfl

theorem length_closeString : ∀ {t inside rest : Text},
    closeString q t = some (inside, rest) → rest.length ≤ t.length := by
  intro t
  induction t using closeString.induct q with
  | case1 =>
    intro inside rest h
    cases h
  | case2 t =>
    intro inside rest h
    rw [closeString_delimiter] at h
    cases h
    exact Nat.le_succ _
  | case3 hq =>
    intro inside rest h
    simp [closeString, hq] at h
  | case4 d t hq ih =>
    intro inside rest h
    rw [closeString_escape hq] at h
    obtain ⟨found, hfound, heq⟩ := Option.map_eq_some_iff.mp h
    cases heq
    exact Nat.le_succ_of_le (Nat.le_succ_of_le (ih hfound))
  | case5 c t hq hslash ih =>
    intro inside rest h
    rw [closeString_plain hq hslash] at h
    obtain ⟨found, hfound, heq⟩ := Option.map_eq_some_iff.mp h
    cases heq
    exact Nat.le_succ_of_le (ih hfound)

end

/-! ## Numbers -/

/-- Behind a point a bracket is like the end of the text. -/
theorem after_parenClose (base : Nat) (s : Stage) (c : Char) :
    s.after base (some ')') c = s.after base none c := by
  have hparen : isNameStart ')' = false := by decide
  unfold Stage.after
  split
  · simp [hparen]
  · rfl

theorem after_of_parenClose (base : Nat) (s : Stage) (next : Option Char) :
    s.after base next ')' = none := by
  cases s <;> simp [Stage.after, Text.digit?]

/-- A number does not go on with a closing bracket. -/
theorem takeNumber_append (base : Nat) (u t : Text) : ∀ s : Stage,
    takeNumber base s (t ++ ')' :: u) =
      ((takeNumber base s t).1, (takeNumber base s t).2.1,
        (takeNumber base s t).2.2 ++ ')' :: u) := by
  induction t with
  | nil =>
    intro s
    simp only [List.nil_append, takeNumber, after_of_parenClose]
  | cons c t ih =>
    intro s
    have hhead : s.after base (t ++ ')' :: u).head? c = s.after base t.head? c := by
      cases t with
      | nil => exact after_parenClose base s c
      | cons d t => rfl
    rw [List.cons_append, takeNumber, takeNumber, hhead]
    cases s.after base t.head? c with
    | none => rfl
    | some next =>
      dsimp only
      rw [ih next]

theorem base?_append (u : Text) {t : Text} (ht : t ≠ []) :
    base? (t ++ ')' :: u) = ((base? t).1, (base? t).2 ++ ')' :: u) := by
  rcases t with _ | ⟨a, _ | ⟨b, t⟩⟩
  · exact absurd rfl ht
  · rw [List.cons_append, List.nil_append]
    unfold base?
    split <;> simp_all
  · rw [List.cons_append, List.cons_append]
    unfold base?
    split <;> simp_all

/-- A number before a closing bracket is the one that the text alone begins with. -/
theorem number_append (u : Text) {t : Text} (ht : t ≠ []) :
    number (t ++ ')' :: u) = ((number t).1, (number t).2 ++ ')' :: u) := by
  simp only [number, base?_append u ht, takeNumber_append]

theorem length_takeNumber (base : Nat) (t : Text) : ∀ s : Stage,
    (takeNumber base s t).2.2.length ≤ t.length := by
  induction t with
  | nil => exact fun s => Nat.le_refl _
  | cons c t ih =>
    intro s
    rw [takeNumber]
    cases s.after base t.head? c with
    | none => exact Nat.le_refl _
    | some next => exact Nat.le_succ_of_le (ih next)

theorem length_number {c : Char} (hc : c.isDigit = true) (t : Text) :
    (number (c :: t)).2.length < (c :: t).length := by
  have hafter : ∀ next, Stage.whole.after 10 next c = some .whole := by
    intro next
    have hne : c ≠ '.' ∧ c ≠ 'e' ∧ c ≠ 'E' := by
      refine ⟨?_, ?_, ?_⟩ <;> (rintro rfl; exact absurd hc (by decide))
    simp [Stage.after, hne, hc]
  have hbase : base? (c :: t) = (10, c :: t) ∨ (base? (c :: t)).2.length < t.length := by
    unfold base?
    split <;> simp_all
  rcases hbase with hbase | hlt
  · have hrest := length_takeNumber 10 t .whole
    simp only [number, hbase, if_true, takeNumber, hafter]
    exact Nat.lt_succ_of_le hrest
  · have hrest := length_takeNumber (base? (c :: t)).1 (base? (c :: t)).2
      (if (base? (c :: t)).1 = 10 then .whole else .based)
    exact Nat.lt_succ_of_le (Nat.le_trans hrest (Nat.le_of_lt hlt))

end Literal

namespace Lexer

/-! ## Steps before a closing bracket -/

theorem takeWhile_append_paren {f : Char → Bool} (hf : f ')' = false) (u t : Text) :
    (t ++ ')' :: u).takeWhile f = t.takeWhile f := by
  induction t with
  | nil => simp [hf]
  | cons c t ih =>
    rw [List.cons_append, List.takeWhile_cons, List.takeWhile_cons, ih]

theorem dropWhile_append_paren {f : Char → Bool} (hf : f ')' = false) (u t : Text) :
    (t ++ ')' :: u).dropWhile f = t.dropWhile f ++ ')' :: u := by
  induction t with
  | nil => simp [hf]
  | cons c t ih =>
    rw [List.cons_append, List.dropWhile_cons, List.dropWhile_cons, ih]
    split <;> rfl

theorem longMark?_append (u : Text) {t : Text} (ht : t ≠ []) :
    longMark? (t ++ ')' :: u) = (longMark? t).map fun found => (found.1, found.2 ++ ')' :: u) := by
  rcases t with _ | ⟨a, _ | ⟨b, t⟩⟩
  · exact absurd rfl ht
  · rw [List.cons_append, List.nil_append]
    unfold longMark?
    split <;> simp_all
  · rw [List.cons_append, List.cons_append]
    unfold longMark?
    split <;> simp_all

theorem stripPrefix?_append_paren (u : Text) : ∀ {p : Text}, ')' ∉ p → ∀ t : Text,
    Text.stripPrefix? p (t ++ ')' :: u) = (Text.stripPrefix? p t).map (· ++ ')' :: u)
  | [], _, _ => rfl
  | c :: p, hp, [] => by
    have hc : c ≠ ')' := fun h => hp (by simp [h])
    simp [Text.stripPrefix?, hc]
  | c :: p, hp, d :: t => by
    have ih := stripPrefix?_append_paren u (List.not_mem_of_not_mem_cons hp) t
    rw [List.cons_append, Text.stripPrefix?, Text.stripPrefix?, ih]
    split <;> rfl

theorem closing?_append (u : Text) {t : Text} (ht : t ≠ []) :
    closing? .shown (t ++ ')' :: u) =
      (closing? .shown t).map fun found => (found.1, found.2 ++ ')' :: u) := by
  obtain ⟨c, t, rfl⟩ := List.exists_cons_of_ne_nil ht
  have hbraces : ')' ∉ (['}', '}'] : Text) := by decide
  have hwhole := stripPrefix?_append_paren u hbraces (c :: t)
  have hrest := stripPrefix?_append_paren u hbraces t
  rw [List.cons_append] at hwhole ⊢
  by_cases hminus : c = '-'
  · subst hminus
    simp only [closing?, reduceCtorEq, if_false, hrest, hwhole]
    cases Text.stripPrefix? ['}', '}'] t <;> simp [Function.comp_def]
  · by_cases hplus : c = '+'
    · subst hplus
      simp only [closing?, reduceCtorEq, if_false, hrest, hwhole]
      cases Text.stripPrefix? ['}', '}'] t <;> simp [Function.comp_def]
    · simp [closing?, hminus, hplus, hwhole, Function.comp_def]

theorem length_longMark? {t : Text} {found : Mark × Text} (h : longMark? t = some found) :
    found.2.length < t.length := by
  unfold longMark? at h
  split at h <;> cases h <;> exact Nat.lt_succ_of_lt (Nat.lt_succ_self _)

theorem length_closing? {z : Zone} {t : Text} {found : Bool × Text}
    (h : closing? z t = some found) : found.2.length < t.length := by
  have hstrip : ∀ {t : Text} {drop : Bool},
      (Text.stripPrefix? (if z = .statement then ['%', '}'] else ['}', '}']) t).map
        (fun rest => (drop, rest)) = some found → found.2.length < t.length := by
    intro t drop h
    obtain ⟨rest, hrest, rfl⟩ := Option.map_eq_some_iff.mp h
    rw [Text.stripPrefix?_eq_some_iff.mp hrest, List.length_append]
    split <;> exact Nat.lt_add_of_pos_left (by decide)
  unfold closing? at h
  dsimp only at h
  split at h
  · next signed heq =>
    split at heq
    · exact Nat.lt_succ_of_lt (hstrip (heq.trans h))
    · exact Nat.lt_succ_of_lt (hstrip (heq.trans h))
    · cases heq
  · exact hstrip h

/-- Tokens with their lines counted from a line on. -/
def placedFrom (l : Nat) (ps : List Placed) : List Placed :=
  ps.map fun p => ⟨p.token, l + p.line⟩

/-- Tokens of which none is the end of a block. -/
def NoEnd (ps : List Placed) : Prop := ∀ x ∈ ps, x.token ≠ .showEnd

/-- What a step inside a block comes to at a text with a closing bracket behind it: it goes
on with a shorter text, or it ends the block, or it fails. -/
inductive Stride (d : Nat) (p : Text) : Prop where
  | on (ps : List Placed) (d' k : Nat) (r : Text) (hr : r.length < p.length)
      (hps : NoEnd ps)
      (h : ∀ l u, step ⟨.shown, false, d, l⟩ (p ++ ')' :: u) =
        .go (placedFrom l ps) ⟨.shown, false, d', l + k⟩ (r ++ ')' :: u))
  | closed (drop : Bool) (r : Text) (hr : r.length < p.length)
      (h : ∀ l u, step ⟨.shown, false, d, l⟩ (p ++ ')' :: u) =
        .go [⟨.showEnd, l⟩] ⟨.text, drop, d, l⟩ (r ++ ')' :: u))
  | failed (h : ∀ l u, '"' ∉ u → '\'' ∉ u →
      ∃ f n, step ⟨.shown, false, d, l⟩ (p ++ ')' :: u) = .fail [] f n)

theorem stringToken_ne_showEnd (t : Text) : Literal.stringToken t ≠ .showEnd := by
  rw [Literal.stringToken]
  split <;> exact Token.noConfusion

theorem numberToken_ne_showEnd {base : Nat} {s : Literal.Stage} {t : Text} {x : Token}
    (h : Literal.numberToken base s t = .ok x) : x ≠ .showEnd := by
  rintro rfl
  unfold Literal.numberToken at h
  split at h
  · cases h
  · dsimp only at h
    split at h
    · split at h
      · split at h <;> cases h
      · cases h
    · split at h <;> cases h

theorem Stride.of_token {d : Nat} {p : Text} (token : Token) (ht : token ≠ .showEnd) (d' k : Nat)
    (r : Text) (hr : r.length < p.length)
    (h : ∀ l u, step ⟨.shown, false, d, l⟩ (p ++ ')' :: u) =
      .go [⟨token, l⟩] ⟨.shown, false, d', l + k⟩ (r ++ ')' :: u)) : Stride d p := by
  refine .on [⟨token, 0⟩] d' k r hr ?_ h
  intro x hx
  rw [List.mem_singleton.mp hx]
  exact ht

/-- A step at a character that begins no symbol: a string, a number or a name. -/
def literalStep (c : Cursor) (first : Char) (t : Text) : Step :=
  if first = '"' || first = '\'' then
    match Literal.closeString first t with
    | none => .fail [] .openString (c.line + breaks t)
    | some (inside, rest) =>
      .go [⟨Literal.stringToken inside, c.line⟩] { c with line := c.line + breaks inside } rest
  else if first.isDigit then
    match Literal.number (first :: t) with
    | (.ok token, rest) => .go [⟨token, c.line⟩] c rest
    | (.error f, _) => .fail [] f c.line
  else if Literal.isNameStart first then
    .go [⟨.name (String.ofList (first :: t.takeWhile isNamePart)), c.line⟩] c
      (t.dropWhile isNamePart)
  else .fail [] .strayCharacter c.line

theorem tokenStep_eq_literalStep {c : Cursor} {first : Char} {t : Text}
    (hclose : (if c.depth = 0 then closing? c.zone (first :: t) else none) = none)
    (hlong : longMark? (first :: t) = none) (hshort : shortMark? first = none) :
    tokenStep c first t = literalStep c first t := by
  simp only [tokenStep, hclose, hlong, hshort]
  rfl

section

variable {d : Nat} {c : Char} {t : Text}

theorem stride_string (hstep : ∀ l u, step ⟨.shown, false, d, l⟩ (c :: t ++ ')' :: u) =
    literalStep ⟨.shown, false, d, l⟩ c (t ++ ')' :: u)) (hc : c = '"' ∨ c = '\'') :
    Stride d (c :: t) := by
  have hquote : (decide (c = '"') || decide (c = '\'')) = true := by simpa using hc
  cases hstring : Literal.closeString c t with
  | none =>
    refine .failed ?_
    intro l u hdouble hsingle
    have hbehind : c ∉ ')' :: u := by
      rcases hc with rfl | rfl
      · exact List.not_mem_cons_of_ne_of_not_mem (by decide) hdouble
      · exact List.not_mem_cons_of_ne_of_not_mem (by decide) hsingle
    have hnone := Literal.closeString_append_eq_none hbehind hstring
    refine ⟨.openString, l + breaks (t ++ ')' :: u), ?_⟩
    rw [hstep, literalStep, if_pos hquote, hnone]
  | some found =>
    obtain ⟨inside, r⟩ := found
    have hlength := Literal.length_closeString hstring
    refine .of_token (Literal.stringToken inside) (stringToken_ne_showEnd _) d (breaks inside) r
      (Nat.lt_succ_of_le hlength) ?_
    intro l u
    rw [hstep, literalStep, if_pos hquote, Literal.closeString_append _ hstring]

theorem stride_number (hstep : ∀ l u, step ⟨.shown, false, d, l⟩ (c :: t ++ ')' :: u) =
    literalStep ⟨.shown, false, d, l⟩ c (t ++ ')' :: u)) (hquote : ¬ (c = '"' ∨ c = '\''))
    (hc : c.isDigit = true) : Stride d (c :: t) := by
  have hquote : (decide (c = '"') || decide (c = '\'')) = false := by simpa using hquote
  have hnumber : ∀ u, Literal.number (c :: (t ++ ')' :: u)) =
      ((Literal.number (c :: t)).1, (Literal.number (c :: t)).2 ++ ')' :: u) :=
    fun u => Literal.number_append u (List.cons_ne_nil c t)
  have hread : ∀ l u, step ⟨.shown, false, d, l⟩ (c :: t ++ ')' :: u) =
      match (Literal.number (c :: t)).1 with
      | .ok token =>
        .go [⟨token, l⟩] ⟨.shown, false, d, l⟩ ((Literal.number (c :: t)).2 ++ ')' :: u)
      | .error f => .fail [] f l := by
    intro l u
    rw [hstep, literalStep, hquote, if_neg Bool.false_ne_true, if_pos hc, hnumber]
    cases (Literal.number (c :: t)).1 <;> rfl
  cases htoken : (Literal.number (c :: t)).1 with
  | error f =>
    refine .failed fun l u _ _ => ⟨f, l, ?_⟩
    rw [hread, htoken]
  | ok token =>
    refine .of_token token (numberToken_ne_showEnd htoken) d 0 _ (Literal.length_number hc t) ?_
    intro l u
    rw [hread, htoken]
    rfl

theorem stride_name (hstep : ∀ l u, step ⟨.shown, false, d, l⟩ (c :: t ++ ')' :: u) =
    literalStep ⟨.shown, false, d, l⟩ c (t ++ ')' :: u)) (hquote : ¬ (c = '"' ∨ c = '\''))
    (hdigit : c.isDigit = false) : Stride d (c :: t) := by
  have hparen : isNamePart ')' = false := by decide
  have hquote : (decide (c = '"') || decide (c = '\'')) = false := by simpa using hquote
  by_cases hc : Literal.isNameStart c = true
  · refine .of_token (.name (String.ofList (c :: t.takeWhile isNamePart))) Token.noConfusion d 0
      (t.dropWhile isNamePart)
      (Nat.lt_succ_of_le (List.dropWhile_sublist isNamePart).length_le) ?_
    intro l u
    rw [hstep, literalStep, hquote, if_neg Bool.false_ne_true, hdigit, if_neg Bool.false_ne_true,
      if_pos hc, takeWhile_append_paren hparen, dropWhile_append_paren hparen]
    rfl
  · refine .failed fun l u _ _ => ⟨.strayCharacter, l, ?_⟩
    rw [hstep, literalStep, hquote, if_neg Bool.false_ne_true, hdigit, if_neg Bool.false_ne_true,
      if_neg hc]

end

theorem stride (d : Nat) {p : Text} (hp : p ≠ []) : Stride d p := by
  obtain ⟨c, t, rfl⟩ := List.exists_cons_of_ne_nil hp
  by_cases hspace : isSpace c = true
  · have hparen : isSpace ')' = false := by decide
    have hlength := (List.dropWhile_sublist isSpace (l := t)).length_le
    refine .on [] d (breaks ((c :: t).takeWhile isSpace)) (t.dropWhile isSpace)
      (Nat.lt_succ_of_le hlength) nofun ?_
    intro l u
    simp only [step, hspace, List.cons_append, reduceCtorEq, if_false, if_true]
    rw [List.dropWhile_cons_of_pos hspace, List.takeWhile_cons_of_pos hspace,
      List.takeWhile_cons_of_pos hspace, takeWhile_append_paren hparen,
      dropWhile_append_paren hparen]
    rfl
  · have hstep : ∀ l u, step ⟨.shown, false, d, l⟩ (c :: t ++ ')' :: u) =
        tokenStep ⟨.shown, false, d, l⟩ c (t ++ ')' :: u) := by
      intro l u
      simp only [step, hspace, List.cons_append, reduceCtorEq, if_false, Bool.false_eq_true]
    have hclosing : ∀ u, (if d = 0 then closing? .shown (c :: (t ++ ')' :: u)) else none) =
        (if d = 0 then closing? .shown (c :: t) else none).map
          fun found => (found.1, found.2 ++ ')' :: u) := by
      intro u
      split
      · exact closing?_append u hp
      · rfl
    have hlong : ∀ u, longMark? (c :: (t ++ ')' :: u)) = (longMark? (c :: t)).map _ :=
      fun u => longMark?_append u hp
    have hends : ∀ {found}, (if d = 0 then closing? .shown (c :: t) else none) = some found →
        found.2.length < (c :: t).length := by
      intro found hfound
      split at hfound
      · exact length_closing? hfound
      · cases hfound
    cases hclose : (if d = 0 then closing? .shown (c :: t) else none) with
    | some found =>
      refine .closed found.1 found.2 (hends hclose) ?_
      intro l u
      rw [hstep]
      simp only [tokenStep, hclosing, hclose]
      rfl
    | none =>
      cases hmark : longMark? (c :: t) with
      | some found =>
        refine .of_token (.mark found.1) Token.noConfusion d 0 found.2 (length_longMark? hmark) ?_
        intro l u
        rw [hstep]
        simp only [tokenStep, hclosing, hclose, hlong, hmark, Option.map_none, Option.map_some]
      | none =>
        cases hshort : shortMark? c with
        | some m =>
          refine .of_token (.mark m) Token.noConfusion (depthAfter d m) 0 t (Nat.lt_succ_self _) ?_
          intro l u
          rw [hstep]
          simp only [tokenStep, hclosing, hclose, hlong, hmark, hshort, Option.map_none]
        | none =>
          have hliteral : ∀ l u, step ⟨.shown, false, d, l⟩ (c :: t ++ ')' :: u) =
              literalStep ⟨.shown, false, d, l⟩ c (t ++ ')' :: u) := by
            intro l u
            rw [hstep]
            refine tokenStep_eq_literalStep ?_ ?_ hshort
            · simp only [hclosing, hclose, Option.map_none]
            · simp only [hlong, hmark, Option.map_none]
          by_cases hquote : c = '"' ∨ c = '\''
          · exact stride_string hliteral hquote
          · cases hdigit : c.isDigit with
            | true => exact stride_number hliteral hquote hdigit
            | false => exact stride_name hliteral hquote hdigit

/-! ## An argument -/

theorem placedFrom_append (l : Nat) (ps qs : List Placed) :
    placedFrom l (ps ++ qs) = placedFrom l ps ++ placedFrom l qs := List.map_append

theorem placedFrom_placedFrom (l k : Nat) (ps : List Placed) :
    placedFrom l (placedFrom k ps) = placedFrom (l + k) ps := by
  simp [placedFrom, Function.comp_def, Nat.add_assoc]

theorem NoEnd.append {ps qs : List Placed} (hps : NoEnd ps) (hqs : NoEnd qs) :
    NoEnd (ps ++ qs) := by
  intro x hx
  rcases List.mem_append.mp hx with hx | hx
  · exact hps x hx
  · exact hqs x hx

theorem NoEnd.placedFrom {ps : List Placed} (hps : NoEnd ps) (l : Nat) :
    NoEnd (placedFrom l ps) := by
  intro x hx
  obtain ⟨y, hy, rfl⟩ := List.mem_map.mp hx
  exact hps y hy

/-- What reading inside a block comes to at a text with a closing bracket behind it: all of
the text is read, or the block ends within it, or what is no token is met. -/
inductive Course (d : Nat) (p : Text) : Prop where
  | through (ps : List Placed) (d' k n : Nat) (hn : n ≤ p.length) (hps : NoEnd ps)
      (h : ∀ l u fuel, run (fuel + n) ⟨.shown, false, d, l⟩ (p ++ ')' :: u) =
        before (placedFrom l ps) (run fuel ⟨.shown, false, d', l + k⟩ (')' :: u)))
  | closed (ps : List Placed) (drop : Bool) (d' k n : Nat) (r : Text)
      (hn : n + r.length ≤ p.length) (hps : NoEnd ps)
      (h : ∀ l u fuel, run (fuel + n) ⟨.shown, false, d, l⟩ (p ++ ')' :: u) =
        before (placedFrom l ps ++ [⟨.showEnd, l + k⟩])
          (run fuel ⟨.text, drop, d', l + k⟩ (r ++ ')' :: u)))
  | failed (ps : List Placed) (n : Nat) (hn : n ≤ p.length) (hps : NoEnd ps)
      (h : ∀ l u, '"' ∉ u → '\'' ∉ u → ∃ f, ∀ fuel,
        run (fuel + n) ⟨.shown, false, d, l⟩ (p ++ ')' :: u) = ⟨placedFrom l ps, some f⟩)

theorem before_before (ps qs : List Placed) (t : TokenList) :
    before ps (before qs t) = before (ps ++ qs) t := by
  simp [before]

theorem Course.of_step {d d' k : Nat} {p r : Text} {ps : List Placed} (hr : r.length < p.length)
    (hps : NoEnd ps) (hstep : ∀ l u, step ⟨.shown, false, d, l⟩ (p ++ ')' :: u) =
      .go (placedFrom l ps) ⟨.shown, false, d', l + k⟩ (r ++ ')' :: u)) (h : Course d' r) :
    Course d p := by
  cases h with
  | through qs d'' k' n hn hqs h =>
    refine .through (ps ++ placedFrom k qs) d'' (k + k') (n + 1) (by omega)
      (hps.append (hqs.placedFrom k)) ?_
    intro l u fuel
    rw [← Nat.add_assoc, run_go (hstep l u), h, before_before, placedFrom_append,
      placedFrom_placedFrom, Nat.add_assoc]
  | closed qs drop d'' k' n r' hn hqs h =>
    refine .closed (ps ++ placedFrom k qs) drop d'' (k + k') (n + 1) r' (by omega)
      (hps.append (hqs.placedFrom k)) ?_
    intro l u fuel
    rw [← Nat.add_assoc, run_go (hstep l u), h, before_before, placedFrom_append,
      placedFrom_placedFrom, Nat.add_assoc, List.append_assoc]
  | failed qs n hn hqs h =>
    refine .failed (ps ++ placedFrom k qs) (n + 1) (by omega) (hps.append (hqs.placedFrom k)) ?_
    intro l u hdouble hsingle
    obtain ⟨f, hf⟩ := h (l + k) u hdouble hsingle
    refine ⟨f, fun fuel => ?_⟩
    rw [← Nat.add_assoc, run_go (hstep l u), hf, placedFrom_append, placedFrom_placedFrom]
    rfl

/-- The induction is on the length of the text, which every step shortens. -/
theorem course (d : Nat) (p : Text) : Course d p := by
  induction hlength : p.length using Nat.strongRecOn generalizing d p with
  | ind n ih =>
    subst hlength
    by_cases hp : p = []
    · subst hp
      exact .through [] d 0 0 (Nat.le_refl 0) nofun fun l u fuel => rfl
    · cases stride d hp with
      | on ps d' k r hr hps h => exact .of_step hr hps h (ih r.length hr d' r rfl)
      | closed drop r hr h =>
        refine .closed [] drop d 0 1 r (by omega) nofun ?_
        intro l u fuel
        rw [run_go (h l u)]
        rfl
      | failed h =>
        refine .failed [] 1 (List.length_pos_of_ne_nil hp) nofun ?_
        intro l u hdouble hsingle
        obtain ⟨f, n, hfail⟩ := h l u hdouble hsingle
        refine ⟨(f, n), fun fuel => ?_⟩
        rw [run, hfail]
        rfl

/-! ## Text behind a block -/

/-- What stands behind the argument of a call, its line end not included. -/
def callEnd : Text := [')', ' ', '-', '}', '}']

/-- A token that begins a statement or is one. -/
def LeadsStatement : Token → Prop
  | .text _ | .showStart | .blockStart => True
  | _ => False

/-- Tokens that go on with a statement, or a fault at once. -/
def GoesOn (t : TokenList) : Prop :=
  (∃ p ps, t.tokens = p :: ps ∧ LeadsStatement p.token) ∨ t.tokens = [] ∧ t.fault ≠ none

theorem append_of_findBlock {t before body : Text} {sort : BlockSort}
    (h : findBlock t = some (before, sort, body)) :
    ∃ c, BlockSort.of? c = some sort ∧ t = before ++ '{' :: c :: body := by
  induction t using findBlock.induct generalizing before with
  | case1 => cases h
  | case2 c t s hs =>
    rw [findBlock, hs] at h
    cases h
    exact ⟨c, hs, rfl⟩
  | case3 c t hs ih =>
    rw [findBlock, hs] at h
    obtain ⟨⟨b, found⟩, hfound, heq⟩ := Option.map_eq_some_iff.mp h
    cases heq
    obtain ⟨d, hd, htext⟩ := ih hfound
    exact ⟨d, hd, by rw [htext]; rfl⟩
  | case4 c t hne ih =>
    rw [findBlock] at h
    · obtain ⟨⟨b, found⟩, hfound, heq⟩ := Option.map_eq_some_iff.mp h
      cases heq
      obtain ⟨d, hd, htext⟩ := ih hfound
      exact ⟨d, hd, by rw [htext]; rfl⟩
    · exact hne

theorem append_of_takeTrim (t : Text) : ∃ sign, t = sign ++ (takeTrim t).2 := by
  unfold takeTrim
  split
  · exact ⟨['-'], rfl⟩
  · exact ⟨['+'], rfl⟩
  · exact ⟨[], rfl⟩

/-- The end of a comment is not the end of a call. -/
theorem exists_append_callEnd {t r rest : Text} (h : t ++ '#' :: '}' :: rest = r ++ callEnd) :
    ∃ r', rest = r' ++ callEnd := by
  have hsplit : (t ++ ['#', '}']) ++ rest = r ++ callEnd := by simpa using h
  rcases List.append_eq_append_iff.mp hsplit with ⟨r', -, hrest⟩ | ⟨v, hv, hend⟩
  · exact ⟨r', hrest⟩
  · -- What the comment would share with the end of the call ends in another way.
    have hreverse := congrArg List.reverse hv
    simp only [callEnd, List.reverse_append, List.reverse_cons] at hend hreverse
    rcases v with _ | ⟨a, _ | ⟨b, _ | ⟨c, _ | ⟨d, _ | ⟨e, v⟩⟩⟩⟩⟩
    · exact ⟨[], hend.symm⟩
    all_goals
      simp at hend hreverse
      grind

theorem goesOn_textToken {t : Text} {l : Nat} {qs : List Placed} {f : Option (GrammarFault × Nat)}
    (h : t = [] → GoesOn ⟨qs, f⟩) : GoesOn ⟨textToken t l ++ qs, f⟩ := by
  by_cases ht : t = []
  · rw [textToken, if_pos ht]
    exact h ht
  · rw [textToken, if_neg ht]
    exact .inl ⟨_, _, rfl, trivial⟩

theorem goesOn_of_leadsStatement {t : Text} {l : Nat} {p : Placed} (hp : LeadsStatement p.token)
    (next : TokenList) : GoesOn (before (textToken t l ++ [p]) next) := by
  rw [before, List.append_assoc]
  exact goesOn_textToken fun _ => .inl ⟨p, _, rfl, hp⟩

theorem goesOn_of_fault {t : Text} {l : Nat} (f : GrammarFault × Nat) :
    GoesOn ⟨textToken t l, some f⟩ := by
  have h : GoesOn ⟨textToken t l ++ [], some f⟩ :=
    goesOn_textToken fun _ => .inr ⟨rfl, Option.some_ne_none f⟩
  rwa [List.append_nil] at h

/-- Behind a block there is a statement, or a fault, as long as text is left that ends as a
call does: only comments have no tokens. -/
theorem goesOn_run_text {fuel : Nat} : ∀ {r : Text} {c : Cursor}, c.zone = .text →
    (r ++ callEnd).length ≤ fuel → GoesOn (run fuel c (r ++ callEnd)) := by
  induction fuel with
  | zero =>
    intro r c _ hfuel
    simp [callEnd] at hfuel
  | succ fuel ih =>
    intro r c hc hfuel
    have hne : r ++ callEnd ≠ [] := by simp [callEnd]
    have hstep : step c (r ++ callEnd) = textStep c (r ++ callEnd) := by
      obtain ⟨d, t, ht⟩ := List.exists_cons_of_ne_nil hne
      rw [ht]
      simp only [step, hc, if_true]
    have htext : ∃ r', (if c.dropBlanks then (r ++ callEnd).trimStart else r ++ callEnd) =
        r' ++ callEnd ∧ r'.length ≤ r.length := by
      split
      · exact ⟨r.dropWhile isBlank, dropWhile_append_paren (by decide) _ _,
          (List.dropWhile_sublist isBlank).length_le⟩
      · exact ⟨r, rfl, Nat.le_refl _⟩
    obtain ⟨r', hr', hlength⟩ := htext
    rw [run, hstep, textStep, hr']
    dsimp only
    cases hfind : findBlock (r' ++ callEnd) with
    | none =>
      refine goesOn_textToken ?_
      intro h
      simp [callEnd] at h
    | some found =>
      obtain ⟨lead, sort, body⟩ := found
      cases sort with
      | shown => exact goesOn_of_leadsStatement (p := ⟨.showStart, _⟩) trivial _
      | statement =>
        dsimp only
        cases bareStatement? "raw".toList false (takeTrim body).2 with
        | none => exact goesOn_of_leadsStatement (p := ⟨.blockStart, _⟩) trivial _
        | some found =>
          dsimp only
          cases closeRaw found.2 with
          | none => exact goesOn_of_fault _
          | some raw => exact goesOn_of_leadsStatement (p := ⟨.text _, _⟩) trivial _
      | comment =>
        dsimp only
        cases hsplit : Text.splitAt? ['#', '}'] (takeTrim body).2 with
        | none => exact goesOn_of_fault _
        | some found =>
          obtain ⟨comment, rest⟩ := found
          obtain ⟨d, -, hblock⟩ := append_of_findBlock hfind
          obtain ⟨sign, hsign⟩ := append_of_takeTrim body
          have hinside := Text.append_of_splitAt? hsplit
          have hrest : (lead ++ '{' :: d :: sign ++ comment) ++ '#' :: '}' :: rest =
              r' ++ callEnd := by
            rw [hblock, hsign, hinside]
            simp
          have hshorter := congrArg List.length hrest
          obtain ⟨r'', rfl⟩ := exists_append_callEnd hrest
          simp only [List.length_append, List.length_cons] at hshorter hfuel
          refine goesOn_textToken fun _ => ih rfl ?_
          rw [List.length_append]
          omega

/-! ## Calls with an argument -/

/-- The tokens of a call of the sink before the end of its block, their lines counted from
that of the block. -/
def argumentTokens (ps : List Placed) (k : Nat) : List Placed :=
  ⟨.name sinkName, 0⟩ :: ⟨.mark .parenOpen, 0⟩ :: (ps ++ [⟨.mark .parenClose, k⟩])

/-- The call of the sink with an argument that has these tokens. -/
def argumentFragment (p : Text) (ps : List Placed) (k : Nat) : Fragment where
  text := Slice.callText p
  tokens l := ⟨.showStart, l⟩ :: (placedFrom l (argumentTokens ps k) ++ [⟨.showEnd, l + k⟩])
  height := k

theorem NoEnd.argumentTokens {ps : List Placed} (hps : NoEnd ps) (k : Nat) :
    NoEnd (argumentTokens ps k) := by
  intro x hx
  simp only [Lexer.argumentTokens, List.mem_cons, List.mem_append, List.not_mem_nil, or_false] at hx
  rcases hx with rfl | rfl | hx | rfl
  · exact Token.noConfusion
  · exact Token.noConfusion
  · exact hps x hx
  · exact Token.noConfusion

theorem run_callText (fuel l : Nat) (p u : Text) :
    run (fuel + 4) ⟨.text, false, 0, l⟩ (Slice.callText p ++ u) =
      before [⟨.showStart, l⟩, ⟨.name sinkName, l⟩, ⟨.mark .parenOpen, l⟩]
        (run fuel ⟨.shown, false, 1, l⟩ (p ++ ')' :: ' ' :: '-' :: '}' :: '}' :: u)) := by
  have hblock : Slice.callText p ++ u = '{' :: '{' :: '-' :: ' ' :: '_' :: '_' :: 'o' :: 'u' ::
      't' :: '_' :: '_' :: '(' :: (p ++ ')' :: ' ' :: '-' :: '}' :: '}' :: u) := by
    simp only [Slice.callText, List.append_assoc, List.cons_append, List.nil_append]
  rw [hblock, run_go (step_showStart _ _), run_go (step_space_sink _ _), run_go (step_sink _ _),
    run_go (step_parenOpen _ _)]
  rfl

theorem step_closeCall (d l : Nat) (t : Text) : step ⟨.shown, false, d, l⟩ (')' :: t) =
    .go [⟨.mark .parenClose, l⟩] ⟨.shown, false, d - 1, l⟩ t := by
  cases d <;> rfl

/-- An argument that is read through, with at most one bracket open behind it, makes a
fragment. -/
theorem reads_argumentFragment {p : Text} {ps : List Placed} {d k n : Nat} (hn : n ≤ p.length)
    (hd : d ≤ 1) (h : ∀ l u fuel, run (fuel + n) ⟨.shown, false, 1, l⟩ (p ++ ')' :: u) =
      before (placedFrom l ps) (run fuel ⟨.shown, false, d, l + k⟩ (')' :: u))) :
    (argumentFragment p ps k).Reads where
  opens := ⟨_, rfl⟩
  closes := by
    refine ⟨['{', '{', '-', ' ', '_', '_', 'o', 'u', 't', '_', '_', '('] ++ p ++
      [')', ' ', '-', '}'], ?_⟩
    simp [argumentFragment, Slice.callText]
  reads := by
    refine ⟨3 + n + 4, ?_, ?_⟩
    · simp only [argumentFragment, Slice.callText, List.length_append, List.length_cons,
        List.length_nil]
      omega
    · intro fuel l t
      have hd : d - 1 = 0 := by omega
      have htokens : (argumentFragment p ps k).tokens l =
          [⟨.showStart, l⟩, ⟨.name sinkName, l⟩, ⟨.mark .parenOpen, l⟩] ++ (placedFrom l ps ++
            [⟨.mark .parenClose, l + k⟩, ⟨.showEnd, l + k⟩]) := by
        simp [argumentFragment, argumentTokens, placedFrom]
      rw [htokens, ← Nat.add_assoc, ← Nat.add_assoc]
      show run _ _ (Slice.callText p ++ t) = _
      rw [run_callText, h, run_go (step_closeCall _ _ _), hd, run_go (step_space_end _ _),
        run_go (step_showEnd _ _)]
      simp only [before_before]
      rfl

/-- What the program of one call is read as, if the call is no fragment: tokens without an
end of the block, or with more than the block. -/
inductive Astray (t : TokenList) : Prop where
  | noEnd (qs : List Placed) (hqs : NoEnd qs) (h : t.tokens = ⟨.showStart, 1⟩ :: qs)
  | more (qs rest : List Placed) (n : Nat) (hqs : NoEnd qs)
      (h : t.tokens = ⟨.showStart, 1⟩ :: (qs ++ ⟨.showEnd, n⟩ :: rest))
      (hrest : GoesOn ⟨rest, t.fault⟩)

theorem tokens_callText (p : Text) : tokens (Slice.callText p ++ ['\n']) =
    before [⟨.showStart, 1⟩, ⟨.name sinkName, 1⟩, ⟨.mark .parenOpen, 1⟩]
      (run (p.length + 15) ⟨.shown, false, 1, 1⟩ (p ++ callEnd)) := by
  have hlength : (Slice.callText p ++ ['\n']).length + 1 = p.length + 15 + 4 := by
    simp [Slice.callText]
  have hline : withoutLineEnd (Slice.callText p ++ ['\n']) = Slice.callText p ++ [] := by
    obtain ⟨u, hu⟩ : ∃ u, Slice.callText p = u ++ ['}'] :=
      ⟨['{', '{', '-', ' ', '_', '_', 'o', 'u', 't', '_', '_', '('] ++ p ++ [')', ' ', '-', '}'],
        by simp [Slice.callText]⟩
    rw [hu]
    simp [withoutLineEnd]
  rw [tokens, hlength, hline, Cursor.start, run_callText]
  rfl

/-- With two brackets open the end of a call does not end the block. -/
theorem run_callEnd (fuel d l : Nat) : ∃ qs, NoEnd qs ∧
    run (fuel + 5) ⟨.shown, false, d + 2, l⟩ callEnd = ⟨qs, none⟩ := by
  have hclose : step ⟨.shown, false, d + 2, l⟩ callEnd =
      .go [⟨.mark .parenClose, l⟩] ⟨.shown, false, d + 1, l⟩ [' ', '-', '}', '}'] := rfl
  have hspace : step ⟨.shown, false, d + 1, l⟩ [' ', '-', '}', '}'] =
      .go [] ⟨.shown, false, d + 1, l⟩ ['-', '}', '}'] := rfl
  have hminus : step ⟨.shown, false, d + 1, l⟩ ['-', '}', '}'] =
      .go [⟨.mark .minus, l⟩] ⟨.shown, false, d + 1, l⟩ ['}', '}'] := rfl
  have hfirst : step ⟨.shown, false, d + 1, l⟩ ['}', '}'] =
      .go [⟨.mark .braceClose, l⟩] ⟨.shown, false, d, l⟩ ['}'] := rfl
  have hlast : step ⟨.shown, false, d, l⟩ ['}'] =
      .go [⟨.mark .braceClose, l⟩] ⟨.shown, false, d - 1, l⟩ [] := by
    cases d <;> rfl
  refine ⟨[⟨.mark .parenClose, l⟩, ⟨.mark .minus, l⟩, ⟨.mark .braceClose, l⟩,
    ⟨.mark .braceClose, l⟩], ?_, ?_⟩
  · intro x hx
    simp only [List.mem_cons, List.not_mem_nil, or_false] at hx
    rcases hx with rfl | rfl | rfl | rfl <;> exact Token.noConfusion
  · rw [run_go hclose, run_go hspace, run_go hminus, run_go hfirst, run_go hlast, run_nil]
    rfl

/-- The program of one call is a fragment, or it goes astray. -/
theorem fragment_or_astray (p : Text) : (∃ ps k, NoEnd ps ∧ (argumentFragment p ps k).Reads) ∨
    Astray (tokens (Slice.callText p ++ ['\n'])) := by
  have hstart : NoEnd [⟨.name sinkName, 1⟩, ⟨.mark .parenOpen, 1⟩] := by
    intro x hx
    simp only [List.mem_cons, List.not_mem_nil, or_false] at hx
    rcases hx with rfl | rfl <;> exact Token.noConfusion
  rw [tokens_callText]
  cases course 1 p with
  | through ps d k n hn hps h =>
    by_cases hd : d ≤ 1
    · exact .inl ⟨ps, k, hps, reads_argumentFragment hn hd h⟩
    · obtain ⟨d, rfl⟩ : ∃ e, d = e + 2 := ⟨d - 2, by omega⟩
      obtain ⟨qs, hqs, hend⟩ := run_callEnd (p.length - n + 10) d (1 + k)
      have hfuel : p.length + 15 = p.length - n + 10 + 5 + n := by omega
      refine .inr (.noEnd (([⟨.name sinkName, 1⟩, ⟨.mark .parenOpen, 1⟩] ++ placedFrom 1 ps) ++ qs)
        ((hstart.append (hps.placedFrom 1)).append hqs) ?_)
      rw [hfuel, callEnd, h]
      rw [callEnd] at hend
      rw [hend]
      rfl
  | closed ps drop d k n r hn hps h =>
    have hfuel : p.length + 15 = p.length - n + 15 + n := by omega
    have hrest : GoesOn (run (p.length - n + 15) ⟨.text, drop, d, 1 + k⟩ (r ++ callEnd)) := by
      refine goesOn_run_text rfl ?_
      simp only [callEnd, List.length_append, List.length_cons, List.length_nil]
      omega
    refine .inr (.more ([⟨.name sinkName, 1⟩, ⟨.mark .parenOpen, 1⟩] ++ placedFrom 1 ps)
      (run (p.length - n + 15) ⟨.text, drop, d, 1 + k⟩ (r ++ callEnd)).tokens (1 + k)
      (hstart.append (hps.placedFrom 1)) ?_ ?_)
    · rw [hfuel, callEnd, h]
      simp [before]
    · rw [hfuel, callEnd, h]
      exact hrest
  | failed ps n hn hps h =>
    have hfuel : p.length + 15 = p.length - n + 15 + n := by omega
    obtain ⟨f, hf⟩ := h 1 [' ', '-', '}', '}'] (by decide) (by decide)
    refine .inr (.noEnd ([⟨.name sinkName, 1⟩, ⟨.mark .parenOpen, 1⟩] ++ placedFrom 1 ps)
      (hstart.append (hps.placedFrom 1)) ?_)
    rw [hfuel, callEnd, hf]
    rfl

end Lexer

end ScriptedTemplate
