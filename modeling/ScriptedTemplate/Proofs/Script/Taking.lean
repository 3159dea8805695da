import ScriptedTemplate.Script.Phrase
import ScriptedTemplate.Slice.Basic

/-
  Taking tokens — readers where the next tokens are known

  A reader is run on a stream of which the next tokens are known, and answers
  with what is left of it. For the readers of single tokens this is told once for
  every token; a reader made of others takes what its parts take, one after the
  other (`bind_ok`).

  An expression ends before the end of its block and before a closing bracket: no
  operator, comparison, filter, test or choice begins there. So whatever is read
  as an operand before such a token is the whole expression.

  What is proved:
    1. `noChoice_alone` — a string or a name before the end of an expression is the
       whole expression.
    2. `expression_call`, `expression_call_call` — the sink with one string or one
       name between brackets, or with a call of that kind, is read as a call, up to
       the end of its block.
-/

namespace ScriptedTemplate

/-- The stream of which these tokens are left, the last one taken having stood
on line `l`. -/
def Stream.left (s : Stream) (ps : List Placed) (l : Nat) : Stream :=
  { s with rest := ps, last := l }

namespace Reader

variable {α β : Type} {s : Stream} {p : Placed} {ps : List Placed} {l : Nat}

theorem bind_ok {x : Reader α} {f : α → Reader β} {s s' : Stream} {a : α}
    (h : x s = .ok (a, s')) : (x >>= f) s = f a s' := by
  simp only [bind, StateT.bind, Except.bind, h]

theorem lastLine_ok (s : Stream) : lastLine s = .ok (s.last, s) := rfl

theorem size_ok (s : Stream) : size s = .ok (s.total + 1, s) := rfl

theorem line_left (p : Placed) : line (s.left (p :: ps) l) = .ok (p.line, s.left (p :: ps) l) := rfl

theorem size_left : size (s.left ps l) = .ok (s.total + 1, s.left ps l) := rfl

theorem peek_left (hp : p.token ≠ .badString) :
    peek (s.left (p :: ps) l) = .ok (some p.token, s.left (p :: ps) l) := by
  obtain ⟨t, n⟩ := p
  cases t with
  | badString => exact absurd rfl hp
  | _ => rfl

theorem next_left (hp : p.token ≠ .badString) :
    next (s.left (p :: ps) l) = .ok (some p.token, s.left ps p.line) := by
  rw [next, bind_ok (peek_left hp)]
  rfl

theorem accept_left (hp : p.token ≠ .badString) (c : Check) : accept c (s.left (p :: ps) l) =
    if c p.token then .ok (true, s.left ps p.line) else .ok (false, s.left (p :: ps) l) := by
  rw [accept, bind_ok (peek_left hp)]
  cases hc : c p.token with
  | true =>
    simp only [hc, if_true]
    rw [bind_ok (next_left hp)]
    rfl
  | false =>
    simp only [hc]
    rfl

theorem accept_left_false (hp : p.token ≠ .badString) {c : Check} (hc : c p.token = false) :
    accept c (s.left (p :: ps) l) = .ok (false, s.left (p :: ps) l) := by
  rw [accept_left hp, hc]
  rfl

theorem expect_left (hp : p.token ≠ .badString) {wanted : String} {f : Token → Option α} {a : α}
    (hf : f p.token = some a) :
    expect wanted f (s.left (p :: ps) l) = .ok (a, s.left ps p.line) := by
  rw [expect, bind_ok (next_left hp)]
  simp only [hf]
  rfl

theorem mark_left {m : Mark} (n : Nat) :
    mark m (s.left (⟨.mark m, n⟩ :: ps) l) = .ok ((), s.left ps n) := by
  rw [mark, expect_left Token.noConfusion (show _ = some () from ?_)]
  simp [Token.isMark]

/-! ## Streams of which it is known what is left -/

theorem left_of_rest (h : s.rest = p :: ps) : s = s.left (p :: ps) s.last := by
  rw [Stream.left, ← h]

theorem peek_of_rest (h : s.rest = p :: ps) (hp : p.token ≠ .badString) :
    peek s = .ok (some p.token, s) := by
  rw [left_of_rest h]
  exact peek_left hp

theorem next_of_rest (h : s.rest = p :: ps) (hp : p.token ≠ .badString) :
    next s = .ok (some p.token, s.left ps p.line) := by
  rw [left_of_rest h]
  exact next_left hp

/-- The end of a block that shows an expression. -/
def showEnd : Reader Unit :=
  expect "end of variable block" fun t => if isShowEnd t then some () else none

theorem showEnd_of_rest {n : Nat} (h : s.rest = ⟨.showEnd, n⟩ :: ps) :
    showEnd s = .ok ((), s.left ps n) := by
  rw [left_of_rest h]
  exact expect_left Token.noConfusion rfl

end Reader

namespace Phrase

open Reader

/-- A token before which an expression ends. -/
def Ends (t : Token) : Prop := t = .showEnd ∨ t = .blockEnd ∨ t = .mark .parenClose

theorem Ends.ne_badString {t : Token} (h : Ends t) : t ≠ .badString := by
  rcases h with rfl | rfl | rfl <;> exact Token.noConfusion

variable {s s₀ : Stream} {e : Expr} {p p₀ : Placed} {ps ps₀ : List Placed} {l l₀ : Nat}

/-! ## Where an expression ends -/

theorem joined_of_operand {operator? : Token → Option Operator} {operand : Reader Expr}
    (h : operand s₀ = .ok (e, s.left (p :: ps) l)) (hp : Ends p.token)
    (hop : operator? p.token = none) :
    joined operator? operand s₀ = .ok (e, s.left (p :: ps) l) := by
  have hstop : ∀ n fuel, chain operator? operand n fuel e (s.left (p :: ps) l) =
      .ok (e, s.left (p :: ps) l) := by
    intro n fuel
    cases fuel with
    | zero => rfl
    | succ fuel =>
      rw [chain, bind_ok (peek_left hp.ne_badString)]
      simp only [hop]
      rfl
  rw [joined]
  obtain ⟨n, hn⟩ : ∃ n, line s₀ = .ok (n, s₀) := by
    rw [line]
    split <;> exact ⟨_, rfl⟩
  rw [bind_ok hn, bind_ok (size_ok s₀), bind_ok h]
  exact hstop _ _

theorem compared_of_operand {operand : Reader Expr}
    (h : operand s₀ = .ok (e, s.left (p :: ps) l)) (hp : Ends p.token) :
    compared operand s₀ = .ok (e, s.left (p :: ps) l) := by
  have hstop : ∀ n fuel, comparisons operand n e fuel [] (s.left (p :: ps) l) =
      .ok ([], s.left (p :: ps) l) := by
    intro n fuel
    cases fuel with
    | zero => rfl
    | succ fuel =>
      rw [comparisons, bind_ok (peek_left hp.ne_badString)]
      rcases hp with hp | hp | hp <;> rw [hp] <;> rfl
  rw [compared, bind_ok (lastLine_ok s₀),
    bind_ok (size_ok s₀), bind_ok h, bind_ok (hstop _ _)]
  rfl

/-- Without a sign in front there is only the operand. -/
theorem signed_of_operand {isSign : Token → Bool} (apply : Expr → Nat → Expr)
    (operand : Reader Expr) (hp : p.token ≠ .badString) (hsign : isSign p.token = false)
    (fuel : Nat) : signed isSign apply operand fuel (s.left (p :: ps) l) =
      operand (s.left (p :: ps) l) := by
  cases fuel with
  | zero => rfl
  | succ fuel =>
    rw [signed, bind_ok (line_left _),
      bind_ok (accept_left_false hp hsign)]
    rfl

theorem choice_of_alternative {alternative : Reader Expr}
    (h : alternative s₀ = .ok (e, s.left (p :: ps) l)) (hp : Ends p.token) :
    choice alternative s₀ = .ok (e, s.left (p :: ps) l) := by
  have hstop : ∀ n fuel, choices alternative fuel n e (s.left (p :: ps) l) =
      .ok (e, s.left (p :: ps) l) := by
    intro n fuel
    cases fuel with
    | zero => rfl
    | succ fuel =>
      have hif : Token.isName "if" p.token = false := by
        rcases hp with hp | hp | hp <;> rw [hp] <;> rfl
      rw [choices, bind_ok (accept_left_false hp.ne_badString hif)]
      rfl
  rw [choice, bind_ok (lastLine_ok s₀),
    bind_ok (size_ok s₀), bind_ok h]
  exact hstop _ _

/-- A token that begins an operand without a sign. -/
structure Begins (t : Token) : Prop where
  ne_badString : t ≠ .badString
  noMinus : t.isMark .minus = false
  noNot : t.isName "not" = false

/-- An operand before the end of an expression is all of it. -/
theorem disjunction_of_operand {inner primary : Reader Expr} (hfirst : Begins p₀.token)
    (h : operand inner primary (s₀.left (p₀ :: ps₀) l₀) = .ok (e, s.left (p :: ps) l))
    (hp : Ends p.token) :
    disjunction inner primary (s₀.left (p₀ :: ps₀) l₀) = .ok (e, s.left (p :: ps) l) := by
  have hfilters : ∀ fuel, filters inner primary fuel e (s.left (p :: ps) l) =
      .ok (e, s.left (p :: ps) l) := by
    intro fuel
    cases fuel with
    | zero => rfl
    | succ fuel =>
      rw [filters, bind_ok (peek_left hp.ne_badString)]
      rcases hp with hp | hp | hp <;> rw [hp] <;> rfl
  have hunary : unary inner primary (s₀.left (p₀ :: ps₀) l₀) = .ok (e, s.left (p :: ps) l) := by
    rw [unary, bind_ok h,
      bind_ok size_left]
    exact hfilters _
  have hnone : power? p.token = none ∧ product? p.token = none ∧ sum? p.token = none ∧
      join? p.token = none ∧ and? p.token = none ∧ or? p.token = none := by
    rcases hp with hp | hp | hp <;> rw [hp] <;> exact ⟨rfl, rfl, rfl, rfl, rfl, rfl⟩
  obtain ⟨hpower, hproduct, hsum, hjoin, hand, hor⟩ := hnone
  -- Operators from the strongest to the weakest: none of them finds a symbol of its own.
  have hpowers := joined_of_operand hunary hp hpower
  have hsums := joined_of_operand (joined_of_operand (joined_of_operand hpowers hp hproduct)
    hp hjoin) hp hsum
  have hcompared := compared_of_operand hsums hp
  refine joined_of_operand (joined_of_operand ?_ hp hand) hp hor
  rw [bind_ok size_left, signed_of_operand _ _ hfirst.ne_badString hfirst.noNot]
  exact hcompared

/-! ## A token alone, and a call with one -/

theorem suffixes_of_ends (inner : Reader Expr) (hp : Ends p.token) (fuel n : Nat) :
    suffixes inner fuel n e (s.left (p :: ps) l) = .ok (e, s.left (p :: ps) l) := by
  cases fuel with
  | zero => rfl
  | succ fuel =>
    rw [suffixes, bind_ok (line_left _),
      bind_ok (peek_left hp.ne_badString)]
    rcases hp with hp | hp | hp <;> rw [hp] <;> rfl

/-- A token that is an expression by itself, no symbol among them. -/
structure Alone (p₀ : Placed) (e : Expr) : Prop where
  ne_badString : p₀.token ≠ .badString
  noMark : ∀ m, p₀.token.isMark m = false
  noNot : p₀.token.isName "not" = false
  primary : ∀ (inner : Reader Expr) {s : Stream} {p : Placed} {ps : List Placed} {l : Nat},
    Ends p.token → primary inner (s.left (p₀ :: p :: ps) l) = .ok (e, s.left (p :: ps) p₀.line)

theorem Alone.begins (h : Alone p₀ e) : Begins p₀.token := ⟨h.ne_badString, h.noMark _, h.noNot⟩

theorem alone_string (v : String) (n : Nat) :
    Alone ⟨.string v, n⟩ (.literal (.string v false) n) where
  ne_badString := Token.noConfusion
  noMark _ := rfl
  noNot := rfl
  primary := by
    intro inner s p ps l hp
    have hmore : ∀ fuel, moreStrings fuel v (s.left (p :: ps) n) =
        .ok (v, s.left (p :: ps) n) := by
      intro fuel
      cases fuel with
      | zero => rfl
      | succ fuel =>
        have hpeek : peekOrEnd (s.left (p :: ps) n) = .ok (some p.token, s.left (p :: ps) n) := by
          rw [peekOrEnd, peek_left hp.ne_badString]
        rw [moreStrings, bind_ok hpeek]
        rcases hp with hp | hp | hp <;> rw [hp] <;> rfl
    rw [Phrase.primary, bind_ok (next_left Token.noConfusion)]
    dsimp only
    rw [bind_ok (lastLine_ok _), bind_ok size_left, bind_ok (hmore _)]
    rfl

/-- The names that are no variables. -/
def keywords : List String := ["true", "True", "false", "False", "none", "None", "not"]

theorem ne_not_of_notMem_keywords {w : String} (hw : w ∉ keywords) : w ≠ "not" := by
  rintro rfl
  exact hw (by decide)

/-- A name that is no keyword is read as a variable, whatever follows it. -/
theorem primary_name {w : String} (hw : w ∉ keywords) (inner : Reader Expr) (n : Nat) :
    primary inner (s.left (⟨.name w, n⟩ :: ps) l) = .ok (.name w n, s.left ps n) := by
  rw [primary, bind_ok (next_left Token.noConfusion)]
  dsimp only
  rw [bind_ok (lastLine_ok _)]
  simp only [keywords, List.mem_cons, List.not_mem_nil, or_false, not_or] at hw
  -- The reader compares the name with six spellings first; none of them is it.
  obtain ⟨h₁, h₂, h₃, h₄, h₅, h₆, -⟩ := hw
  simp only
  rfl

theorem alone_name {w : String} (hw : w ∉ keywords) (n : Nat) :
    Alone ⟨.name w, n⟩ (.name w n) where
  ne_badString := Token.noConfusion
  noMark _ := rfl
  noNot := by simp [Token.isName, ne_not_of_notMem_keywords hw]
  primary inner _ _ _ _ _ := primary_name hw inner n

theorem disjunctionAt_alone (h : Alone p₀ e) (hp : Ends p.token) (fuel allowance : Nat) :
    disjunctionAt (fuel + 1) (allowance + 1) (s.left (p₀ :: p :: ps) l) =
      .ok (e, s.left (p :: ps) p₀.line) := by
  rw [disjunctionAt]
  refine disjunction_of_operand h.begins ?_ hp
  rw [operand, bind_ok (line_left _),
    bind_ok (show minus _ _ = .ok (e, s.left (p :: ps) p₀.line) from ?_), bind_ok size_left]
  · exact suffixes_of_ends _ hp _ _
  · rw [minus, bind_ok size_left, signed_of_operand _ _ h.ne_badString (h.noMark _)]
    exact h.primary _ hp

theorem choice_alone (h : Alone p₀ e) (hp : Ends p.token) (fuel allowance : Nat) :
    choice (disjunctionAt (fuel + 1) (allowance + 1)) (s.left (p₀ :: p :: ps) l) =
      .ok (e, s.left (p :: ps) p₀.line) :=
  choice_of_alternative (disjunctionAt_alone h hp fuel allowance) hp

theorem noChoice_alone (h : Alone p₀ e) (hp : Ends p.token) (allowance : Nat) :
    noChoice (allowance + 1) (s.left (p₀ :: p :: ps) l) = .ok (e, s.left (p :: ps) p₀.line) := by
  rw [noChoice, bind_ok size_left]
  exact disjunctionAt_alone h hp _ allowance

section

variable (qs : List Placed) {a b c d n : Nat}

theorem arguments_single {inner : Reader Expr} (hbad : p₀.token ≠ .badString)
    (hmark : ∀ m, p₀.token.isMark m = false) (htotal : 1 ≤ s.total)
    (h : inner (s.left (p₀ :: (qs ++ ⟨.mark .parenClose, c⟩ :: ps)) a) =
      .ok (e, s.left (⟨.mark .parenClose, c⟩ :: ps) d)) :
    arguments inner (s.left (⟨.mark .parenOpen, a⟩ :: p₀ ::
      (qs ++ ⟨.mark .parenClose, c⟩ :: ps)) l) = .ok ([.plain e], s.left ps c) := by
  obtain ⟨fuel, hfuel⟩ : ∃ fuel, s.total + 1 = fuel + 1 + 1 := ⟨s.total - 1, by omega⟩
  have hlast : argumentsFrom inner (fuel + 1) 1 false
      (s.left (⟨.mark .parenClose, c⟩ :: ps) d) = .ok ([], s.left ps c) := by
    rw [argumentsFrom, bind_ok (accept_left Token.noConfusion _)]
    rfl
  have hassign : accept (Token.isMark .assign) (s.left (⟨.mark .parenClose, c⟩ :: ps) d) =
      .ok (false, s.left (⟨.mark .parenClose, c⟩ :: ps) d) :=
    accept_left_false Token.noConfusion rfl
  rw [arguments, bind_ok (mark_left _), bind_ok size_left, hfuel, argumentsFrom,
    bind_ok (accept_left_false hbad (hmark _))]
  simp only [Bool.false_eq_true, if_false, bne_self_eq_false, Bool.or_self]
  rw [bind_ok (accept_left_false hbad (hmark _))]
  simp only [Bool.false_eq_true, if_false]
  rw [bind_ok (accept_left_false hbad (hmark _)), bind_ok h]
  -- Behind a name the reader looks for the sign of a named argument.
  cases e with
  | name w n =>
    simp only [Bool.false_eq_true, if_false]
    rw [bind_ok hassign]
    simp only [Bool.false_eq_true, if_false, pure_bind]
    rw [if_neg (by decide), bind_ok hlast]
    rfl
  | _ =>
    simp only [Bool.false_eq_true, if_false, pure_bind]
    rw [if_neg (by decide), bind_ok hlast]
    rfl

/-- A call of what a name stands for, with one argument, before the end of an
expression. -/
theorem operand_call {inner primary : Reader Expr} {w : String} (hbad : p₀.token ≠ .badString)
    (hmark : ∀ m, p₀.token.isMark m = false) (htotal : 1 ≤ s.total) (hp : Ends p.token)
    (hname : ∀ ps l, primary (s.left (⟨.name w, a⟩ :: ps) l) = .ok (.name w a, s.left ps a))
    (hinner : inner (s.left (p₀ :: (qs ++ ⟨.mark .parenClose, c⟩ :: p :: ps)) b) =
      .ok (e, s.left (⟨.mark .parenClose, c⟩ :: p :: ps) d)) :
    operand inner primary (s.left (⟨.name w, a⟩ :: ⟨.mark .parenOpen, b⟩ :: p₀ ::
      (qs ++ ⟨.mark .parenClose, c⟩ :: p :: ps)) l) =
      .ok (.mkCall (.name w a) [.plain e] a, s.left (p :: ps) c) := by
  have hminus : ∀ ps, minus primary (s.left (⟨.name w, a⟩ :: ps) l) =
      .ok (.name w a, s.left ps a) := by
    intro ps
    rw [minus, bind_ok size_left, signed_of_operand _ _ Token.noConfusion rfl]
    exact hname ps l
  rw [operand, bind_ok (line_left _), bind_ok (hminus _), bind_ok size_left, suffixes,
    bind_ok (line_left _), bind_ok (peek_left Token.noConfusion)]
  dsimp only
  rw [bind_ok (arguments_single qs hbad hmark htotal hinner)]
  exact suffixes_of_ends _ hp _ _

theorem disjunctionAt_call {w : String} (hw : w ∉ keywords) (hbad : p₀.token ≠ .badString)
    (hmark : ∀ m, p₀.token.isMark m = false) (htotal : 1 ≤ s.total) (hp : Ends p.token)
    {fuel allowance : Nat}
    (h : choice (disjunctionAt fuel allowance)
      (s.left (p₀ :: (qs ++ ⟨.mark .parenClose, c⟩ :: p :: ps)) b) =
        .ok (e, s.left (⟨.mark .parenClose, c⟩ :: p :: ps) d)) :
    disjunctionAt (fuel + 1) (allowance + 1) (s.left (⟨.name w, a⟩ :: ⟨.mark .parenOpen, b⟩ ::
      p₀ :: (qs ++ ⟨.mark .parenClose, c⟩ :: p :: ps)) l) =
      .ok (.mkCall (.name w a) [.plain e] a, s.left (p :: ps) c) := by
  have hnot : (Token.name w).isName "not" = false := by
    simp [Token.isName, ne_not_of_notMem_keywords hw]
  rw [disjunctionAt]
  exact disjunction_of_operand ⟨Token.noConfusion, rfl, hnot⟩
    (operand_call qs hbad hmark htotal hp (fun _ _ => primary_name hw _ a) h) hp

/-- The expression of a block that calls the sink is that call. -/
theorem expression_sink (hbad : p₀.token ≠ .badString) (hmark : ∀ m, p₀.token.isMark m = false)
    (htotal : 1 ≤ s.total) {allowance : Nat}
    (h : choice (disjunctionAt s.total allowance)
      (s.left (p₀ :: (qs ++ ⟨.mark .parenClose, c⟩ :: ⟨.showEnd, n⟩ :: ps)) b) =
        .ok (e, s.left (⟨.mark .parenClose, c⟩ :: ⟨.showEnd, n⟩ :: ps) d)) :
    expression (allowance + 2) (s.left (⟨.name sinkName, a⟩ :: ⟨.mark .parenOpen, b⟩ :: p₀ ::
      (qs ++ ⟨.mark .parenClose, c⟩ :: ⟨.showEnd, n⟩ :: ps)) l) =
      .ok (.mkCall (.name sinkName a) [.plain e] a, s.left (⟨.showEnd, n⟩ :: ps) c) := by
  have hend : Ends (Placed.token ⟨.showEnd, n⟩) := .inl rfl
  refine choice_of_alternative ?_ hend
  rw [noChoice, bind_ok size_left]
  exact disjunctionAt_call qs (by decide) hbad hmark htotal hend h

/-- The expression of a block that calls the sink with one token is that call. -/
theorem expression_call (halone : Alone p₀ e) (allowance : Nat) (htotal : 1 ≤ s.total) :
    expression (allowance + 3) (s.left (⟨.name sinkName, a⟩ :: ⟨.mark .parenOpen, b⟩ :: p₀ ::
      ⟨.mark .parenClose, d⟩ :: ⟨.showEnd, n⟩ :: ps) l) =
      .ok (.mkCall (.name sinkName a) [.plain e] a, s.left (⟨.showEnd, n⟩ :: ps) d) := by
  obtain ⟨fuel, hfuel⟩ : ∃ fuel, s.total = fuel + 1 := ⟨s.total - 1, by omega⟩
  have hargument : choice (disjunctionAt s.total (allowance + 1))
      (s.left (p₀ :: ([] ++ ⟨.mark .parenClose, d⟩ :: ⟨.showEnd, n⟩ :: ps)) b) =
        .ok (e, s.left (⟨.mark .parenClose, d⟩ :: ⟨.showEnd, n⟩ :: ps) p₀.line) := by
    rw [hfuel]
    exact choice_alone halone (.inr (.inr rfl)) fuel allowance
  exact expression_sink [] halone.ne_badString halone.noMark htotal hargument

/-- The expression of a block that calls the sink with a call is that call. -/
theorem expression_call_call {w : String} (hw : w ∉ keywords) (halone : Alone p₀ e)
    {a' b' : Nat} (allowance : Nat) (htotal : 2 ≤ s.total) :
    expression (allowance + 4) (s.left (⟨.name sinkName, a⟩ :: ⟨.mark .parenOpen, b⟩ ::
      ⟨.name w, a'⟩ :: ⟨.mark .parenOpen, b'⟩ :: p₀ :: ⟨.mark .parenClose, c⟩ ::
      ⟨.mark .parenClose, d⟩ :: ⟨.showEnd, n⟩ :: ps) l) =
      .ok (.mkCall (.name sinkName a) [.plain (.mkCall (.name w a') [.plain e] a')] a,
        s.left (⟨.showEnd, n⟩ :: ps) d) := by
  obtain ⟨fuel, hfuel⟩ : ∃ fuel, s.total = fuel + 1 + 1 := ⟨s.total - 2, by omega⟩
  have hclose : ∀ k, Ends (Placed.token ⟨.mark .parenClose, k⟩) := fun _ => .inr (.inr rfl)
  have hinner : choice (disjunctionAt (fuel + 1) (allowance + 1)) (s.left (p₀ ::
      ([] ++ ⟨.mark .parenClose, c⟩ :: ⟨.mark .parenClose, d⟩ :: ⟨.showEnd, n⟩ :: ps)) b') =
        .ok (e, s.left (⟨.mark .parenClose, c⟩ :: ⟨.mark .parenClose, d⟩ :: ⟨.showEnd, n⟩ :: ps)
          p₀.line) :=
    choice_alone halone (hclose c) fuel allowance
  have hargument : choice (disjunctionAt s.total (allowance + 2)) (s.left (⟨.name w, a'⟩ ::
      ([⟨.mark .parenOpen, b'⟩, p₀, ⟨.mark .parenClose, c⟩] ++ ⟨.mark .parenClose, d⟩ ::
        ⟨.showEnd, n⟩ :: ps)) b) = .ok (.mkCall (.name w a') [.plain e] a',
          s.left (⟨.mark .parenClose, d⟩ :: ⟨.showEnd, n⟩ :: ps) c) := by
    rw [hfuel]
    exact choice_of_alternative (disjunctionAt_call [] hw halone.ne_badString halone.noMark
      (by omega) (hclose d) hinner) (hclose d)
  have hpos : 1 ≤ s.total := by omega
  have hmark : ∀ m, (Placed.token ⟨.name w, a'⟩).isMark m = false := fun _ => rfl
  exact expression_sink [⟨.mark .parenOpen, b'⟩, p₀, ⟨.mark .parenClose, c⟩] Token.noConfusion
    hmark hpos hargument

end

end Phrase

end ScriptedTemplate
