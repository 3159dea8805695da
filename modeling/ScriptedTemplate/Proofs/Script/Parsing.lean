import ScriptedTemplate.Proofs.Script.Lexing
import ScriptedTemplate.Proofs.Script.Taking
import ScriptedTemplate.Script.Grammar

/-
  Fragments as statements — parsing a program of calls and loops

  A fragment that calls the sink is one statement, which shows the call. A loop is
  made of several: one that opens it, those of its body, and one that closes it.
  The reader of passages takes the tokens of a fragment and is then where the next
  one begins; each lemma on it says so with any tokens behind.

  What is proved:
    1. `parse_calls` — a program of calls is read as their statements, in order,
       without named blocks and without constants.
    2. `parse_loop` — so is a program of calls with a loop among them, whose body is
       calls too.
-/

namespace ScriptedTemplate

def Lexer.Passed.IsVariable : Lexer.Passed → Prop
  | literal _ => True
  | name w => String.ofList w ∉ Phrase.keywords

namespace Grammar

open Reader
open Lexer (Fragment Passed sentence tokensOf)

def passedExpr (l : Nat) : Passed → Expr
  | .literal q => .literal (.string (Passed.valueOf q) false) l
  | .name w => .name (String.ofList w) l

/-- The statement that calls the sink, on line `l`. -/
def callStatement (l : Nat) (p : Passed) : Statement :=
  .shown (.mkCall (.name sinkName l) [.plain (passedExpr l p)] l) l

/-- The statements that call the sink, the first of them on line `l`. -/
def callStatements (l : Nat) : List Passed → List Statement
  | [] => []
  | p :: ps => callStatement l p :: callStatements (l + p.height + 1) ps

def callFragments (ps : List Passed) : List Fragment := ps.map Passed.fragment

theorem blocksIn_callStatements (ps : List Passed) : ∀ l, blocksIn (callStatements l ps) = [] := by
  induction ps with
  | nil => intro l; rfl
  | cons p ps ih => intro l; exact ih _

theorem blocksIn_append (ss ss' : List Statement) :
    blocksIn (ss ++ ss') = blocksIn ss ++ blocksIn ss' := by
  induction ss with
  | nil => rfl
  | cons st ss ih => simp only [List.cons_append, blocksIn, ih, List.append_assoc]

/-- The line behind fragments, the first of which begins on line `l`. -/
def lineBehind (l : Nat) : List Fragment → Nat
  | [] => l
  | f :: fs => lineBehind (l + f.height + 1) fs

theorem tokensOf_append (fs gs : List Fragment) : ∀ l : Nat,
    tokensOf l (fs ++ gs) = tokensOf l fs ++ tokensOf (lineBehind l fs) gs := by
  induction fs with
  | nil => intro l; rfl
  | cons f fs ih =>
    intro l
    simp only [List.cons_append, tokensOf, ih, lineBehind, List.append_assoc]

theorem length_tokensOf_calls (ps : List Passed) : ∀ l : Nat,
    (tokensOf l (callFragments ps)).length = 6 * ps.length := by
  induction ps with
  | nil => intro l; rfl
  | cons p ps ih =>
    intro l
    have ih := ih (l + p.fragment.height + 1)
    simp only [callFragments] at ih
    simp only [callFragments, List.map_cons, tokensOf, List.length_append, ih]
    simp only [Passed.fragment, List.length_cons, List.length_nil]
    omega

variable {s s' : Stream} {ss : List Statement} {rest : List Placed}

/-! ## Passages -/

theorem alone_passed {p : Passed} (hp : p.IsVariable) (l : Nat) :
    Phrase.Alone ⟨p.token, l⟩ (passedExpr l p) := by
  cases p with
  | literal q => exact Phrase.alone_string _ l
  | name w => exact Phrase.alone_name hp l

theorem passage_end (expr : Reader Expr) (statement : Reader Statement) (closes : Check)
    (hfault : s.fault = none) (fuel l : Nat) :
    passage expr statement closes fuel (s.left [] l) = .ok ([], s.left [] l) := by
  have hpeek : peek (s.left [] l) = .ok (none, s.left [] l) := by
    simp only [peek, Stream.left, hfault]
  have hnext : next (s.left [] l) = .ok (none, s.left [] l) := by
    rw [next, bind_ok hpeek]
    rfl
  cases fuel with
  | zero => rfl
  | succ fuel =>
    rw [passage, bind_ok hnext]
    rfl

/-- A passage ends at a statement that closes it, the start of which is taken. -/
theorem passage_closed (expr : Reader Expr) (statement : Reader Statement) (closes : Check)
    {p : Placed} (hp : p.token ≠ .badString) (hclosed : closes p.token = true)
    (rest : List Placed) (fuel l n : Nat) :
    passage expr statement closes (fuel + 1) (s.left (⟨.blockStart, n⟩ :: p :: rest) l) =
      .ok ([], s.left (p :: rest) n) := by
  rw [passage, bind_ok (next_left Token.noConfusion)]
  dsimp only
  rw [bind_ok (peek_left hp)]
  simp only [hclosed, if_true]
  rfl

theorem passage_statement {expr : Reader Expr} {statement : Reader Statement} (closes : Check)
    {p : Placed} {ps : List Placed} {st : Statement} {fuel l m n k : Nat}
    (hp : p.token ≠ .badString) (hopen : closes p.token = false)
    (hst : statement (s.left (p :: ps) n) = .ok (st, s.left (⟨.blockEnd, m⟩ :: rest) k))
    (hrest : passage expr statement closes fuel (s.left rest m) = .ok (ss, s')) :
    passage expr statement closes (fuel + 1) (s.left (⟨.blockStart, n⟩ :: p :: ps) l) =
      .ok (st :: ss, s') := by
  rw [passage, bind_ok (next_left Token.noConfusion)]
  dsimp only
  rw [bind_ok (peek_left hp)]
  simp only [hopen, Bool.false_eq_true, if_false]
  rw [bind_ok hst, blockEnd,
    bind_ok (expect_left Token.noConfusion (show _ = some () from rfl)), bind_ok hrest]
  rfl

theorem passage_shown {expr : Reader Expr} {statement : Reader Statement} {closes : Check}
    {s₁ : Stream} {e : Expr} {ps : List Placed} {fuel l n : Nat}
    (hs : s.rest = ⟨.showStart, l⟩ :: ps) (he : expr (s.left ps l) = .ok (e, s₁))
    (hend : s₁.rest = ⟨.showEnd, n⟩ :: rest)
    (hrest : passage expr statement closes fuel (s₁.left rest n) = .ok (ss, s')) :
    passage expr statement closes (fuel + 1) s = .ok (.shown e l :: ss, s') := by
  rw [passage, bind_ok (next_of_rest hs Token.noConfusion)]
  dsimp only
  rw [bind_ok (lastLine_ok _), bind_ok he, ← showEnd, bind_ok (showEnd_of_rest hend),
    bind_ok hrest]
  rfl

/-- Calls, and then the rest of the passage. The induction is on the calls; the line
of the last token taken is that of the end of the last one. -/
theorem passage_calls (statement : Reader Statement) (closes : Check) (allowance : Nat)
    {ps : List Passed} (hps : ∀ p ∈ ps, p.IsVariable) (htotal : ps.length ≤ s.total) :
    ∀ l last : Nat, ∃ last',
      ∀ {fuel : Nat} {rest : List Placed} {ss : List Statement} {s' : Stream},
      passage (Phrase.expression (allowance + 3)) statement closes fuel (s.left rest last') =
          .ok (ss, s') →
        passage (Phrase.expression (allowance + 3)) statement closes (fuel + ps.length)
          (s.left (tokensOf l (callFragments ps) ++ rest) last) =
            .ok (callStatements l ps ++ ss, s') := by
  induction ps with
  | nil =>
    intro l last
    exact ⟨last, id⟩
  | cons p ps ih =>
    intro l last
    obtain ⟨hp, hps⟩ := List.forall_mem_cons.mp hps
    rw [List.length_cons] at htotal
    have hpos : 1 ≤ s.total := by omega
    obtain ⟨last', hcalls⟩ := ih hps (Nat.le_of_succ_le htotal) (l + p.height + 1) (l + p.height)
    refine ⟨last', ?_⟩
    intro fuel rest ss s' hrest
    have htokens : tokensOf l (callFragments (p :: ps)) ++ rest =
        ⟨.showStart, l⟩ :: ⟨.name sinkName, l⟩ :: ⟨.mark .parenOpen, l⟩ :: ⟨p.token, l⟩ ::
          ⟨.mark .parenClose, l + p.height⟩ :: ⟨.showEnd, l + p.height⟩ ::
          (tokensOf (l + p.height + 1) (callFragments ps) ++ rest) := rfl
    rw [htokens, List.length_cons, ← Nat.add_assoc]
    exact passage_shown rfl (Phrase.expression_call (alone_passed hp l) allowance hpos) rfl
      (hcalls hrest)

/-! ## Loops -/

/-- The readers of the parts of a statement. -/
def partsAt (allowance : Nat) : Parts where
  expr := Phrase.expression allowance
  noChoice := Phrase.noChoice allowance
  arguments? := Phrase.filterArguments allowance
  body closes s := bodyAt allowance closes s

theorem bodyAt_succ (allowance : Nat) (closes : Check) (s : Stream) :
    bodyAt (allowance + 1) closes s =
      passage (Phrase.expression (allowance + 1)) (partsAt allowance).statement closes
        (s.total + 1) s := by
  rw [bodyAt]
  rfl

/-- A name that can be the target of a loop. -/
structure IsTarget (x : String) : Prop where
  free : reserved.contains x = false
  noEnd : endsTargets (.name x) = false

theorem target_name {x y : String} (hx : IsTarget x) (l n m : Nat) :
    target false (s.left (⟨.name x, n⟩ :: ⟨.name y, m⟩ :: rest) l) =
      .ok (.name x n, s.left (⟨.name y, m⟩ :: rest) n) := by
  have hplace : place false (s.left (⟨.name x, n⟩ :: ⟨.name y, m⟩ :: rest) l) =
      .ok (.name x n, s.left (⟨.name y, m⟩ :: rest) n) := by
    have hany : anyName (s.left (⟨.name x, n⟩ :: ⟨.name y, m⟩ :: rest) l) =
        .ok (x, s.left (⟨.name y, m⟩ :: rest) n) := expect_left Token.noConfusion rfl
    rw [place, freeName, bind_assoc, bind_ok hany]
    simp only [hx.free, Bool.false_eq_true, if_false, pure_bind]
    rfl
  have hends : upcoming endsTargets (s.left (⟨.name x, n⟩ :: ⟨.name y, m⟩ :: rest) l) =
      .ok (false, s.left (⟨.name x, n⟩ :: ⟨.name y, m⟩ :: rest) l) := by
    rw [upcoming, bind_ok (peek_left Token.noConfusion), ← hx.noEnd]
    rfl
  have hcomma : upcoming (Token.isMark .comma) (s.left (⟨.name y, m⟩ :: rest) n) =
      .ok (false, s.left (⟨.name y, m⟩ :: rest) n) := by
    rw [upcoming, bind_ok (peek_left Token.noConfusion)]
    rfl
  have htargets : ∀ nested : Reader Target, targets nested (place false) (s.total + 1) true
      (s.left (⟨.name x, n⟩ :: ⟨.name y, m⟩ :: rest) l) =
        .ok (([.name x n], false), s.left (⟨.name y, m⟩ :: rest) n) := by
    intro nested
    rw [targets]
    simp only [Bool.not_true, Bool.false_eq_true, if_false]
    rw [bind_ok hends]
    simp only [Bool.false_eq_true, if_false]
    rw [bind_ok (accept_left_false Token.noConfusion rfl)]
    simp only [Bool.false_eq_true, if_false]
    rw [bind_ok hplace, bind_ok hcomma]
    rfl
  rw [target, bind_ok size_left, targetAt]
  show (line >>= fun here => _) _ = _
  rw [bind_ok (line_left _), bind_ok (htargets _)]
  rfl

theorem statement_loop {x xs : String} (hx : IsTarget x) (hxs : xs ∉ Phrase.keywords)
    (allowance : Nat) {ps : List Passed} (hps : ∀ p ∈ ps, p.IsVariable)
    (htotal : ps.length ≤ s.total) (rest : List Placed) (l n m k : Nat) :
    (partsAt (allowance + 4)).statement (s.left (⟨.name "for", n⟩ :: ⟨.name x, n⟩ ::
      ⟨.name "in", n⟩ :: ⟨.name xs, n⟩ :: ⟨.blockEnd, n⟩ ::
      (tokensOf k (callFragments ps) ++ ⟨.blockStart, m⟩ :: ⟨.name "endfor", m⟩ :: rest)) l) =
      .ok (.loop (.name x n) (.name xs n) none false (callStatements k ps) [] n,
        s.left rest m) := by
  obtain ⟨last, hcalls⟩ := passage_calls (s := s) (partsAt (allowance + 3)).statement
    (isOneOf ["endfor", "else"]) (allowance + 1) hps htotal k n
  have hclosed := passage_closed (s := s) (p := ⟨.name "endfor", m⟩)
    (Phrase.expression (allowance + 4)) (partsAt (allowance + 3)).statement
    (isOneOf ["endfor", "else"]) Token.noConfusion rfl rest (s.total - ps.length) last m
  have hpassage := hcalls hclosed
  have hsize : s.total - ps.length + 1 + ps.length = s.total + 1 := by omega
  rw [hsize, List.append_nil] at hpassage
  generalize tokensOf k (callFragments ps) ++ ⟨.blockStart, m⟩ :: ⟨.name "endfor", m⟩ :: rest =
    inside at hpassage ⊢
  have hword : word "in" "in" (s.left (⟨.name "in", n⟩ :: ⟨.name xs, n⟩ :: ⟨.blockEnd, n⟩ ::
      inside) n) = .ok ((), s.left (⟨.name xs, n⟩ :: ⟨.blockEnd, n⟩ :: inside) n) :=
    expect_left Token.noConfusion rfl
  have hitems : (partsAt (allowance + 4)).noChoice
      (s.left (⟨.name xs, n⟩ :: ⟨.blockEnd, n⟩ :: inside) n) =
        .ok (.name xs n, s.left (⟨.blockEnd, n⟩ :: inside) n) :=
    Phrase.noChoice_alone (Phrase.alone_name hxs n) (.inr (.inl rfl)) (allowance + 3)
  have hbody : (partsAt (allowance + 4)).body (isOneOf ["endfor", "else"]) (s.left inside n) =
      .ok (callStatements k ps, s.left (⟨.name "endfor", m⟩ :: rest) m) :=
    (bodyAt_succ _ _ _).trans hpassage
  -- The keyword, the target, the items, and the end of the block that opens the loop.
  rw [Parts.statement, bind_ok (next_left Token.noConfusion)]
  dsimp only
  rw [bind_ok (lastLine_ok _)]
  show Parts.loop _ _ _ = _
  rw [Parts.loop, bind_ok (target_name hx _ _ _), bind_ok hword, bind_ok hitems,
    bind_ok (accept_left_false Token.noConfusion rfl)]
  simp only [Bool.false_eq_true, if_false, pure_bind]
  rw [bind_ok (accept_left_false Token.noConfusion rfl), blockEnd,
    bind_ok (expect_left Token.noConfusion (show _ = some () from rfl))]
  -- The body, and the keyword that closes it.
  rw [bind_ok hbody, bind_ok (accept_left_false Token.noConfusion rfl)]
  simp only [Bool.false_eq_true, if_false]
  rw [bind_ok (next_left Token.noConfusion)]
  rfl

/-- The fragments of a loop over what a name stands for, with calls before it, in
its body and behind it. -/
def loopFragments (x xs : Text) (lead body tail : List Passed) : List Fragment :=
  callFragments lead ++ sentence [['f', 'o', 'r'], x, ['i', 'n'], xs] ::
    (callFragments body ++ sentence [['e', 'n', 'd', 'f', 'o', 'r']] :: callFragments tail)

end Grammar

open Grammar Lexer

/-- What can stand between the brackets of a call: one token, no keyword. -/
structure Lexer.Passed.IsFit (p : Passed) : Prop where
  sound : p.IsSound
  variable_ : p.IsVariable

theorem Script.parse_fragments {fs : List Fragment} (hfs : ∀ f ∈ fs, f.Reads)
    {ss : List Statement} {s : Stream}
    (h : bodyAt nestingLimit (fun _ => false) (Reader.ofTokens ⟨tokensOf 1 fs, none⟩) =
      .ok (ss, s)) :
    Script.parse (programOf fs) = .ok ⟨ss, blocksIn ss, s.identity⟩ := by
  rw [Script.parse, tokens_fragments hfs, h]

theorem Lexer.reads_calls {ps : List Passed} (hps : ∀ p ∈ ps, p.IsFit) :
    ∀ f ∈ callFragments ps, f.Reads := by
  intro f hf
  obtain ⟨p, hp, rfl⟩ := List.mem_map.mp hf
  exact Passed.reads (hps p hp).sound

theorem Script.parse_calls {ps : List Passed} (hps : ∀ p ∈ ps, p.IsFit) :
    Script.parse (programOf (callFragments ps)) = .ok ⟨callStatements 1 ps, [], 0⟩ := by
  let s := Reader.ofTokens ⟨tokensOf 1 (callFragments ps), none⟩
  have htotal : s.total = 6 * ps.length := length_tokensOf_calls ps 1
  obtain ⟨last, hcalls⟩ := passage_calls (s := s) (partsAt 149).statement (fun _ => false) 147
    (fun p hp => (hps p hp).variable_) (by omega) 1 0
  have hpassage := hcalls (passage_end (s := s) _ _ _ rfl (s.total + 1 - ps.length) last)
  have hfuel : s.total + 1 - ps.length + ps.length = s.total + 1 := by omega
  rw [hfuel, List.append_nil, List.append_nil] at hpassage
  have hbody : bodyAt nestingLimit (fun _ => false) s = .ok (callStatements 1 ps, s.left [] last) :=
    (bodyAt_succ 149 _ s).trans hpassage
  have hparse := Script.parse_fragments (reads_calls hps) hbody
  rw [blocksIn_callStatements] at hparse
  exact hparse

/-- The names of a loop: its target, and what it goes over. -/
structure Grammar.AreLoopNames (x xs : Text) : Prop where
  target : IsWord x
  free : IsTarget (String.ofList x)
  items : IsWord xs
  noKeyword : String.ofList xs ∉ Phrase.keywords

theorem Lexer.reads_loop {x xs : Text} (hnames : AreLoopNames x xs) {lead body tail : List Passed}
    (hlead : ∀ p ∈ lead, p.IsFit) (hbody : ∀ p ∈ body, p.IsFit) (htail : ∀ p ∈ tail, p.IsFit) :
    ∀ f ∈ loopFragments x xs lead body tail, f.Reads := by
  have hopens : (sentence [['f', 'o', 'r'], x, ['i', 'n'], xs]).Reads := by
    refine reads_sentence ?_ (fun _ => rfl)
    simp only [List.forall_mem_cons, List.not_mem_nil, false_implies, implies_true, and_true]
    exact ⟨isWord_of_all rfl rfl, hnames.target, isWord_of_all rfl rfl, hnames.items⟩
  have hcloses : (sentence [['e', 'n', 'd', 'f', 'o', 'r']]).Reads := by
    refine reads_sentence ?_ (fun _ => rfl)
    simp only [List.forall_mem_cons, List.not_mem_nil, false_implies, implies_true, and_true]
    exact isWord_of_all rfl rfl
  intro f hf
  simp only [loopFragments, List.mem_append, List.mem_cons] at hf
  rcases hf with hf | rfl | hf | rfl | hf
  · exact reads_calls hlead f hf
  · exact hopens
  · exact reads_calls hbody f hf
  · exact hcloses
  · exact reads_calls htail f hf

/-- A program of calls with a loop among them is read as these calls and the
loop. -/
theorem Script.parse_loop {x xs : Text} (hnames : AreLoopNames x xs) {lead body tail : List Passed}
    (hlead : ∀ p ∈ lead, p.IsFit) (hbody : ∀ p ∈ body, p.IsFit) (htail : ∀ p ∈ tail, p.IsFit) :
    ∃ l k m : Nat, Script.parse (programOf (loopFragments x xs lead body tail)) =
      .ok ⟨callStatements 1 lead ++ .loop (.name (String.ofList x) l) (.name (String.ofList xs) l)
        none false (callStatements k body) [] l :: callStatements m tail, [], 0⟩ := by
  let fs := loopFragments x xs lead body tail
  let s := Reader.ofTokens ⟨tokensOf 1 fs, none⟩
  -- The lines on which the loop, its body, its end and what follows begin.
  let l := lineBehind 1 (callFragments lead)
  let m := lineBehind (l + 1) (callFragments body)
  have htokens : tokensOf 1 fs = tokensOf 1 (callFragments lead) ++
      (⟨.blockStart, l⟩ :: ⟨.name "for", l⟩ :: ⟨.name (String.ofList x), l⟩ :: ⟨.name "in", l⟩ ::
        ⟨.name (String.ofList xs), l⟩ :: ⟨.blockEnd, l⟩ ::
        (tokensOf (l + 1) (callFragments body) ++ ⟨.blockStart, m⟩ :: ⟨.name "endfor", m⟩ ::
          ⟨.blockEnd, m⟩ :: tokensOf (m + 1) (callFragments tail))) := by
    simp only [fs, loopFragments, tokensOf_append, tokensOf]
    rfl
  have htotal : s.total = (tokensOf 1 fs).length := rfl
  rw [htokens] at htotal
  simp only [List.length_append, List.length_cons, length_tokensOf_calls] at htotal
  have hfit : ∀ {ps : List Passed}, (∀ p ∈ ps, p.IsFit) → ∀ p ∈ ps, p.IsVariable :=
    fun hps p hp => (hps p hp).variable_
  obtain ⟨last, hlast⟩ := passage_calls (s := s) (partsAt 149).statement (fun _ => false) 147
    (hfit htail) (by omega) (m + 1) m
  have hafter := hlast (passage_end (s := s) _ _ _ rfl (s.total - lead.length - tail.length) last)
  rw [List.append_nil, List.append_nil] at hafter
  obtain ⟨last', hfirst⟩ := passage_calls (s := s) (partsAt 149).statement (fun _ => false) 147
    (hfit hlead) (by omega) 1 0
  have hloop := statement_loop (s := s) hnames.free hnames.noKeyword 145 (hfit hbody) (by omega)
    (⟨.blockEnd, m⟩ :: tokensOf (m + 1) (callFragments tail)) l l m (l + 1)
  have hmiddle := passage_statement (fun _ => false) (l := last')
    (p := ⟨.name "for", l⟩) Token.noConfusion rfl hloop hafter
  have hpassage := hfirst hmiddle
  have hfuel : s.total - lead.length - tail.length + tail.length + 1 + lead.length =
      s.total + 1 := by omega
  rw [hfuel, ← htokens] at hpassage
  have hparse := Script.parse_fragments (reads_loop hnames hlead hbody htail)
    ((bodyAt_succ 149 _ s).trans hpassage)
  refine ⟨l, l + 1, m + 1, ?_⟩
  rw [blocksIn_append, blocksIn_callStatements] at hparse
  simp only [blocksIn, blocksOf, blocksIn_callStatements] at hparse
  exact hparse

end ScriptedTemplate
