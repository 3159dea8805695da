import ScriptedTemplate.Proofs.Script.Blocks
import ScriptedTemplate.Proofs.Script.Locality
import ScriptedTemplate.Proofs.Script.Parsing

/-
  Expressions among fragments — one argument, wherever its call stands

  A text is an expression if the program that passes it to the sink is read as this
  one call. Then it is read as a call in every program: the lexer does not look past
  the bracket that closes the call, and the grammar does not look past the end of the
  block. That the program of one call is read as one call excludes texts that end
  their block early, or not at all.

  What is proved: `passage_expressions` — a program goes on with any fragments whose
  arguments are expressions, and each of them is one statement that is shown.
-/

namespace ScriptedTemplate

namespace Reader

variable {α β : Type}

/-- What has been read by readers one after the other has been read by each. -/
theorem of_bind_ok {x : Reader α} {f : α → Reader β} {s : Stream} {r : β × Stream}
    (h : (x >>= f) s = .ok r) : ∃ a s', x s = .ok (a, s') ∧ f a s' = .ok r := by
  cases hx : x s with
  | error e =>
    have hbind : (x >>= f) s = .error e := by
      simp only [Bind.bind, StateT.bind, Except.bind, hx]
    rw [hbind] at h
    cases h
  | ok p =>
    obtain ⟨a, s'⟩ := p
    rw [bind_ok hx] at h
    exact ⟨a, s', rfl, h⟩

theorem of_next_ok {s s' : Stream} {t : Token} (h : next s = .ok (some t, s')) :
    ∃ n rest, s.rest = ⟨t, n⟩ :: rest ∧ s' = s.left rest n := by
  cases hrest : s.rest with
  | nil =>
    obtain ⟨x, s₁, hpeek, h⟩ := of_bind_ok h
    rw [peek, hrest] at hpeek
    dsimp only at hpeek
    split at hpeek
    · cases hpeek
    · cases hpeek
      cases h
  | cons p rest =>
    by_cases hbad : p.token = .badString
    · obtain ⟨x, s₁, hpeek, -⟩ := of_bind_ok h
      rw [peek, hrest] at hpeek
      simp only [hbad] at hpeek
      cases hpeek
    · rw [next_of_rest hrest hbad] at h
      cases h
      exact ⟨p.line, rest, rfl, rfl⟩

theorem of_showEnd_ok {s s' : Stream} {u : Unit} (h : showEnd s = .ok (u, s')) :
    ∃ n rest, s.rest = ⟨.showEnd, n⟩ :: rest ∧ s' = s.left rest n := by
  obtain ⟨t, s₁, hnext, h⟩ := of_bind_ok h
  cases t with
  | none => cases h
  | some t =>
    cases t with
    | showEnd =>
      cases h
      exact of_next_ok hnext
    | _ => cases h

end Reader

namespace Grammar

open Reader
open Lexer (Fragment NoEnd Astray GoesOn)

variable {expr : Reader Expr} {statement : Reader Statement} {closes : Check} {fuel l n : Nat}
  {s s' s₁ : Stream} {ss : List Statement} {qs rest : List Placed} {e : Expr}

theorem of_passage_shown (hs : s.rest = ⟨.showStart, l⟩ :: qs)
    (h : passage expr statement closes (fuel + 1) s = .ok (ss, s')) :
    ∃ e s₁ n rest ss', expr (s.left qs l) = .ok (e, s₁) ∧ s₁.rest = ⟨.showEnd, n⟩ :: rest ∧
      passage expr statement closes fuel (s₁.left rest n) = .ok (ss', s') ∧
        ss = .shown e l :: ss' := by
  rw [passage, bind_ok (next_of_rest hs Token.noConfusion)] at h
  dsimp only at h
  rw [bind_ok (lastLine_ok _)] at h
  obtain ⟨e, s₁, he, h⟩ := of_bind_ok h
  obtain ⟨_, s₂, hend, h⟩ := of_bind_ok h
  obtain ⟨n, rest, hrest, rfl⟩ := of_showEnd_ok hend
  obtain ⟨ss', s₃, hss, h⟩ := of_bind_ok h
  cases h
  exact ⟨e, s₁, n, rest, ss', he, hrest, hss, rfl⟩

theorem ne_nil_of_goesOn (hs : GoesOn ⟨s.rest, s.fault⟩)
    (h : passage expr statement (fun _ => false) (fuel + 1) s = .ok (ss, s')) : ss ≠ [] := by
  rw [passage] at h
  obtain ⟨t, s₁, hnext, h⟩ := of_bind_ok h
  rcases hs with ⟨p, ps, hrest, hleads⟩ | ⟨hrest, hfault⟩
  · obtain ⟨t', n⟩ := p
    have hbad : t' ≠ .badString := by
      rintro rfl
      exact hleads
    rw [next_of_rest hrest hbad] at hnext
    cases hnext
    cases t' with
    | text t =>
      obtain ⟨_, _, _, h⟩ := of_bind_ok h
      obtain ⟨_, _, _, h⟩ := of_bind_ok h
      cases h
      exact List.cons_ne_nil _ _
    | showStart =>
      obtain ⟨_, _, _, h⟩ := of_bind_ok h
      obtain ⟨_, _, _, h⟩ := of_bind_ok h
      obtain ⟨_, _, _, h⟩ := of_bind_ok h
      obtain ⟨_, _, _, h⟩ := of_bind_ok h
      cases h
      exact List.cons_ne_nil _ _
    | blockStart =>
      obtain ⟨t, _, _, h⟩ := of_bind_ok h
      cases t with
      | none => cases h
      | some t =>
        obtain ⟨_, _, _, h⟩ := of_bind_ok h
        obtain ⟨_, _, _, h⟩ := of_bind_ok h
        obtain ⟨_, _, _, h⟩ := of_bind_ok h
        cases h
        exact List.cons_ne_nil _ _
    | _ => exact hleads.elim
  · obtain ⟨x, _, hpeek, _⟩ := of_bind_ok hnext
    obtain ⟨f, hf⟩ := Option.ne_none_iff_exists'.mp hfault
    dsimp only at hrest hf
    rw [peek, hrest, hf] at hpeek
    cases hpeek

/-! ## Programs of one call -/

/-- Tokens that are the same but for their lines, with an end of the block behind them, or
with nothing. -/
theorem sameTokens_append {o : Outlook} {ps ps' : List Placed}
    {f g : Option (GrammarFault × Nat)} (hps : SameTokens o 0 ps f ps' g) :
    ∀ {qs qs' : List Placed}, qs.map Placed.token = qs'.map Placed.token → NoEnd qs →
      SameTokens o qs.length (qs ++ ps) f (qs' ++ ps') g
  | [], [], _, _ => hps
  | ⟨t, l⟩ :: qs, ⟨t', l'⟩ :: qs', h, hend => by
    obtain ⟨ht, hrest⟩ := List.cons.inj h
    obtain rfl : t = t' := ht
    exact .token t l l' (hend ⟨t, l⟩ List.mem_cons_self)
      (sameTokens_append hps hrest fun x hx => hend x (List.mem_cons_of_mem _ hx))

theorem agree_append {o : Outlook} {s u : Stream} {ps ps' qs qs' : List Placed}
    (hs : s.rest = qs ++ ps) (hu : u.rest = qs' ++ ps')
    (hps : SameTokens o 0 ps s.fault ps' u.fault)
    (hsame : qs.map Placed.token = qs'.map Placed.token) (hend : NoEnd qs)
    (hfits : qs.length ≤ s.total) (hfits' : qs.length ≤ u.total) (htotal : u.total = o.total) :
    Agree o qs.length s u where
  tokens := by
    rw [hs, hu]
    exact sameTokens_append hps hsame hend
  fits := hfits
  fits' := hfits'
  total := htotal

/-- What is left before the end of a block, when an expression has been read. -/
theorem rest_of_agree {o : Outlook} {u : Stream} (h : Agree o n s u) {m : Nat}
    (hs : s.rest = ⟨.showEnd, m⟩ :: rest) :
    m = o.first.line ∧ rest = o.first.behind ∧ s.fault = o.first.fault ∧
      u.rest = ⟨.showEnd, o.second.line⟩ :: o.second.behind ∧ u.fault = o.second.fault := by
  obtain ⟨htokens, -, -, -⟩ := h
  generalize hsr : s.rest = ps, hsf : s.fault = f, hur : u.rest = qs, huf : u.fault = g at htokens
  cases htokens with
  | stop =>
    rw [hsr] at hs
    cases hs
    exact ⟨rfl, rfl, rfl, rfl, rfl⟩
  | cut =>
    rw [hsr] at hs
    cases hs
  | token t l m ht h =>
    rw [hsr] at hs
    cases hs
    exact absurd rfl ht

/-- A program that is read as one statement is the program of a fragment, if it begins as
one. -/
theorem not_astray {t : TokenList} {a : Nat} {st : Statement}
    (h : bodyAt (a + 1) (fun _ => false) (ofTokens t) = .ok ([st], s')) : ¬ Astray t := by
  rw [bodyAt_succ] at h
  intro hastray
  cases hastray with
  | noEnd qs hqs ht =>
    obtain ⟨e, s₁, n, rest, ss', he, hend, -, -⟩ := of_passage_shown ht h
    -- Whatever line the end of the block may have, there is none.
    let o : Outlook := ⟨⟨n + 1, [], none⟩, ⟨n + 1, [], none⟩, (ofTokens t).total⟩
    have hfits : qs.length ≤ (ofTokens t).total := by
      simp only [ofTokens, ht, List.length_cons]
      omega
    have hagree : Agree o qs.length ((ofTokens t).left qs 1) ((ofTokens t).left qs 1) :=
      agree_append (List.append_nil qs).symm (List.append_nil qs).symm (.cut _) rfl hqs hfits hfits
        rfl
    obtain ⟨-, u, m, -, hleft, -⟩ :=
      Phrase.expression_agreeing (qs.length + 1) (a + 1) (Nat.lt_succ_self _) hagree e s₁ he
    have hline := (rest_of_agree hleft hend).1
    exact absurd hline (Nat.ne_of_lt (Nat.lt_succ_self n))
  | more qs rest₀ m hqs ht hgoes =>
    obtain ⟨e, s₁, n, rest, ss', he, hend, hrest, hss⟩ := of_passage_shown ht h
    let o : Outlook := ⟨⟨m, rest₀, t.fault⟩, ⟨m, rest₀, t.fault⟩, (ofTokens t).total⟩
    have hfits : qs.length ≤ (ofTokens t).total := by
      simp only [ofTokens, ht, List.length_cons, List.length_append]
      omega
    have hagree : Agree o qs.length ((ofTokens t).left (qs ++ ⟨.showEnd, m⟩ :: rest₀) 1)
        ((ofTokens t).left (qs ++ ⟨.showEnd, m⟩ :: rest₀) 1) :=
      agree_append rfl rfl .stop rfl hqs hfits hfits rfl
    obtain ⟨-, u, k, -, hleft, -⟩ :=
      Phrase.expression_agreeing (qs.length + 1) (a + 1) (Nat.lt_succ_self _) hagree e s₁ he
    obtain ⟨-, hbehind, hfault, -, -⟩ := rest_of_agree hleft hend
    have hfuel : (ofTokens t).total = (qs ++ ⟨.showEnd, m⟩ :: rest₀).length + 1 := by
      simp only [ofTokens, ht, List.length_cons]
    have hgoes : GoesOn ⟨(s₁.left rest n).rest, (s₁.left rest n).fault⟩ := by
      show GoesOn ⟨rest, s₁.fault⟩
      rw [hbehind, hfault]
      exact hgoes
    rw [hfuel] at hrest
    refine ne_nil_of_goesOn hgoes hrest ?_
    exact (List.cons.inj hss).2.symm

/-- A block whose expression is read, whatever stands behind the block: one statement, which
is shown. -/
structure Shows (f : Fragment) : Prop where
  reads : f.Reads
  passage : ∀ {s : Stream} {l : Nat} {rest : List Placed}, s.rest = f.tokens l ++ rest →
    s.fault = none → (f.tokens l).length ≤ s.total → ∃ e s', s'.rest = rest ∧ s'.fault = none ∧
      s'.total = s.total ∧ ∀ {statement : Reader Statement} {closes : Check} {fuel : Nat}
        {ss : List Statement} {s₁ : Stream},
        passage (Phrase.expression nestingLimit) statement closes fuel s' = .ok (ss, s₁) →
          passage (Phrase.expression nestingLimit) statement closes (fuel + 1) s =
            .ok (.shown e l :: ss, s₁)

end Grammar

/-- A text that is one expression: the program that passes it to the sink is read as that
one call. -/
def Script.IsExpression (p : Text) : Prop :=
  ∃ e n, Script.parse (Slice.output p).render =
    .ok ⟨[.shown (.mkCall (.name sinkName 1) [.plain e] 1) 1], [], n⟩

theorem Script.isExpression_passed {p : Lexer.Passed} (hp : p.IsFit) : IsExpression p.text := by
  have hfit : ∀ r ∈ [p], r.IsFit := by simpa using hp
  have hprogram : Lexer.programOf (Grammar.callFragments [p]) = (Slice.output p.text).render :=
    (List.append_nil _).trans (Slice.render_output _).symm
  have hparse := Script.parse_calls hfit
  rw [hprogram] at hparse
  exact ⟨_, _, hparse⟩

/-- What a program is read as, its statements are. -/
theorem Script.of_parse_ok {program : Text} {s : Script} (h : parse program = .ok s) :
    ∃ u, Grammar.bodyAt Grammar.nestingLimit (fun _ => false)
      (Reader.ofTokens (Lexer.tokens program)) = .ok (s.body, u) := by
  rw [parse] at h
  split at h
  · next body u heq =>
    cases h
    exact ⟨u, heq⟩
  · cases h

namespace Grammar

open Reader
open Lexer (Fragment NoEnd argumentFragment argumentTokens placedFrom tokensOf programOf)

theorem map_token_placedFrom (l : Nat) (ps : List Placed) :
    (placedFrom l ps).map Placed.token = ps.map Placed.token := by
  simp [placedFrom]

/-- The expression of a fragment is read in every program if it is read in the program of
that fragment. -/
theorem shows_argumentFragment {p : Text} {ps : List Placed} {k : Nat} (hps : NoEnd ps)
    (hreads : (argumentFragment p ps k).Reads) {st : Statement} {s' : Stream}
    (h : bodyAt nestingLimit (fun _ => false)
      (ofTokens ⟨(argumentFragment p ps k).tokens 1, none⟩) = .ok ([st], s')) :
    Shows (argumentFragment p ps k) := by
  refine ⟨hreads, ?_⟩
  intro s l rest hs hfault htotal
  let t : TokenList := ⟨(argumentFragment p ps k).tokens 1, none⟩
  let qs := argumentTokens ps k
  rw [show nestingLimit = 149 + 1 from rfl, bodyAt_succ] at h
  obtain ⟨e, s₁, n, rest', ss', he, hend, -, -⟩ := of_passage_shown (s := ofTokens t) rfl h
  have hlength : ∀ j, ((argumentFragment p ps k).tokens j).length = qs.length + 2 := by
    intro j
    simp [argumentFragment, placedFrom, qs]
  have hfits : ∀ j, (placedFrom j qs).length = qs.length := fun j => List.length_map _
  let o : Outlook := ⟨⟨1 + k, [], none⟩, ⟨l + k, rest, none⟩, s.total⟩
  have hs' : s.rest = ⟨.showStart, l⟩ :: (placedFrom l qs ++ ⟨.showEnd, l + k⟩ :: rest) := by
    rw [hs]
    simp [argumentFragment, qs]
  have hagree : Agree o (placedFrom 1 qs).length
      ((ofTokens t).left (placedFrom 1 qs ++ [⟨.showEnd, 1 + k⟩]) 1)
      (s.left (placedFrom l qs ++ ⟨.showEnd, l + k⟩ :: rest) l) := by
    have hstop : SameTokens o 0 [⟨.showEnd, 1 + k⟩] none (⟨.showEnd, l + k⟩ :: rest) s.fault := by
      rw [hfault]
      exact .stop
    refine agree_append rfl rfl hstop ?_ ((hps.argumentTokens k).placedFrom 1) ?_ ?_ rfl
    · rw [map_token_placedFrom, map_token_placedFrom]
    · show (placedFrom 1 qs).length ≤ ((argumentFragment p ps k).tokens 1).length
      rw [hlength, hfits]
      exact Nat.le_add_right _ _
    · rw [hlength] at htotal
      rw [hfits]
      exact Nat.le_of_add_right_le htotal
  obtain ⟨b, u, m, hok, hleft, -⟩ :=
    Phrase.expression_agreeing _ nestingLimit (Nat.lt_succ_self _) hagree e s₁ he
  obtain ⟨-, -, -, hrest, hfault'⟩ := rest_of_agree hleft hend
  refine ⟨b, u.left rest (l + k), rfl, hfault', hleft.total, ?_⟩
  intro statement closes fuel ss s₂ hpassage
  exact passage_shown hs' hok hrest hpassage

end Grammar

/-- The call with an expression is a block that is read wherever it stands. -/
theorem Script.IsExpression.shows {p : Text} (hp : IsExpression p) :
    ∃ f : Lexer.Fragment, f.text = Slice.callText p ∧ Grammar.Shows f := by
  obtain ⟨e, n, hparse⟩ := hp
  rw [Slice.render_output] at hparse
  obtain ⟨u, hbody⟩ := Script.of_parse_ok hparse
  rcases Lexer.fragment_or_astray p with ⟨ps, k, hps, hreads⟩ | hastray
  · have hone : ∀ f ∈ [Lexer.argumentFragment p ps k], f.Reads := by
      intro f hf
      rw [List.mem_singleton.mp hf]
      exact hreads
    have htokens : Lexer.tokens (Slice.callText p ++ ['\n']) =
        ⟨(Lexer.argumentFragment p ps k).tokens 1, none⟩ := by
      simpa [Lexer.programOf, Lexer.tokensOf, Lexer.argumentFragment] using
        Lexer.tokens_fragments hone
    rw [htokens] at hbody
    exact ⟨Lexer.argumentFragment p ps k, rfl, Grammar.shows_argumentFragment hps hreads hbody⟩
  · exact absurd hastray (Grammar.not_astray hbody)

namespace Grammar

open Reader
open Lexer (Fragment tokensOf)

theorem blocksIn_shown (e : Expr) (l : Nat) (ss : List Statement) :
    blocksIn (.shown e l :: ss) = blocksIn ss := rfl

/-- Blocks that show expressions, up to the end of the program: each is a statement. -/
theorem passage_expressions {fs : List Fragment} (hfs : ∀ f ∈ fs, Shows f)
    (statement : Reader Statement) (closes : Check) : ∀ {s : Stream} {l : Nat} (fuel : Nat),
      s.rest = tokensOf l fs → s.fault = none → (tokensOf l fs).length ≤ s.total →
        ∃ ss s', passage (Phrase.expression nestingLimit) statement closes fuel s = .ok (ss, s') ∧
          blocksIn ss = [] := by
  induction fs with
  | nil =>
    intro s l fuel hs hfault _
    have hleft : s = s.left [] s.last := by
      rw [Stream.left, ← show s.rest = [] from hs]
    rw [hleft, passage_end _ _ _ hfault]
    exact ⟨[], _, rfl, rfl⟩
  | cons f fs ih =>
    intro s l fuel hs hfault htotal
    obtain ⟨hf, hfs⟩ := List.forall_mem_cons.mp hfs
    rw [tokensOf, List.length_append] at htotal
    cases fuel with
    | zero => exact ⟨[], s, rfl, rfl⟩
    | succ fuel =>
      obtain ⟨e, s', hrest, hfault', htotal', hpassage⟩ := hf.passage hs hfault (by omega)
      obtain ⟨ss, s₁, hss, hblocks⟩ := ih hfs fuel hrest hfault' (by omega)
      exact ⟨.shown e l :: ss, s₁, hpassage hss, (blocksIn_shown e l ss).trans hblocks⟩

end Grammar

end ScriptedTemplate
