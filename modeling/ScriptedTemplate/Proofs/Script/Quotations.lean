import ScriptedTemplate.Proofs.Script.Expressions

/-
  Quotations — calls of the sink whose argument is known

  An argument of one token, or of one call with a string, is read to the same
  expression wherever its fragment stands; only the lines differ. A program may have
  literals first, then one such argument, and behind it expressions of which nothing
  is known but that they are some.

  What is proved: `parse_quotations` — such a program is read as a call for every
  literal, the call with the known argument, on the line on which its fragment begins,
  and more statements.
-/

namespace ScriptedTemplate

namespace Slice

/-- A text without quotes and backslashes is the inside of a literal, as it is. -/
theorem inside_of_plain {m : Text} (hquote : '"' ∉ m) (hslash : '\\' ∉ m) : Inside m := by
  induction m with
  | nil => exact .nil
  | cons c m ih =>
    rw [List.mem_cons, not_or] at hquote hslash
    exact .plain (Ne.symm hquote.1) (Ne.symm hslash.1) (ih hquote.2 hslash.2)

theorem unescape_of_plain {m : Text} (hslash : '\\' ∉ m) : unescape m = m := by
  induction m with
  | nil => rfl
  | cons c m ih =>
    rw [List.mem_cons, not_or] at hslash
    rw [unescape_plain (Ne.symm hslash.1), ih hslash.2]

end Slice

namespace Lexer

/-- A literal in double quotes as it stands between the brackets of a call, with spaces
around it, and its value. -/
structure Quotation where
  lead : Text
  inside : Text
  tail : Text
  value : Text
  spacesLead : ∀ c ∈ lead, isSpace c = true
  spacesTail : ∀ c ∈ tail, isSpace c = true
  closed : Literal.closeString '"' (inside ++ ['"']) = some (inside, [])
  means : Literal.unescape? inside = some value

/-- The call of `raise` with a message. -/
def raiseText (m : Text) : Text := ['r', 'a', 'i', 's', 'e', '('] ++ Slice.quoted m ++ [')']

/-! ## Steps -/

/-- Spaces in front of another character are passed over in one step, if there are any. -/
theorem run_spaces {u : Text} (hu : ∀ c ∈ u, isSpace c = true) {c : Char} (hc : isSpace c = false)
    (d : Nat) : ∃ n, n ≤ u.length ∧ ∀ fuel l t, run (fuel + n) ⟨.shown, false, d, l⟩ (u ++ c :: t) =
      run fuel ⟨.shown, false, d, l + breaks u⟩ (c :: t) := by
  cases u with
  | nil => exact ⟨0, Nat.le_refl 0, fun _ _ _ => rfl⟩
  | cons a u =>
    refine ⟨1, Nat.succ_le_succ (Nat.zero_le _), ?_⟩
    intro fuel l t
    have htake : (a :: u ++ c :: t).takeWhile isSpace = a :: u := by
      rw [List.takeWhile_append_of_pos hu, List.takeWhile_cons_of_neg (by simp [hc]),
        List.append_nil]
    have hdrop : (a :: u ++ c :: t).dropWhile isSpace = c :: t := by
      rw [List.dropWhile_append_of_pos hu, List.dropWhile_cons_of_neg (by simp [hc])]
    have hstep : step ⟨.shown, false, d, l⟩ (a :: u ++ c :: t) =
        .go [] ⟨.shown, false, d, l + breaks (a :: u)⟩ (c :: t) := by
      have hfirst : step ⟨.shown, false, d, l⟩ (a :: u ++ c :: t) =
          .go [] ⟨.shown, false, d, l + breaks ((a :: u ++ c :: t).takeWhile isSpace)⟩
            ((a :: u ++ c :: t).dropWhile isSpace) := if_pos (hu a List.mem_cons_self)
      rw [hfirst, htake, hdrop]
    rw [run_go hstep]
    rfl

/-! ## Fragments -/

namespace Quotation

variable (q : Quotation)

def text : Text := q.lead ++ (Slice.quoted q.inside ++ q.tail)

theorem run_text : ∃ n, n ≤ q.text.length ∧ ∀ fuel l t,
    run (fuel + n) ⟨.shown, false, 1, l⟩ (q.text ++ ')' :: t) =
      before [⟨.string (String.ofList q.value), l + breaks q.lead⟩]
        (run fuel ⟨.shown, false, 1, l + breaks q.text⟩ (')' :: t)) := by
  obtain ⟨n, hn, hleading⟩ := run_spaces q.spacesLead (show isSpace '"' = false by decide) 1
  obtain ⟨k, hk, htrailing⟩ := run_spaces q.spacesTail (show isSpace ')' = false by decide) 1
  refine ⟨k + 1 + n, ?_, ?_⟩
  · simp only [text, Slice.quoted, List.length_append, List.length_cons, List.length_nil]
    omega
  · intro fuel l t
    have htext : q.text ++ ')' :: t =
        q.lead ++ '"' :: (q.inside ++ '"' :: (q.tail ++ ')' :: t)) := by
      simp [text, Slice.quoted]
    have hbreaks : breaks q.text = breaks q.lead + breaks q.inside + breaks q.tail := by
      simp [breaks, text, Slice.quoted, Nat.add_assoc]
    -- The spaces in front, the literal, and the spaces behind it.
    rw [htext, ← Nat.add_assoc, ← Nat.add_assoc, hleading,
      run_go (step_string _ _ q.closed q.means 0), htrailing, hbreaks]
    simp only [Nat.add_assoc]

/-- The call of the sink with the literal. -/
def fragment : Fragment :=
  argumentFragment q.text [⟨.string (String.ofList q.value), breaks q.lead⟩] (breaks q.text)

theorem reads : q.fragment.Reads := by
  obtain ⟨n, hn, hrun⟩ := q.run_text
  exact reads_argumentFragment hn (Nat.le_refl 1) fun l u fuel => hrun fuel l u

/-- The inside of a literal without unknown escapes, and no spaces. -/
def ofInside {p : Text} (hp : Slice.Inside p) : Quotation where
  lead := []
  inside := p
  tail := []
  value := Slice.unescape p
  spacesLead := nofun
  spacesTail := nofun
  closed := hp.closeString []
  means := hp.unescape?

theorem text_ofInside {p : Text} (hp : Slice.Inside p) : (ofInside hp).text = Slice.quoted p :=
  List.append_nil _

end Quotation

/-- The call of the sink with what a name stands for. -/
def nameFragment (w : Text) : Fragment := argumentFragment w [⟨.name (String.ofList w), 0⟩] 0

theorem reads_nameFragment {w : Text} (hw : IsWord w) : (nameFragment w).Reads := by
  have hlength : 1 ≤ w.length := by
    obtain ⟨c, t, rfl, -⟩ := hw
    exact Nat.succ_le_succ (Nat.zero_le _)
  refine reads_argumentFragment hlength (Nat.le_refl 1) ?_
  intro l u fuel
  exact run_go (step_word (by decide) hw 1 l rfl u) fuel

/-- The call of the sink with a call of `raise`. -/
def raiseFragment (m : Text) : Fragment :=
  argumentFragment (raiseText m) [⟨.name "raise", 0⟩, ⟨.mark .parenOpen, 0⟩,
    ⟨.string (String.ofList m), 0⟩, ⟨.mark .parenClose, breaks m⟩] (breaks m)

theorem reads_raiseFragment {m : Text} (hquote : '"' ∉ m) (hslash : '\\' ∉ m) :
    (raiseFragment m).Reads := by
  have hm := Slice.inside_of_plain hquote hslash
  have hmeans : Literal.unescape? m = some m := by
    rw [hm.unescape?, Slice.unescape_of_plain hslash]
  have hname : IsWord ['r', 'a', 'i', 's', 'e'] := isWord_of_all rfl rfl
  refine reads_argumentFragment (d := 1) (n := 4) ?_ (Nat.le_refl 1) ?_
  · simp [raiseText, Slice.quoted]
  · intro l u fuel
    have htext : raiseText m ++ ')' :: u =
        ['r', 'a', 'i', 's', 'e'] ++ '(' :: ('"' :: (m ++ '"' :: (')' :: ')' :: u))) := by
      simp [raiseText, Slice.quoted]
    have hopen : step ⟨.shown, false, 1, l⟩ ('(' :: ('"' :: (m ++ '"' :: (')' :: ')' :: u)))) =
        .go [⟨.mark .parenOpen, l⟩] ⟨.shown, false, 2, l⟩
          ('"' :: (m ++ '"' :: (')' :: ')' :: u))) := rfl
    rw [htext, run_go (step_word (by decide) hname 1 l rfl _), run_go hopen,
      run_go (step_string l _ (hm.closeString []) hmeans 1), run_go (step_closeCall _ _ _)]
    rfl

end Lexer

namespace Grammar

open Reader
open Lexer (Fragment Quotation argumentFragment argumentTokens nameFragment placedFrom
  raiseFragment raiseText tokensOf)
open Phrase (Alone alone_name alone_string expression expression_call expression_call_call)

/-- A call with one argument, which begins on line `l`. -/
def calling (w : String) (e : Expr) (l : Nat) : Expr := .mkCall (.name w l) [.plain e] l

/-- A block that is read as one statement, which shows the expression that is given for its
line. -/
structure ShowsAs (f : Fragment) (e : Nat → Expr) : Prop where
  reads : f.Reads
  length : ∀ l, 2 ≤ (f.tokens l).length
  passage : ∀ {s : Stream} {l : Nat} (last : Nat) {rest : List Placed}
    {statement : Reader Statement} {closes : Check} {fuel : Nat} {ss : List Statement}
    {s' : Stream}, 2 ≤ s.total →
      passage (expression nestingLimit) statement closes fuel (s.left rest (l + f.height)) =
          .ok (ss, s') →
        passage (expression nestingLimit) statement closes (fuel + 1)
          (s.left (f.tokens l ++ rest) last) = .ok (.shown (e l) l :: ss, s')

theorem showsAs_argumentFragment {p : Text} {ps : List Placed} {k : Nat} {e : Nat → Expr}
    (hreads : (argumentFragment p ps k).Reads)
    (he : ∀ {s : Stream} {l : Nat} {rest : List Placed}, 2 ≤ s.total →
      expression nestingLimit
        (s.left (placedFrom l (argumentTokens ps k) ++ ⟨.showEnd, l + k⟩ :: rest) l) =
          .ok (e l, s.left (⟨.showEnd, l + k⟩ :: rest) (l + k))) :
    ShowsAs (argumentFragment p ps k) e := by
  refine ⟨hreads, fun l => by simp [argumentFragment], ?_⟩
  intro s l last rest statement closes fuel ss s' htotal hrest
  have htokens : (argumentFragment p ps k).tokens l ++ rest = ⟨.showStart, l⟩ ::
      (placedFrom l (argumentTokens ps k) ++ ⟨.showEnd, l + k⟩ :: rest) := by
    simp [argumentFragment]
  rw [htokens]
  exact passage_shown rfl (he htotal) rfl hrest

theorem showsAs_alone {p : Text} {t : Token} {j k : Nat} {e : Nat → Expr}
    (hreads : (argumentFragment p [⟨t, j⟩] k).Reads) (he : ∀ l, Alone ⟨t, l + j⟩ (e l)) :
    ShowsAs (argumentFragment p [⟨t, j⟩] k) fun l => calling sinkName (e l) l := by
  refine showsAs_argumentFragment hreads ?_
  intro s l rest htotal
  exact expression_call (he l) 147 (Nat.le_of_succ_le htotal)

/-- The literal that a quotation is, in a fragment on line `l`. -/
def quotationExpr (q : Quotation) (l : Nat) : Expr :=
  .literal (.string (String.ofList q.value) false) (l + Lexer.breaks q.lead)

theorem showsAs_quotation (q : Quotation) :
    ShowsAs q.fragment fun l => calling sinkName (quotationExpr q l) l :=
  showsAs_alone q.reads fun _ => alone_string _ _

theorem showsAs_name {w : Text} (hw : Lexer.IsWord w)
    (hkeyword : String.ofList w ∉ Phrase.keywords) :
    ShowsAs (nameFragment w) fun l => calling sinkName (.name (String.ofList w) l) l :=
  showsAs_alone (Lexer.reads_nameFragment hw) fun l => alone_name hkeyword l

theorem showsAs_raise {m : Text} (hquote : '"' ∉ m) (hslash : '\\' ∉ m) :
    ShowsAs (raiseFragment m) fun l => calling sinkName
      (calling "raise" (.literal (.string (String.ofList m) false) l) l) l := by
  refine showsAs_argumentFragment (Lexer.reads_raiseFragment hquote hslash) ?_
  intro s l rest htotal
  exact expression_call_call (by decide) (alone_string _ _) 146 htotal

/-! ## Programs -/

/-- The statements that call the sink with quotations, the first of them on line `l`. -/
def quotationStatements (l : Nat) : List Quotation → List Statement
  | [] => []
  | q :: qs =>
    .shown (calling sinkName (quotationExpr q l) l) l ::
      quotationStatements (l + Lexer.breaks q.text + 1) qs

def quotationFragments (qs : List Quotation) : List Fragment := qs.map Quotation.fragment

theorem blocksIn_quotationStatements (qs : List Quotation) : ∀ l,
    blocksIn (quotationStatements l qs) = [] := by
  induction qs with
  | nil => intro l; rfl
  | cons q qs ih => intro l; exact ih _

theorem passage_quotations (statement : Reader Statement) (closes : Check) {s : Stream}
    (htotal : 2 ≤ s.total) (qs : List Quotation) : ∀ l last : Nat, ∃ last',
      ∀ {fuel : Nat} {rest : List Placed} {ss : List Statement} {s' : Stream},
      passage (expression nestingLimit) statement closes fuel (s.left rest last') = .ok (ss, s') →
        passage (expression nestingLimit) statement closes (fuel + qs.length)
          (s.left (tokensOf l (quotationFragments qs) ++ rest) last) =
            .ok (quotationStatements l qs ++ ss, s') := by
  induction qs with
  | nil =>
    intro l last
    exact ⟨last, id⟩
  | cons q qs ih =>
    intro l last
    obtain ⟨last', hquotations⟩ := ih (l + Lexer.breaks q.text + 1) (l + Lexer.breaks q.text)
    refine ⟨last', ?_⟩
    intro fuel rest ss s' hrest
    have htokens : tokensOf l (quotationFragments (q :: qs)) ++ rest = q.fragment.tokens l ++
        (tokensOf (l + Lexer.breaks q.text + 1) (quotationFragments qs) ++ rest) :=
      List.append_assoc _ _ _
    rw [htokens, List.length_cons, ← Nat.add_assoc]
    exact (showsAs_quotation q).passage last htotal (hquotations hrest)

theorem length_tokensOf_quotations (qs : List Quotation) : ∀ l : Nat,
    qs.length ≤ (tokensOf l (quotationFragments qs)).length := by
  induction qs with
  | nil => intro l; exact Nat.le_refl 0
  | cons q qs ih =>
    intro l
    have htokens := (showsAs_quotation q).length l
    have hrest := ih (l + Lexer.breaks q.text + 1)
    have hcons : tokensOf l (quotationFragments (q :: qs)) = q.fragment.tokens l ++
        tokensOf (l + Lexer.breaks q.text + 1) (quotationFragments qs) := rfl
    rw [hcons, List.length_append, List.length_cons]
    omega

end Grammar

open Grammar Lexer

/-- A program of literals, of one argument that is known, and of expressions is read as a
statement for each; that of the known argument is on the line behind the literals. -/
theorem Script.parse_quotations (qs : List Quotation) {f : Fragment} {e : Nat → Expr}
    (hf : ShowsAs f e) {fs : List Fragment} (hfs : ∀ g ∈ fs, Shows g) : ∃ ss n,
      Script.parse (programOf (quotationFragments qs ++ f :: fs)) =
        .ok ⟨quotationStatements 1 qs ++
          .shown (e (lineBehind 1 (quotationFragments qs)))
            (lineBehind 1 (quotationFragments qs)) :: ss, [], n⟩ := by
  let gs := quotationFragments qs ++ f :: fs
  let s := Reader.ofTokens ⟨tokensOf 1 gs, none⟩
  let l := lineBehind 1 (quotationFragments qs)
  have htokens : tokensOf 1 gs = tokensOf 1 (quotationFragments qs) ++
      (f.tokens l ++ tokensOf (l + f.height + 1) fs) :=
    tokensOf_append _ _ _
  have htotal : s.total = (tokensOf 1 gs).length := rfl
  -- There are tokens enough for a call in a call, and for a step for every literal.
  have hlength := hf.length l
  have hquotations := length_tokensOf_quotations qs 1
  rw [htokens, List.length_append, List.length_append] at htotal
  -- The literals, the known argument, and what is behind it.
  obtain ⟨last, hfirst⟩ := passage_quotations (partsAt 149).statement (fun _ => false) (s := s)
    (by omega) qs 1 0
  obtain ⟨ss, u, hlater, hblocks⟩ := passage_expressions hfs (partsAt 149).statement
    (fun _ => false) (s := s.left (tokensOf (l + f.height + 1) fs) (l + f.height))
    (s.total - qs.length) rfl rfl (by show _ ≤ s.total; omega)
  have hpassage := hfirst (hf.passage last (s := s) (by omega) hlater)
  have hfuel : s.total - qs.length + 1 + qs.length = s.total + 1 := by omega
  rw [hfuel, ← htokens] at hpassage
  have hreads : ∀ g ∈ gs, g.Reads := by
    intro g hg
    rcases List.mem_append.mp hg with hg | hg
    · obtain ⟨q, -, rfl⟩ := List.mem_map.mp hg
      exact q.reads
    · rcases List.mem_cons.mp hg with rfl | hg
      · exact hf.reads
      · exact (hfs g hg).reads
  have hparse := Script.parse_fragments hreads ((bodyAt_succ 149 _ s).trans hpassage)
  rw [blocksIn_append, blocksIn_quotationStatements, blocksIn_shown, hblocks] at hparse
  exact ⟨ss, u.identity, hparse⟩

end ScriptedTemplate
