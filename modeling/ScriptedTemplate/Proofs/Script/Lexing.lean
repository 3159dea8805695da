import ScriptedTemplate.Proofs.Slice.Escape
import ScriptedTemplate.Script.Lexer

/-
  The tokens of fragments — lexing a program block by block

  Every fragment of a program is a block on lines of its own. The sign at the end
  of the block has the line end behind it dropped, so the blocks of a program follow
  one another without text between them, and each is read as if it came first.
  Two sorts of blocks are read here: one that calls the sink with a literal or a
  name, whatever the literal holds, and a statement made of words.

  What is proved:
    1. `tokens_fragments` — the tokens of a program are those of its fragments, in
       order, and nothing is at fault.
    2. `Passed.reads`, `reads_sentence` — the tokens of the two sorts of blocks.
-/

namespace ScriptedTemplate

namespace Slice

/-- The block that calls the sink with an argument, without its line end. -/
def callText (argument : Text) : Text :=
  ['{', '{', '-', ' ', '_', '_', 'o', 'u', 't', '_', '_', '('] ++ argument ++
    [')', ' ', '-', '}', '}']

def quoted (q : Text) : Text := '"' :: q ++ ['"']

theorem render_text (q : Text) : (text q).render = callText (quoted q) ++ ['\n'] := by
  change "\x7b\x7b- __out__(\"".toList ++ q ++ "\") -\x7d\x7d\n".toList = _
  have hopen : "\x7b\x7b- __out__(\"".toList =
      ['{', '{', '-', ' ', '_', '_', 'o', 'u', 't', '_', '_', '(', '"'] := rfl
  have hclose : "\") -\x7d\x7d\n".toList = ['"', ')', ' ', '-', '}', '}', '\n'] := rfl
  rw [hopen, hclose, callText, quoted]
  simp only [List.append_assoc, List.cons_append, List.nil_append]

theorem render_output (p : Text) : (output p).render = callText p ++ ['\n'] := by
  change "\x7b\x7b- __out__(".toList ++ p ++ ") -\x7d\x7d\n".toList = _
  have hopen : "\x7b\x7b- __out__(".toList =
      ['{', '{', '-', ' ', '_', '_', 'o', 'u', 't', '_', '_', '('] := rfl
  have hclose : ") -\x7d\x7d\n".toList = [')', ' ', '-', '}', '}', '\n'] := rfl
  rw [hopen, hclose, callText]
  simp only [List.append_assoc, List.cons_append, List.nil_append]

end Slice

namespace Lexer

open Slice (Inside callText quoted)

/-! ## Fragments -/

/-- A block as it is written, without its line end, the tokens that it has when it
begins on a line, and the number of lines by which it goes on. -/
structure Fragment where
  text : Text
  tokens : Nat → List Placed
  height : Nat

def before (ps : List Placed) (t : TokenList) : TokenList := ⟨ps ++ t.tokens, t.fault⟩

/-- The block is read as its tokens, whatever follows, and what follows it stands
behind a block. -/
structure Fragment.Reads (f : Fragment) : Prop where
  opens : ∃ u, f.text = '{' :: u
  closes : ∃ u, f.text = u ++ ['}']
  reads : ∃ k, k ≤ f.text.length ∧ ∀ fuel l t,
    run (fuel + k) ⟨.text, false, 0, l⟩ (f.text ++ t) =
      before (f.tokens l) (run fuel ⟨.text, true, 0, l + f.height⟩ t)

def programOf (fs : List Fragment) : Text := fs.flatMap fun f => f.text ++ ['\n']

/-- The tokens of fragments, the first of which begins on line `l`. -/
def tokensOf (l : Nat) : List Fragment → List Placed
  | [] => []
  | f :: fs => f.tokens l ++ tokensOf (l + f.height + 1) fs

theorem run_go {c c' : Cursor} {t rest : Text} {ps : List Placed} (h : step c t = .go ps c' rest)
    (fuel : Nat) : run (fuel + 1) c t = before ps (run fuel c' rest) := by
  simp only [run, h]
  rfl

theorem run_nil (fuel : Nat) (c : Cursor) : run fuel c [] = ⟨[], none⟩ := by
  cases fuel <;> rfl

/-- Behind a block the line end is dropped, and a block that follows is read as the
first of a program is. -/
theorem run_next (fuel l : Nat) (t : Text) : run fuel ⟨.text, true, 0, l⟩ ('\n' :: '{' :: t) =
    run fuel ⟨.text, false, 0, l + 1⟩ ('{' :: t) := by
  cases fuel with
  | zero => rfl
  | succ fuel => rfl

/-- The fragments behind a fragment, each after a line end. -/
def later (fs : List Fragment) : Text := fs.flatMap fun f => '\n' :: f.text

theorem run_later {fs : List Fragment} (hfs : ∀ f ∈ fs, f.Reads) : ∀ (l : Nat) {fuel : Nat},
    (later fs).length ≤ fuel →
      run fuel ⟨.text, true, 0, l⟩ (later fs) = ⟨tokensOf (l + 1) fs, none⟩ := by
  induction fs with
  | nil =>
    intro l fuel _
    exact run_nil _ _
  | cons f fs ih =>
    intro l fuel hfuel
    obtain ⟨hf, hfs⟩ := List.forall_mem_cons.mp hfs
    obtain ⟨k, hk, hreads⟩ := hf.reads
    obtain ⟨u, hu⟩ := hf.opens
    have hlater : later (f :: fs) = '\n' :: (f.text ++ later fs) := rfl
    rw [hlater, List.length_cons, List.length_append] at hfuel
    obtain ⟨n, rfl⟩ : ∃ n, fuel = n + k := ⟨fuel - k, by omega⟩
    have hnext : run (n + k) ⟨.text, true, 0, l⟩ ('\n' :: (f.text ++ later fs)) =
        run (n + k) ⟨.text, false, 0, l + 1⟩ (f.text ++ later fs) := by
      rw [hu]
      exact run_next _ _ _
    rw [hlater, hnext, hreads, ih hfs (l + 1 + f.height) (by omega)]
    rfl

theorem later_closes (fs : List Fragment) (hfs : ∀ f ∈ fs, f.Reads) : ∀ {t : Text},
    (∃ u, t = u ++ ['}']) → ∃ u, t ++ later fs = u ++ ['}'] := by
  induction fs with
  | nil =>
    intro t ht
    simpa [later] using ht
  | cons f fs ih =>
    intro t _
    obtain ⟨hf, hfs⟩ := List.forall_mem_cons.mp hfs
    obtain ⟨u, hu⟩ := ih hfs hf.closes
    have hlater : later (f :: fs) = '\n' :: (f.text ++ later fs) := rfl
    exact ⟨t ++ '\n' :: u, by rw [hlater, hu]; simp⟩

theorem programOf_cons (fs : List Fragment) : ∀ f : Fragment,
    programOf (f :: fs) = f.text ++ later fs ++ ['\n'] := by
  induction fs with
  | nil => intro f; simp [programOf, later]
  | cons f' fs ih =>
    intro f
    have hcons : programOf (f :: f' :: fs) = f.text ++ ['\n'] ++ programOf (f' :: fs) := rfl
    rw [hcons, ih]
    simp [later]

/-- The last line end is not read, and no character before it is taken for
another one. -/
theorem withoutLineEnd_programOf {f : Fragment} {fs : List Fragment}
    (hfs : ∀ g ∈ f :: fs, g.Reads) : withoutLineEnd (programOf (f :: fs)) = f.text ++ later fs := by
  obtain ⟨hf, hfs⟩ := List.forall_mem_cons.mp hfs
  obtain ⟨u, hu⟩ := later_closes fs hfs hf.closes
  rw [programOf_cons, hu]
  simp [withoutLineEnd]

theorem tokens_fragments {fs : List Fragment} (hfs : ∀ f ∈ fs, f.Reads) :
    tokens (programOf fs) = ⟨tokensOf 1 fs, none⟩ := by
  cases fs with
  | nil => rfl
  | cons f fs =>
    have hlength := congrArg List.length (programOf_cons fs f)
    rw [tokens, withoutLineEnd_programOf hfs]
    obtain ⟨hf, hfs⟩ := List.forall_mem_cons.mp hfs
    obtain ⟨k, hk, hreads⟩ := hf.reads
    simp only [List.length_append, List.length_singleton] at hlength
    obtain ⟨fuel, hfuel⟩ : ∃ fuel, (programOf (f :: fs)).length + 1 = fuel + k :=
      ⟨(programOf (f :: fs)).length + 1 - k, by omega⟩
    rw [hfuel, Cursor.start, hreads, run_later hfs (1 + f.height) (by omega)]
    rfl

/-! ## Words -/

def IsWord (w : Text) : Prop :=
  ∃ c t, w = c :: t ∧ Literal.isNameStart c = true ∧ ∀ d ∈ t, isNamePart d = true

theorem isWord_of_all {c : Char} {t : Text} (hc : Literal.isNameStart c = true)
    (ht : t.all isNamePart = true) : IsWord (c :: t) := ⟨c, t, rfl, hc, List.all_eq_true.mp ht⟩

theorem shortMark?_nameStart {c : Char} (hc : Literal.isNameStart c = true) :
    shortMark? c = none := by
  unfold shortMark?
  split <;> first | rfl | exact absurd hc (by decide)

theorem longMark?_nameStart {c : Char} (hc : Literal.isNameStart c = true) (t : Text) :
    longMark? (c :: t) = none := by
  unfold longMark?
  split
  all_goals first | rfl | (next heq => cases heq; exact absurd hc (by decide))

theorem closing?_nameStart {c : Char} (hc : Literal.isNameStart c = true) (z : Zone) (t : Text) :
    closing? z (c :: t) = none := by
  have hminus : c ≠ '-' := by rintro rfl; exact absurd hc (by decide)
  have hplus : c ≠ '+' := by rintro rfl; exact absurd hc (by decide)
  have hpercent : c ≠ '%' := by rintro rfl; exact absurd hc (by decide)
  have hbrace : c ≠ '}' := by rintro rfl; exact absurd hc (by decide)
  cases z <;> simp [closing?, Text.stripPrefix?, hminus, hplus, hpercent.symm, hbrace.symm]

theorem isSpace_nameStart {c : Char} (hc : Literal.isNameStart c = true) : isSpace c = false := by
  have hne : c ≠ ' ' ∧ c ≠ '\n' ∧ c ≠ '\t' ∧ c ≠ '\r' := by
    refine ⟨?_, ?_, ?_, ?_⟩ <;> (rintro rfl; exact absurd hc (by decide))
  have hfeed : c.toNat ≠ 12 := by
    intro h
    have hchar : c = Char.ofNat 12 := by rw [← h, Char.ofNat_toNat]
    subst hchar
    exact absurd hc (by decide)
  simp [isSpace, hne, hfeed]

theorem isDigit_nameStart {c : Char} (hc : Literal.isNameStart c = true) : c.isDigit = false := by
  cases hdigit : c.isDigit with
  | false => rfl
  | true =>
    -- Digits come before letters and before the underscore.
    have hlast : c.val ≤ '9'.val := of_decide_eq_true (Bool.and_eq_true_iff.mp hdigit).2
    have hfirst : 'A'.val ≤ c.val := by
      rcases (Bool.or_eq_true_iff.mp hc).imp_left Bool.or_eq_true_iff.mp with (hc | hc) | hc
      · exact (of_decide_eq_true hc).1
      · have ha : 'a'.val ≤ c.val := of_decide_eq_true (Bool.and_eq_true_iff.mp hc).1
        exact UInt32.le_trans (by decide) ha
      · obtain rfl := eq_of_beq hc
        decide
    exact absurd (UInt32.le_trans hfirst hlast) (by decide)

/-- In a block a name is read up to a character that does not belong to it. -/
theorem step_word {z : Zone} (hz : z ≠ .text) {w : Text} (hw : IsWord w) (depth l : Nat) {e : Char}
    (he : isNamePart e = false) (t : Text) : step ⟨z, false, depth, l⟩ (w ++ e :: t) =
      .go [⟨.name (String.ofList w), l⟩] ⟨z, false, depth, l⟩ (e :: t) := by
  obtain ⟨c, u, rfl, hc, hu⟩ := hw
  have hquote : ¬ (c = '"' ∨ c = '\'') := by
    rintro (rfl | rfl) <;> exact absurd hc (by decide)
  have htake : (u ++ e :: t).takeWhile isNamePart = u := by
    rw [List.takeWhile_append_of_pos hu, List.takeWhile_cons_of_neg (by simp [he]), List.append_nil]
  have hdrop : (u ++ e :: t).dropWhile isNamePart = e :: t := by
    rw [List.dropWhile_append_of_pos hu, List.dropWhile_cons_of_neg (by simp [he])]
  simp [step, hz, isSpace_nameStart hc, tokenStep, closing?_nameStart hc, longMark?_nameStart hc,
    shortMark?_nameStart hc, hquote, isDigit_nameStart hc, hc, htake, hdrop]

theorem step_space {z : Zone} (hz : z ≠ .text) {w : Text} (hw : IsWord w) (depth l : Nat)
    (t : Text) : step ⟨z, false, depth, l⟩ (' ' :: (w ++ t)) =
      .go [] ⟨z, false, depth, l⟩ (w ++ t) := by
  obtain ⟨c, u, rfl, hc, -⟩ := hw
  have hspace : isSpace ' ' = true := rfl
  simp [step, hz, hspace, isSpace_nameStart hc, breaks]

/-! ## Calls of the sink -/

/-- What a call passes to the sink: a literal, given by its inside, or a name. -/
inductive Passed where
  | literal (q : Text)
  | name (w : Text)

namespace Passed

def text : Passed → Text
  | literal q => quoted q
  | name w => w

/-- The string that the inside of a literal means. -/
def valueOf (q : Text) : String := String.ofList (Slice.unescape q)

def token : Passed → Token
  | literal q => .string (valueOf q)
  | name w => .name (String.ofList w)

/-- The number of line feeds in the argument. -/
def height : Passed → Nat
  | literal q => breaks q
  | name _ => 0

def IsSound : Passed → Prop
  | literal q => Inside q
  | name w => IsWord w

def fragment (p : Passed) : Fragment where
  text := callText p.text
  tokens l := [⟨.showStart, l⟩, ⟨.name sinkName, l⟩, ⟨.mark .parenOpen, l⟩, ⟨p.token, l⟩,
    ⟨.mark .parenClose, l + p.height⟩, ⟨.showEnd, l + p.height⟩]
  height := p.height

end Passed

section

variable (l : Nat) (t : Text)

theorem step_showStart : step ⟨.text, false, 0, l⟩ ('{' :: '{' :: '-' :: t) =
    .go [⟨.showStart, l⟩] ⟨.shown, false, 0, l⟩ t := rfl

theorem step_space_sink : step ⟨.shown, false, 0, l⟩ (' ' :: '_' :: t) =
    .go [] ⟨.shown, false, 0, l⟩ ('_' :: t) := rfl

theorem step_sink :
    step ⟨.shown, false, 0, l⟩ ('_' :: '_' :: 'o' :: 'u' :: 't' :: '_' :: '_' :: '(' :: t) =
      .go [⟨.name sinkName, l⟩] ⟨.shown, false, 0, l⟩ ('(' :: t) := rfl

theorem step_parenOpen : step ⟨.shown, false, 0, l⟩ ('(' :: t) =
    .go [⟨.mark .parenOpen, l⟩] ⟨.shown, false, 1, l⟩ t := rfl

theorem step_string {q v : Text} (hclosed : Literal.closeString '"' (q ++ ['"']) = some (q, []))
    (hmeans : Literal.unescape? q = some v) (d : Nat) :
    step ⟨.shown, false, d + 1, l⟩ ('"' :: (q ++ '"' :: t)) =
      .go [⟨.string (String.ofList v), l⟩] ⟨.shown, false, d + 1, l + breaks q⟩ t := by
  have hclose : Literal.closeString '"' (q ++ '"' :: t) = some (q, t) := by
    simpa using Literal.closeString_append t hclosed
  have htoken : Literal.stringToken q = .string (String.ofList v) := by
    simp only [Literal.stringToken, hmeans]
  simp [step, isSpace, tokenStep, longMark?, shortMark?, hclose, htoken]

theorem step_passed {p : Passed} (hp : p.IsSound) :
    step ⟨.shown, false, 1, l⟩ (p.text ++ ')' :: t) =
      .go [⟨p.token, l⟩] ⟨.shown, false, 1, l + p.height⟩ (')' :: t) := by
  cases p with
  | literal q =>
    have happ : (Passed.literal q).text ++ ')' :: t = '"' :: (q ++ '"' :: ')' :: t) := by
      simp [Passed.text, quoted]
    rw [happ]
    exact step_string l _ (hp.closeString []) hp.unescape? 0
  | name w => exact step_word (by decide) hp 1 l rfl t

theorem step_parenClose : step ⟨.shown, false, 1, l⟩ (')' :: t) =
    .go [⟨.mark .parenClose, l⟩] ⟨.shown, false, 0, l⟩ t := rfl

theorem step_space_end : step ⟨.shown, false, 0, l⟩ (' ' :: '-' :: t) =
    .go [] ⟨.shown, false, 0, l⟩ ('-' :: t) := rfl

theorem step_showEnd : step ⟨.shown, false, 0, l⟩ ('-' :: '}' :: '}' :: t) =
    .go [⟨.showEnd, l⟩] ⟨.text, true, 0, l⟩ t := rfl

end

theorem Passed.reads {p : Passed} (hp : p.IsSound) : p.fragment.Reads where
  opens := ⟨_, rfl⟩
  closes := by
    refine ⟨['{', '{', '-', ' ', '_', '_', 'o', 'u', 't', '_', '_', '('] ++ p.text ++
      [')', ' ', '-', '}'], ?_⟩
    simp [Passed.fragment, callText]
  reads := by
    refine ⟨8, by simp [Passed.fragment, callText], ?_⟩
    intro fuel l t
    have hblock : p.fragment.text ++ t = '{' :: '{' :: '-' :: ' ' :: '_' :: '_' :: 'o' :: 'u' ::
        't' :: '_' :: '_' :: '(' :: (p.text ++ ')' :: ' ' :: '-' :: '}' :: '}' :: t) := by
      simp only [Passed.fragment, callText, List.append_assoc, List.cons_append, List.nil_append]
    rw [hblock, run_go (step_showStart _ _), run_go (step_space_sink _ _), run_go (step_sink _ _),
      run_go (step_parenOpen _ _), run_go (step_passed _ _ hp), run_go (step_parenClose _ _),
      run_go (step_space_end _ _), run_go (step_showEnd _ _)]
    rfl

/-! ## Statements of words -/

/-- Words, each with a space in front. -/
def spaced (ws : List Text) : Text := ws.flatMap (' ' :: ·)

def sentence (ws : List Text) : Fragment where
  text := ['{', '%', '-'] ++ spaced ws ++ [' ', '-', '%', '}']
  tokens l := ⟨.blockStart, l⟩ :: (ws.map fun w => ⟨.name (String.ofList w), l⟩) ++ [⟨.blockEnd, l⟩]
  height := 0

section

variable (l : Nat) (t : Text)

theorem step_blockStart (h : bareStatement? ['r', 'a', 'w'] false t = none) :
    step ⟨.text, false, 0, l⟩ ('{' :: '%' :: '-' :: t) =
      .go [⟨.blockStart, l⟩] ⟨.statement, false, 0, l⟩ t := by
  have hfind : findBlock ('{' :: '%' :: '-' :: t) = some ([], .statement, '-' :: t) := rfl
  simp [step, textStep, hfind, takeTrim, h, textToken, Text.trimEnd, breaks]

theorem step_space_blockEnd : step ⟨.statement, false, 0, l⟩ (' ' :: '-' :: t) =
    .go [] ⟨.statement, false, 0, l⟩ ('-' :: t) := rfl

theorem step_blockEnd : step ⟨.statement, false, 0, l⟩ ('-' :: '%' :: '}' :: t) =
    .go [⟨.blockEnd, l⟩] ⟨.text, true, 0, l⟩ t := rfl

end

theorem run_spaced {ws : List Text} (hws : ∀ w ∈ ws, IsWord w) (fuel l : Nat) (t : Text) :
    run (fuel + (2 * ws.length + 2)) ⟨.statement, false, 0, l⟩
        (spaced ws ++ ' ' :: '-' :: '%' :: '}' :: t) =
      before ((ws.map fun w => ⟨.name (String.ofList w), l⟩) ++ [⟨.blockEnd, l⟩])
        (run fuel ⟨.text, true, 0, l⟩ t) := by
  induction ws with
  | nil =>
    rw [spaced, List.flatMap_nil, List.nil_append, List.length_nil,
      run_go (step_space_blockEnd _ _), run_go (step_blockEnd _ _)]
    rfl
  | cons w ws ih =>
    obtain ⟨hw, hws⟩ := List.forall_mem_cons.mp hws
    -- Behind a word stands the space of the next one or of the end.
    obtain ⟨u, hu⟩ : ∃ u, spaced ws ++ ' ' :: '-' :: '%' :: '}' :: t = ' ' :: u := by
      cases ws with
      | nil => exact ⟨_, rfl⟩
      | cons w' ws => exact ⟨_, rfl⟩
    have hspaced : spaced (w :: ws) ++ ' ' :: '-' :: '%' :: '}' :: t = ' ' :: (w ++ ' ' :: u) := by
      rw [← hu]
      simp [spaced]
    have hfuel : fuel + (2 * (w :: ws).length + 2) = fuel + (2 * ws.length + 2) + 1 + 1 := by
      simp only [List.length_cons]
      omega
    rw [hspaced, hfuel, run_go (step_space (by decide) hw 0 l _),
      run_go (step_word (by decide) hw 0 l rfl _), ← hu, ih hws]
    rfl

theorem length_spaced {ws : List Text} (hws : ∀ w ∈ ws, IsWord w) :
    2 * ws.length ≤ (spaced ws).length := by
  induction ws with
  | nil => exact Nat.le_refl _
  | cons w ws ih =>
    obtain ⟨hw, hrest⟩ := List.forall_mem_cons.mp hws
    obtain ⟨c, u, rfl, -⟩ := hw
    have ih := ih hrest
    simp only [spaced, List.flatMap_cons, List.length_append, List.length_cons] at ih ⊢
    omega

/-- A statement of words is read word by word, unless it begins as a raw passage
does. -/
theorem reads_sentence {ws : List Text} (hws : ∀ w ∈ ws, IsWord w)
    (hraw : ∀ t, bareStatement? ['r', 'a', 'w'] false (spaced ws ++ ' ' :: '-' :: t) = none) :
    (sentence ws).Reads where
  opens := ⟨_, rfl⟩
  closes := ⟨['{', '%', '-'] ++ spaced ws ++ [' ', '-', '%'], by simp [sentence]⟩
  reads := by
    have hlength := length_spaced hws
    refine ⟨2 * ws.length + 2 + 1, ?_, ?_⟩
    · simp only [sentence, List.length_append, List.length_cons, List.length_nil]
      omega
    · intro fuel l t
      have hblock : (sentence ws).text ++ t =
          '{' :: '%' :: '-' :: (spaced ws ++ ' ' :: '-' :: '%' :: '}' :: t) := by
        simp [sentence]
      rw [hblock, ← Nat.add_assoc, run_go (step_blockStart _ _ (hraw _)), run_spaced hws]
      rfl

end Lexer

end ScriptedTemplate
