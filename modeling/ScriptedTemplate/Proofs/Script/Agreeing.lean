import ScriptedTemplate.Proofs.Script.Taking

/-
  Agreeing streams — the same tokens up to the end of a block

  What a reader of expressions does depends on the tokens up to the end of the block,
  and on nothing else: not on their lines, not on what stands behind the block, not on
  how many tokens there are in all. So two streams with these tokens in common are
  read alike. If the first is read, the second is read too, and they agree on what is
  left.

  `Agree` is the relation of the two streams, with the number of tokens that they have
  in common. `Follows` relates the two outcomes of a reader, and its lemmas take
  readers apart: one for sequences, and one for each reader of single tokens.
-/

namespace ScriptedTemplate

/-- The name that an expression is, if it is nothing but a name. -/
def Expr.asName? : Expr → Option String
  | name s _ => some s
  | _ => none

namespace Reader

/-- The end of a block: its line, and what stands behind it. -/
structure Ending where
  line : Nat
  behind : List Placed
  fault : Option (GrammarFault × Nat)

/-- The ends of the block in two streams, and the number of tokens of the second. -/
structure Outlook where
  first : Ending
  second : Ending
  total : Nat

/-- Tokens with what is wrong behind them, in two streams: `n` tokens are the same, and
none of them is the end of a block. Behind them the block ends in both streams, or both
streams end. -/
inductive SameTokens (o : Outlook) : Nat → List Placed → Option (GrammarFault × Nat) →
    List Placed → Option (GrammarFault × Nat) → Prop where
  | stop : SameTokens o 0 (⟨.showEnd, o.first.line⟩ :: o.first.behind) o.first.fault
      (⟨.showEnd, o.second.line⟩ :: o.second.behind) o.second.fault
  | cut (f : Option (GrammarFault × Nat)) : SameTokens o 0 [] f [] f
  | token {n : Nat} {ps qs : List Placed} {f g : Option (GrammarFault × Nat)} (t : Token)
      (l m : Nat) (ht : t ≠ .showEnd) (h : SameTokens o n ps f qs g) :
      SameTokens o (n + 1) (⟨t, l⟩ :: ps) f (⟨t, m⟩ :: qs) g

/-- Two streams that agree on the next `n` tokens, neither of which is read with fewer
steps than that. -/
structure Agree (o : Outlook) (n : Nat) (s u : Stream) : Prop where
  tokens : SameTokens o n s.rest s.fault u.rest u.fault
  fits : n ≤ s.total
  fits' : n ≤ u.total
  total : u.total = o.total

/-- If the first reading succeeds, so does the second, and the streams agree on what is
left; `Q` relates what has been read, with the number of tokens left. -/
def Follows {α : Type} (o : Outlook) (Q : α → α → Nat → Prop)
    (x y : Except Fault (α × Stream)) : Prop :=
  ∀ a s, x = .ok (a, s) → ∃ b u n, y = .ok (b, u) ∧ Agree o n s u ∧ Q a b n

/-- The expressions are one name, or neither of them is a name. -/
def SameName (e e' : Expr) : Prop := e.asName? = e'.asName?

theorem SameName.cases {e e' : Expr} (h : SameName e e') :
    (∃ w l l', e = .name w l ∧ e' = .name w l') ∨
      ((∀ w l, e ≠ .name w l) ∧ ∀ w l, e' ≠ .name w l) := by
  have hnone : ∀ {e : Expr}, e.asName? = none → ∀ w l, e ≠ .name w l := by
    rintro e he w l rfl
    cases he
  cases e with
  | name w l =>
    cases e' with
    | name w' l' =>
      cases h
      exact .inl ⟨w, l, l', rfl, rfl⟩
    | _ => cases h
  | _ => exact .inr ⟨hnone rfl, hnone h.symm⟩

variable {α β : Type} {o : Outlook} {n : Nat} {s u : Stream}

namespace Follows

variable {P : α → α → Nat → Prop} {Q : β → β → Nat → Prop}

theorem of_pure {a b : α} (h : Agree o n s u) (hq : P a b n) :
    Follows o P ((pure a : Reader α) s) ((pure b : Reader α) u) := by
  intro a' s' hx
  cases hx
  exact ⟨b, u, n, rfl, h, hq⟩

theorem of_failed {x y : Except Fault (α × Stream)} {f : Fault} (hx : x = .error f) :
    Follows o P x y := by
  rintro a s' rfl
  cases hx

theorem of_fail {g : GrammarFault} {y : Except Fault (α × Stream)} :
    Follows o P (fail g s) y := of_failed rfl

theorem mono {P' : α → α → Nat → Prop} {x y : Except Fault (α × Stream)} (h : Follows o P x y)
    (hp : ∀ a b n, P a b n → P' a b n) : Follows o P' x y := by
  intro a s hx
  obtain ⟨b, u, n, hy, hagree, hq⟩ := h a s hx
  exact ⟨b, u, n, hy, hagree, hp a b n hq⟩

theorem bind {x y : Reader α} {f g : α → Reader β} (hx : Follows o P (x s) (y u))
    (hf : ∀ a b m s' u', P a b m → Agree o m s' u' → Follows o Q (f a s') (g b u')) :
    Follows o Q ((x >>= f) s) ((y >>= g) u) := by
  intro c s' hc
  cases hread : x s with
  | error e =>
    have hbind : (x >>= f) s = .error e := by
      simp only [Bind.bind, StateT.bind, Except.bind, hread]
    rw [hbind] at hc
    cases hc
  | ok r =>
    obtain ⟨a, s₁⟩ := r
    rw [bind_ok hread] at hc
    obtain ⟨b, u₁, m, hy, hagree, hp⟩ := hx a s₁ hread
    rw [bind_ok hy]
    exact hf a b m s₁ u₁ hp hagree c s' hc

theorem map {x y : Reader α} {f g : α → β} (hx : Follows o P (x s) (y u))
    (hf : ∀ a b m, P a b m → Q (f a) (g b) m) : Follows o Q ((f <$> x) s) ((g <$> y) u) := by
  rw [map_eq_pure_bind, map_eq_pure_bind]
  exact hx.bind fun a b m s' u' hp h => of_pure h (hf a b m hp)

end Follows

/-! ## Single tokens -/

/-- The next token of two streams is `t`, and when it is taken, they agree on `m`
tokens. -/
structure Upcoming (o : Outlook) (t : Token) (m : Nat) (s u : Stream) : Prop where
  ne_showEnd : t ≠ .showEnd
  taken : ∃ s' u', next s = .ok (some t, s') ∧ next u = .ok (some t, u') ∧ Agree o m s' u'

/-- What is seen next in two streams that agree. -/
inductive View (o : Outlook) (n : Nat) (s u : Stream) : Prop where
  | token (t : Token) (m : Nat) (hn : n = m + 1) (hs : peek s = .ok (some t, s))
      (hu : peek u = .ok (some t, u)) (h : Upcoming o t m s u)
  | stop (hs : peek s = .ok (some .showEnd, s)) (hu : peek u = .ok (some .showEnd, u))
  | none (hs : peek s = .ok (none, s)) (hu : peek u = .ok (none, u))
  | fault (f g : Fault) (hs : peek s = .error f) (hu : peek u = .error g)

theorem Agree.view (h : Agree o n s u) : View o n s u := by
  obtain ⟨htokens, hfits, hfits', htotal⟩ := h
  generalize hs : s.rest = rest, hf : s.fault = f, hu : u.rest = rest', hg : u.fault = g at htokens
  cases htokens with
  | stop => exact .stop (peek_of_rest hs Token.noConfusion) (peek_of_rest hu Token.noConfusion)
  | cut =>
    cases f with
    | none => exact .none (by rw [peek, hs, hf]) (by rw [peek, hu, hg])
    | some f =>
      exact .fault ⟨.grammar f.1, some f.2⟩ ⟨.grammar f.1, some f.2⟩ (by rw [peek, hs, hf])
        (by rw [peek, hu, hg])
  | @token m ps qs _ _ t l l' ht h =>
    by_cases hbad : t = .badString
    · subst hbad
      exact .fault ⟨.badEscape, some s.last⟩ ⟨.badEscape, some u.last⟩ (by rw [peek, hs])
        (by rw [peek, hu])
    · refine .token t m rfl (peek_of_rest hs hbad) (peek_of_rest hu hbad)
        ⟨ht, _, _, next_of_rest hs hbad, next_of_rest hu hbad, ?_⟩
      rw [← hf, ← hg] at h
      exact ⟨h, Nat.le_of_succ_le hfits, Nat.le_of_succ_le hfits', htotal⟩

namespace Follows

variable {Q : β → β → Nat → Prop}

/-- What is done depends on the next token: there is none, or the block ends, or it is
the same token in both streams. -/
theorem peek {k k' : Option Token → Reader β} (h : Agree o n s u)
    (hnone : Follows o Q (k none s) (k' none u))
    (hstop : Follows o Q (k (some .showEnd) s) (k' (some .showEnd) u))
    (htoken : ∀ t m, n = m + 1 → Upcoming o t m s u →
      Follows o Q (k (some t) s) (k' (some t) u)) :
    Follows o Q ((Reader.peek >>= k) s) ((Reader.peek >>= k') u) := by
  cases h.view with
  | token t m hn hs hu hup =>
    rw [bind_ok hs, bind_ok hu]
    exact htoken t m hn hup
  | stop hs hu =>
    rw [bind_ok hs, bind_ok hu]
    exact hstop
  | none hs hu =>
    rw [bind_ok hs, bind_ok hu]
    exact hnone
  | fault f g hs hu =>
    intro a s' hx
    simp only [Bind.bind, StateT.bind, Except.bind, hs] at hx
    cases hx

theorem taken {t : Token} {m : Nat} {k k' : Option Token → Reader β} (h : Upcoming o t m s u)
    (hk : ∀ s' u', Agree o m s' u' → Follows o Q (k (some t) s') (k' (some t) u')) :
    Follows o Q ((next >>= k) s) ((next >>= k') u) := by
  obtain ⟨s', u', hs, hu, hagree⟩ := h.taken
  rw [bind_ok hs, bind_ok hu]
  exact hk s' u' hagree

/-- The next token is taken, whatever it is; the end of the block must be refused. -/
theorem next {k k' : Option Token → Reader β} (h : Agree o n s u)
    (hnone : Follows o Q (k none s) (k' none u))
    (hstop : ∀ s' y, Follows o Q (k (some .showEnd) s') y)
    (htoken : ∀ t m s' u', n = m + 1 → t ≠ .showEnd → Agree o m s' u' →
      Follows o Q (k (some t) s') (k' (some t) u')) :
    Follows o Q ((Reader.next >>= k) s) ((Reader.next >>= k') u) := by
  cases h.view with
  | token t m hn hs hu hup =>
    exact taken hup fun s' u' hagree => htoken t m s' u' hn hup.ne_showEnd hagree
  | stop hs hu =>
    obtain ⟨s', hnext⟩ : ∃ s', Reader.next s = .ok (some .showEnd, s') := by
      rw [Reader.next, bind_ok hs]
      dsimp only
      split
      · exact ⟨_, rfl⟩
      · exact ⟨_, rfl⟩
    rw [bind_ok hnext]
    exact hstop s' _
  | none hs hu =>
    have hnext : ∀ {v : Stream}, Reader.peek v = .ok (none, v) → Reader.next v = .ok (none, v) := by
      intro v hv
      rw [Reader.next, bind_ok hv]
      rfl
    rw [bind_ok (hnext hs), bind_ok (hnext hu)]
    exact hnone
  | fault f g hs hu =>
    intro a s' hx
    rw [Reader.next, bind_assoc] at hx
    simp only [Bind.bind, StateT.bind, Except.bind, hs] at hx
    cases hx

theorem peekOrEnd {k k' : Option Token → Reader β} (h : Agree o n s u)
    (hnone : ∀ m s' u', m ≤ n → Agree o m s' u' → Follows o Q (k none s') (k' none u'))
    (hstop : Follows o Q (k (some .showEnd) s) (k' (some .showEnd) u))
    (htoken : ∀ t m, n = m + 1 → Upcoming o t m s u →
      Follows o Q (k (some t) s) (k' (some t) u)) :
    Follows o Q ((Reader.peekOrEnd >>= k) s) ((Reader.peekOrEnd >>= k') u) := by
  have hseen : ∀ {v : Stream} {x : Option Token}, Reader.peek v = .ok (x, v) →
      Reader.peekOrEnd v = .ok (x, v) := by
    intro v x hv
    rw [Reader.peekOrEnd, hv]
  have hfault : ∀ {v : Stream} {f : Fault}, Reader.peek v = .error f →
      Reader.peekOrEnd v = .ok (none, { v with rest := [], fault := none }) := by
    intro v f hv
    rw [Reader.peekOrEnd, hv]
  cases h.view with
  | token t m hn hs hu hup =>
    rw [bind_ok (hseen hs), bind_ok (hseen hu)]
    exact htoken t m hn hup
  | stop hs hu =>
    rw [bind_ok (hseen hs), bind_ok (hseen hu)]
    exact hstop
  | none hs hu =>
    rw [bind_ok (hseen hs), bind_ok (hseen hu)]
    exact hnone n s u (Nat.le_refl n) h
  | fault f g hs hu =>
    rw [bind_ok (hfault hs), bind_ok (hfault hu)]
    exact hnone 0 _ _ (Nat.zero_le n) ⟨.cut none, Nat.zero_le _, Nat.zero_le _, h.total⟩

theorem accept {c : Check} (hc : c .showEnd = false) (h : Agree o n s u) :
    Follows o (fun x y m => x = y ∧ m ≤ n ∧ (x = true → m < n)) (accept c s) (accept c u) := by
  refine peek h ?_ ?_ ?_
  · exact of_pure h ⟨rfl, Nat.le_refl n, nofun⟩
  · simp only [hc, Bool.false_eq_true, if_false]
    exact of_pure h ⟨rfl, Nat.le_refl n, nofun⟩
  · intro t m hn hup
    dsimp only
    split
    · refine taken hup fun s' u' hagree => of_pure hagree ?_
      exact ⟨rfl, by omega, fun _ => by omega⟩
    · exact of_pure h ⟨rfl, Nat.le_refl n, nofun⟩

theorem upcoming (c : Check) (h : Agree o n s u) :
    Follows o (fun x y m => x = y ∧ m = n) (upcoming c s) (upcoming c u) :=
  peek h (of_pure h ⟨rfl, rfl⟩) (of_pure h ⟨rfl, rfl⟩) fun _ _ _ _ => of_pure h ⟨rfl, rfl⟩

theorem expect {wanted : String} {f : Token → Option α} (hf : f .showEnd = none)
    (h : Agree o n s u) :
    Follows o (fun x y m => x = y ∧ m < n) (expect wanted f s) (expect wanted f u) := by
  refine next h of_fail ?_ ?_
  · intro s' y
    simp only [hf]
    exact of_fail
  · intro t m s' u' hn _ hagree
    dsimp only
    cases f t with
    | none => exact of_fail
    | some a => exact of_pure hagree ⟨rfl, by omega⟩

theorem mark (k : Mark) (h : Agree o n s u) :
    Follows o (fun _ _ m => m < n) (mark k s) (mark k u) :=
  (expect rfl h).mono fun _ _ _ h => h.2

theorem word (t wanted : String) (h : Agree o n s u) :
    Follows o (fun _ _ m => m < n) (word t wanted s) (word t wanted u) :=
  (expect rfl h).mono fun _ _ _ h => h.2

theorem anyName (h : Agree o n s u) :
    Follows o (fun x y m => x = y ∧ m < n) (anyName s) (anyName u) :=
  expect rfl h

/-! ## Places -/

theorem line (h : Agree o n s u) : Follows o (fun _ _ m => m = n) (line s) (line u) := by
  have hline : ∀ v : Stream, ∃ l, Reader.line v = .ok (l, v) := by
    intro v
    rw [Reader.line]
    split <;> exact ⟨_, rfl⟩
  obtain ⟨l, hs⟩ := hline s
  obtain ⟨l', hu⟩ := hline u
  rw [hs, hu]
  exact of_pure h rfl

theorem lastLine (h : Agree o n s u) :
    Follows o (fun _ _ m => m = n) (lastLine s) (lastLine u) :=
  of_pure (a := s.last) (b := u.last) h rfl

/-- Both bounds on the number of steps are enough for the tokens that are left. -/
theorem size (h : Agree o n s u) :
    Follows o (fun x y m => m = n ∧ n < x ∧ n < y) (size s) (size u) :=
  of_pure (a := s.total + 1) (b := u.total + 1) h
    ⟨rfl, Nat.lt_succ_of_le h.fits, Nat.lt_succ_of_le h.fits'⟩

/-! ## Expressions -/

theorem Agree.identity (h : Agree o n s u) (i j : Nat) :
    Agree o n { s with identity := i } { u with identity := j } :=
  ⟨h.tokens, h.fits, h.fits', h.total⟩

/-- Whether a constant is computed beforehand makes no difference. -/
theorem settle {e e' : Expr} (he : e.asName? = none) (he' : e'.asName? = none) (l l' : Nat)
    (h : Agree o n s u) :
    Follows o (fun x y m => SameName x y ∧ m = n) (settle e l s) (settle e' l' u) := by
  have hsettle : ∀ {e : Expr} (l : Nat) (v : Stream), e.asName? = none →
      ∃ x i, Reader.settle e l v = .ok (x, { v with identity := i }) ∧ x.asName? = none := by
    intro e l v he
    rw [Reader.settle]
    split
    · exact ⟨_, _, rfl, he⟩
    · exact ⟨_, _, rfl, rfl⟩
  obtain ⟨x, i, hs, hx⟩ := hsettle l s he
  obtain ⟨y, j, hu, hy⟩ := hsettle l' u he'
  rw [hs, hu]
  exact of_pure (Agree.identity h i j) ⟨hx.trans hy.symm, rfl⟩

end Follows

end Reader

end ScriptedTemplate
