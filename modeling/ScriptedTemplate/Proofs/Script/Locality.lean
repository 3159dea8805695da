import ScriptedTemplate.Proofs.Script.Agreeing

/-
  Locality of expressions — the grammar sees no more than its block

  Each reader of the grammar of expressions does the same on streams that agree: the
  argument goes through the grammar from the readers of single tokens up, and one
  induction, on the number of steps, goes through the nesting. A reader of operands or
  items goes on as long as it has steps; that both streams grant it enough of them
  rests on the tokens that every round takes.

  What is proved: `expression_agreeing` — an expression that is read on one stream is
  read on every stream that agrees with it.
-/

namespace ScriptedTemplate

namespace Phrase

open Reader

/-- An expression has been read, and with it one of `n` tokens or more. -/
def Taken (n : Nat) (e e' : Expr) (m : Nat) : Prop := SameName e e' ∧ m < n

def Kept (n : Nat) (e e' : Expr) (m : Nat) : Prop := SameName e e' ∧ m ≤ n

/-- Two readers do the same on streams that agree on fewer than `n` tokens. -/
def Agreeing (o : Outlook) (n : Nat) (r r' : Reader Expr) : Prop :=
  ∀ {m : Nat} {s u : Stream}, m < n → Agree o m s u → Follows o (Taken m) (r s) (r' u)

variable {o : Outlook} {n m : Nat} {s u : Stream} {e e' : Expr} {r r' : Reader Expr}

theorem Kept.of_le {k : Nat} (h : m ≤ k) (j : Nat) (hk : Kept m e e' j) : Kept k e e' j :=
  ⟨hk.1, Nat.le_trans hk.2 h⟩

theorem Agreeing.of_le {k : Nat} (h : Agreeing o n r r') (hk : k ≤ n) : Agreeing o k r r' :=
  fun hm => h (Nat.lt_of_lt_of_le hm hk)

/-! ## Operators -/

/-- A chain of operators goes on after as many operands in both streams. The induction is on
the steps; each takes a symbol and an operand. -/
theorem chain_follows {operator? : Token → Option Operator} (hop : operator? .showEnd = none)
    (hr : Agreeing o n r r') (l l' : Nat) : ∀ {f g m : Nat} {e e' : Expr} {s u : Stream},
      m ≤ n → m < f → m < g → Agree o m s u → SameName e e' →
        Follows o (Kept m) (chain operator? r l f e s) (chain operator? r' l' g e' u) := by
  intro f
  induction f with
  | zero => intro g m e e' s u _ hf; exact absurd hf (Nat.not_lt_zero m)
  | succ f ih =>
    intro g m e e' s u hm hf hg h hname
    obtain ⟨g, rfl⟩ := Nat.exists_eq_succ_of_ne_zero (Nat.ne_of_gt (Nat.zero_lt_of_lt hg))
    rw [chain, chain]
    refine Follows.peek h (Follows.of_pure h ⟨hname, Nat.le_refl m⟩) ?_ ?_
    · simp only [hop]
      exact Follows.of_pure h ⟨hname, Nat.le_refl m⟩
    · intro t k hk hup
      dsimp only
      cases operator? t with
      | none => exact Follows.of_pure h ⟨hname, Nat.le_refl m⟩
      | some op =>
        refine Follows.taken hup fun s₁ u₁ h₁ => ?_
        refine (hr (by omega) h₁).bind ?_
        rintro a b k₂ s₂ u₂ ⟨-, hlt⟩ h₂
        refine (Follows.settle rfl rfl l l' h₂).bind ?_
        rintro a b _ s₃ u₃ ⟨hname, rfl⟩ h₃
        exact (ih (by omega) (by omega) (by omega) h₃ hname).mono fun a b => Kept.of_le (by omega)

theorem joined_agreeing {operator? : Token → Option Operator} (hop : operator? .showEnd = none)
    (hr : Agreeing o n r r') : Agreeing o n (joined operator? r) (joined operator? r') := by
  intro m s u hm h
  rw [joined, joined]
  refine (Follows.line h).bind ?_
  rintro l l' _ s₁ u₁ rfl h₁
  refine (Follows.size h₁).bind ?_
  rintro f g _ s₂ u₂ ⟨rfl, hf, hg⟩ h₂
  refine (hr hm h₂).bind ?_
  rintro a b k s₃ u₃ ⟨hname, hlt⟩ h₃
  refine (chain_follows hop hr l l' (by omega) (by omega) (by omega) h₃ hname).mono ?_
  rintro a b j ⟨hname, hj⟩
  exact ⟨hname, by omega⟩

/-- Comparisons go on in both streams, and none has been read in one if none has been in the
other. -/
theorem comparisons_follows (hr : Agreeing o n r r') (l l' : Nat) (e e' : Expr) :
    ∀ {f g m : Nat} {ls ls' : List Comparison} {s u : Stream}, m ≤ n → m < f → m < g →
      Agree o m s u → (ls = [] ↔ ls' = []) →
        Follows o (fun a b k => (a = [] ↔ b = []) ∧ k ≤ m) (comparisons r l e f ls s)
          (comparisons r' l' e' g ls' u) := by
  intro f
  induction f with
  | zero => intro g m ls ls' s u _ hf; exact absurd hf (Nat.not_lt_zero m)
  | succ f ih =>
    intro g m ls ls' s u hm hf hg h hlinks
    obtain ⟨g, rfl⟩ := Nat.exists_eq_succ_of_ne_zero (Nat.ne_of_gt (Nat.zero_lt_of_lt hg))
    rw [comparisons, comparisons]
    refine Follows.peek h (Follows.of_pure h ⟨hlinks, Nat.le_refl m⟩)
      (Follows.of_pure h ⟨hlinks, Nat.le_refl m⟩) ?_
    intro t k hk hup
    dsimp only
    cases comparison? t with
    | some op =>
      refine Follows.taken hup fun s₁ u₁ h₁ => ?_
      refine (hr (by omega) h₁).bind ?_
      rintro a b k₂ s₂ u₂ ⟨-, hlt⟩ h₂
      refine (ih (by omega) (by omega) (by omega) h₂ (by simp)).mono ?_
      rintro as bs j ⟨hnil, hj⟩
      exact ⟨hnil, by omega⟩
    | none =>
      dsimp only
      split
      · refine Follows.taken hup fun s₁ u₁ h₁ => ?_
        refine (Follows.word "in" "in" h₁).bind ?_
        rintro _ _ k₂ s₂ u₂ hlt h₂
        refine (hr (by omega) h₂).bind ?_
        rintro a b k₃ s₃ u₃ ⟨-, hlt'⟩ h₃
        refine (ih (by omega) (by omega) (by omega) h₃ (by simp)).mono ?_
        rintro as bs j ⟨hnil, hj⟩
        exact ⟨hnil, by omega⟩
      · exact Follows.of_pure h ⟨hlinks, Nat.le_refl m⟩

theorem compared_agreeing (hr : Agreeing o n r r') :
    Agreeing o n (compared r) (compared r') := by
  intro m s u hm h
  rw [compared, compared]
  refine (Follows.lastLine h).bind ?_
  rintro l l' _ s₁ u₁ rfl h₁
  refine (Follows.size h₁).bind ?_
  rintro f g _ s₂ u₂ ⟨rfl, hf, hg⟩ h₂
  refine (hr hm h₂).bind ?_
  rintro a b k s₃ u₃ ⟨hname, hlt⟩ h₃
  refine (comparisons_follows hr l l' a b (by omega) (by omega) (by omega) h₃ Iff.rfl).bind ?_
  rintro as bs j s₄ u₄ ⟨hnil, hj⟩ h₄
  cases as with
  | nil =>
    obtain rfl := hnil.mp rfl
    exact Follows.of_pure h₄ ⟨hname, by omega⟩
  | cons c cs =>
    cases bs with
    | nil => exact absurd (hnil.mpr rfl) (List.cons_ne_nil c cs)
    | cons d ds =>
      refine (Follows.settle rfl rfl l l' h₄).mono ?_
      rintro x y _ ⟨hname, rfl⟩
      exact ⟨hname, by omega⟩

/-! ## Signs -/

theorem signed_agreeing {isSign : Token → Bool} (hsign : isSign .showEnd = false)
    {apply : Expr → Nat → Expr} (happly : ∀ e l, (apply e l).asName? = none)
    (hr : Agreeing o n r r') : ∀ {f g m : Nat} {s u : Stream}, m < n → m < f → m < g →
      Agree o m s u →
        Follows o (Taken m) (signed isSign apply r f s) (signed isSign apply r' g u) := by
  intro f
  induction f with
  | zero => intro g m s u _ hf; exact absurd hf (Nat.not_lt_zero m)
  | succ f ih =>
    intro g m s u hm hf hg h
    obtain ⟨g, rfl⟩ := Nat.exists_eq_succ_of_ne_zero (Nat.ne_of_gt (Nat.zero_lt_of_lt hg))
    rw [signed, signed]
    refine (Follows.line h).bind ?_
    rintro l l' _ s₁ u₁ rfl h₁
    refine (Follows.accept hsign h₁).bind ?_
    rintro x _ k s₂ u₂ ⟨rfl, hle, hlt⟩ h₂
    cases x with
    | false =>
      refine (hr (by omega) h₂).mono ?_
      rintro a b j ⟨hname, hj⟩
      exact ⟨hname, by omega⟩
    | true =>
      have hlt := hlt rfl
      refine (ih (by omega) (by omega) (by omega) h₂).bind ?_
      rintro a b j s₃ u₃ ⟨-, hj⟩ h₃
      refine (Follows.settle (happly a l) (happly b l') l l' h₃).mono ?_
      rintro x y _ ⟨hname, rfl⟩
      exact ⟨hname, by omega⟩

theorem minus_agreeing (hr : Agreeing o n r r') : Agreeing o n (minus r) (minus r') := by
  intro m s u hm h
  refine (Follows.size h).bind ?_
  rintro f g _ s₁ u₁ ⟨rfl, hf, hg⟩ h₁
  exact signed_agreeing rfl (fun _ _ => rfl) hr hm hf hg h₁

/-! ## Brackets -/

/-- Two readers take a token or more in streams that agree on fewer than `n` tokens. -/
def Consuming {α : Type} (o : Outlook) (n : Nat) (x y : Reader α) : Prop :=
  ∀ {m : Nat} {s u : Stream}, m < n → Agree o m s u → Follows o (fun _ _ k => k < m) (x s) (y u)

theorem Agreeing.consuming (hr : Agreeing o n r r') : Consuming o n r r' :=
  fun hm h => (hr hm h).mono fun _ _ _ ht => ht.2

/-- What stands before an item: the closing symbol, or a comma when an item is before it,
and the closing symbol behind the comma. -/
theorem separated_follows {α : Type} {close : Mark} (later : Bool) {x y : Reader (List α)}
    (h : Agree o m s u)
    (hxy : ∀ k s' u', k ≤ m → (later = true → k < m) → Agree o k s' u' →
      Follows o (fun _ _ j => j ≤ m) (x s') (y u')) :
    Follows o (fun _ _ j => j ≤ m)
      ((accept (Token.isMark close) >>= fun done => if done then pure [] else
        if later then mark .comma >>= fun _ => accept (Token.isMark close) >>= fun done =>
          if done then pure [] else x
        else x) s)
      ((accept (Token.isMark close) >>= fun done => if done then pure [] else
        if later then mark .comma >>= fun _ => accept (Token.isMark close) >>= fun done =>
          if done then pure [] else y
        else y) u) := by
  refine (Follows.accept rfl h).bind ?_
  rintro done _ k s₁ u₁ ⟨rfl, hle, -⟩ h₁
  cases done with
  | true => exact Follows.of_pure h₁ hle
  | false =>
    cases later with
    | false => exact hxy k s₁ u₁ hle nofun h₁
    | true =>
      refine (Follows.mark .comma h₁).bind ?_
      rintro _ _ j s₂ u₂ hj h₂
      refine (Follows.accept rfl h₂).bind ?_
      rintro done _ i s₃ u₃ ⟨rfl, hi, -⟩ h₃
      cases done with
      | true => exact Follows.of_pure h₃ (by omega)
      | false => exact hxy i s₃ u₃ (by omega) (fun _ => by omega) h₃

theorem items_follows {α : Type} (close : Mark) {x y : Reader α} (hx : Consuming o n x y) :
    ∀ {f g m : Nat} {isFirst : Bool} {s u : Stream}, m ≤ n → m < f → m < g → Agree o m s u →
      (isFirst = true → m < n) →
      Follows o (fun _ _ k => k ≤ m) (items close x f isFirst s) (items close y g isFirst u) := by
  intro f
  induction f with
  | zero => intro g m isFirst s u _ hf; exact absurd hf (Nat.not_lt_zero m)
  | succ f ih =>
    intro g m isFirst s u hm hf hg h hfirst
    obtain ⟨g, rfl⟩ := Nat.exists_eq_succ_of_ne_zero (Nat.ne_of_gt (Nat.zero_lt_of_lt hg))
    rw [items, items]
    refine separated_follows (!isFirst) h fun k s₁ u₁ hle hlt h₁ => ?_
    refine (hx ?_ h₁).bind ?_
    · cases isFirst with
      | true => exact Nat.lt_of_le_of_lt hle (hfirst rfl)
      | false => exact Nat.lt_of_lt_of_le (hlt rfl) hm
    · rintro a b j s₂ u₂ hj h₂
      have hlater : false = true → j < n := nofun
      refine (ih (by omega) (by omega) (by omega) h₂ hlater).bind ?_
      rintro as bs i s₃ u₃ hi h₃
      exact Follows.of_pure h₃ (by omega)

theorem tupleRest_follows (hr : Agreeing o n r r') : ∀ {f g m : Nat} {s u : Stream}, m ≤ n →
    m < f → m < g → Agree o m s u →
      Follows o (fun _ _ k => k ≤ m) (tupleRest r f s) (tupleRest r' g u) := by
  intro f
  induction f with
  | zero => intro g m s u _ hf; exact absurd hf (Nat.not_lt_zero m)
  | succ f ih =>
    intro g m s u hm hf hg h
    obtain ⟨g, rfl⟩ := Nat.exists_eq_succ_of_ne_zero (Nat.ne_of_gt (Nat.zero_lt_of_lt hg))
    rw [tupleRest, tupleRest]
    refine separated_follows true h fun k s₁ u₁ hle hlt h₁ => ?_
    have hlt := hlt rfl
    refine (hr (by omega) h₁).bind ?_
    rintro a b j s₂ u₂ ⟨-, hj⟩ h₂
    refine (ih (by omega) (by omega) (by omega) h₂).bind ?_
    rintro as bs i s₃ u₃ hi h₃
    exact Follows.of_pure h₃ (by omega)

/-! ## Arguments -/

/-- An argument, and the arguments behind it. -/
def argumentsAfter (inner : Reader Expr) (fuel count : Nat) (a : Argument) (named : Bool) :
    Reader (List Argument) := do
  if argumentLimit < count + 1 then fail .tooManyArguments
  let rest ← argumentsFrom inner fuel (count + 1) named
  return a :: rest

/-- An expression as an argument, which none with a name may be before. -/
def argumentsAfterPlain (inner : Reader Expr) (fuel count : Nat) (e : Expr) (named : Bool) :
    Reader (List Argument) :=
  if named then do
    let a ← fail .lateArgument
    argumentsAfter inner fuel count a named
  else argumentsAfter inner fuel count (.plain e) named

theorem argumentsFrom_follows (hr : Agreeing o n r r') : ∀ {f g m count : Nat} {named : Bool}
    {s u : Stream}, m < n → m < f → m < g → Agree o m s u →
      Follows o (fun _ _ k => k ≤ m) (argumentsFrom r f count named s)
        (argumentsFrom r' g count named u) := by
  intro f
  induction f with
  | zero => intro g m count named s u _ hf; exact absurd hf (Nat.not_lt_zero m)
  | succ f ih =>
    intro g m count named s u hm hf hg h
    obtain ⟨g, rfl⟩ := Nat.exists_eq_succ_of_ne_zero (Nat.ne_of_gt (Nat.zero_lt_of_lt hg))
    have hafter : ∀ (a b : Argument) (named : Bool) {k : Nat} {s u : Stream}, k < m →
        Agree o k s u → Follows o (fun _ _ j => j ≤ m) (argumentsAfter r f count a named s)
          (argumentsAfter r' g count b named u) := by
      intro a b named k s u hk h
      rw [argumentsAfter, argumentsAfter]
      split
      · exact Follows.of_failed rfl
      · refine (ih (by omega) (by omega) (by omega) h).bind ?_
        rintro as bs i s₃ u₃ hi h₃
        exact Follows.of_pure h₃ (by omega)
    have hplain : ∀ (a b : Expr) {k : Nat} {s u : Stream}, k < m → Agree o k s u →
        Follows o (fun _ _ j => j ≤ m) (argumentsAfterPlain r f count a named s)
          (argumentsAfterPlain r' g count b named u) := by
      intro a b k s u hk h
      cases named with
      | true => exact Follows.of_failed rfl
      | false => exact hafter _ _ _ hk h
    rw [argumentsFrom, argumentsFrom]
    refine separated_follows (count != 0 || named) h fun k s₁ u₁ hle _ h₁ => ?_
    refine (Follows.accept rfl h₁).bind ?_
    rintro spreadNamed _ k₂ s₂ u₂ ⟨rfl, hle₂, -⟩ h₂
    cases spreadNamed with
    | true =>
      simp only [if_true, pure_bind]
      refine (hr (by omega) h₂).bind ?_
      rintro a b k₃ s₃ u₃ ⟨-, hlt⟩ h₃
      exact hafter _ _ _ (by omega) h₃
    | false =>
      simp only [Bool.false_eq_true, if_false]
      refine (Follows.accept rfl h₂).bind ?_
      rintro spread _ k₃ s₃ u₃ ⟨rfl, hle₃, -⟩ h₃
      refine (hr (by omega) h₃).bind ?_
      rintro a b k₄ s₄ u₄ ⟨hname, hlt⟩ h₄
      cases spread with
      | true =>
        simp only [if_true, pure_bind]
        exact hafter _ _ _ (by omega) h₄
      | false =>
        simp only [Bool.false_eq_true, if_false]
        rcases SameName.cases hname with ⟨w, l, l', rfl, rfl⟩ | ⟨ha, hb⟩
        · -- Behind a name there may be the sign of a named argument.
          refine (Follows.accept rfl h₄).bind ?_
          rintro isNamed _ k₅ s₅ u₅ ⟨rfl, hle₅, -⟩ h₅
          cases isNamed with
          | true =>
            simp only [if_true]
            refine (hr (by omega) h₅).bind ?_
            rintro v v' k₆ s₆ u₆ ⟨-, hlt⟩ h₆
            exact hafter _ _ _ (by omega) h₆
          | false =>
            simp only [Bool.false_eq_true, if_false]
            exact hplain _ _ (by omega) h₅
        · split
          · next w l => exact absurd rfl (ha w l)
          · cases b with
            | name w l => exact absurd rfl (hb w l)
            | _ => exact hplain _ _ (by omega) h₄

theorem arguments_follows (hr : Agreeing o n r r') (hm : m ≤ n) (h : Agree o m s u) :
    Follows o (fun _ _ k => k < m) (arguments r s) (arguments r' u) := by
  rw [arguments, arguments]
  refine (Follows.mark .parenOpen h).bind ?_
  rintro _ _ k s₁ u₁ hlt h₁
  refine (Follows.size h₁).bind ?_
  rintro f g _ s₂ u₂ ⟨rfl, hf, hg⟩ h₂
  exact (argumentsFrom_follows hr (by omega) hf hg h₂).mono fun _ _ _ hle => by omega

theorem arguments?_follows (hr : Agreeing o n r r') (hm : m ≤ n) (h : Agree o m s u) :
    Follows o (fun _ _ k => k ≤ m) (arguments? r s) (arguments? r' u) := by
  rw [arguments?, arguments?]
  refine (Follows.upcoming _ h).bind ?_
  rintro opens _ _ s₁ u₁ ⟨rfl, rfl⟩ h₁
  cases opens with
  | true => exact (arguments_follows hr hm h₁).mono fun _ _ _ hlt => by omega
  | false => exact Follows.of_pure h₁ (Nat.le_refl _)

/-! ## What follows a value -/

def sliceTo (e : Expr) (line : Nat) (start? : Option Expr) (stop step : Expr) : Reader Expr := do
  mark .bracketClose
  return .mkSlice e (start?.getD (.implied .none)) stop step line

/-- A slice behind the place where it stops. -/
def sliceFrom (inner : Reader Expr) (e : Expr) (line : Nat) (start? : Option Expr) (stop : Expr) :
    Reader Expr := do
  if ← accept (Token.isMark .colon) then
    if ← upcoming (Token.isMark .bracketClose) then
      sliceTo e line start? stop (.implied .none)
    else
      let step ← inner
      sliceTo e line start? stop step
  else sliceTo e line start? stop (.implied .none)

theorem sliceTo_follows (h : Agree o m s u) (e e' : Expr) (l l' : Nat) (k k' : Option Expr)
    (a a' b b' : Expr) : Follows o (Kept m) (sliceTo e l k a b s) (sliceTo e' l' k' a' b' u) := by
  refine (Follows.mark .bracketClose h).bind ?_
  rintro _ _ k s₁ u₁ hlt h₁
  exact Follows.of_pure h₁ ⟨rfl, by omega⟩

theorem sliceFrom_follows (hr : Agreeing o n r r') (hm : m < n) (h : Agree o m s u) (e e' : Expr)
    (l l' : Nat) (k k' : Option Expr) (a a' : Expr) :
    Follows o (Kept m) (sliceFrom r e l k a s) (sliceFrom r' e' l' k' a' u) := by
  refine (Follows.accept rfl h).bind ?_
  rintro hasStep _ i s₁ u₁ ⟨rfl, hle, -⟩ h₁
  cases hasStep with
  | false => exact (sliceTo_follows h₁ _ _ _ _ _ _ _ _ _ _).mono fun _ _ => Kept.of_le hle
  | true =>
    refine (Follows.upcoming _ h₁).bind ?_
    rintro closes _ _ s₂ u₂ ⟨rfl, rfl⟩ h₂
    cases closes with
    | true => exact (sliceTo_follows h₂ _ _ _ _ _ _ _ _ _ _).mono fun _ _ => Kept.of_le hle
    | false =>
      refine (hr (by omega) h₂).bind ?_
      rintro b b' j s₃ u₃ ⟨-, hlt⟩ h₃
      exact (sliceTo_follows h₃ _ _ _ _ _ _ _ _ _ _).mono fun _ _ => Kept.of_le (by omega)

/-- What stands between square brackets behind the key, or behind the place where a slice
starts. -/
def subscriptFrom (inner : Reader Expr) (e : Expr) (line : Nat) (start? : Option Expr) :
    Reader Expr := do
  if ← accept (Token.isMark .colon) then
    if ← upcoming (fun t => t.isMark .bracketClose || t.isMark .colon) then
      sliceFrom inner e line start? (.implied .none)
    else
      let stop ← inner
      sliceFrom inner e line start? stop
  else
    mark .bracketClose
    match start? with
    | some key => return .mkItem e key line
    | none => fail .emptySubscript

theorem subscript_eq (inner : Reader Expr) (e : Expr) (line : Nat) :
    subscript inner e line = (do
      if ← upcoming (Token.isMark .colon) then subscriptFrom inner e line none
      else
        let key ← inner
        subscriptFrom inner e line (some key)) := by
  simp only [subscript, subscriptFrom, sliceFrom, sliceTo, pure_bind, bind_map_left]

theorem subscriptFrom_follows (hr : Agreeing o n r r') (hm : m < n) (h : Agree o m s u)
    (e e' : Expr) (l l' : Nat) {k k' : Option Expr} (hk : k.isSome = k'.isSome) :
    Follows o (Kept m) (subscriptFrom r e l k s) (subscriptFrom r' e' l' k' u) := by
  refine (Follows.accept rfl h).bind ?_
  rintro isSlice _ i s₁ u₁ ⟨rfl, hle, -⟩ h₁
  cases isSlice with
  | true =>
    refine (Follows.upcoming _ h₁).bind ?_
    rintro closes _ _ s₂ u₂ ⟨rfl, rfl⟩ h₂
    cases closes with
    | true =>
      exact (sliceFrom_follows hr (by omega) h₂ _ _ _ _ _ _ _ _).mono fun _ _ => Kept.of_le hle
    | false =>
      refine (hr (by omega) h₂).bind ?_
      rintro b b' j s₃ u₃ ⟨-, hlt⟩ h₃
      exact (sliceFrom_follows hr (by omega) h₃ _ _ _ _ _ _ _ _).mono
        fun _ _ => Kept.of_le (by omega)
  | false =>
    refine (Follows.mark .bracketClose h₁).bind ?_
    rintro _ _ j s₂ u₂ hlt h₂
    cases k with
    | none => exact Follows.of_fail
    | some key =>
      cases k' with
      | none => cases hk
      | some key' => exact Follows.of_pure h₂ ⟨rfl, by omega⟩

theorem subscript_follows (hr : Agreeing o n r r') (hm : m < n) (h : Agree o m s u) (e e' : Expr)
    (l l' : Nat) : Follows o (Kept m) (subscript r e l s) (subscript r' e' l' u) := by
  rw [subscript_eq, subscript_eq]
  refine (Follows.upcoming _ h).bind ?_
  rintro isOpen _ _ s₁ u₁ ⟨rfl, rfl⟩ h₁
  cases isOpen with
  | true => exact subscriptFrom_follows hr hm h₁ _ _ _ _ rfl
  | false =>
    refine (hr hm h₁).bind ?_
    rintro a b k s₂ u₂ ⟨-, hlt⟩ h₂
    have hk : (some a).isSome = (some b).isSome := rfl
    exact (subscriptFrom_follows hr (by omega) h₂ _ _ _ _ hk).mono
      fun _ _ => Kept.of_le (Nat.le_of_lt hlt)

theorem suffixes_follows (hr : Agreeing o n r r') : ∀ {f g m l l' : Nat} {e e' : Expr}
    {s u : Stream}, m ≤ n → m < f → m < g → Agree o m s u → SameName e e' →
      Follows o (Kept m) (suffixes r f l e s) (suffixes r' g l' e' u) := by
  intro f
  induction f with
  | zero => intro g m l l' e e' s u _ hf; exact absurd hf (Nat.not_lt_zero m)
  | succ f ih =>
    intro g m l l' e e' s u hm hf hg h hname
    obtain ⟨g, rfl⟩ := Nat.exists_eq_succ_of_ne_zero (Nat.ne_of_gt (Nat.zero_lt_of_lt hg))
    rw [suffixes, suffixes]
    refine (Follows.line h).bind ?_
    rintro here here' m s₁ u₁ rfl h₁
    refine Follows.peek h₁ (Follows.of_pure h₁ ⟨hname, Nat.le_refl _⟩)
      (Follows.of_pure h₁ ⟨hname, Nat.le_refl _⟩) ?_
    intro t k hk hup
    have hend : Follows o (Kept m) ((pure e : Reader Expr) s₁) ((pure e' : Reader Expr) u₁) :=
      Follows.of_pure h₁ ⟨hname, by omega⟩
    cases t with
    | mark t =>
      cases t with
      | dot =>
        refine Follows.taken hup fun s₂ u₂ h₂ => ?_
        refine Follows.next h₂ Follows.of_fail (fun _ _ => Follows.of_fail) ?_
        intro t j s₃ u₃ hj _ h₃
        cases t with
        | name w =>
          have hmember : SameName (.mkMember e w l) (.mkMember e' w l') := rfl
          exact (ih (by omega) (by omega) (by omega) h₃ hmember).mono
            fun _ _ => Kept.of_le (by omega)
        | int i =>
          refine (Follows.lastLine h₃).bind ?_
          rintro b b' j s₄ u₄ rfl h₄
          have hitem : SameName (.mkItem e (.literal (.int i) b) l)
              (.mkItem e' (.literal (.int i) b') l') := rfl
          exact (ih (by omega) (by omega) (by omega) h₄ hitem).mono
            fun _ _ => Kept.of_le (by omega)
        | _ => exact Follows.of_fail
      | bracketOpen =>
        refine Follows.taken hup fun s₂ u₂ h₂ => ?_
        refine (subscript_follows hr (by omega) h₂ e e' l l').bind ?_
        rintro a b j s₃ u₃ ⟨hname, hle⟩ h₃
        exact (ih (by omega) (by omega) (by omega) h₃ hname).mono fun _ _ => Kept.of_le (by omega)
      | parenOpen =>
        refine (arguments_follows hr (by omega) h₁).bind ?_
        rintro as bs j s₂ u₂ hlt h₂
        have hcall : SameName (.mkCall e as l) (.mkCall e' bs l') := rfl
        exact (ih (by omega) (by omega) (by omega) h₂ hcall).mono fun _ _ => Kept.of_le (by omega)
      | _ => exact hend
    | _ => exact hend

/-- What stands in the brackets after a value is one token shorter than the operand, or
shorter still. -/
theorem operand_agreeing {p p' : Reader Expr} (hr : Agreeing o n r r')
    (hp : Agreeing o (n + 1) p p') : Agreeing o (n + 1) (operand r p) (operand r' p') := by
  intro m s u hm h
  rw [operand, operand]
  refine (Follows.line h).bind ?_
  rintro l l' m s₁ u₁ rfl h₁
  refine (minus_agreeing hp hm h₁).bind ?_
  rintro a b k s₂ u₂ ⟨hname, hlt⟩ h₂
  refine (Follows.size h₂).bind ?_
  rintro f g k s₃ u₃ ⟨rfl, hf, hg⟩ h₃
  refine (suffixes_follows hr (by omega) hf hg h₃ hname).mono ?_
  rintro x y j ⟨hname, hj⟩
  exact ⟨hname, by omega⟩

theorem filters_follows {p p' : Reader Expr} (hr : Agreeing o n r r')
    (hp : Agreeing o (n + 1) p p') : ∀ {f g m : Nat} {e e' : Expr} {s u : Stream}, m ≤ n →
      m < f → m < g → Agree o m s u → SameName e e' →
        Follows o (Kept m) (filters r p f e s) (filters r' p' g e' u) := by
  intro f
  induction f with
  | zero => intro g m e e' s u _ hf; exact absurd hf (Nat.not_lt_zero m)
  | succ f ih =>
    intro g m e e' s u hm hf hg h hname
    obtain ⟨g, rfl⟩ := Nat.exists_eq_succ_of_ne_zero (Nat.ne_of_gt (Nat.zero_lt_of_lt hg))
    rw [filters, filters]
    refine Follows.peek h (Follows.of_pure h ⟨hname, Nat.le_refl m⟩)
      (Follows.of_pure h ⟨hname, Nat.le_refl m⟩) ?_
    intro t k hk hup
    have hend : Follows o (Kept m) ((pure e : Reader Expr) s) ((pure e' : Reader Expr) u) :=
      Follows.of_pure h ⟨hname, Nat.le_refl m⟩
    cases t with
    | mark t =>
      cases t with
      | pipe =>
        refine Follows.taken hup fun s₂ u₂ h₂ => ?_
        refine (Follows.anyName h₂).bind ?_
        rintro w _ k₃ s₃ u₃ ⟨rfl, hlt₃⟩ h₃
        refine (Follows.lastLine h₃).bind ?_
        rintro l l' k₃ s₄ u₄ rfl h₄
        refine (arguments?_follows hr (by omega) h₄).bind ?_
        rintro as bs k₅ s₅ u₅ hle h₅
        have hfilter : SameName (.mkFilter e w as l) (.mkFilter e' w bs l') := rfl
        exact (ih (by omega) (by omega) (by omega) h₅ hfilter).mono
          fun _ _ => Kept.of_le (by omega)
      | _ => exact hend
    | name w =>
      by_cases hw : w = "is"
      · subst hw
        refine Follows.taken hup fun s₂ u₂ h₂ => ?_
        refine (Follows.accept rfl h₂).bind ?_
        rintro negated _ k₃ s₃ u₃ ⟨rfl, hle₃, -⟩ h₃
        refine (Follows.anyName h₃).bind ?_
        rintro w _ k₄ s₄ u₄ ⟨rfl, hlt₄⟩ h₄
        refine (Follows.lastLine h₄).bind ?_
        rintro l l' k₄ s₅ u₅ rfl h₅
        -- A test with its arguments, and what follows it.
        have htest : ∀ (as bs : List Argument) {j : Nat} {s u : Stream}, j < m → Agree o j s u →
            Follows o (Kept m)
              (filters r p f (if negated = true then .negation (.mkTest e w as l) l
                else .mkTest e w as l) s)
              (filters r' p' g (if negated = true then .negation (.mkTest e' w bs l') l'
                else .mkTest e' w bs l') u) := by
          intro as bs j s u hj h
          refine (ih (by omega) (by omega) (by omega) h ?_).mono fun _ _ => Kept.of_le (by omega)
          cases negated <;> rfl
        refine (Follows.upcoming _ h₅).bind ?_
        rintro opens _ k₄ s₆ u₆ ⟨rfl, rfl⟩ h₆
        refine (Follows.upcoming _ h₆).bind ?_
        rintro begins _ k₄ s₇ u₇ ⟨rfl, rfl⟩ h₇
        cases opens with
        | true =>
          refine (arguments_follows hr (by omega) h₇).bind ?_
          rintro as bs k₈ s₈ u₈ hlt h₈
          exact htest as bs (by omega) h₈
        | false =>
          cases begins with
          | true =>
            refine (operand_agreeing hr hp (by omega) h₇).bind ?_
            rintro a b k₈ s₈ u₈ ⟨-, hlt⟩ h₈
            exact htest [.plain a] [.plain b] (by omega) h₈
          | false => exact htest [] [] (by omega) h₇
      · generalize hx : some (Token.name w) = x
        split
        · cases hx
        · cases hx
          exact absurd rfl hw
        · exact hend
    | _ => exact hend

theorem unary_agreeing {p p' : Reader Expr} (hr : Agreeing o n r r')
    (hp : Agreeing o (n + 1) p p') : Agreeing o (n + 1) (unary r p) (unary r' p') := by
  intro m s u hm h
  rw [unary, unary]
  refine (operand_agreeing hr hp hm h).bind ?_
  rintro a b k s₁ u₁ ⟨hname, hlt⟩ h₁
  refine (Follows.size h₁).bind ?_
  rintro f g k s₂ u₂ ⟨rfl, hf, hg⟩ h₂
  refine (filters_follows hr hp (by omega) hf hg h₂ hname).mono ?_
  rintro x y j ⟨hname, hj⟩
  exact ⟨hname, by omega⟩

theorem negations_agreeing (hr : Agreeing o n r r') :
    Agreeing o n (do signed (Token.isName "not") .negation r (← size))
      (do signed (Token.isName "not") .negation r' (← size)) := by
  intro m s u hm h
  refine (Follows.size h).bind ?_
  rintro f g m s₁ u₁ ⟨rfl, hf, hg⟩ h₁
  exact signed_agreeing rfl (fun _ _ => rfl) hr hm hf hg h₁

theorem disjunction_agreeing {p p' : Reader Expr} (hr : Agreeing o n r r')
    (hp : Agreeing o (n + 1) p p') : Agreeing o (n + 1) (disjunction r p) (disjunction r' p') := by
  intro m s u hm h
  have hpowers : Agreeing o (n + 1) (joined power? (unary r p)) (joined power? (unary r' p')) :=
    joined_agreeing rfl (unary_agreeing hr hp)
  have hproducts : Agreeing o (n + 1) (joined product? _) (joined product? _) :=
    joined_agreeing rfl hpowers
  have hjoins : Agreeing o (n + 1) (joined join? _) (joined join? _) :=
    joined_agreeing rfl hproducts
  have hsums : Agreeing o (n + 1) (joined sum? _) (joined sum? _) := joined_agreeing rfl hjoins
  have hand : Agreeing o (n + 1) (joined and? _) (joined and? _) :=
    joined_agreeing rfl (negations_agreeing (compared_agreeing hsums))
  exact joined_agreeing (show or? .showEnd = none from rfl) hand hm h

/-! ## Choices -/

theorem choices_follows (hr : Agreeing o n r r') : ∀ {f g m l l' : Nat} {e e' : Expr}
    {s u : Stream}, m ≤ n → m < f → m < g → Agree o m s u → SameName e e' →
      Follows o (Kept m) (choices r f l e s) (choices r' g l' e' u) := by
  intro f
  induction f with
  | zero => intro g m l l' e e' s u _ hf; exact absurd hf (Nat.not_lt_zero m)
  | succ f ih =>
    intro g m l l' e e' s u hm hf hg h hname
    obtain ⟨g, rfl⟩ := Nat.exists_eq_succ_of_ne_zero (Nat.ne_of_gt (Nat.zero_lt_of_lt hg))
    rw [choices, choices]
    refine (Follows.accept rfl h).bind ?_
    rintro isChoice _ k s₁ u₁ ⟨rfl, hle, hlt⟩ h₁
    cases isChoice with
    | false => exact Follows.of_pure h₁ ⟨hname, hle⟩
    | true =>
      have hlt := hlt rfl
      -- The expression if the test fails has been read, and other choices may follow.
      have hafter : ∀ (t t' e₂ e₂' : Expr) {j : Nat} {s u : Stream}, j < m → Agree o j s u →
          Follows o (Kept m)
            ((do choices r f (← lastLine) (.mkChoice t e e₂ l) : Reader Expr) s)
            ((do choices r' g (← lastLine) (.mkChoice t' e' e₂' l') : Reader Expr) u) := by
        intro t t' e₂ e₂' j s u hj h
        refine (Follows.lastLine h).bind ?_
        rintro b b' j s₁ u₁ rfl h₁
        have hchoice : SameName (.mkChoice t e e₂ l) (.mkChoice t' e' e₂' l') := rfl
        exact (ih (by omega) (by omega) (by omega) h₁ hchoice).mono
          fun _ _ => Kept.of_le (Nat.le_of_lt hj)
      refine (hr (by omega) h₁).bind ?_
      rintro t t' k₂ s₂ u₂ ⟨-, hlt₂⟩ h₂
      refine (Follows.accept rfl h₂).bind ?_
      rintro hasElse _ k₃ s₃ u₃ ⟨rfl, hle₃, -⟩ h₃
      cases hasElse with
      | false => exact hafter t t' _ _ (by omega) h₃
      | true =>
        simp only [if_true]
        refine (Follows.lastLine h₃).bind ?_
        rintro b b' k₃ s₄ u₄ rfl h₄
        refine (hr (by omega) h₄).bind ?_
        rintro e₂ e₂' k₅ s₅ u₅ ⟨hname₅, hlt₅⟩ h₅
        refine (ih (by omega) (by omega) (by omega) h₅ hname₅).bind ?_
        rintro e₃ e₃' k₆ s₆ u₆ ⟨-, hle₆⟩ h₆
        exact hafter t t' e₃ e₃' (by omega) h₆

theorem choice_agreeing (hr : Agreeing o n r r') : Agreeing o n (choice r) (choice r') := by
  intro m s u hm h
  rw [choice, choice]
  refine (Follows.lastLine h).bind ?_
  rintro l l' m s₁ u₁ rfl h₁
  refine (Follows.size h₁).bind ?_
  rintro f g m s₂ u₂ ⟨rfl, hf, hg⟩ h₂
  refine (hr hm h₂).bind ?_
  rintro a b k s₃ u₃ ⟨hname, hlt⟩ h₃
  refine (choices_follows hr (by omega) (by omega) (by omega) h₃ hname).mono ?_
  rintro x y j ⟨hname, hj⟩
  exact ⟨hname, by omega⟩

/-! ## Values -/

theorem moreStrings_follows : ∀ {f g m : Nat} {w : String} {s u : Stream}, m < f → m < g →
    Agree o m s u →
      Follows o (fun x y k => x = y ∧ k ≤ m) (moreStrings f w s) (moreStrings g w u) := by
  intro f
  induction f with
  | zero => intro g m w s u hf; exact absurd hf (Nat.not_lt_zero m)
  | succ f ih =>
    intro g m w s u hf hg h
    obtain ⟨g, rfl⟩ := Nat.exists_eq_succ_of_ne_zero (Nat.ne_of_gt (Nat.zero_lt_of_lt hg))
    rw [moreStrings, moreStrings]
    refine Follows.peekOrEnd h ?_ (Follows.of_pure h ⟨rfl, Nat.le_refl m⟩) ?_
    · intro k s' u' hle h'
      exact Follows.of_pure h' ⟨rfl, hle⟩
    · intro t k hk hup
      cases t with
      | string v =>
        refine Follows.taken hup fun s₁ u₁ h₁ => ?_
        refine (ih (by omega) (by omega) h₁).mono ?_
        rintro x y j ⟨hxy, hj⟩
        exact ⟨hxy, by omega⟩
      | _ => exact Follows.of_pure h ⟨rfl, Nat.le_refl m⟩

theorem bracketed_follows (hr : Agreeing o n r r') (hm : m < n) (h : Agree o m s u) (l l' : Nat) :
    Follows o (Kept m) (bracketed r l s) (bracketed r' l' u) := by
  rw [bracketed, bracketed]
  refine (Follows.accept rfl h).bind ?_
  rintro closes _ k s₁ u₁ ⟨rfl, hle, -⟩ h₁
  cases closes with
  | true =>
    have hlist : ∀ l, (Expr.list [] l).asName? = none := fun _ => rfl
    refine (Follows.settle (hlist l) (hlist l') l l' h₁).mono ?_
    rintro x y k ⟨hname, rfl⟩
    exact ⟨hname, hle⟩
  | false =>
    refine (hr (by omega) h₁).bind ?_
    rintro a b k₂ s₂ u₂ ⟨hname, hlt⟩ h₂
    refine (Follows.upcoming _ h₂).bind ?_
    rintro isSequence _ k₂ s₃ u₃ ⟨rfl, rfl⟩ h₃
    cases isSequence with
    | true =>
      refine (Follows.size h₃).bind ?_
      rintro f g k₂ s₄ u₄ ⟨rfl, hf, hg⟩ h₄
      refine (tupleRest_follows hr (by omega) hf hg h₄).bind ?_
      rintro as bs k₅ s₅ u₅ hle₅ h₅
      refine (Follows.settle rfl rfl l l' h₅).mono ?_
      rintro x y k ⟨hname, rfl⟩
      exact ⟨hname, by omega⟩
    | false =>
      refine (Follows.mark .parenClose h₃).bind ?_
      rintro _ _ k₄ s₄ u₄ hlt₄ h₄
      exact Follows.of_pure h₄ ⟨hname, by omega⟩

theorem entry_consuming (hr : Agreeing o n r r') : Consuming o n (entry r) (entry r') := by
  intro m s u hm h
  rw [entry, entry]
  refine (hr hm h).bind ?_
  rintro a b k₁ s₁ u₁ ⟨-, hlt₁⟩ h₁
  refine (Follows.mark .colon h₁).bind ?_
  rintro _ _ k₂ s₂ u₂ hlt₂ h₂
  refine (hr (by omega) h₂).bind ?_
  rintro x y k₃ s₃ u₃ ⟨-, hlt₃⟩ h₃
  exact Follows.of_pure h₃ (by omega)

theorem primary_agreeing (hr : Agreeing o n r r') :
    Agreeing o (n + 1) (primary r) (primary r') := by
  intro m s u hm h
  rw [primary, primary]
  refine Follows.next h Follows.of_fail (fun _ _ => Follows.of_fail) ?_
  intro t k s₁ u₁ hk hend h₁
  refine (Follows.lastLine h₁).bind ?_
  rintro l l' k s₂ u₂ rfl h₂
  have hliteral : ∀ v : Value, Follows o (Taken m) ((pure (.literal v l) : Reader Expr) s₂)
      ((pure (.literal v l') : Reader Expr) u₂) :=
    fun v => Follows.of_pure h₂ ⟨rfl, by omega⟩
  cases t with
  | string w =>
    refine (Follows.size h₂).bind ?_
    rintro f g k s₃ u₃ ⟨rfl, hf, hg⟩ h₃
    refine (moreStrings_follows hf hg h₃).bind ?_
    rintro x _ j s₄ u₄ ⟨rfl, hj⟩ h₄
    exact Follows.of_pure h₄ ⟨rfl, by omega⟩
  | int i => exact hliteral _
  | float x => exact hliteral _
  | mark t =>
    cases t with
    | parenOpen =>
      refine (bracketed_follows hr (by omega) h₂ l l').mono ?_
      rintro x y j ⟨hname, hj⟩
      exact ⟨hname, by omega⟩
    | bracketOpen =>
      refine (Follows.size h₂).bind ?_
      rintro f g k s₃ u₃ ⟨rfl, hf, hg⟩ h₃
      refine (items_follows .bracketClose hr.consuming (by omega) hf hg h₃ (by omega)).bind ?_
      rintro as bs j s₄ u₄ hj h₄
      have hlist : ∀ (as : List Expr) l, (Expr.list as l).asName? = none := fun _ _ => rfl
      refine (Follows.settle (hlist as l) (hlist bs l') l l' h₄).mono ?_
      rintro x y j ⟨hname, rfl⟩
      exact ⟨hname, by omega⟩
    | braceOpen =>
      refine (Follows.size h₂).bind ?_
      rintro f g k s₃ u₃ ⟨rfl, hf, hg⟩ h₃
      refine (items_follows .braceClose (entry_consuming hr) (by omega) hf hg h₃ (by omega)).bind ?_
      rintro as bs j s₄ u₄ hj h₄
      have hmap : ∀ (as : List Entry) l, (Expr.map as l).asName? = none := fun _ _ => rfl
      refine (Follows.settle (hmap as l) (hmap bs l') l l' h₄).mono ?_
      rintro x y j ⟨hname, rfl⟩
      exact ⟨hname, by omega⟩
    | _ => exact Follows.of_fail
  | name w =>
    have hname : Follows o (Taken m) ((pure (.name w l) : Reader Expr) s₂)
        ((pure (.name w l') : Reader Expr) u₂) := Follows.of_pure h₂ ⟨rfl, by omega⟩
    generalize hx : Token.name w = x
    split
    all_goals first
      | exact hliteral _
      | (cases hx; exact hname)
      | (cases hx; done)
      | (rename_i hother _ _ _ _ _ _; exact absurd hx.symm (hother w))
  | _ => exact Follows.of_fail

/-! ## Expressions -/

theorem guarded_agreeing {r r' : Nat → Reader Expr} (hr : ∀ a, Agreeing o n (r a) (r' a)) :
    ∀ a, Agreeing o n (guarded a r) (guarded a r')
  | 0 => fun _ _ => Follows.of_fail
  | a + 1 => hr a

/-- As many steps as there are tokens are enough. The induction is on the steps of the first
reader, and each step deeper takes a token. -/
theorem disjunctionAt_agreeing (f : Nat) : ∀ g a : Nat,
    Agreeing o g (disjunctionAt f a) (disjunctionAt g a) := by
  induction f with
  | zero =>
    intro g a m s u _ _
    exact Follows.of_fail
  | succ f ih =>
    intro g a m s u hm h
    obtain ⟨g, rfl⟩ := Nat.exists_eq_succ_of_ne_zero (Nat.ne_of_gt (Nat.zero_lt_of_lt hm))
    have hinner : ∀ a, Agreeing o g (guarded a fun m => choice fun s => disjunctionAt f m s)
        (guarded a fun m => choice fun s => disjunctionAt g m s) :=
      guarded_agreeing fun a => choice_agreeing (ih g a)
    have hprimary : Agreeing o (g + 1)
        (guarded a fun n => primary (guarded n fun m => choice fun s => disjunctionAt f m s))
        (guarded a fun n => primary (guarded n fun m => choice fun s => disjunctionAt g m s)) :=
      guarded_agreeing (fun n => primary_agreeing (hinner n)) a
    exact disjunction_agreeing (hinner a) hprimary hm h

theorem noChoice_agreeing (n a : Nat) : Agreeing o n (noChoice a) (noChoice a) := by
  intro m s u _ h
  rw [noChoice]
  refine (Follows.size h).bind ?_
  rintro f g m s₁ u₁ ⟨rfl, -, hg⟩ h₁
  exact disjunctionAt_agreeing f g a hg h₁

/-- An expression that is read on one stream is read on every stream that agrees with it,
up to the same place. -/
theorem expression_agreeing (n a : Nat) : Agreeing o n (expression a) (expression a) :=
  guarded_agreeing (fun a => choice_agreeing (noChoice_agreeing n a)) a

end Phrase

end ScriptedTemplate
