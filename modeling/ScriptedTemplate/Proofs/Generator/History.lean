import ScriptedTemplate.Proofs.Generator.Splicing

/-
  Histories — a generator in use

  A generator is used by giving values to globals and by running its program on data,
  in any order; a run may fail, and it may have another evaluator each time. What a
  run hands to its evaluator shows from outside: whatever the evaluator, the run comes
  to what it answers to that program and those bindings (`Hands`), and nothing else
  can be handed (`Hands.unique`).

  What is proved: `run_in_history` — after every history a run hands over the program
  that was compiled, and each name is bound by the uppermost of three layers: the sink
  of the run, the data, the globals as they were last registered. Runs leave no trace
  in a generator, and registrations of different names can change places.
-/

namespace ScriptedTemplate

/-! ## Bindings as a map -/

namespace Bindings

variable {b : Bindings}

theorem insert_comm {s t : String} (h : s ≠ t) (v w : Value) (b : Bindings) :
    (b.insert s v).insert t w = (b.insert t w).insert s v := by
  induction b with
  | nil =>
    simp only [insert]
    grind
  | cons e rest ih =>
    obtain ⟨u, x⟩ := e
    by_cases hboth : u < s ∧ u < t
    · have hbehind : ∀ {r : String} {y : Value} {c : Bindings}, u < r →
          insert r y ((u, x) :: c) = (u, x) :: insert r y c := by
        intro r y c hr
        rw [insert, if_neg (String.ne_of_lt hr).symm, if_neg (String.lt_asymm hr)]
      obtain ⟨hs, ht⟩ := hboth
      rw [hbehind hs, hbehind ht, hbehind ht, hbehind hs, ih]
    · -- One of the two is put where `u` stands or in front of it.
      grind [insert]

theorem mem_names_insert {s t : String} {v : Value} :
    t ∈ (b.insert s v).names ↔ t = s ∨ t ∈ b.names := by
  induction b with
  | nil => simp [insert, names]
  | cons e rest ih =>
    obtain ⟨u, x⟩ := e
    simp only [insert]
    split
    · next h => simp [names, h]
    · split
      · simp [names]
      · simp only [names, List.map_cons, List.mem_cons] at ih ⊢
        rw [ih]
        exact or_left_comm

/-- The names are in ascending order, so no name is bound twice. -/
def Ascends (b : Bindings) : Prop := b.names.Pairwise (· < ·)

theorem Ascends.insert (h : b.Ascends) (s : String) (v : Value) : (b.insert s v).Ascends := by
  induction b with
  | nil => exact List.pairwise_singleton _ _
  | cons e rest ih =>
    obtain ⟨u, x⟩ := e
    obtain ⟨hu, hrest⟩ := List.pairwise_cons.mp h
    simp only [Bindings.insert]
    split
    · next heq =>
      subst heq
      exact List.pairwise_cons.mpr ⟨hu, hrest⟩
    · next hne =>
      split
      · next hlt =>
        refine List.pairwise_cons.mpr ⟨?_, h⟩
        intro t ht
        rcases List.mem_cons.mp ht with rfl | ht
        · exact hlt
        · exact String.lt_trans hlt (hu t ht)
      · next hnlt =>
        refine List.pairwise_cons.mpr ⟨?_, ih hrest⟩
        intro t ht
        rcases mem_names_insert.mp ht with rfl | ht
        · grind
        · exact hu t ht

theorem Ascends.insertAll (es : List (String × Value)) : ∀ {b : Bindings}, b.Ascends →
    (b.insertAll es).Ascends := by
  induction es with
  | nil => intro b h; exact h
  | cons e es ih => intro b h; exact ih (h.insert e.1 e.2)

end Bindings

/-- The value that data has for a name: that of the last entry whose key has the name
for its text. -/
def Value.given? (s : String) (data : Value) : Option Value :=
  (data.mapEntries.reverse.find? fun e => e.1.displayString = s).map (·.2)

theorem Bindings.get?_insertAll_entries {s : String} (entries : List (Value × Value)) :
    ∀ b : Bindings, (b.insertAll (entries.map fun e => (e.1.displayString, e.2))).get? s =
      ((entries.reverse.find? fun e => e.1.displayString = s).map (·.2)).or (b.get? s) := by
  induction entries with
  | nil => intro b; rfl
  | cons e es ih =>
    intro b
    have hcons : (b.insertAll ((e :: es).map fun e => (e.1.displayString, e.2))).get? s = _ :=
      ih (b.insert e.1.displayString e.2)
    rw [hcons, get?_insert, List.reverse_cons, List.find?_append, Option.map_or, Option.or_assoc]
    congr 1
    by_cases h : e.1.displayString = s
    · simp [h]
    · simp [h, Ne.symm h]

namespace Generator

/-! ## What a run hands over -/

/-- What a run comes to when its sink is that of buffer `i` and the evaluator has
answered: a failure with the message as it is, or what has been written to the
buffer, which is then empty. -/
def conclude (i : Nat) : Except String Unit × Buffers → Except Failure Text × Buffers
  | (.error message, after) => (.error (.run (.evaluation message)), after)
  | (.ok (), after) => (.ok (after.text i), (after.take i).2)

/-- A run on data hands over a program and bindings: every evaluator is asked about
these, with a fresh buffer for the run, and the run comes to what it answers. -/
def Hands (g : Generator) (data : Value) (buffers : Buffers) (program : Text) (b : Bindings) :
    Prop :=
  ∀ e : Evaluator,
    g.run e data buffers = conclude buffers.fresh.2 (e.evaluate program b buffers.fresh.1)

variable {g : Generator} {data : Value} {buffers : Buffers}

/-- A run hands over one program with one set of bindings: an evaluator that fails in
one way on these and in another way on all others tells. -/
theorem Hands.unique {p p' : Text} {b b' : Bindings} (h : g.Hands data buffers p b)
    (h' : g.Hands data buffers p' b') : p = p' ∧ b = b' := by
  classical
  let e : Evaluator := ⟨fun q c after => (.error (if q = p ∧ c = b then "yes" else "no"), after)⟩
  have heq := (h e).symm.trans (h' e)
  simp only [e, conclude, Prod.mk.injEq, Except.error.injEq, Failure.run.injEq,
    RunFault.evaluation.injEq, and_self, if_true] at heq
  by_contra hne
  rw [if_neg fun hcase => hne ⟨hcase.1.symm, hcase.2.symm⟩] at heq
  exact absurd heq.1 (by decide)

theorem hands_bindings {es : List (String × Value)} (hes : dataEntries data = .ok es) :
    g.Hands data buffers g.program.source (g.bindings es (.object (.sink buffers.fresh.2))) := by
  intro e
  simp only [run, hes]
  split <;> next hanswer => rw [hanswer]; rfl

theorem run_refused (h : ¬ data.IsMappingOrNone) (e : Evaluator) :
    g.run e data buffers = (.error (.run (.notMapping data.kind)), buffers) := by
  simp only [run, dataEntries_of_not_isMappingOrNone h]

theorem get?_bindings_eq {es : List (String × Value)} (hes : dataEntries data = .ok es)
    (sink : Value) (s : String) : (g.bindings es sink).get? s =
      if s = sinkName then some sink else (data.given? s).or (g.globals.get? s) := by
  rw [bindings, Bindings.get?_insert, dataEntries_eq_ok hes, Bindings.get?_insertAll_entries]
  rfl

/-! ## Histories -/

/-- One use of a generator: a global is given a value, or the program is run on data,
with the evaluator as it is then. -/
inductive Use where
  | register (s : String) (v : Value)
  | run (e : Evaluator) (data : Value)

/-- The value that a use gives a global. -/
def Use.value? (s : String) : Use → Option Value
  | register t v => if t = s then some v else none
  | run _ _ => none

/-- The value with which a global was registered last. -/
def latest? (s : String) (us : List Use) : Option Value := us.reverse.findSome? (Use.value? s)

/-- A generator, and the buffers in which its runs have written. -/
structure Session where
  generator : Generator
  buffers : Buffers

namespace Session

def use (x : Session) : Use → Session
  | .register s v => { x with generator := x.generator.register s v }
  | .run e data => { x with buffers := (x.generator.run e data x.buffers).2 }

def after (x : Session) (us : List Use) : Session := us.foldl use x

variable {x : Session}

theorem after_append (x : Session) (us us' : List Use) :
    x.after (us ++ us') = (x.after us).after us' := List.foldl_append

theorem program_use (u : Use) : (x.use u).generator.program = x.generator.program := by
  cases u <;> rfl

theorem program_after (us : List Use) : ∀ x : Session,
    (x.after us).generator.program = x.generator.program := by
  induction us with
  | nil => intro x; rfl
  | cons u us ih => intro x; exact (ih (x.use u)).trans (program_use u)

theorem get?_globals_use (u : Use) (s : String) :
    (x.use u).generator.globals.get? s = (u.value? s).or (x.generator.globals.get? s) := by
  cases u with
  | register t v =>
    have hinsert := Bindings.get?_insert t s v x.generator.globals
    by_cases h : t = s
    · simpa [use, register, Use.value?, h] using hinsert
    · simpa [use, register, Use.value?, h, Ne.symm h] using hinsert
  | run e data => rfl

/-- After a history a global has the value of its last registration, or else the one
that it had before. -/
theorem get?_globals_after {s : String} (us : List Use) : ∀ x : Session,
    (x.after us).generator.globals.get? s = (latest? s us).or (x.generator.globals.get? s) := by
  induction us with
  | nil => intro x; rfl
  | cons u us ih =>
    intro x
    have hcons : (x.after (u :: us)).generator.globals.get? s = _ := ih (x.use u)
    have hlast : [u].findSome? (Use.value? s) = u.value? s := by
      rw [List.findSome?_cons, List.findSome?_nil]
      cases u.value? s <;> rfl
    rw [hcons, get?_globals_use, ← Option.or_assoc, latest?, latest?, List.reverse_cons,
      List.findSome?_append, hlast]

theorem ascends_after (us : List Use) : ∀ {x : Session}, x.generator.globals.Ascends →
    (x.after us).generator.globals.Ascends := by
  induction us with
  | nil => intro x h; exact h
  | cons u us ih =>
    intro x h
    refine ih (x := x.use u) ?_
    cases u with
    | register s v => exact h.insert s v
    | run e data => exact h

theorem generator_after_congr (us : List Use) : ∀ {x y : Session}, x.generator = y.generator →
    (x.after us).generator = (y.after us).generator := by
  induction us with
  | nil => intro x y h; exact h
  | cons u us ih =>
    intro x y h
    refine ih (x := x.use u) (y := y.use u) ?_
    cases u with
    | register s v => exact congrArg (·.register s v) h
    | run e data => exact h

end Session

theorem register_comm {s t : String} (h : s ≠ t) (v w : Value) (g : Generator) :
    (g.register s v).register t w = (g.register t w).register s v := by
  simp only [register, Bindings.insert_comm h]

theorem compile_eq_ok_iff {template : Text} {o : Options} :
    compile template o = .ok g ↔ Program.compile template o = .ok g.program ∧ g.globals = [] := by
  obtain ⟨p, globals⟩ := g
  rw [compile]
  cases Program.compile template o with
  | error f => simp
  | ok q => simp [eq_comm]

end Generator

open Generator

/-- After every history of a generator a run on data that can be bound hands over the
program of the template, and binds each name once: the name of the sink to the sink
of the buffer that is made for the run, every other name that the data has to the
value there, every remaining name that was registered to the value of its last
registration, and no other name. Data that cannot be bound reaches no evaluator. A
history without one of its runs leaves the same generator, and two registrations of
different names, one after the other, can change places. -/
theorem run_in_history {template : Text} {o : Options} {g : Generator}
    (hg : Generator.compile template o = .ok g) {buffers : Buffers} {us : List Use} {x : Session}
    (hx : Session.after ⟨g, buffers⟩ us = x) :
    Program.compile template o = .ok x.generator.program ∧
    (∀ data, Value.IsMappingOrNone data → ∃ b,
      x.generator.Hands data x.buffers x.generator.program.source b ∧ b.names.Nodup ∧
      ∀ s, b.get? s =
        if s = sinkName then some (.object (.sink x.buffers.fresh.2))
        else (data.given? s).or (latest? s us)) ∧
    (∀ data, ¬ Value.IsMappingOrNone data → ∀ e,
      x.generator.run e data x.buffers = (.error (.run (.notMapping data.kind)), x.buffers)) ∧
    (∀ e data us', (Session.after ⟨g, buffers⟩ (us ++ .run e data :: us')).generator =
      (Session.after ⟨g, buffers⟩ (us ++ us')).generator) ∧
    ∀ s t v w us', s ≠ t →
      Session.after ⟨g, buffers⟩ (us ++ .register s v :: .register t w :: us') =
        Session.after ⟨g, buffers⟩ (us ++ .register t w :: .register s v :: us') := by
  subst hx
  obtain ⟨hprogram, hglobals⟩ := compile_eq_ok_iff.mp hg
  have hascends : (Session.after ⟨g, buffers⟩ us).generator.globals.Ascends := by
    refine Session.ascends_after us ?_
    rw [hglobals]
    exact List.Pairwise.nil
  have hlatest : ∀ s, (Session.after ⟨g, buffers⟩ us).generator.globals.get? s = latest? s us := by
    intro s
    rw [Session.get?_globals_after, hglobals]
    exact Option.or_none
  refine ⟨?_, ?_, ?_, ?_, ?_⟩
  · rw [Session.program_after]
    exact hprogram
  · intro data hdata
    have hes := dataEntries_of_isMappingOrNone hdata
    refine ⟨_, hands_bindings hes, ?_, ?_⟩
    · exact ((hascends.insertAll _).insert _ _).imp String.ne_of_lt
    · intro s
      rw [get?_bindings_eq hes, hlatest]
  · intro data hdata e
    exact run_refused hdata e
  · intro e data us'
    rw [Session.after_append, Session.after_append]
    exact Session.generator_after_congr us' rfl
  · intro s t v w us' hne
    rw [Session.after_append, Session.after_append]
    have hswap := register_comm hne v w (Session.after ⟨g, buffers⟩ us).generator
    exact congrArg (fun h => Session.after ⟨h, _⟩ us') hswap

/-- The name `x` is registered, a run on data with another `x` writes and fails, and
then `x` and the name of the sink are registered. The next run, on data that has the
name of the sink too, binds `x` to what was registered last. -/
theorem run_in_history_shadowed :
    ∃ g x b, Generator.compile ['a'] .standard = .ok g ∧
      Session.after ⟨g, .empty⟩ [.register "x" (.int 1),
        .run (.ofPerformance fun _ _ => ⟨[[.int 7]], some "stop"⟩)
          (.map [(.string "x" false, .int 2)] .plain none),
        .register "x" (.int 3), .register "__out__" (.int 4)] = x ∧
      x.generator.Hands (.map [(.string "__out__" false, .int 5), (.string "y" false, .int 6)]
        .plain none) x.buffers x.generator.program.source b ∧
      b.get? "__out__" = some (.object (.sink 1)) ∧ b.get? "x" = some (.int 3) ∧
      b.get? "y" = some (.int 6) ∧ b.get? "z" = none := by
  obtain ⟨p, hg⟩ : ∃ p, Generator.compile ['a'] .standard = .ok ⟨p, []⟩ := ⟨_, rfl⟩
  obtain ⟨-, hbinds, -⟩ := run_in_history hg
    (rfl : Session.after ⟨⟨p, []⟩, .empty⟩ [.register "x" (.int 1),
      .run (.ofPerformance fun _ _ => ⟨[[.int 7]], some "stop"⟩)
        (.map [(.string "x" false, .int 2)] .plain none),
      .register "x" (.int 3), .register "__out__" (.int 4)] = _)
  obtain ⟨b, hhands, -, hget⟩ := hbinds (.map [(.string "__out__" false, .int 5),
    (.string "y" false, .int 6)] .plain none) (.inl rfl)
  refine ⟨_, _, b, hg, rfl, hhands, ?_, ?_, ?_, ?_⟩
  · exact hget "__out__"
  · exact hget "x"
  · exact hget "y"
  · exact hget "z"

end ScriptedTemplate
