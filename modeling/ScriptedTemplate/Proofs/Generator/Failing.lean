import ScriptedTemplate.Proofs.Generator.History
import ScriptedTemplate.Proofs.Program.Lines
import ScriptedTemplate.Proofs.Script.Failing

/-
  Failing — templates with an output that fails, from end to end

  Texts and literals cannot fail, so in a template without code the first output of
  another sort decides: if it raises a message, or is a name that nothing binds, the
  run fails there. What has been written before is lost, and what stands behind it is
  not run, as long as it can be read.

  What is proved: `run_fails_at_output` — the failure of such a run names the line of the
  program on which the fragment of that output begins: its number among the fragments
  that are emitted, and one more for each line feed in the outputs before it.
-/

namespace ScriptedTemplate

open Lexer (Fragment Quotation programOf raiseText)
open Grammar (ShowsAs Shows lineBehind quotationFragments)

/-! ## Messages -/

namespace Fault

theorem message_raised (m : String) (n : Nat) : message ⟨.raised m, some n⟩ =
    "invalid operation: " ++ m ++ " (in <string>:" ++ toString n ++ ")" := by
  simp only [message, Cause.sort, Cause.detail, String.append_assoc]
  rfl

theorem message_undefinedOutput (n : Nat) : message ⟨.undefinedOutput, some n⟩ =
    "undefined value: cannot output an undefined value (in <string>:" ++ toString n ++ ")" := by
  have hliteral : "undefined value: cannot output an undefined value (in <string>:" =
      "undefined value" ++ (": " ++ ("cannot output an undefined value" ++ " (in <string>:")) := by
    decide
  simp only [message, Cause.sort, Cause.detail, hliteral, String.append_assoc]

end Fault

/-! ## Slices as fragments -/

namespace Slice

/-- A slice that writes a literal in double quotes: text, or an output of one. -/
def WritesQuotation : Slice → Prop
  | text _ => True
  | code _ => False
  | output p => ∃ q : Quotation, p = q.text

/-- A slice that writes an expression: text, or an output of one. -/
def WritesExpression : Slice → Prop
  | text _ => True
  | code _ => False
  | output p => Script.IsExpression p

theorem IsMade.inside {p : Text} (h : (text p).IsMade) : Inside p := by
  obtain ⟨raw, h | h | h⟩ := h
  · cases h
    exact inside_escape raw
  · cases h
  · cases h

theorem IsMade.quotation {x : Slice} (h : x.IsMade) (hx : x.WritesQuotation) :
    ∃ q : Quotation, x.render = q.fragment.text ++ ['\n'] ∧ x.breaks = Lexer.breaks q.text := by
  cases x with
  | text p =>
    have hflat : p.count '\n' = 0 := List.count_eq_zero_of_not_mem h.isFlat
    refine ⟨.ofInside h.inside, ?_, ?_⟩
    · show _ = callText (Quotation.ofInside h.inside).text ++ ['\n']
      rw [Quotation.text_ofInside, render_text]
    · rw [Quotation.text_ofInside]
      simp [Lexer.breaks, quoted, hflat, breaks]
  | code p => exact hx.elim
  | output p =>
    obtain ⟨q, rfl⟩ := hx
    exact ⟨q, render_output _, rfl⟩

theorem IsMade.shows {x : Slice} (h : x.IsMade) (hx : x.WritesExpression) :
    ∃ f : Fragment, Shows f ∧ x.render = f.text ++ ['\n'] := by
  cases x with
  | text p =>
    have hp : Script.IsExpression (quoted p) :=
      Script.isExpression_passed (p := .literal p) ⟨h.inside, trivial⟩
    obtain ⟨f, hf, hshows⟩ := hp.shows
    exact ⟨f, hshows, by rw [hf, render_text]⟩
  | code p => exact hx.elim
  | output p =>
    obtain ⟨f, hf, hshows⟩ := Script.IsExpression.shows hx
    exact ⟨f, hshows, by rw [hf, render_output]⟩

/-- Slices that write literals are quotations, and the line behind them is told by the
slices. -/
theorem exists_quotations {xs : List Slice} (h : ∀ x ∈ xs, x.IsMade)
    (hxs : ∀ x ∈ xs, x.WritesQuotation) : ∃ qs : List Quotation,
      xs.flatMap render = programOf (quotationFragments qs) ∧
        ∀ l, lineBehind l (quotationFragments qs) = l + xs.length + Program.breaksIn xs := by
  induction xs with
  | nil => exact ⟨[], rfl, fun l => rfl⟩
  | cons x xs ih =>
    obtain ⟨hmade, h⟩ := List.forall_mem_cons.mp h
    obtain ⟨hx, hxs⟩ := List.forall_mem_cons.mp hxs
    obtain ⟨q, hrender, hbreaks⟩ := hmade.quotation hx
    obtain ⟨qs, hsource, hlines⟩ := ih h hxs
    refine ⟨q :: qs, ?_, ?_⟩
    · rw [List.flatMap_cons, hrender, hsource]
      rfl
    · intro l
      have hcons : lineBehind l (quotationFragments (q :: qs)) =
          lineBehind (l + Lexer.breaks q.text + 1) (quotationFragments qs) := rfl
      have hsum : Program.breaksIn (x :: xs) = x.breaks + Program.breaksIn xs := List.sum_cons
      rw [hcons, hlines, hsum, hbreaks, List.length_cons]
      omega

theorem exists_shows {xs : List Slice} (h : ∀ x ∈ xs, x.IsMade)
    (hxs : ∀ x ∈ xs, x.WritesExpression) : ∃ fs : List Fragment,
      (∀ f ∈ fs, Shows f) ∧ xs.flatMap render = programOf fs := by
  induction xs with
  | nil => exact ⟨[], nofun, rfl⟩
  | cons x xs ih =>
    obtain ⟨hmade, h⟩ := List.forall_mem_cons.mp h
    obtain ⟨hx, hxs⟩ := List.forall_mem_cons.mp hxs
    obtain ⟨f, hf, hrender⟩ := hmade.shows hx
    obtain ⟨fs, hfs, hsource⟩ := ih h hxs
    refine ⟨f :: fs, List.forall_mem_cons.mpr ⟨hf, hfs⟩, ?_⟩
    rw [List.flatMap_cons, hrender, hsource]
    rfl

end Slice

/-! ## Runs -/

namespace Generator

open Evaluate (FailsOn failsOn_raise failsOn_undefined)

/-- Nothing binds the name in a run: not the run itself, nor the data, nor the globals. -/
structure Leaves (globals : List (String × Value)) (data : Value) (s : String) : Prop where
  sink : s ≠ sinkName
  globals : ∀ e ∈ globals, e.1 ≠ s
  data : data.given? s = none

theorem get?_globals_registerAll {s : String} {es : List (String × Value)}
    (hes : ∀ e ∈ es, e.1 ≠ s) : ∀ g : Generator,
      (g.registerAll es).globals.get? s = g.globals.get? s := by
  induction es with
  | nil => intro g; rfl
  | cons e es ih =>
    intro g
    obtain ⟨he, hes⟩ := List.forall_mem_cons.mp hes
    have hcons : g.registerAll (e :: es) = (g.register e.1 e.2).registerAll es := rfl
    rw [hcons, ih hes, register, Bindings.get?_insert, if_neg he.symm]

/-- Such a name is not bound in a run of a generator that had no globals before. -/
theorem Leaves.get?_bindings {globals : List (String × Value)} {data : Value} {s : String}
    (h : Leaves globals data s) {es : List (String × Value)} (hes : dataEntries data = .ok es)
    (p : Program) (sink : Value) :
    (((⟨p, []⟩ : Generator).registerAll globals).bindings es sink).get? s = none := by
  rw [get?_bindings_eq hes, if_neg h.sink, h.data, get?_globals_registerAll h.globals]
  rfl

theorem run_of_error {h : Host} {g : Generator} {data : Value} {es : List (String × Value)}
    (hes : dataEntries data = .ok es) {buffers after : Buffers} {f : Fault}
    (hf : Script.evaluate h g.program.source (g.bindings es (.object (.sink buffers.fresh.2)))
      buffers.fresh.1 = (.error f, after)) :
    (run (.ofScripts h) g data buffers).1 = .error (.run (.evaluation f.message)) := by
  simp only [run, hes, Evaluator.ofScripts, hf]

theorem run_fails (h : Host) {before after : List Slice} {p : Text}
    (hmade : ∀ x ∈ before ++ .output p :: after, x.IsMade)
    (hbefore : ∀ x ∈ before, x.WritesQuotation) (hafter : ∀ x ∈ after, x.WritesExpression)
    {f : Fragment} {e : Nat → Expr} (htext : f.text = Slice.callText p) (hf : ShowsAs f e)
    {g : Generator} (hg : g.program = Program.ofFragments (before ++ .output p :: after))
    {data : Value} {es : List (String × Value)} (hes : dataEntries data = .ok es) {c : Cause}
    (buffers : Buffers)
    (hfails : FailsOn (g.bindings es (.object (.sink buffers.fresh.2))) e c) :
    (run (.ofScripts h) g data buffers).1 = .error (.run (.evaluation
      (Fault.message ⟨c, some (before.length + 1 + Program.breaksIn before)⟩))) := by
  obtain ⟨qs, hquotations, hlines⟩ := Slice.exists_quotations
    (fun x hx => hmade x (List.mem_append_left _ hx)) hbefore
  obtain ⟨fs, hfs, hlater⟩ := Slice.exists_shows
    (fun x hx => hmade x (List.mem_append_right _ (List.mem_cons_of_mem _ hx))) hafter
  have hsource : g.program.source = programOf (quotationFragments qs ++ f :: fs) := by
    rw [hg, Program.ofFragments, List.flatMap_append, List.flatMap_cons, hquotations, hlater,
      Slice.render_output, ← htext, programOf, programOf, programOf, List.flatMap_append,
      List.flatMap_cons]
  obtain ⟨after, hevaluate⟩ := Script.evaluate_fails h qs hf hfs (hasSink_bindings g es _) hfails
    buffers.fresh.1
  rw [← hsource] at hevaluate
  have hline : lineBehind 1 (quotationFragments qs) =
      before.length + 1 + Program.breaksIn before := by
    rw [hlines, Nat.add_comm 1]
  rw [run_of_error hes hevaluate, hline]

end Generator

open Generator (Leaves)

/-- In a template without code the first output that is not a literal decides, if it raises
a message or is a name that nothing binds, and if expressions stand behind it. The run
has no output: it fails with that message, or because the value is undefined, on the line of
the fragment of that output. -/
theorem run_fails_at_output (h : Host) {o : Options} {s : Slicer} (ho : o.slicer = .ok s) {t : Text}
    {ss : List Slice} (hss : s.slice t = .ok ss) {before after : List Slice} {p : Text}
    (hemitted : Program.emitted o.trimAfterCode false ss = before ++ .output p :: after)
    (hbefore : ∀ x ∈ before, x.WritesQuotation) (hafter : ∀ x ∈ after, x.WritesExpression) :
    ∃ g, Generator.compile t o = .ok g ∧ ∀ globals data buffers, Value.IsMappingOrNone data →
      (∀ m, p = raiseText m → '"' ∉ m → '\\' ∉ m → Leaves globals data "raise" →
        (Generator.run (.ofScripts h) (g.registerAll globals) data buffers).1 =
          .error (.run (.evaluation ("invalid operation: " ++ String.ofList m ++ " (in <string>:" ++
            toString (before.length + 1 + Program.breaksIn before) ++ ")")))) ∧
      (Lexer.IsWord p → String.ofList p ∉ Phrase.keywords → String.ofList p ∉ builtinNames →
        Leaves globals data (String.ofList p) →
          (Generator.run (.ofScripts h) (g.registerAll globals) data buffers).1 =
            .error (.run (.evaluation
              ("undefined value: cannot output an undefined value (in <string>:" ++
                toString (before.length + 1 + Program.breaksIn before) ++ ")")))) := by
  have hmade : ∀ x ∈ Program.emitted o.trimAfterCode false ss, x.IsMade :=
    Program.isMade_of_mem_emitted (Slicer.isMade_of_slice hss)
  rw [hemitted] at hmade
  refine ⟨_, Generator.compile_of_slice ho hss, ?_⟩
  intro globals data buffers hdata
  obtain ⟨es, hes⟩ : ∃ es, Generator.dataEntries data = .ok es :=
    ⟨_, Generator.dataEntries_of_isMappingOrNone hdata⟩
  have hg : ((⟨Program.assemble ss o.trimAfterCode, []⟩ : Generator).registerAll globals).program =
      Program.ofFragments (before ++ .output p :: after) := by
    rw [Generator.program_registerAll, Program.assemble, hemitted]
  constructor
  · rintro m rfl hquote hslash hraise
    have hfails := Evaluate.failsOn_raise
      (hraise.get?_bindings hes (Program.assemble ss o.trimAfterCode)
        (.object (.sink buffers.fresh.2))) (String.ofList m)
    rw [Generator.run_fails h hmade hbefore hafter rfl (Grammar.showsAs_raise hquote hslash) hg hes
      buffers hfails, Fault.message_raised]
  · intro hword hkeyword hbuiltin hname
    have hfails := Evaluate.failsOn_undefined (Generator.hasSink_bindings _ es buffers.fresh.2)
      (hname.get?_bindings hes (Program.assemble ss o.trimAfterCode)
        (.object (.sink buffers.fresh.2))) hbuiltin
    rw [Generator.run_fails h hmade hbefore hafter rfl (Grammar.showsAs_name hword hkeyword) hg hes
      buffers hfails, Fault.message_undefinedOutput]

/-- A literal with a line feed, and a message before a name that nothing binds; and that name
alone. -/
theorem run_fails_at_output_before_another :
    (∃ g, Generator.compile ['a', '\n', '[', '>', ' ', '"', 'b', '\n', 'c', '"', '<', ']', '[', '>',
        'r', 'a', 'i', 's', 'e', '(', '"', 'm', '"', ')', '<', ']', '!', '[', '>', 'x', '<', ']']
        .standard = .ok g ∧
      (Generator.run (.ofScripts .bare) (g.registerAll [("y", .int 1)]) .none .empty).1 =
        .error (.run (.evaluation "invalid operation: m (in <string>:4)"))) ∧
    ∃ g, Generator.compile ['[', '>', 'x', '<', ']', '!'] .standard = .ok g ∧
      (Generator.run (.ofScripts .bare) (g.registerAll [("y", .int 1)]) .none .empty).1 =
        .error (.run (.evaluation
          "undefined value: cannot output an undefined value (in <string>:1)")) := by
  have hname : Script.IsExpression ['x'] :=
    Script.isExpression_passed (p := .name ['x'])
      ⟨Lexer.isWord_of_all rfl rfl, show String.ofList ['x'] ∉ Phrase.keywords by decide⟩
  have hleaves : ∀ s, s ≠ sinkName → s ≠ "y" → Leaves [("y", .int 1)] .none s := by
    intro s hsink hy
    exact ⟨hsink, by simpa using hy.symm, rfl⟩
  constructor
  · obtain ⟨s, hs, hslice⟩ : ∃ s, Options.standard.slicer = .ok s ∧
        s.slice ['a', '\n', '[', '>', ' ', '"', 'b', '\n', 'c', '"', '<', ']', '[', '>',
          'r', 'a', 'i', 's', 'e', '(', '"', 'm', '"', ')', '<', ']', '!', '[', '>', 'x', '<',
          ']'] =
        .ok [.text ['a', '\\', 'n'], .output [' ', '"', 'b', '\n', 'c', '"'], .text [],
          .output (raiseText ['m']), .text ['!'], .output ['x'], .text []] :=
      ⟨_, rfl, by decide⟩
    let q : Quotation :=
      ⟨[' '], ['b', '\n', 'c'], [], ['b', '\n', 'c'], by simp [Lexer.isSpace], by simp,
        rfl, rfl⟩
    have hemitted : Program.emitted Options.standard.trimAfterCode false
        [.text ['a', '\\', 'n'], .output [' ', '"', 'b', '\n', 'c', '"'], .text [],
          .output (raiseText ['m']), .text ['!'], .output ['x'], .text []] =
        [.text ['a', '\\', 'n'], .output [' ', '"', 'b', '\n', 'c', '"']] ++
          .output (raiseText ['m']) :: [.text ['!'], .output ['x']] := rfl
    obtain ⟨g, hg, hrun⟩ := run_fails_at_output .bare hs hslice hemitted
      (by simpa [Slice.WritesQuotation] using ⟨q, rfl⟩)
      (by simpa [Slice.WritesExpression] using hname)
    obtain ⟨hraise, -⟩ := hrun [("y", .int 1)] .none .empty (.inr (.inl rfl))
    exact ⟨g, hg, hraise ['m'] rfl (by decide) (by decide) (hleaves _ (by decide) (by decide))⟩
  · obtain ⟨s, hs, hslice⟩ : ∃ s, Options.standard.slicer = .ok s ∧
        s.slice ['[', '>', 'x', '<', ']', '!'] = .ok [.text [], .output ['x'], .text ['!']] :=
      ⟨_, rfl, by decide⟩
    have hemitted : Program.emitted Options.standard.trimAfterCode false [.text [], .output ['x'],
        .text ['!']] = [] ++ .output ['x'] :: [.text ['!']] := rfl
    obtain ⟨g, hg, hrun⟩ := run_fails_at_output .bare hs hslice hemitted (by simp)
      (by simp [Slice.WritesExpression])
    obtain ⟨-, hundefined⟩ := hrun [("y", .int 1)] .none .empty (.inr (.inl rfl))
    exact ⟨g, hg, hundefined (Lexer.isWord_of_all rfl rfl) (by decide) (by decide)
      (hleaves _ (by decide) (by decide))⟩

end ScriptedTemplate
