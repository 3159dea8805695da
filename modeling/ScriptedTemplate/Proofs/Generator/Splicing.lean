import ScriptedTemplate.Generator
import ScriptedTemplate.Proofs.Script.Running
import ScriptedTemplate.Proofs.Slice.Layout

/-
  Splicing — templates of text and literals, from end to end

  Where a template has no code and every output region holds one literal or
  nothing, its program calls the sink with literals only: the valid slices in
  order, each with its inside. What such a program writes does not depend on the
  globals or the data, since the sink is bound last.

  What is proved: `run_splices` — such a template compiles under all options that
  are valid, and every run gives its texts, line ends made LF, and the values of
  its literals, in the order of the template. A template in which no marker is
  seen is given back up to its line ends.
-/

namespace ScriptedTemplate

open Lexer (Passed programOf)
open Grammar (callFragments)

namespace Slice

/-- An output payload that is nothing, or one literal. -/
def IsLiteral (p : Text) : Prop := p = [] ∨ ∃ q, Inside q ∧ p = '"' :: q ++ ['"']

/-- The value of such a payload: what stands between its quotes, read back. -/
def literalValue (p : Text) : Text := unescape (p.drop 1).dropLast

/-- A slice that writes a literal: text, or an output of that kind. -/
def IsSpliced : Slice → Prop
  | text _ => True
  | code _ => False
  | output p => IsLiteral p

/-- The inside of the literal with which the slice calls the sink. -/
def inside : Slice → Text
  | text p => p
  | code p => p
  | output p => (p.drop 1).dropLast

theorem inside_literal (q : Text) : inside (output ('"' :: q ++ ['"'])) = q := by
  simp [inside]

theorem inside_of_not_valid {x : Slice} (hx : x.IsSpliced) (hv : x.isValid = false) :
    x.inside = [] := by
  cases x with
  | text p => simpa [isValid, inside] using hv
  | code p => exact hx.elim
  | output p =>
    have hp : p = [] := by simpa [isValid] using hv
    rw [hp]
    rfl

end Slice

/-! ## The program -/

namespace Program

/-- Without trimming, or without code, no text is trimmed: what is not valid is left
out and nothing else. -/
theorem emitted_eq_filter {trim : Bool} {ss : List Slice} :
    ∀ {after : Bool}, (after && trim) = false → (trim = true → ∀ x ∈ ss, x.isCode = false) →
      emitted trim after ss = ss.filter Slice.isValid := by
  induction ss with
  | nil => intro after _ _; rfl
  | cons x ss ih =>
    intro after hafter hcode
    have hnext : (x.isCode && trim) = false := by
      cases trim with
      | false => exact Bool.and_false _
      | true => rw [hcode rfl x List.mem_cons_self, Bool.false_and]
    have hrest := ih hnext fun htrim y hy => hcode htrim y (List.mem_cons_of_mem _ hy)
    simp only [emitted, hafter, Bool.false_eq_true, if_false, hrest, List.filter_cons]

/-- Under options that can be used the program of a template is that of its
slices. -/
theorem compile_eq_ok_iff {o : Options} {s : Slicer} (ho : o.slicer = .ok s) {t : Text}
    {p : Program} : compile t o = .ok p ↔
      ∃ ss, s.slice t = .ok ss ∧ p = assemble ss o.trimAfterCode := by
  simp only [compile, ho]
  cases s.slice t with
  | error e => simp
  | ok ss => simp [eq_comm]

end Program

namespace Layout

/-- What a template of text and literals comes to: its texts with their line ends
made LF, and the values of its literals. -/
def spliced (l : Layout) : Text :=
  l.regions.flatMap (fun g => Slice.normalize g.lead ++ Slice.literalValue g.body) ++
    Slice.normalize l.tail

/-- The insides of the literals of a layout, in order. -/
def insides (l : Layout) : List Text := (l.slices.filter Slice.isValid).map Slice.inside

/-- All regions write a literal or nothing. -/
def IsSpliced (l : Layout) : Prop :=
  ∀ g ∈ l.regions, g.kind = .output ∧ Slice.IsLiteral g.body

variable {l : Layout}

theorem mem_slices {x : Slice} : x ∈ l.slices ↔ (∃ g ∈ l.regions, x = .ofText g.lead ∨
    x = g.kind.mode.slice g.body) ∨ x = .ofText l.tail := by
  simp only [slices, List.mem_append, List.mem_flatMap, Region.slices, List.mem_cons,
    List.not_mem_nil, or_false]

theorem isSpliced_of_slices (h : ∀ x ∈ l.slices, x.IsSpliced) : l.IsSpliced := by
  intro g hg
  have hslice := h _ (mem_slices.mpr (.inl ⟨g, hg, .inr rfl⟩))
  obtain ⟨lead, kind, body⟩ := g
  cases kind with
  | code => exact hslice.elim
  | output => exact ⟨rfl, hslice⟩

/-- The slices of such a layout are literals, in the form that they have in a
program. -/
theorem IsSpliced.slices (h : l.IsSpliced) {x : Slice} (hx : x ∈ l.slices) :
    x.IsSpliced ∧ x.isCode = false ∧
      (x.isValid = true → Slice.Inside x.inside ∧
        x.render = Slice.callText (Slice.quoted x.inside) ++ ['\n']) := by
  have htext : ∀ raw, Slice.Inside (Slice.ofText raw).inside ∧
      (Slice.ofText raw).render =
        Slice.callText (Slice.quoted (Slice.ofText raw).inside) ++ ['\n'] := by
    intro raw
    exact ⟨Slice.inside_escape raw, Slice.render_text _⟩
  rcases mem_slices.mp hx with ⟨g, hg, rfl | rfl⟩ | rfl
  · exact ⟨trivial, rfl, fun _ => htext _⟩
  · obtain ⟨hkind, hbody⟩ := h g hg
    rw [hkind]
    refine ⟨hbody, rfl, fun hv => ?_⟩
    rcases hbody with hnil | ⟨q, hq, hbody⟩
    · rw [hnil] at hv
      cases hv
    · have hslice : RegionKind.output.mode.slice g.body = .output ('"' :: q ++ ['"']) := by
        rw [hbody]
        rfl
      rw [hslice, Slice.inside_literal]
      exact ⟨hq, Slice.render_output _⟩
  · exact ⟨trivial, rfl, fun _ => htext _⟩

theorem IsSpliced.insides (h : l.IsSpliced) {q : Text} (hq : q ∈ l.insides) : Slice.Inside q := by
  obtain ⟨x, hx, rfl⟩ := List.mem_map.mp hq
  obtain ⟨hmem, hvalid⟩ := List.mem_filter.mp hx
  exact ((h.slices hmem).2.2 hvalid).1

/-- The program of such a layout calls the sink with the insides, in order. -/
theorem IsSpliced.source (h : l.IsSpliced) (trim : Bool) :
    (Program.assemble l.slices trim).source =
      programOf (callFragments (l.insides.map .literal)) := by
  have hemitted : Program.emitted trim false l.slices = l.slices.filter Slice.isValid :=
    Program.emitted_eq_filter rfl fun _ x hx => (h.slices hx).2.1
  rw [Program.assemble, hemitted, Program.ofFragments, Layout.insides, programOf, callFragments,
    List.flatMap_map, List.flatMap_map, List.flatMap_map]
  apply List.flatMap_congr
  intro x hx
  obtain ⟨hmem, hvalid⟩ := List.mem_filter.mp hx
  exact ((h.slices hmem).2.2 hvalid).2

/-- The values of the insides make up the template, what is left out having no
value. -/
theorem IsSpliced.values (h : l.IsSpliced) :
    (l.insides.map Slice.unescape).flatten = l.spliced := by
  have hall : ∀ ss : List Slice, (∀ x ∈ ss, x.IsSpliced) →
      (((ss.filter Slice.isValid).map Slice.inside).map Slice.unescape).flatten =
        ss.flatMap fun x => Slice.unescape x.inside := by
    intro ss hss
    induction ss with
    | nil => rfl
    | cons x ss ih =>
      have ih := ih fun y hy => hss y (List.mem_cons_of_mem _ hy)
      rw [List.flatMap_cons, ← ih]
      cases hv : x.isValid with
      | true => simp [hv]
      | false =>
        -- What is left out has an empty inside, so no value is lost.
        rw [Slice.inside_of_not_valid (hss x List.mem_cons_self) hv]
        simp [hv, Slice.unescape]
  rw [Layout.insides, hall l.slices fun x hx => (h.slices hx).1, Layout.slices,
    List.flatMap_append, List.flatMap_assoc, spliced]
  have htext : ∀ raw, Slice.unescape (Slice.ofText raw).inside = Slice.normalize raw :=
    Slice.unescape_escape
  congr 1
  · apply List.flatMap_congr
    intro g hg
    obtain ⟨hkind, -⟩ := h g hg
    rw [Region.slices, hkind, List.flatMap_cons, List.flatMap_singleton, htext]
    rfl
  · rw [List.flatMap_singleton, htext]

end Layout

/-! ## Runs -/

/-- Data that a run can bind: a mapping, or nothing. -/
def Value.IsMappingOrNone (data : Value) : Prop :=
  data.kind = .map ∨ data.kind = .none ∨ data.kind = .undefined

theorem Value.mapEntries_eq_nil {v : Value} (h : v.kind ≠ .map) : v.mapEntries = [] := by
  cases v with
  | map entries role id => exact absurd rfl h
  | _ => rfl

namespace Generator

variable {data : Value}

theorem dataEntries_of_isMappingOrNone (h : data.IsMappingOrNone) :
    dataEntries data = .ok (data.mapEntries.map fun e => (e.1.displayString, e.2)) := by
  rw [dataEntries]
  rcases h with hmap | hnone | hundefined
  · rw [hmap]
  · rw [hnone, Value.mapEntries_eq_nil (by simp [hnone])]
    rfl
  · rw [hundefined, Value.mapEntries_eq_nil (by simp [hundefined])]
    rfl

theorem dataEntries_of_not_isMappingOrNone (h : ¬ data.IsMappingOrNone) :
    dataEntries data = .error (.notMapping data.kind) := by
  rw [Value.IsMappingOrNone] at h
  rw [dataEntries]
  cases hkind : data.kind <;> simp [hkind] at h ⊢

theorem dataEntries_eq_ok {es : List (String × Value)} (hes : dataEntries data = .ok es) :
    es = data.mapEntries.map fun e => (e.1.displayString, e.2) := by
  by_cases h : data.IsMappingOrNone
  · exact Except.ok.inj (hes.symm.trans (dataEntries_of_isMappingOrNone h))
  · cases hes.symm.trans (dataEntries_of_not_isMappingOrNone h)

/-- Give globals their values, one after the other. -/
def registerAll (g : Generator) (es : List (String × Value)) : Generator :=
  es.foldl (fun g e => g.register e.1 e.2) g

theorem program_registerAll (es : List (String × Value)) : ∀ g : Generator,
    (g.registerAll es).program = g.program := by
  induction es with
  | nil => intro g; rfl
  | cons e es ih => intro g; exact ih _

/-- The sink is bound last, so its name stands for it. -/
theorem hasSink_bindings (g : Generator) (data : List (String × Value)) (i : Nat) :
    (g.bindings data (.object (.sink i))).HasSink i := by
  rw [Bindings.HasSink, bindings, Bindings.get?_insert, if_pos rfl]

theorem compile_of_slice {o : Options} {s : Slicer} (ho : o.slicer = .ok s) {t : Text}
    {ss : List Slice} (hss : s.slice t = .ok ss) :
    compile t o = .ok ⟨Program.assemble ss o.trimAfterCode, []⟩ := by
  simp only [compile, (Program.compile_eq_ok_iff ho).mpr ⟨ss, hss, rfl⟩]

/-- A run gives the texts that its program has appended to the sink of the run. -/
theorem run_of_evaluate {h : Host} {g : Generator} {data : Value} {es : List (String × Value)}
    (hes : dataEntries data = .ok es) {buffers : Buffers} {ts : List Text} {t : Text}
    (ht : Script.evaluate h g.program.source (g.bindings es (.object (.sink buffers.fresh.2)))
      buffers.fresh.1 = (.ok t, buffers.fresh.1.pushAll buffers.fresh.2 ts)) :
    (run (.ofScripts h) g data buffers).1 = .ok ts.flatten := by
  simp only [run, hes, Evaluator.ofScripts, ht]
  exact congrArg Except.ok (Buffers.text_pushAll_fresh buffers ts)

theorem run_calls (h : Host) {g : Generator} {qs : List Text} (hqs : ∀ q ∈ qs, Slice.Inside q)
    (hsource : g.program.source = programOf (callFragments (qs.map .literal))) {data : Value}
    (hdata : data.IsMappingOrNone) (buffers : Buffers) :
    (run (.ofScripts h) g data buffers).1 = .ok (qs.map Slice.unescape).flatten := by
  obtain ⟨es, hes⟩ : ∃ es, dataEntries data = .ok es :=
    ⟨_, dataEntries_of_isMappingOrNone hdata⟩
  have hfit : ∀ p ∈ qs.map Passed.literal, p.IsFit := by
    intro p hp
    obtain ⟨q, hq, rfl⟩ := List.mem_map.mp hp
    exact ⟨hqs q hq, trivial⟩
  have hnoNames : ∀ w, .name w ∈ qs.map Passed.literal →
      (g.bindings es (.object (.sink buffers.fresh.2))).Holds id w := by
    intro w hw
    simp at hw
  obtain ⟨t, ht⟩ := Script.evaluate_calls h hfit (hasSink_bindings g es _) hnoNames buffers.fresh.1
  rw [← hsource] at ht
  have hvalues : (qs.map Passed.literal).map (Passed.textIn id) = qs.map Slice.unescape := by
    rw [List.map_map]
    rfl
  rw [run_of_evaluate hes ht, hvalues]

theorem run_layout (h : Host) {o : Options} {s : Slicer} (ho : o.slicer = .ok s)
    (hr : s.recognizer.Faithful) {t : Text} {l : Layout} (hl : l.Describes s.recognizer t)
    (hfit : l.IsSpliced) :
    ∃ g, compile t o = .ok g ∧ ∀ globals data buffers, Value.IsMappingOrNone data →
      (run (.ofScripts h) (g.registerAll globals) data buffers).1 = .ok l.spliced := by
  have hslice : s.slice t = .ok l.slices := (Layout.slice_eq_ok_iff hr).mpr ⟨l, hl, rfl⟩
  refine ⟨_, compile_of_slice ho hslice, ?_⟩
  intro globals data buffers hdata
  rw [← hfit.values]
  apply run_calls h (fun q hq => hfit.insides hq) _ hdata
  rw [program_registerAll]
  exact hfit.source _

end Generator

namespace Options

theorem slicer_eq_ok_iff {o : Options} {s : Slicer} : o.slicer = .ok s ↔
    o.isUsable = true ∧ ∃ r, Recognizer.build o.markers = .ok r ∧ s = ⟨r, o.contextWidth⟩ := by
  simp only [slicer, check]
  cases o.isUsable with
  | false => simp
  | true =>
    cases Recognizer.build o.markers with
    | error e => simp
    | ok r => simp [eq_comm]

theorem faithful_of_slicer {o : Options} {s : Slicer} (h : o.slicer = .ok s) :
    s.recognizer.Faithful := by
  obtain ⟨-, r, hr, rfl⟩ := slicer_eq_ok_iff.mp h
  exact (Recognizer.build_faithful hr).2

end Options

/-- A template that is sliced into texts and literals runs to its texts, line
ends made LF, and the values of its literals, in order; one in which no marker is
seen runs to itself up to line ends. -/
theorem run_splices (h : Host) {o : Options} {s : Slicer} (ho : o.slicer = .ok s) (t : Text) :
    (∀ ss, s.slice t = .ok ss → (∀ x ∈ ss, x.IsSpliced) →
      ∃ g l, Generator.compile t o = .ok g ∧ Layout.Describes l s.recognizer t ∧ l.slices = ss ∧
        ∀ globals data buffers, Value.IsMappingOrNone data →
          (Generator.run (.ofScripts h) (g.registerAll globals) data buffers).1 =
            .ok l.spliced) ∧
    (s.recognizer.hits t = [] →
      ∃ g, Generator.compile t o = .ok g ∧
        ∀ globals data buffers, Value.IsMappingOrNone data →
          (Generator.run (.ofScripts h) (g.registerAll globals) data buffers).1 =
            .ok (Slice.normalize t)) := by
  have hr := Options.faithful_of_slicer ho
  constructor
  · intro ss hss hfit
    obtain ⟨l, hl, rfl⟩ := (Layout.slice_eq_ok_iff hr).mp hss
    obtain ⟨g, hg, hrun⟩ := Generator.run_layout h ho hr hl (Layout.isSpliced_of_slices hfit)
    exact ⟨g, l, hg, hl, rfl, hrun⟩
  · intro hquiet
    have hl : Layout.Describes ⟨[], t⟩ s.recognizer t := ⟨rfl, by simp [Layout.cuts], hquiet⟩
    exact Generator.run_layout h ho hr hl (by simp [Layout.IsSpliced])

/-- The text `a` with a CR LF, the literal `"b\\n"` and a quote, run on data that
binds the name of the sink. -/
theorem run_splices_shadowed :
    ∃ g, Generator.compile ['a', '\r', '\n', '[', '>', '"', 'b', '\\', 'n', '"', '<', ']', '"']
        .standard = .ok g ∧
      (Generator.run (.ofScripts .bare) (g.registerAll [("x", .int 1)])
        (.map [(.string "__out__" false, .int 0)] .plain none) .empty).1 =
          .ok ['a', '\n', 'b', '\n', '"'] := by
  obtain ⟨s, hs, hslice, hlayout⟩ : ∃ s, Options.standard.slicer = .ok s ∧
      s.slice ['a', '\r', '\n', '[', '>', '"', 'b', '\\', 'n', '"', '<', ']', '"'] =
        .ok [.text ['a', '\\', 'n'], .output ['"', 'b', '\\', 'n', '"'], .text ['\\', '"']] ∧
      Layout.Describes ⟨[⟨['a', '\r', '\n'], .output, ['"', 'b', '\\', 'n', '"']⟩], ['"']⟩
        s.recognizer ['a', '\r', '\n', '[', '>', '"', 'b', '\\', 'n', '"', '<', ']', '"'] :=
    ⟨_, rfl, by decide, by decide, by unfold Recognizer.Ends; decide, by decide⟩
  have hfit : ∀ x ∈ [Slice.text ['a', '\\', 'n'], .output ['"', 'b', '\\', 'n', '"'],
      .text ['\\', '"']], x.IsSpliced := by
    intro x hx
    simp only [List.mem_cons, List.not_mem_nil, or_false] at hx
    rcases hx with rfl | rfl | rfl
    · trivial
    · exact .inr ⟨['b', '\\', 'n'], .plain (by decide) (by decide) (.lineFeed .nil), rfl⟩
    · trivial
  obtain ⟨hsplice, -⟩ := run_splices .bare hs
    ['a', '\r', '\n', '[', '>', '"', 'b', '\\', 'n', '"', '<', ']', '"']
  obtain ⟨g, l, hg, hl, -, hrun⟩ := hsplice _ hslice hfit
  obtain rfl := hl.unique (Options.faithful_of_slicer hs) hlayout
  exact ⟨g, hg, hrun _ _ _ (.inl rfl)⟩

end ScriptedTemplate
