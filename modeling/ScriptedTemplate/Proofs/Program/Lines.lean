import ScriptedTemplate.Proofs.Generator.Splicing
import ScriptedTemplate.Proofs.Slice.Indent
import ScriptedTemplate.Proofs.Slice.Payload
import Mathlib.Algebra.GroupWithZero.Nat

/-
  Lines of programs — where each fragment begins

  A fault of a run names a line of the program. A fragment ends its line, and the
  payloads of texts and of code have no line feed, whatever they were made from:
  escaping a text and flattening code leave none, and trimming brings none back. An
  output expression is kept as it is, so only outputs spread over lines.

  What is proved: `assemble_lines` — the line feeds of a program are one for each of
  its fragments and those in the payloads of its outputs; it is empty or ends in a
  line feed; and each fragment begins the line that follows the lines of the
  fragments before it. So it is for slices made from any texts, and for the program
  of every template.
-/

namespace ScriptedTemplate

/-- A text behind which a line begins, and the number of that line. -/
def Text.Opens (t : Text) (line : Nat) : Prop :=
  (t = [] ∨ t.getLast? = some '\n') ∧ line = t.count '\n' + 1

namespace Slice

/-- Made from a piece of a template. -/
def IsMade (x : Slice) : Prop := ∃ raw, x = ofText raw ∨ x = ofCode raw ∨ x = ofOutput raw

/-- The line feeds in the payload of an output. -/
def breaks : Slice → Nat
  | output p => p.count '\n'
  | _ => 0

/-- The payload has no line feed, unless it is an output. -/
def IsFlat : Slice → Prop
  | text p => '\n' ∉ p
  | code p => '\n' ∉ p
  | output _ => True

/-! ## Payloads -/

theorem lineFeed_notMem_flatten (t : Text) : '\n' ∉ flatten t := by
  induction t using flatten.induct with
  | case1 => exact List.not_mem_nil
  | case2 t ih => exact List.not_mem_cons_of_ne_of_not_mem (by decide) ih
  | case3 t ih => exact List.not_mem_cons_of_ne_of_not_mem (by decide) ih
  | case4 c t hr hn ih =>
    rw [flatten]
    · exact List.not_mem_cons_of_ne_of_not_mem (Ne.symm hn) ih
    · exact hr
    · exact hn

theorem IsMade.isFlat {x : Slice} (h : x.IsMade) : x.IsFlat := by
  obtain ⟨raw, rfl | rfl | rfl⟩ := h
  · exact lineFeed_notMem_escape raw
  · exact lineFeed_notMem_flatten raw
  · trivial

theorem IsMade.trimLeading {x : Slice} (h : x.IsMade) : x.trimLeading.IsMade := by
  obtain ⟨raw, rfl | rfl | rfl⟩ := h
  · exact ⟨unindent raw, .inl (trimLeading_ofText raw)⟩
  · exact ⟨raw, .inr (.inl rfl)⟩
  · exact ⟨raw, .inr (.inr rfl)⟩

theorem breaks_trimLeading (x : Slice) : x.trimLeading.breaks = x.breaks := by
  cases x <;> rfl

/-! ## Renderings -/

theorem render_code (p : Text) :
    (code p).render = ['{', '%', '-', ' '] ++ p ++ [' ', '-', '%', '}', '\n'] := by
  change "\x7b%- ".toList ++ p ++ " -%\x7d\n".toList = _
  have hopen : "\x7b%- ".toList = ['{', '%', '-', ' '] := rfl
  have hclose : " -%\x7d\n".toList = [' ', '-', '%', '}', '\n'] := rfl
  rw [hopen, hclose]

theorem getLast?_render (x : Slice) : x.render.getLast? = some '\n' := by
  cases x with
  | text p =>
    rw [render_text, List.getLast?_append]
    rfl
  | code p =>
    rw [render_code, List.getLast?_append]
    rfl
  | output p =>
    rw [render_output, List.getLast?_append]
    rfl

theorem IsFlat.count_render {x : Slice} (h : x.IsFlat) : x.render.count '\n' = x.breaks + 1 := by
  cases x with
  | text p =>
    have hp : p.count '\n' = 0 := List.count_eq_zero_of_not_mem h
    simp [render_text, callText, quoted, hp, breaks]
  | code p =>
    have hp : p.count '\n' = 0 := List.count_eq_zero_of_not_mem h
    simp [render_code, hp, breaks]
  | output p => simp [render_output, callText, breaks]

end Slice

namespace Program

open Slice (IsMade IsFlat)

/-- The line feeds in the payloads of the outputs among some slices. -/
def breaksIn (es : List Slice) : Nat := (es.map Slice.breaks).sum

/-- The program is made of the fragments `es`, each on lines of its own: the `k`-th one
begins the line that follows the lines of those before it. -/
structure LaidOut (p : Program) (es : List Slice) : Prop where
  fragments : p.fragments = es.length
  lineFeeds : p.source.count '\n' = p.fragments + breaksIn es
  ends : p.source = [] ∨ p.source.getLast? = some '\n'
  begins : ∀ k e, es[k]? = some e → ∃ before behind, p.source = before ++ e.render ++ behind ∧
    before.Opens (k + 1 + breaksIn (es.take k))

variable {trim : Bool}

/-! ## Fragments -/

/-- Fragments end a line, and they have a line feed each besides those of the
outputs. -/
theorem opens_flatMap_render {es : List Slice} (h : ∀ e ∈ es, e.IsFlat) :
    Text.Opens (es.flatMap Slice.render) (es.length + 1 + breaksIn es) := by
  induction es with
  | nil => exact ⟨.inl rfl, rfl⟩
  | cons e es ih =>
    obtain ⟨hends, hlines⟩ := ih fun x hx => h x (List.mem_cons_of_mem _ hx)
    have hlast : (e.render ++ es.flatMap Slice.render).getLast? = some '\n' := by
      rcases hends with hnil | hlast
      · rw [hnil, List.append_nil, Slice.getLast?_render]
      · rw [List.getLast?_append, hlast]
        rfl
    refine ⟨.inr hlast, ?_⟩
    have hcount := (h e List.mem_cons_self).count_render
    simp only [breaksIn, List.flatMap_cons, List.count_append, List.length_cons, List.map_cons,
      List.sum_cons] at hlines ⊢
    omega

theorem laidOut_ofFragments {es : List Slice} (h : ∀ e ∈ es, e.IsFlat) :
    LaidOut (ofFragments es) es where
  fragments := rfl
  lineFeeds := by
    obtain ⟨-, hlines⟩ := opens_flatMap_render h
    change (es.flatMap Slice.render).count '\n' = es.length + breaksIn es
    omega
  ends := (opens_flatMap_render h).1
  begins := by
    intro k e hk
    obtain ⟨hlt, rfl⟩ := List.getElem?_eq_some_iff.mp hk
    refine ⟨(es.take k).flatMap Slice.render, (es.drop (k + 1)).flatMap Slice.render, ?_, ?_⟩
    · have hsplit : es = es.take k ++ es[k] :: es.drop (k + 1) := by simp
      calc es.flatMap Slice.render
          = (es.take k ++ es[k] :: es.drop (k + 1)).flatMap Slice.render := by rw [← hsplit]
        _ = _ := by rw [List.flatMap_append, List.flatMap_cons, List.append_assoc]
    · have hflat : ∀ x ∈ es.take k, x.IsFlat := fun x hx => h x (List.mem_of_mem_take hx)
      have hopens := opens_flatMap_render hflat
      rwa [List.length_take_of_le (Nat.le_of_lt hlt)] at hopens

/-! ## Emitted slices -/

/-- A slice that is emitted is one of the slices, or one of them trimmed. -/
theorem mem_emitted {e : Slice} {ss : List Slice} {after : Bool} (h : e ∈ emitted trim after ss) :
    ∃ x ∈ ss, e = x ∨ e = x.trimLeading := by
  induction ss generalizing after with
  | nil => cases h
  | cons x ss ih =>
    have hkept : (if after && trim then x.trimLeading else x) = x ∨
        (if after && trim then x.trimLeading else x) = x.trimLeading := by
      split
      · exact .inr rfl
      · exact .inl rfl
    have hrest : e ∈ emitted trim x.isCode ss → ∃ y ∈ x :: ss, e = y ∨ e = y.trimLeading := by
      intro he
      obtain ⟨y, hy, hey⟩ := ih he
      exact ⟨y, List.mem_cons_of_mem _ hy, hey⟩
    rw [emitted] at h
    generalize (if after && trim then x.trimLeading else x) = kept at h hkept
    split at h
    · rcases List.mem_cons.mp h with rfl | h
      · exact ⟨x, List.mem_cons_self, hkept⟩
      · exact hrest h
    · exact hrest h

theorem isMade_of_mem_emitted {ss : List Slice} (h : ∀ x ∈ ss, x.IsMade) {after : Bool} :
    ∀ e ∈ emitted trim after ss, e.IsMade := by
  intro e he
  obtain ⟨x, hx, rfl | rfl⟩ := mem_emitted he
  · exact h e hx
  · exact (h x hx).trimLeading

theorem breaksIn_emitted {ss : List Slice} (h : ∀ x ∈ ss, x.breaks = 0) {after : Bool} :
    breaksIn (emitted trim after ss) = 0 := by
  refine List.sum_eq_zero_iff_forall_eq_nat.mpr ?_
  intro n hn
  obtain ⟨e, he, rfl⟩ := List.mem_map.mp hn
  obtain ⟨x, hx, rfl | rfl⟩ := mem_emitted he
  · exact h e hx
  · rw [Slice.breaks_trimLeading, h x hx]

theorem laidOut_assemble {ss : List Slice} (h : ∀ x ∈ ss, x.IsMade) :
    LaidOut (assemble ss trim) (emitted trim false ss) :=
  laidOut_ofFragments fun e he => (isMade_of_mem_emitted h e he).isFlat

end Program

namespace Mode

theorem isMade_slice (q : Mode) (raw : Text) : (q.slice raw).IsMade := by
  cases q with
  | text => exact ⟨raw, .inl rfl⟩
  | code => exact ⟨raw, .inr (.inl rfl)⟩
  | output => exact ⟨raw, .inr (.inr rfl)⟩

end Mode

namespace Slicer

variable {s : Slicer}

theorem isMade_of_follow {tail : Text} : ∀ {cs : List Cut} {q : Mode} {before : List Text}
    {mark : Text} {ss : List Slice}, s.follow q before mark cs tail = .ok ss →
      ∀ x ∈ ss, x.IsMade
  | [], q, before, mark, ss, h => by
    rw [follow] at h
    split at h
    · cases h
      intro x hx
      rw [List.mem_singleton.mp hx]
      exact Mode.text.isMade_slice tail
    · cases h
  | c :: cs, q, before, mark, ss, h => by
    simp only [follow] at h
    split at h
    · cases h
    · split at h
      · next rest hrest =>
        cases h
        exact List.forall_mem_cons.mpr ⟨q.isMade_slice c.raw, isMade_of_follow hrest⟩
      · cases h

theorem isMade_of_slice {t : Text} {ss : List Slice} (h : s.slice t = .ok ss) :
    ∀ x ∈ ss, x.IsMade :=
  isMade_of_follow h

end Slicer

/-- Every program made from slices of any texts, and so the program of every template,
has its fragments on lines of their own: a fragment begins the line that follows its
number by the line feeds in the payloads of the outputs before it. When no output has a
line feed, the lines are the fragments. -/
theorem assemble_lines :
    (∀ (trim : Bool) (ss : List Slice), (∀ x ∈ ss, x.IsMade) →
      (Program.assemble ss trim).LaidOut (Program.emitted trim false ss) ∧
      ((∀ x ∈ ss, x.breaks = 0) →
        (Program.assemble ss trim).source.count '\n' = (Program.assemble ss trim).fragments)) ∧
    ∀ (t : Text) (o : Options) (p : Program), Program.compile t o = .ok p →
      ∃ s ss, o.slicer = .ok s ∧ s.slice t = .ok ss ∧ p = Program.assemble ss o.trimAfterCode ∧
        p.LaidOut (Program.emitted o.trimAfterCode false ss) ∧
        ((∀ x ∈ ss, x.breaks = 0) → p.source.count '\n' = p.fragments) := by
  have hassemble : ∀ (trim : Bool) (ss : List Slice), (∀ x ∈ ss, x.IsMade) →
      (Program.assemble ss trim).LaidOut (Program.emitted trim false ss) ∧
      ((∀ x ∈ ss, x.breaks = 0) →
        (Program.assemble ss trim).source.count '\n' = (Program.assemble ss trim).fragments) := by
    intro trim ss hss
    have hlaid : (Program.assemble ss trim).LaidOut _ := Program.laidOut_assemble hss
    refine ⟨hlaid, fun hbreaks => ?_⟩
    rw [hlaid.lineFeeds, Program.breaksIn_emitted hbreaks, Nat.add_zero]
  refine ⟨hassemble, ?_⟩
  intro t o p hp
  cases hs : o.slicer with
  | error f =>
    rw [Program.compile, hs] at hp
    cases hp
  | ok s =>
    obtain ⟨ss, hss, rfl⟩ := (Program.compile_eq_ok_iff hs).mp hp
    obtain ⟨hlaid, hlines⟩ := hassemble o.trimAfterCode ss (Slicer.isMade_of_slice hss)
    exact ⟨s, ss, rfl, hss, rfl, hlaid, hlines⟩

/-- An output with a line feed, in slices with code that is left out, and in a
template. -/
theorem assemble_lines_broken_output :
    (Program.assemble [.ofText ['a', '\n'], .ofOutput ['1', '\n'], .ofCode ['\n'], .ofText ['b']]
      false).LaidOut [.text ['a', '\\', 'n'], .output ['1', '\n'], .text ['b']] ∧
    ∃ p, Program.compile ['a', '[', '>', '\n', '<', ']', 'b'] .standard = .ok p ∧
      p.LaidOut [.text ['a'], .output ['\n'], .text ['b']] := by
  obtain ⟨hassemble, hcompile⟩ := assemble_lines
  constructor
  · refine (hassemble false _ ?_).1
    intro x hx
    simp only [List.mem_cons, List.not_mem_nil, or_false] at hx
    rcases hx with rfl | rfl | rfl | rfl
    · exact ⟨_, .inl rfl⟩
    · exact ⟨_, .inr (.inr rfl)⟩
    · exact ⟨_, .inr (.inl rfl)⟩
    · exact ⟨_, .inl rfl⟩
  · obtain ⟨s, hs, hslice⟩ : ∃ s, Options.standard.slicer = .ok s ∧
        s.slice ['a', '[', '>', '\n', '<', ']', 'b'] =
          .ok [.text ['a'], .output ['\n'], .text ['b']] :=
      ⟨_, rfl, by decide⟩
    have hp := (Program.compile_eq_ok_iff hs).mpr ⟨_, hslice, rfl⟩
    obtain ⟨s', ss, hs', hss, -, hlaid, -⟩ := hcompile _ _ _ hp
    obtain rfl := Except.ok.inj (hs.symm.trans hs')
    obtain rfl := Except.ok.inj (hslice.symm.trans hss)
    exact ⟨_, hp, hlaid⟩

end ScriptedTemplate
