import ScriptedTemplate.Proofs.Generator.Trimming
import ScriptedTemplate.Proofs.Script.Looping

/-
  Looping — templates with a loop, from end to end

  A text of a template is in the program one call with a literal, or none: what is
  empty, perhaps only after its indent has gone, gives no fragment. So a template
  whose two regions of code open and close a loop gives a program of calls with a
  loop, whatever stands in its texts, and the body of that loop is what stands
  between the two regions.

  What is proved: `run_unrolls` — such a template compiles under all options that are
  valid, and on data that binds a list of documents every run gives the text before
  the loop, for each item in order the texts of the body with the text of the item
  between them, and the text behind the loop. Texts directly behind code are without
  their indents when trimming is on; all have their line ends made LF.
-/

namespace ScriptedTemplate

open Lexer (Passed programOf sentence isWord_of_all)
open Grammar (callFragments loopFragments AreLoopNames)
open Slice (normalize unindentIf)

/-! ## Texts as calls -/

namespace Slice

/-- The calls that a text of a template becomes: one, unless the text is empty. -/
def literals (raw : Text) : List Passed := if escape raw = [] then [] else [.literal (escape raw)]

theorem isFit_literals {raw : Text} : ∀ p ∈ literals raw, p.IsFit := by
  intro p hp
  rw [literals] at hp
  split at hp
  · cases hp
  · obtain rfl := List.mem_singleton.mp hp
    exact ⟨inside_escape raw, trivial⟩

theorem name_notMem_literals {raw w : Text} : .name w ∉ literals raw := by
  rw [literals]
  split <;> simp

theorem textIn_literals (env : Text → Text) (raw : Text) :
    ((literals raw).map (Passed.textIn env)).flatten = normalize raw := by
  rw [literals, ← unescape_escape]
  split
  · next hnil =>
    rw [hnil]
    rfl
  · exact List.append_nil _

/-- The fragment that a slice becomes, or nothing. -/
def written (x : Slice) : Text := if x.isValid then x.render else []

theorem written_ofText (raw : Text) :
    (ofText raw).written = programOf (callFragments (literals raw)) := by
  have hvalid : (ofText raw).isValid = !(escape raw).isEmpty := rfl
  rw [written, literals, hvalid, ofText]
  cases hempty : escape raw with
  | nil => rfl
  | cons c u =>
    rw [render_text]
    simp [programOf, callFragments, Passed.fragment, Passed.text]

theorem written_ofOutput {w : Text} (hw : w ≠ []) :
    (ofOutput w).written = programOf (callFragments [.name w]) := by
  have hvalid : (ofOutput w).isValid = true := by simpa [ofOutput, isValid] using hw
  rw [written, if_pos hvalid, ofOutput, render_output]
  simp [programOf, callFragments, Passed.fragment, Passed.text]

end Slice

open Slice (literals isFit_literals name_notMem_literals textIn_literals)

namespace Program

/-- The program text of slices; `after` says whether the slice before was code. -/
def sourceFrom (trim after : Bool) (ss : List Slice) : Text :=
  (emitted trim after ss).flatMap Slice.render

variable {trim : Bool} {ss : List Slice}

/-- A slice, trimmed where it stands behind code, and then the slices behind it. -/
theorem sourceFrom_cons (after : Bool) (x : Slice) :
    sourceFrom trim after (x :: ss) =
      (if after && trim then x.trimLeading else x).written ++ sourceFrom trim x.isCode ss := by
  rw [sourceFrom, emitted, Slice.written]
  generalize (if after && trim then x.trimLeading else x) = kept
  cases kept.isValid with
  | false => simp [sourceFrom]
  | true => simp [sourceFrom]

theorem sourceFrom_text (after : Bool) (raw : Text) :
    sourceFrom trim after (.ofText raw :: ss) =
      programOf (callFragments (literals (unindentIf (after && trim) raw))) ++
        sourceFrom trim false ss := by
  have hkept : (if after && trim then (Slice.ofText raw).trimLeading else .ofText raw) =
      .ofText (unindentIf (after && trim) raw) := by
    cases after && trim with
    | false => rfl
    | true => exact Slice.trimLeading_ofText raw
  rw [sourceFrom_cons, hkept, Slice.written_ofText]
  rfl

theorem sourceFrom_region (after : Bool) {x : Slice} (hx : x.trimLeading = x) :
    sourceFrom trim after (x :: ss) = x.written ++ sourceFrom trim x.isCode ss := by
  rw [sourceFrom_cons, hx, ite_self]

/-- The calls in the body of a loop: the first text of the body, the item, and the
second text. -/
def turn (x first second : Text) : List Passed := literals first ++ .name x :: literals second

theorem isFit_turn {x first second : Text} (hx : (Passed.name x).IsFit) :
    ∀ p ∈ turn x first second, p.IsFit := by
  intro p hp
  rcases List.mem_append.mp hp with hp | hp
  · exact isFit_literals p hp
  · rcases List.mem_cons.mp hp with rfl | hp
    · exact hx
    · exact isFit_literals p hp

theorem name_mem_turn {x w first second : Text} (hw : .name w ∈ turn x first second) : w = x := by
  rcases List.mem_append.mp hw with hw | hw
  · exact absurd hw name_notMem_literals
  · rcases List.mem_cons.mp hw with hw | hw
    · exact Passed.name.inj hw
    · exact absurd hw name_notMem_literals

theorem textIn_turn (env : Text → Text) (x first second : Text) :
    ((turn x first second).map (Passed.textIn env)).flatten =
      normalize first ++ env x ++ normalize second := by
  rw [turn, List.map_append, List.flatten_append, textIn_literals, List.map_cons,
    List.flatten_cons, textIn_literals, List.append_assoc]
  rfl

/-- The program of a template with a loop is one of calls with a loop. -/
theorem source_loop (trim : Bool) (a b c d : Text) :
    (assemble [.ofText a, .ofCode "for x in xs".toList, .ofText b, .ofOutput ['x'], .ofText c,
      .ofCode "endfor".toList, .ofText d] trim).source =
      programOf (loopFragments ['x'] ['x', 's'] (literals a) (turn ['x'] (unindentIf trim b) c)
        (literals (unindentIf trim d))) := by
  have hopens : (Slice.ofCode "for x in xs".toList).written =
      programOf [sentence [['f', 'o', 'r'], ['x'], ['i', 'n'], ['x', 's']]] := rfl
  have hcloses : (Slice.ofCode "endfor".toList).written =
      programOf [sentence [['e', 'n', 'd', 'f', 'o', 'r']]] := rfl
  show sourceFrom trim false _ = _
  rw [sourceFrom_text, sourceFrom_region _ rfl, sourceFrom_text, sourceFrom_region _ rfl,
    sourceFrom_text, sourceFrom_region _ rfl, sourceFrom_text, hopens, hcloses,
    Slice.written_ofOutput (by simp)]
  have hlead : ∀ raw, unindentIf false raw = raw := fun _ => rfl
  simp [sourceFrom, emitted, programOf, loopFragments, callFragments, turn, Slice.ofOutput,
    Slice.ofCode, Slice.isCode, hlead]

end Program

/-! ## Runs -/

/-- A run on the data gives a name the value: of the entries with this name the last
counts. -/
def Value.Binds (data : Value) (s : String) (v : Value) : Prop :=
  ∃ es, Generator.dataEntries data = .ok es ∧ (Bindings.empty.insertAll es).get? s = some v

namespace Generator

/-- What data binds is bound in a run, whatever the globals, unless it is the sink. -/
theorem get?_bindings (g : Generator) {es : List (String × Value)} {s : String} {v : Value}
    (hs : s ≠ sinkName) (hv : (Bindings.empty.insertAll es).get? s = some v) (sink : Value) :
    (g.bindings es sink).get? s = some v := by
  rw [bindings, Bindings.get?_insert, if_neg hs, Bindings.get?_insertAll, hv]
  rfl

/-- A generator whose program is a loop of a template gives the texts of its turns. -/
theorem run_loop (h : Host) {g : Generator} {a b c d : Text}
    (hsource : g.program.source = programOf (loopFragments ['x'] ['x', 's'] (literals a)
      (Program.turn ['x'] b c) (literals d))) {data : Value} {js : List Json}
    (hdata : data.Binds "xs" (Json.array js).toValue) (buffers : Buffers) :
    (run (.ofScripts h) g data buffers).1 = .ok (normalize a ++
      js.flatMap (fun j => normalize b ++ j.toValue.display ++ normalize c) ++ normalize d) := by
  obtain ⟨es, hes, hxs⟩ := hdata
  have hnames : AreLoopNames ['x'] ['x', 's'] :=
    ⟨isWord_of_all rfl rfl, ⟨by decide, rfl⟩, isWord_of_all rfl rfl, by decide⟩
  have hitem : (Passed.name ['x']).IsFit :=
    ⟨hnames.target, show String.ofList ['x'] ∉ Phrase.keywords by decide⟩
  have hturn : Evaluate.Takes (g.bindings es (.object (.sink buffers.fresh.2))) buffers.fresh.2 id
      ['x'] (Program.turn ['x'] b c) := by
    refine ⟨hasSink_bindings g es _, by decide, ?_⟩
    intro w hw hwx
    exact absurd (Program.name_mem_turn hw) hwx
  have hnoNames : ∀ raw w, .name w ∈ literals raw →
      (g.bindings es (.object (.sink buffers.fresh.2))).Holds id w :=
    fun _ _ hw => absurd hw name_notMem_literals
  obtain ⟨t, ht⟩ := Script.evaluate_loop h hnames isFit_literals (Program.isFit_turn hitem)
    isFit_literals (hnoNames a) hturn (hnoNames d) (get?_bindings g (by decide) hxs _)
    (Json.isData_toValues js) buffers.fresh.1
  rw [← hsource] at ht
  -- The texts of the turns, one after the other.
  have hturns : ((Json.toValues js).flatMap fun v => (Program.turn ['x'] b c).map
      (Passed.textIn (Evaluate.turnEnv id ['x'] v.display))).flatten =
        js.flatMap fun j => normalize b ++ j.toValue.display ++ normalize c := by
    rw [← List.flatMap_id, List.flatMap_assoc, Json.toValues_eq_map, List.flatMap_map]
    apply List.flatMap_congr
    intro j _
    rw [List.flatMap_id]
    exact Program.textIn_turn _ _ _ _
  rw [run_of_evaluate hes ht, List.flatten_append, List.flatten_append, textIn_literals,
    textIn_literals, hturns]

end Generator

/-- A template that is sliced into a loop over `xs` with the item between two texts
compiles. Where the data binds `xs` to a list of documents, every run gives the text
before the loop, the texts of the turns in the order of the list, and the text
behind the loop. -/
theorem run_unrolls (h : Host) {o : Options} {s : Slicer} (ho : o.slicer = .ok s)
    {t a b c d : Text} (ht : s.slice t = .ok [.ofText a, .ofCode "for x in xs".toList, .ofText b,
      .ofOutput ['x'], .ofText c, .ofCode "endfor".toList, .ofText d]) :
    ∃ g, Generator.compile t o = .ok g ∧ ∀ globals data buffers js,
      Value.Binds data "xs" (Json.array js).toValue →
        (Generator.run (.ofScripts h) (g.registerAll globals) data buffers).1 = .ok (normalize a ++
          js.flatMap (fun j => normalize (unindentIf o.trimAfterCode b) ++ j.toValue.display ++
            normalize c) ++ normalize (unindentIf o.trimAfterCode d)) := by
  refine ⟨_, Generator.compile_of_slice ho ht, ?_⟩
  intro globals data buffers js hdata
  refine Generator.run_loop h ?_ hdata buffers
  rw [Generator.program_registerAll]
  exact Program.source_loop _ _ _ _ _

/-- In the template `a[!for x in xs!]␣CR LF[>x<]␣LF[!endfor!]␣b` the text in front of the
item is nothing but an indent and gives no fragment; the text behind the item keeps
its space and line end, and that behind the loop has no line end and keeps its
space. The data hides a global. -/
theorem run_unrolls_indent_only :
    ∃ g, Generator.compile ("a[!for x in xs!] \r\n[>x<] \n[!endfor!] b".toList) .standard = .ok g ∧
      (Generator.run (.ofScripts .bare) (g.registerAll [("xs", .int 1)])
        (Json.object [("xs", .array [.bool true, .string "y"])]).toValue .empty).1 =
          .ok "aTrue \ny \n b".toList := by
  obtain ⟨s, hs, hslice⟩ : ∃ s, Options.standard.slicer = .ok s ∧
      s.slice ("a[!for x in xs!] \r\n[>x<] \n[!endfor!] b".toList) = .ok [.ofText ['a'],
        .ofCode "for x in xs".toList, .ofText [' ', '\r', '\n'], .ofOutput ['x'],
        .ofText [' ', '\n'], .ofCode "endfor".toList, .ofText [' ', 'b']] := ⟨_, rfl, by decide⟩
  have hdata : Value.Binds (Json.object [("xs", .array [.bool true, .string "y"])]).toValue "xs"
      (Json.array [.bool true, .string "y"]).toValue := ⟨_, rfl, rfl⟩
  obtain ⟨g, hg, hrun⟩ := run_unrolls .bare hs hslice
  refine ⟨g, hg, (hrun [("xs", .int 1)] _ .empty _ hdata).trans (congrArg Except.ok ?_)⟩
  decide

end ScriptedTemplate
