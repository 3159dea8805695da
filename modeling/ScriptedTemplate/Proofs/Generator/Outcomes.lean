import ScriptedTemplate.Proofs.Generator.Splicing
import ScriptedTemplate.Proofs.Marker.Flaws
import ScriptedTemplate.Proofs.Slice.Verdict

/-
  Outcomes — how compiling a template ends

  Compiling can end early at three places, which are passed in this order: the
  options have no width, their markers have no recognizer, the template cannot be
  sliced. The first two do not look at the template. What is left of the options is
  used once each: the width in the report of a marker, the trim when the slices are
  assembled (`compile_cases`).

  What is proved: `compile_outcomes` — each of the three failures arises exactly where
  compiling ends for its reason, and nothing else arises. With another width the same
  templates compile, to the same programs, and the others fail for the same reason at
  the same marker; with another trim the failures are the same.
-/

namespace ScriptedTemplate

/-! ## Markers that have a recognizer -/

theorem MarkerSet.Legal.not_unfit {ms : MarkerSet} (h : ms.Legal) (m : Marker) :
    ¬ ms.Unfit m := by
  intro hunfit
  rcases hunfit with hnil | ⟨m', hm', heq⟩
  · exact h.nonempty m hnil
  · exact Marker.ne_of_mem_earlier hm' (h.word_inj heq)

namespace Recognizer

variable {ms : MarkerSet}

theorem exists_build_iff : (∃ r, build ms = .ok r) ↔ ms.Legal := by
  constructor
  · intro hok
    obtain ⟨r, hr⟩ := hok
    obtain ⟨rfl, hfaithful⟩ := build_faithful hr
    exact hfaithful.legal
  · intro h
    cases hb : build ms with
    | ok r => exact ⟨r, rfl⟩
    | error e =>
      -- The error names a marker that legal words leave no room for.
      exfalso
      rcases build_error hb with ⟨m, hm, -⟩ | ⟨-, m, hm, -⟩
      · exact h.not_unfit m hm.unfit
      · exact (MarkerSet.legal_iff.mp h).2.2 m hm.blocks

theorem exists_build_error_iff : (∃ e, build ms = .error e) ↔ ¬ ms.Legal := by
  rw [← exists_build_iff]
  cases build ms with
  | ok r => simp
  | error e => simp

end Recognizer

/-! ## The width of a slicer -/

namespace Slicer

variable {r : Recognizer} {width : Nat} {t : Text}

theorem slice_ok_width (hr : r.Faithful) {width' : Nat} {ss : List Slice} :
    slice ⟨r, width'⟩ t = .ok ss ↔ slice ⟨r, width⟩ t = .ok ss := by
  rw [Layout.slice_eq_ok_iff (s := ⟨r, width'⟩) hr, Layout.slice_eq_ok_iff (s := ⟨r, width⟩) hr]

/-- A template that is refused at one width is refused at every width, for the same
reason and at the same marker. -/
theorem slice_error_width (hr : r.Faithful) {e : SliceError} (he : slice ⟨r, width⟩ t = .error e) :
    ∃ kind m before behind, (kind = SliceError.unexpected ∨ kind = SliceError.unclosed) ∧
      t = before ++ r.word m ++ behind ∧
      ∀ width', slice ⟨r, width'⟩ t = .error (kind (.around width' before (r.word m) behind)) := by
  obtain ⟨cs₁, c, cs₂, q, hcuts, hthrough, hfault⟩ := exists_fault he
  have hsplit := hr.split_of_cuts hcuts
  -- Neither the cuts nor the modes know the width, so the fault is at the same place.
  rcases hfault with hmisplaced | ⟨hlast, next, hafter, hopen⟩
  · refine ⟨.unexpected, c.marker, _, _, .inl rfl, hsplit, ?_⟩
    intro width'
    rw [slice, hcuts]
    exact follow_unexpected (s := ⟨r, width'⟩) hthrough hmisplaced cs₂ _
  · subst hlast
    refine ⟨.unclosed, c.marker, _, _, .inr rfl, hsplit, ?_⟩
    intro width'
    rw [slice, hcuts]
    exact follow_unclosed (s := ⟨r, width'⟩) hthrough hafter hopen _

end Slicer

/-! ## Compiling -/

namespace Generator

/-- The places at which compiling can end. -/
theorem compile_cases (o : Options) (t : Text) :
    (o.contextWidth = 0 ∧ compile t o = .error (.options .noContext)) ∨
    (1 ≤ o.contextWidth ∧ ∃ e, Recognizer.build o.markers = .error e ∧
      compile t o = .error (.options (.markers e))) ∨
    (1 ≤ o.contextWidth ∧ ∃ r, Recognizer.build o.markers = .ok r ∧
      ((∃ e, Slicer.slice ⟨r, o.contextWidth⟩ t = .error e ∧ compile t o = .error (.slicing e)) ∨
        ∃ ss, Slicer.slice ⟨r, o.contextWidth⟩ t = .ok ss ∧
          compile t o = .ok ⟨Program.assemble ss o.trimAfterCode, []⟩)) := by
  rcases Nat.eq_zero_or_pos o.contextWidth with hzero | hpos
  · refine .inl ⟨hzero, ?_⟩
    simp [compile, Program.compile, Options.slicer, Options.check, Options.isUsable, hzero]
  · have husable : o.isUsable = true := decide_eq_true hpos
    cases hb : Recognizer.build o.markers with
    | error e =>
      refine .inr (.inl ⟨hpos, e, rfl, ?_⟩)
      simp [compile, Program.compile, Options.slicer, Options.check, husable, hb]
    | ok r =>
      have ho : o.slicer = .ok ⟨r, o.contextWidth⟩ :=
        Options.slicer_eq_ok_iff.mpr ⟨husable, r, hb, rfl⟩
      refine .inr (.inr ⟨hpos, r, rfl, ?_⟩)
      cases hs : Slicer.slice ⟨r, o.contextWidth⟩ t with
      | error e =>
        refine .inl ⟨e, rfl, ?_⟩
        simp [compile, Program.compile, ho, hs]
      | ok ss => exact .inr ⟨ss, rfl, compile_of_slice ho hs⟩

variable {o : Options} {t : Text}

theorem compile_eq_noContext_iff :
    compile t o = .error (.options .noContext) ↔ o.contextWidth = 0 := by
  rcases compile_cases o t with ⟨hzero, hc⟩ | ⟨hpos, e, -, hc⟩ |
    ⟨hpos, r, -, ⟨e, -, hc⟩ | ⟨ss, -, hc⟩⟩
  · exact iff_of_true hc hzero
  all_goals
    rw [hc]
    apply iff_of_false _ (by omega)
    intro h
    cases h

theorem compile_eq_markers_iff {e : MarkerError} : compile t o = .error (.options (.markers e)) ↔
    1 ≤ o.contextWidth ∧ Recognizer.build o.markers = .error e := by
  rcases compile_cases o t with ⟨hzero, hc⟩ | ⟨hpos, e', hb, hc⟩ |
    ⟨hpos, r, hb, ⟨e', -, hc⟩ | ⟨ss, -, hc⟩⟩
  · simp [hc, hzero]
  · simp [hc, hb, hpos]
  · simp [hc, hb]
  · simp [hc, hb]

theorem compile_eq_slicing_iff {e : SliceError} : compile t o = .error (.slicing e) ↔
    1 ≤ o.contextWidth ∧ ∃ r, Recognizer.build o.markers = .ok r ∧
      Slicer.slice ⟨r, o.contextWidth⟩ t = .error e := by
  rcases compile_cases o t with ⟨hzero, hc⟩ | ⟨hpos, e', hb, hc⟩ |
    ⟨hpos, r, hb, ⟨e', hs, hc⟩ | ⟨ss, hs, hc⟩⟩
  · simp [hc, hzero]
  · simp [hc, hb]
  · simp [hc, hb, hs, hpos]
  · simp [hc, hb, hs]

theorem compile_eq_assembled_iff {g : Generator} : compile t o = .ok g ↔
    1 ≤ o.contextWidth ∧ ∃ r, Recognizer.build o.markers = .ok r ∧
      ∃ ss, Slicer.slice ⟨r, o.contextWidth⟩ t = .ok ss ∧
        g = ⟨Program.assemble ss o.trimAfterCode, []⟩ := by
  rcases compile_cases o t with ⟨hzero, hc⟩ | ⟨hpos, e', hb, hc⟩ |
    ⟨hpos, r, hb, ⟨e', hs, hc⟩ | ⟨ss, hs, hc⟩⟩
  · simp [hc, hzero]
  · simp [hc, hb]
  · simp [hc, hb, hs]
  · simp [hc, hb, hs, hpos, eq_comm]

theorem failure_of_compile {f : Failure} (h : compile t o = .error f) :
    f = .options .noContext ∨ (∃ e, f = .options (.markers e)) ∨ ∃ e, f = .slicing e := by
  rcases compile_cases o t with ⟨-, hc⟩ | ⟨-, e, -, hc⟩ | ⟨-, r, -, ⟨e, -, hc⟩ | ⟨ss, -, hc⟩⟩
  · rw [hc] at h
    cases h
    exact .inl rfl
  · rw [hc] at h
    cases h
    exact .inr (.inl ⟨e, rfl⟩)
  · rw [hc] at h
    cases h
    exact .inr (.inr ⟨e, rfl⟩)
  · rw [hc] at h
    cases h

end Generator

/-- Two failures of compiling one template say the same: they are one fault of the
options, or for one reason they report one marker where it stands, each with the
context that its width allows. -/
def Failure.Alike (ms : MarkerSet) (t : Text) (width width' : Nat) (f f' : Failure) : Prop :=
  (∃ e, f = .options e ∧ f' = .options e) ∨
  ∃ kind m before behind, (kind = SliceError.unexpected ∨ kind = SliceError.unclosed) ∧
    t = before ++ ms.word m ++ behind ∧
    f = .slicing (kind (.around width before (ms.word m) behind)) ∧
    f' = .slicing (kind (.around width' before (ms.word m) behind))

namespace Generator

variable {o : Options} {t : Text}

theorem compile_ok_width {width : Nat} (hpos : 1 ≤ o.contextWidth) (hwidth : 1 ≤ width)
    {g : Generator} : compile t { o with contextWidth := width } = .ok g ↔ compile t o = .ok g := by
  rw [compile_eq_assembled_iff, compile_eq_assembled_iff]
  simp only [hpos, hwidth, true_and]
  apply exists_congr
  intro r
  apply and_congr_right
  intro hb
  have hr := (Recognizer.build_faithful hb).2
  apply exists_congr
  intro ss
  exact and_congr_left' (Slicer.slice_ok_width hr)

theorem compile_error_width {width : Nat} (hwidth : 1 ≤ width) (hpos : 1 ≤ o.contextWidth)
    {f : Failure} (h : compile t o = .error f) :
    ∃ f', compile t { o with contextWidth := width } = .error f' ∧
      f.Alike o.markers t o.contextWidth width f' := by
  rcases failure_of_compile h with rfl | ⟨e, rfl⟩ | ⟨e, rfl⟩
  · have hzero := compile_eq_noContext_iff.mp h
    omega
  · have hb := (compile_eq_markers_iff.mp h).2
    exact ⟨_, compile_eq_markers_iff.mpr ⟨hwidth, hb⟩, .inl ⟨_, rfl, rfl⟩⟩
  · obtain ⟨-, r, hb, hs⟩ := compile_eq_slicing_iff.mp h
    obtain ⟨hmarkers, hr⟩ := Recognizer.build_faithful hb
    obtain ⟨kind, m, before, behind, hkind, ht, hall⟩ := Slicer.slice_error_width hr hs
    have hword : r.word m = o.markers.word m := by rw [← hmarkers]; rfl
    rw [hword] at ht hall
    have he : e = kind (.around o.contextWidth before (o.markers.word m) behind) :=
      Except.error.inj (hs.symm.trans (hall o.contextWidth))
    refine ⟨_, compile_eq_slicing_iff.mpr ⟨hwidth, r, hb, hall width⟩, .inr ?_⟩
    exact ⟨kind, m, before, behind, hkind, ht, congrArg Failure.slicing he, rfl⟩

theorem compile_error_trim {trim : Bool} {f : Failure} :
    compile t { o with trimAfterCode := trim } = .error f ↔ compile t o = .error f := by
  -- Each failure depends on markers and width alone.
  have hall : ∀ {o o' : Options}, o.markers = o'.markers → o.contextWidth = o'.contextWidth →
      compile t o = .error f → compile t o' = .error f := by
    intro o o' hmarkers hwidth h
    rcases failure_of_compile h with rfl | ⟨e, rfl⟩ | ⟨e, rfl⟩
    · rw [compile_eq_noContext_iff, ← hwidth]
      exact compile_eq_noContext_iff.mp h
    · rw [compile_eq_markers_iff, ← hwidth, ← hmarkers]
      exact compile_eq_markers_iff.mp h
    · rw [compile_eq_slicing_iff, ← hwidth, ← hmarkers]
      exact compile_eq_slicing_iff.mp h
  exact ⟨hall rfl rfl, hall rfl rfl⟩

theorem compile_ok_trim {trim : Bool} :
    (∃ g, compile t { o with trimAfterCode := trim } = .ok g) ↔ ∃ g, compile t o = .ok g := by
  -- Something compiles where no failure arises, and the failures are the same.
  have hok : ∀ o : Options, (∃ g, compile t o = .ok g) ↔ ∀ f, compile t o ≠ .error f := by
    intro o
    cases compile t o with
    | ok g => simp
    | error f => simp
  rw [hok, hok]
  apply forall_congr'
  intro f
  exact not_congr compile_error_trim

end Generator

/-- How compiling ends, for every template. It fails for want of context exactly if the
width is 0; otherwise with the error of the markers exactly if they are not legal. Both
failures are the same for every template. Otherwise it fails exactly as slicing the
template does, or gives the program of the slices. No other failure arises, so none of a
run. With another width, both being at least 1, the same generators come out, and a
failure is alike. With another trim the same templates compile, and the failures are the
same. -/
theorem compile_outcomes (o : Options) :
    (∀ t, Generator.compile t o = .error (.options .noContext) ↔ o.contextWidth = 0) ∧
    (∀ t e, Generator.compile t o = .error (.options (.markers e)) ↔
      1 ≤ o.contextWidth ∧ Recognizer.build o.markers = .error e) ∧
    ((∃ e, Recognizer.build o.markers = .error e) ↔ ¬ o.markers.Legal) ∧
    (∀ r, 1 ≤ o.contextWidth → Recognizer.build o.markers = .ok r → ∀ t,
      (∀ e, Generator.compile t o = .error (.slicing e) ↔
        Slicer.slice ⟨r, o.contextWidth⟩ t = .error e) ∧
      ∀ g, Generator.compile t o = .ok g ↔ ∃ ss, Slicer.slice ⟨r, o.contextWidth⟩ t = .ok ss ∧
        g = ⟨Program.assemble ss o.trimAfterCode, []⟩) ∧
    (∀ t f, Generator.compile t o = .error f →
      f = .options .noContext ∨ (∃ e, f = .options (.markers e)) ∨ ∃ e, f = .slicing e) ∧
    (∀ width, 1 ≤ o.contextWidth → 1 ≤ width → ∀ t,
      (∀ g, Generator.compile t { o with contextWidth := width } = .ok g ↔
        Generator.compile t o = .ok g) ∧
      ∀ f, Generator.compile t o = .error f →
        ∃ f', Generator.compile t { o with contextWidth := width } = .error f' ∧
          f.Alike o.markers t o.contextWidth width f') ∧
    ∀ trim t,
      ((∃ g, Generator.compile t { o with trimAfterCode := trim } = .ok g) ↔
        ∃ g, Generator.compile t o = .ok g) ∧
      ∀ f, Generator.compile t { o with trimAfterCode := trim } = .error f ↔
        Generator.compile t o = .error f := by
  refine ⟨?_, ?_, Recognizer.exists_build_error_iff, ?_, ?_, ?_, ?_⟩
  · intro t
    exact Generator.compile_eq_noContext_iff
  · intro t e
    exact Generator.compile_eq_markers_iff
  · intro r hpos hb t
    constructor
    · intro e
      simp [Generator.compile_eq_slicing_iff, hpos, hb]
    · intro g
      simp [Generator.compile_eq_assembled_iff, hpos, hb]
  · intro t f
    exact Generator.failure_of_compile
  · intro width hpos hwidth t
    constructor
    · intro g
      exact Generator.compile_ok_width hpos hwidth
    · intro f
      exact Generator.compile_error_width hwidth hpos
  · intro trim t
    constructor
    · exact Generator.compile_ok_trim
    · intro f
      exact Generator.compile_error_trim

/-- Where the width is 0, two markers have one word, a third has none and the template
is not closed, the width is at fault; where it is 3, the first word that is there
twice, whatever the template. An open region is reported with as much of it as the width
allows. -/
theorem compile_outcomes_many_defects :
    (Generator.compile ['[', '!'] ⟨⟨['a'], ['a'], [], ['b']⟩, true, 0⟩ =
      .error (.options .noContext)) ∧
    (∀ t, Generator.compile t ⟨⟨['a'], ['a'], [], ['b']⟩, true, 3⟩ =
      .error (.options (.markers (.clash ['a'])))) ∧
    ∃ f', Generator.compile ['x', '[', '!', 'y', 'z'] { Options.standard with contextWidth := 1 } =
        .error f' ∧
      Failure.Alike .standard ['x', '[', '!', 'y', 'z'] 6 1
        (.slicing (.unclosed ⟨['x'], ['[', '!'], ['y', 'z']⟩)) f' := by
  obtain ⟨hzero, -⟩ := compile_outcomes ⟨⟨['a'], ['a'], [], ['b']⟩, true, 0⟩
  obtain ⟨-, hmarkers, -⟩ := compile_outcomes ⟨⟨['a'], ['a'], [], ['b']⟩, true, 3⟩
  obtain ⟨-, -, -, -, -, hwidths, -⟩ := compile_outcomes .standard
  refine ⟨(hzero _).mpr rfl, ?_, ?_⟩
  · intro t
    exact (hmarkers t _).mpr ⟨by decide, by decide⟩
  · obtain ⟨-, hfail⟩ := hwidths 1 (by decide) (by decide) ['x', '[', '!', 'y', 'z']
    exact hfail _ rfl

end ScriptedTemplate
