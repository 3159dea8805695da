import ScriptedTemplate.Slice.Slicer
import ScriptedTemplate.Proofs.Marker.Division

/-
  Layouts — the grammar of templates

  A template is text with regions in it. Each region stands behind some text, has
  the opening and the closing word of its kind, and what stands between them; after
  the last region comes text again. A layout describes a template when the template
  is written so, and a fresh detector sees in every piece with its word that word
  and nothing else, and nothing in the tail.

  What is proved: `slice_ok_iff_layout` — a template is sliced exactly when a
  layout describes it; that layout is the only one; and the slices are its pieces
  in order, texts and regions by turns.
-/

namespace ScriptedTemplate

/-- The kinds of regions. -/
inductive RegionKind where
  | code
  | output
  deriving DecidableEq, Repr

namespace RegionKind

/-- The marker that opens a region of this kind. -/
def opener : RegionKind → Marker
  | code => .codeBegin
  | output => .outputBegin

def closer : RegionKind → Marker
  | code => .codeEnd
  | output => .outputEnd

/-- The mode in which its inside is read. -/
def mode : RegionKind → Mode
  | code => .code
  | output => .output

theorem after_text_eq_some_iff {m : Marker} {next : Mode} :
    Mode.text.after m = some next ↔ ∃ k : RegionKind, m = k.opener ∧ next = k.mode := by
  constructor
  · intro h
    cases m with
    | codeBegin => cases h; exact ⟨.code, rfl, rfl⟩
    | outputBegin => cases h; exact ⟨.output, rfl, rfl⟩
    | codeEnd => cases h
    | outputEnd => cases h
  · intro hkind
    obtain ⟨k, rfl, rfl⟩ := hkind
    cases k <;> rfl

theorem after_mode_eq_some_iff (k : RegionKind) {m : Marker} {next : Mode} :
    k.mode.after m = some next ↔ m = k.closer ∧ next = .text := by
  constructor
  · intro h
    cases k <;> cases m <;> cases h <;> exact ⟨rfl, rfl⟩
  · intro hcloses
    obtain ⟨rfl, rfl⟩ := hcloses
    cases k <;> rfl

theorem mode_ne_text (k : RegionKind) : k.mode ≠ .text := by cases k <;> decide

theorem opener_inj {k k' : RegionKind} (h : k.opener = k'.opener) : k = k' := by
  cases k <;> cases k' <;> first | rfl | cases h

end RegionKind

/-- A region and the text in front of it. -/
structure Region where
  lead : Text
  kind : RegionKind
  body : Text
  deriving DecidableEq, Repr

/-- Regions, and the text behind the last of them. -/
structure Layout where
  regions : List Region
  tail : Text
  deriving DecidableEq, Repr

/-- The two pieces of a region, each with the marker that ends it. -/
def Region.cuts (g : Region) : List Cut := [⟨g.lead, g.kind.opener⟩, ⟨g.body, g.kind.closer⟩]

def Region.slices (g : Region) : List Slice := [.ofText g.lead, g.kind.mode.slice g.body]

def Region.text (ms : MarkerSet) (g : Region) : Text :=
  g.lead ++ ms.word g.kind.opener ++ g.body ++ ms.word g.kind.closer

namespace Layout

def cuts (l : Layout) : List Cut := l.regions.flatMap Region.cuts

def slices (l : Layout) : List Slice := l.regions.flatMap Region.slices ++ [.ofText l.tail]

def text (ms : MarkerSet) (l : Layout) : Text := l.regions.flatMap (Region.text ms) ++ l.tail

/-- A layout describes a template that is written so, if fresh detectors see its
markers and no others. -/
structure Describes (l : Layout) (r : Recognizer) (t : Text) : Prop where
  written : l.text r.markers = t
  ends : ∀ c ∈ l.cuts, r.Ends c
  quiet : r.hits l.tail = []

theorem rejoin_cuts (r : Recognizer) (gs : List Region) (tail : Text) :
    r.rejoin (gs.flatMap Region.cuts) tail = gs.flatMap (Region.text r.markers) ++ tail := by
  induction gs with
  | nil => rfl
  | cons g gs ih =>
    simp [Region.cuts, Recognizer.rejoin, ih, Region.text, Recognizer.word]

/-- The cuts of a layout are those of the template that it describes. -/
theorem describes_iff {r : Recognizer} (hr : r.Faithful) {l : Layout} {t : Text} :
    l.Describes r t ↔ r.cut t = ⟨l.cuts, l.tail⟩ := by
  rw [hr.cut_eq_iff]
  constructor
  · intro hl
    obtain ⟨hwritten, hends, hquiet⟩ := hl
    exact ⟨(rejoin_cuts r l.regions l.tail).trans hwritten, hends, hquiet⟩
  · intro hcut
    obtain ⟨hwhole, hends, hquiet⟩ := hcut
    exact ⟨(rejoin_cuts r l.regions l.tail).symm.trans hwhole, hends, hquiet⟩

theorem regions_inj : ∀ {gs gs' : List Region}, gs.flatMap Region.cuts = gs'.flatMap Region.cuts →
    gs = gs'
  | [], [], _ => rfl
  | [], g :: gs, h => by simp [Region.cuts] at h
  | g :: gs, [], h => by simp [Region.cuts] at h
  | ⟨lead, kind, body⟩ :: gs, ⟨lead', kind', body'⟩ :: gs', h => by
    simp only [List.flatMap_cons, Region.cuts, List.cons_append, List.nil_append, List.cons.injEq,
      Cut.mk.injEq] at h
    obtain ⟨⟨rfl, hkind⟩, ⟨rfl, -⟩, hrest⟩ := h
    rw [RegionKind.opener_inj hkind, regions_inj hrest]

theorem Describes.unique {r : Recognizer} (hr : r.Faithful) {l l' : Layout} {t : Text}
    (h : l.Describes r t) (h' : l'.Describes r t) : l = l' := by
  have heq := ((describes_iff hr).mp h).symm.trans ((describes_iff hr).mp h')
  rw [Division.mk.injEq] at heq
  obtain ⟨gs, tail⟩ := l
  obtain ⟨gs', tail'⟩ := l'
  rw [show gs = gs' from regions_inj heq.1, show tail = tail' from heq.2]

/-! ## Following a layout through the modes -/

theorem follow_cuts (s : Slicer) (tail : Text) (gs : List Region) : ∀ before mark,
    s.follow .text before mark (gs.flatMap Region.cuts) tail =
      .ok (gs.flatMap Region.slices ++ [.ofText tail]) := by
  induction gs with
  | nil => intro before mark; rfl
  | cons g gs ih =>
    intro before mark
    have hopen := RegionKind.after_text_eq_some_iff.mpr ⟨g.kind, rfl, rfl⟩
    have hclose := g.kind.after_mode_eq_some_iff.mpr ⟨rfl, rfl⟩
    simp only [List.flatMap_cons, Region.cuts, Region.slices, List.cons_append, List.nil_append,
      Slicer.follow, hopen, hclose, ih]
    rfl

/-- Markers that are all in place come from a layout: they open and close by
turns, so the cuts are taken two at a time. -/
theorem exists_regions_of_follow (s : Slicer) (tail : Text) : ∀ (cs : List Cut)
    {before : List Text} {mark : Text} {ss : List Slice},
    s.follow .text before mark cs tail = .ok ss → ∃ gs : List Region, gs.flatMap Region.cuts = cs
  | [], _, _, _, _ => ⟨[], rfl⟩
  | [c], _, _, _, h => by
    -- A region that is opened last is never closed.
    simp only [Slicer.follow] at h
    split at h
    · cases h
    · next next hopen =>
      obtain ⟨k, -, rfl⟩ := RegionKind.after_text_eq_some_iff.mp hopen
      rw [if_neg k.mode_ne_text] at h
      cases h
  | c :: c' :: cs, before, mark, ss, h => by
    simp only [Slicer.follow] at h
    split at h
    · cases h
    · next next hopen =>
      obtain ⟨k, hc, rfl⟩ := RegionKind.after_text_eq_some_iff.mp hopen
      split at h
      · next rest hrest =>
        split at hrest
        · cases hrest
        · next next' hclose =>
          obtain ⟨hc', rfl⟩ := k.after_mode_eq_some_iff.mp hclose
          split at hrest
          · next rest' hrest' =>
            -- Behind a closed region the mode is text again.
            obtain ⟨gs, rfl⟩ := exists_regions_of_follow s tail cs hrest'
            exact ⟨⟨c.raw, k, c'.raw⟩ :: gs, by simp [Region.cuts, ← hc, ← hc']⟩
          · cases hrest
      · cases h

/-- Slicing succeeds with the slices of a layout that describes the template. -/
theorem slice_eq_ok_iff {s : Slicer} (hr : s.recognizer.Faithful) {t : Text} {ss : List Slice} :
    s.slice t = .ok ss ↔ ∃ l : Layout, l.Describes s.recognizer t ∧ l.slices = ss := by
  constructor
  · intro h
    obtain ⟨gs, hgs⟩ := exists_regions_of_follow s _ _ h
    refine ⟨⟨gs, (s.recognizer.cut t).tail⟩, (describes_iff hr).mpr ?_, ?_⟩
    · rw [cuts, hgs]
    · have hok := follow_cuts s (s.recognizer.cut t).tail gs [] []
      rw [hgs] at hok
      exact Except.ok.inj (hok.symm.trans h)
  · intro hlayout
    obtain ⟨l, hl, rfl⟩ := hlayout
    simp only [Slicer.slice, (describes_iff hr).mp hl]
    exact follow_cuts s l.tail l.regions [] []

/-! ## Texts and regions by turns -/

theorem length_slices (l : Layout) : l.slices.length = 2 * l.regions.length + 1 := by
  obtain ⟨gs, tail⟩ := l
  induction gs with
  | nil => rfl
  | cons g gs ih =>
    simp only [slices, List.length_append, List.length_flatMap, List.map_cons, List.sum_cons,
      Region.slices, List.length_cons, List.length_nil] at ih ⊢
    omega

/-- At an even place stands a text, at an odd place what a region holds. -/
theorem slices_getElem? (tail : Text) (gs : List Region) : ∀ i : Nat,
    (Layout.slices ⟨gs, tail⟩)[2 * i]? =
      ((gs.map Region.lead ++ [tail])[i]?).map Slice.ofText ∧
    (Layout.slices ⟨gs, tail⟩)[2 * i + 1]? = (gs[i]?).map fun g => g.kind.mode.slice g.body := by
  induction gs with
  | nil =>
    intro i
    cases i with
    | zero => exact ⟨rfl, rfl⟩
    | succ i =>
      have htwo : 2 * (i + 1) = 2 * i + 1 + 1 := by omega
      constructor <;> simp [slices, htwo]
  | cons g gs ih =>
    intro i
    have hcons : Layout.slices ⟨g :: gs, tail⟩ =
        .ofText g.lead :: g.kind.mode.slice g.body :: Layout.slices ⟨gs, tail⟩ := rfl
    rw [hcons]
    cases i with
    | zero => exact ⟨rfl, rfl⟩
    | succ i =>
      have htwo : 2 * (i + 1) = 2 * i + 1 + 1 := by omega
      rw [htwo]
      exact ih i

end Layout

/-- A template is sliced exactly when a layout describes it. The layout is the
only one; its pieces and words make up the template, and its pieces are the
slices, texts at even places and regions at odd ones. -/
theorem slice_ok_iff_layout {ms : MarkerSet} {r : Recognizer} (h : Recognizer.build ms = .ok r)
    (width : Nat) (t : Text) :
    ((∃ ss, Slicer.slice ⟨r, width⟩ t = .ok ss) ↔ ∃ l : Layout, l.Describes r t) ∧
    ∀ l : Layout, l.Describes r t →
      l.text ms = t ∧
      (∀ l' : Layout, l'.Describes r t → l' = l) ∧
      Slicer.slice ⟨r, width⟩ t = .ok l.slices ∧
      l.slices.length = 2 * l.regions.length + 1 ∧
      (∀ i : Nat, l.slices[2 * i]? =
        ((l.regions.map Region.lead ++ [l.tail])[i]?).map Slice.ofText) ∧
      (∀ i : Nat, l.slices[2 * i + 1]? =
        (l.regions[i]?).map fun g => g.kind.mode.slice g.body) := by
  obtain ⟨rfl, hr⟩ := Recognizer.build_faithful h
  have hiff : ∀ ss, Slicer.slice ⟨r, width⟩ t = .ok ss ↔
      ∃ l : Layout, l.Describes r t ∧ l.slices = ss := by
    intro ss
    exact Layout.slice_eq_ok_iff (s := ⟨r, width⟩) hr
  refine ⟨⟨?_, ?_⟩, ?_⟩
  · intro hok
    obtain ⟨ss, hss⟩ := hok
    obtain ⟨l, hl, -⟩ := (hiff ss).mp hss
    exact ⟨l, hl⟩
  · intro hlayout
    obtain ⟨l, hl⟩ := hlayout
    exact ⟨l.slices, (hiff _).mpr ⟨l, hl, rfl⟩⟩
  · intro l hl
    refine ⟨hl.written, ?_, (hiff _).mpr ⟨l, hl, rfl⟩, l.length_slices, ?_, ?_⟩
    · intro l' hl'
      exact hl'.unique hr hl
    · intro i
      exact (Layout.slices_getElem? l.tail l.regions i).1
    · intro i
      exact (Layout.slices_getElem? l.tail l.regions i).2

/-- The template `a[[!b!][>c<]`: the partial word `[` stays in the text, and the
text between the regions is empty. -/
theorem slice_ok_adjacent :
    ∃ r, Recognizer.build .standard = .ok r ∧
      Slicer.slice ⟨r, 5⟩ ['a', '[', '[', '!', 'b', '!', ']', '[', '>', 'c', '<', ']'] =
        .ok [.text ['a', '['], .code ['b'], .text [], .output ['c'], .text []] ∧
      Layout.Describes ⟨[⟨['a', '['], .code, ['b']⟩, ⟨[], .output, ['c']⟩], []⟩ r
        ['a', '[', '[', '!', 'b', '!', ']', '[', '>', 'c', '<', ']'] := by
  obtain ⟨r, hr, hdescribes⟩ : ∃ r, Recognizer.build .standard = .ok r ∧
      Layout.Describes ⟨[⟨['a', '['], .code, ['b']⟩, ⟨[], .output, ['c']⟩], []⟩ r
        ['a', '[', '[', '!', 'b', '!', ']', '[', '>', 'c', '<', ']'] :=
    ⟨_, rfl, by decide, by unfold Recognizer.Ends; decide, by decide⟩
  obtain ⟨-, hlayout⟩ := slice_ok_iff_layout hr 5
    ['a', '[', '[', '!', 'b', '!', ']', '[', '>', 'c', '<', ']']
  obtain ⟨-, -, hslice, -⟩ := hlayout _ hdescribes
  exact ⟨r, hr, hslice, hdescribes⟩

end ScriptedTemplate
