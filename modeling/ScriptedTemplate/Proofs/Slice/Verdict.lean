import ScriptedTemplate.Slice.Slicer
import ScriptedTemplate.Proofs.Marker.Division

/-
  Verdicts — which marker a failed slicing is about, and what it shows

  The markers that the detector sees in a template are followed through the modes.
  The first one without a place there is reported, whatever stands behind it; if
  all have a place and the last mode is not text, the region that the last marker
  opened is. The report quotes the marker with the characters on both sides of it.

  What is proved: `slice_verdict` — which of the three a template meets is decided
  by what the detector sees in it; a report names the marker seen there and quotes
  it where it stands. The number of characters shown decides neither.
-/

namespace ScriptedTemplate

/-- The mode to which markers lead from a mode, if all of them have a place. -/
def Mode.through (q : Mode) (ms : List Marker) : Option Mode := ms.foldlM Mode.after q

/-- `quote` shows a word that stands between two texts: the last characters of
the one, the word, and the first characters of the other, `width` on each side or
all there are. A side without characters is left out with its arrow. -/
def Quotes (width : Nat) (before word behind quote : Text) : Prop :=
  ∃ lead trail : Text,
    (lead <:+ before ∧ lead.length = min width before.length) ∧
    (trail <+: behind ∧ trail.length = min width behind.length) ∧
    quote = (if lead = [] then [] else lead ++ " >>> ".toList) ++ word ++
      (if trail = [] then [] else " <<< ".toList ++ trail)

theorem Context.quotes_around (width : Nat) (before word behind : Text) :
    Quotes width before word behind (Context.around width before word behind).display := by
  refine ⟨before.last width, behind.first width, ⟨List.drop_suffix _ _, ?_⟩,
    ⟨List.take_prefix _ _, List.length_take⟩, rfl⟩
  rw [Text.last, List.length_drop]
  omega

/-! ## Markers through the modes -/

namespace Mode

@[simp] theorem through_nil (q : Mode) : q.through [] = some q := rfl

@[simp] theorem through_cons (q : Mode) (m : Marker) (ms : List Marker) :
    q.through (m :: ms) = (q.after m).bind (·.through ms) := rfl

theorem through_append (q : Mode) (ms ms' : List Marker) :
    q.through (ms ++ ms') = (q.through ms).bind (·.through ms') := List.foldlM_append

theorem opens_of_after {q q' : Mode} {m : Marker} (h : q.after m = some q') (hq : q' ≠ .text) :
    m = .codeBegin ∨ m = .outputBegin := by
  cases q <;> cases m <;> cases h <;> first | exact .inl rfl | exact .inr rfl | exact absurd rfl hq

end Mode

namespace Recognizer

open Trie (root)

variable {r : Recognizer}

/-! ## What is seen in a divided text -/

/-- The markers of cuts, each with the place of its last character; `n` is the
place where the first piece begins. -/
def places (r : Recognizer) (n : Nat) : List Cut → List (Nat × Marker)
  | [] => []
  | c :: cs =>
    let stop := n + (c.raw ++ r.word c.marker).length
    (stop - 1, c.marker) :: r.places stop cs

theorem map_snd_places (r : Recognizer) (cs : List Cut) : ∀ n : Nat,
    (r.places n cs).map Prod.snd = cs.map Cut.marker := by
  induction cs with
  | nil => intro n; rfl
  | cons c cs ih => intro n; exact congrArg _ (ih _)

theorem rejoin_append (r : Recognizer) (cs cs' : List Cut) (tail : Text) :
    r.rejoin (cs ++ cs') tail = r.rejoin cs [] ++ r.rejoin cs' tail := by
  induction cs with
  | nil => rfl
  | cons c cs ih => simp [rejoin, ih]

theorem places_append (r : Recognizer) (cs cs' : List Cut) : ∀ n : Nat,
    r.places n (cs ++ cs') = r.places n cs ++ r.places (n + (r.rejoin cs []).length) cs' := by
  induction cs with
  | nil => intro n; rfl
  | cons c cs ih =>
    intro n
    simp only [List.cons_append, places, rejoin, ih, List.length_append, Nat.add_assoc]

/-- In a divided text the markers of its cuts are seen, where they end. The
induction is on the cuts; behind each one detection begins anew. -/
theorem Faithful.hits_rejoin (hr : r.Faithful) {tail : Text} (hquiet : r.hits tail = []) :
    ∀ {cs : List Cut}, (∀ c ∈ cs, r.Ends c) → ∀ n : Nat,
      r.hitsFrom root n (r.rejoin cs tail) = r.places n cs
  | [], _, n => by
    have hshift := r.hitsFrom_add n tail root 0
    rw [Nat.add_zero, ← hits, hquiet] at hshift
    exact hshift
  | c :: cs, hends, n => by
    have hc := hends c List.mem_cons_self
    have hrest := hr.hits_rejoin hquiet (fun c' h => hends c' (List.mem_cons_of_mem _ h))
      (n + (c.raw ++ r.word c.marker).length)
    have hne : 0 < (r.word c.marker).length :=
      List.length_pos_iff.mpr (hr.legal.nonempty c.marker)
    have hpiece := r.hitsFrom_add n (c.raw ++ r.word c.marker) root 0
    rw [Nat.add_zero, ← hits, hc] at hpiece
    have hstop : n + ((c.raw ++ r.word c.marker).length - 1) =
        n + (c.raw ++ r.word c.marker).length - 1 := by
      rw [List.length_append]
      omega
    rw [rejoin, hitsFrom_append, hitsFrom_congr (hr.feed_after_ends hc), hrest, hpiece, places,
      List.map_singleton, hstop]
    rfl

theorem Faithful.hits_eq_places (hr : r.Faithful) (t : Text) :
    r.hits t = r.places 0 (r.cut t).cuts := by
  obtain ⟨hwhole, hends, hquiet⟩ := hr.cut_eq_iff.mp (rfl : r.cut t = _)
  calc r.hits t = r.hits (r.rejoin (r.cut t).cuts (r.cut t).tail) := by rw [hwhole]
    _ = r.places 0 (r.cut t).cuts := hr.hits_rejoin hquiet hends 0

theorem Faithful.split_of_cuts (hr : r.Faithful) {t : Text} {cs cs' : List Cut} {c : Cut}
    (h : (r.cut t).cuts = cs ++ c :: cs') :
    t = r.rejoin cs [] ++ c.raw ++ r.word c.marker ++ r.rejoin cs' (r.cut t).tail := by
  obtain ⟨hwhole, -, -⟩ := hr.cut_eq_iff.mp (rfl : r.cut t = _)
  rw [h, rejoin_append, rejoin] at hwhole
  simpa using hwhole.symm

/-- A cut of a text: where its marker is seen, and what stands around it. -/
theorem Faithful.place_of_cut (hr : r.Faithful) {t : Text} {cs cs' : List Cut} {c : Cut}
    (h : (r.cut t).cuts = cs ++ c :: cs') :
    ∃ (pre post : List (Nat × Marker)) (i : Nat),
      r.hits t = pre ++ (i, c.marker) :: post ∧
      pre.map Prod.snd = cs.map Cut.marker ∧ post.map Prod.snd = cs'.map Cut.marker ∧
      t = r.rejoin cs [] ++ c.raw ++ r.word c.marker ++ r.rejoin cs' (r.cut t).tail ∧
      i + 1 = (r.rejoin cs [] ++ c.raw).length + (r.word c.marker).length := by
  have hne : 0 < (r.word c.marker).length :=
    List.length_pos_iff.mpr (hr.legal.nonempty c.marker)
  have hsplit := hr.split_of_cuts h
  rw [hr.hits_eq_places, h, places_append]
  refine ⟨_, _, _, rfl, map_snd_places .., map_snd_places .., hsplit, ?_⟩
  show 0 + _ + _ - 1 + 1 = _
  simp only [List.length_append]
  omega

end Recognizer

/-! ## Following the cuts -/

namespace Slicer

variable {s : Slicer}

theorem textOf_cons_cons (before : List Text) (mark raw : Text) :
    textOf (raw :: mark :: before) = textOf before ++ mark ++ raw := by
  simp [textOf]

/-- Cuts that are in place are followed to the mode they lead to, and what has
been read grows by them; the rest decides the outcome. -/
theorem follow_append (s : Slicer) {q' : Mode} (cs : List Cut) : ∀ {q : Mode}
    (before : List Text) (mark : Text), q.through (cs.map Cut.marker) = some q' →
      ∃ (before' : List Text) (mark' : Text) (ss : List Slice),
        textOf before' ++ mark' = textOf before ++ mark ++ s.recognizer.rejoin cs [] ∧
        ∀ cs' tail, s.follow q before mark (cs ++ cs') tail =
          (s.follow q' before' mark' cs' tail).map (ss ++ ·) := by
  induction cs with
  | nil =>
    intro q before mark hthrough
    cases hthrough
    refine ⟨before, mark, [], by simp [Recognizer.rejoin], ?_⟩
    intro cs' tail
    rw [List.nil_append]
    cases s.follow q' before mark cs' tail <;> rfl
  | cons c cs ih =>
    intro q before mark hthrough
    rw [List.map_cons, Mode.through_cons, Option.bind_eq_some_iff] at hthrough
    obtain ⟨next, hnext, hthrough⟩ := hthrough
    obtain ⟨before', mark', ss, hread, hfollow⟩ :=
      ih (c.raw :: mark :: before) (s.recognizer.word c.marker) hthrough
    refine ⟨before', mark', q.slice c.raw :: ss, ?_, ?_⟩
    · rw [hread, textOf_cons_cons]
      simp [Recognizer.rejoin]
    · intro cs' tail
      simp only [List.cons_append, follow, hnext, hfollow]
      cases s.follow q' before' mark' cs' tail <;> rfl

theorem follow_unexpected {q q' : Mode} {cs : List Cut} {c : Cut}
    (hthrough : q.through (cs.map Cut.marker) = some q') (hc : q'.after c.marker = none)
    (cs' : List Cut) (tail : Text) :
    s.follow q [] [] (cs ++ c :: cs') tail =
      .error (.unexpected (.around s.width (s.recognizer.rejoin cs [] ++ c.raw)
        (s.recognizer.word c.marker) (s.recognizer.rejoin cs' tail))) := by
  obtain ⟨before, mark, ss, hread, hfollow⟩ := s.follow_append cs [] [] hthrough
  rw [hfollow, follow]
  simp only [hc, textOf_cons_cons, hread]
  rfl

theorem follow_unclosed {q q' next : Mode} {cs : List Cut} {c : Cut}
    (hthrough : q.through (cs.map Cut.marker) = some q') (hc : q'.after c.marker = some next)
    (hopen : next ≠ .text) (tail : Text) :
    s.follow q [] [] (cs ++ [c]) tail =
      .error (.unclosed (.around s.width (s.recognizer.rejoin cs [] ++ c.raw)
        (s.recognizer.word c.marker) tail)) := by
  obtain ⟨before, mark, ss, hread, hfollow⟩ := s.follow_append cs [] [] hthrough
  rw [hfollow, follow]
  simp only [hc, follow, if_neg hopen, textOf_cons_cons, hread]
  rfl

theorem follow_ok {q : Mode} {cs : List Cut} (hthrough : q.through (cs.map Cut.marker) = some .text)
    (tail : Text) : ∃ ss, s.follow q [] [] cs tail = .ok ss := by
  obtain ⟨before, mark, ss, -, hfollow⟩ := s.follow_append cs [] [] hthrough
  have hwhole := hfollow [] tail
  rw [List.append_nil] at hwhole
  exact ⟨_, hwhole⟩

theorem exists_misplaced : ∀ {q : Mode} {cs : List Cut}, q.through (cs.map Cut.marker) = none →
    ∃ cs₁ c cs₂ q', cs = cs₁ ++ c :: cs₂ ∧ q.through (cs₁.map Cut.marker) = some q' ∧
      q'.after c.marker = none
  | q, [], h => by cases h
  | q, c :: cs, h => by
    cases hc : q.after c.marker with
    | none => exact ⟨[], c, cs, q, rfl, rfl, hc⟩
    | some next =>
      rw [List.map_cons, Mode.through_cons, hc] at h
      obtain ⟨cs₁, c', cs₂, q', rfl, hthrough, hmisplaced⟩ := exists_misplaced (q := next) h
      refine ⟨c :: cs₁, c', cs₂, q', rfl, ?_, hmisplaced⟩
      rw [List.map_cons, Mode.through_cons, hc]
      exact hthrough

/-- Slicing that fails is at fault at one cut: the first without a place, or the last
one, which opens a region. -/
theorem exists_fault {cs : List Cut} {tail : Text} {e : SliceError}
    (h : s.follow .text [] [] cs tail = .error e) :
    ∃ cs₁ c cs₂ q, cs = cs₁ ++ c :: cs₂ ∧ Mode.through .text (cs₁.map Cut.marker) = some q ∧
      (q.after c.marker = none ∨
        cs₂ = [] ∧ ∃ next, q.after c.marker = some next ∧ next ≠ .text) := by
  cases hthrough : Mode.through .text (cs.map Cut.marker) with
  | none =>
    obtain ⟨cs₁, c, cs₂, q, hcs, hq, hmisplaced⟩ := exists_misplaced hthrough
    exact ⟨cs₁, c, cs₂, q, hcs, hq, .inl hmisplaced⟩
  | some next =>
    have hopen : next ≠ .text := by
      rintro rfl
      obtain ⟨ss, hss⟩ := follow_ok (s := s) hthrough tail
      rw [hss] at h
      cases h
    rcases List.eq_nil_or_concat cs with rfl | ⟨cs₁, c, rfl⟩
    · cases hthrough
      exact absurd rfl hopen
    · rw [List.concat_eq_append, List.map_append, Mode.through_append,
        Option.bind_eq_some_iff] at hthrough
      obtain ⟨q, hq, hlast⟩ := hthrough
      have hafter : q.after c.marker = some next := by simpa using hlast
      exact ⟨cs₁, c, [], q, List.concat_eq_append, hq, .inr ⟨rfl, next, hafter, hopen⟩⟩

/-- Cuts that are refused are refused for a reason, at one of them. Other cuts are
refused likewise at this marker, if those before it lead to the same mode and it is the
last of them or not the last as here. -/
theorem exists_refusal {cs : List Cut} {tail : Text} {e : SliceError}
    (h : s.follow .text [] [] cs tail = .error e) :
    ∃ kind cs₁ c cs₂, (kind = SliceError.unexpected ∨ kind = SliceError.unclosed) ∧
      cs = cs₁ ++ c :: cs₂ ∧
      ∀ {cs₁' c' cs₂' tail'},
        Mode.through .text (cs₁'.map Cut.marker) = Mode.through .text (cs₁.map Cut.marker) →
        c'.marker = c.marker → (cs₂' = [] ↔ cs₂ = []) →
        s.follow .text [] [] (cs₁' ++ c' :: cs₂') tail' =
          .error (kind (.around s.width (s.recognizer.rejoin cs₁' [] ++ c'.raw)
            (s.recognizer.word c.marker) (s.recognizer.rejoin cs₂' tail'))) := by
  obtain ⟨cs₁, c, cs₂, q, hcs, hq, hfault⟩ := exists_fault h
  rcases hfault with hmisplaced | ⟨hlast, next, hafter, hopen⟩
  · refine ⟨.unexpected, cs₁, c, cs₂, .inl rfl, hcs, ?_⟩
    intro cs₁' c' cs₂' tail' hmarkers hmarker _
    rw [← hmarkers] at hq
    rw [← hmarker] at hmisplaced ⊢
    exact follow_unexpected hq hmisplaced cs₂' tail'
  · refine ⟨.unclosed, cs₁, c, cs₂, .inr rfl, hcs, ?_⟩
    intro cs₁' c' cs₂' tail' hmarkers hmarker hend
    obtain rfl := hend.mpr hlast
    rw [← hmarkers] at hq
    rw [← hmarker] at hafter ⊢
    exact follow_unclosed hq hafter hopen tail'

end Slicer

/-- The markers seen in a template decide how slicing ends. If one has no place in
the mode that those before it lead to, the first such marker is reported as
unexpected. If all have a place but do not lead back to text, the last one opens a
region and is reported as not closed. Otherwise there are slices. What is reported
is quoted where it is seen, and the width of the quote changes nothing else. -/
theorem slice_verdict {ms : MarkerSet} {r : Recognizer} (h : Recognizer.build ms = .ok r)
    (t : Text) :
    (Mode.through .text ((r.hits t).map Prod.snd) = none →
      ∃ pre i m post q before behind,
        r.hits t = pre ++ (i, m) :: post ∧
        Mode.through .text (pre.map Prod.snd) = some q ∧ q.after m = none ∧
        t = before ++ ms.word m ++ behind ∧ i + 1 = before.length + (ms.word m).length ∧
        ∀ width, ∃ c quote, Slicer.slice ⟨r, width⟩ t = .error (.unexpected c) ∧
          Quotes width before (ms.word m) behind quote ∧
          (SliceError.unexpected c).message =
            "Unexpected \"" ++ String.ofList (ms.word m) ++ "\" marker: \"" ++
              String.ofList quote ++ "\"") ∧
    (∀ q, Mode.through .text ((r.hits t).map Prod.snd) = some q → q ≠ .text →
      ∃ pre i m before behind,
        r.hits t = pre ++ [(i, m)] ∧ (m = .codeBegin ∨ m = .outputBegin) ∧
        t = before ++ ms.word m ++ behind ∧ i + 1 = before.length + (ms.word m).length ∧
        ∀ width, ∃ c quote, Slicer.slice ⟨r, width⟩ t = .error (.unclosed c) ∧
          Quotes width before (ms.word m) behind quote ∧
          (SliceError.unclosed c).message =
            "Marker not closed: \"" ++ String.ofList quote ++ "\"") ∧
    (Mode.through .text ((r.hits t).map Prod.snd) = some .text →
      ∀ width, ∃ ss, Slicer.slice ⟨r, width⟩ t = .ok ss) := by
  obtain ⟨rfl, hr⟩ := Recognizer.build_faithful h
  have hmarkers : (r.hits t).map Prod.snd = (r.cut t).cuts.map Cut.marker := by
    rw [hr.hits_eq_places, Recognizer.map_snd_places]
  rw [hmarkers]
  refine ⟨?_, ?_, ?_⟩
  · intro hnone
    obtain ⟨cs, c, cs', q, hcuts, hthrough, hmisplaced⟩ := Slicer.exists_misplaced hnone
    obtain ⟨pre, post, i, hhits, hpre, -, ht, hi⟩ := hr.place_of_cut hcuts
    rw [← hpre] at hthrough
    refine ⟨pre, i, c.marker, post, q, _, _, hhits, hthrough, hmisplaced, ht, hi, ?_⟩
    intro width
    rw [hpre] at hthrough
    refine ⟨.around width _ _ _, _, ?_, Context.quotes_around width _ _ _, rfl⟩
    rw [Slicer.slice, hcuts]
    exact Slicer.follow_unexpected (s := ⟨r, width⟩) hthrough hmisplaced cs' _
  · intro q hsome hopen
    -- Without a marker the mode would be text still.
    obtain hnil | ⟨cs, c, hcuts⟩ : (r.cut t).cuts = [] ∨ ∃ cs c, (r.cut t).cuts = cs ++ [c] := by
      rcases List.eq_nil_or_concat (r.cut t).cuts with hnil | ⟨cs, c, hcuts⟩
      · exact .inl hnil
      · exact .inr ⟨cs, c, by rw [hcuts, List.concat_eq_append]⟩
    · rw [hnil] at hsome
      cases hsome
      exact absurd rfl hopen
    · rw [hcuts, List.map_append, Mode.through_append, Option.bind_eq_some_iff] at hsome
      obtain ⟨q', hthrough, hlast⟩ := hsome
      have hafter : q'.after c.marker = some q := by simpa using hlast
      obtain ⟨pre, post, i, hhits, -, hpost, ht, hi⟩ := hr.place_of_cut hcuts
      obtain rfl : post = [] := List.map_eq_nil_iff.mp hpost
      refine ⟨pre, i, c.marker, _, _, hhits, Mode.opens_of_after hafter hopen, ht, hi, ?_⟩
      intro width
      refine ⟨.around width _ _ _, _, ?_, Context.quotes_around width _ _ _, rfl⟩
      rw [Slicer.slice, hcuts]
      exact Slicer.follow_unclosed (s := ⟨r, width⟩) hthrough hafter hopen _
  · intro htext width
    exact Slicer.follow_ok (s := ⟨r, width⟩) htext _

/-- The template `é[!x[>y!]`: a region is opened inside another one. It is reported
at every width, 0 included, and the closing marker behind it is not looked at. -/
theorem slice_verdict_region_in_region :
    ∃ r, Recognizer.build .standard = .ok r ∧
      Mode.through .text ((r.hits ['é', '[', '!', 'x', '[', '>', 'y', '!', ']']).map Prod.snd) =
        none ∧
      ∀ width, ∃ c quote,
        Slicer.slice ⟨r, width⟩ ['é', '[', '!', 'x', '[', '>', 'y', '!', ']'] =
          .error (.unexpected c) ∧
        Quotes width ['é', '[', '!', 'x'] ['[', '>'] ['y', '!', ']'] quote := by
  obtain ⟨r, hr, hhits, hnone⟩ : ∃ r, Recognizer.build .standard = .ok r ∧
      r.hits ['é', '[', '!', 'x', '[', '>', 'y', '!', ']'] =
        [(2, .codeBegin), (5, .outputBegin), (8, .codeEnd)] ∧
      Mode.through .text ((r.hits ['é', '[', '!', 'x', '[', '>', 'y', '!', ']']).map Prod.snd) =
        none := ⟨_, rfl, by decide, by decide⟩
  obtain ⟨hunexpected, -, -⟩ :=
    slice_verdict hr ['é', '[', '!', 'x', '[', '>', 'y', '!', ']']
  obtain ⟨pre, i, m, post, q, before, behind, hpre, hthrough, hmisplaced, ht, hi, hquote⟩ :=
    hunexpected hnone
  refine ⟨r, hr, hnone, ?_⟩
  intro width
  obtain ⟨c, quote, hslice, hquotes, -⟩ := hquote width
  refine ⟨c, quote, hslice, ?_⟩
  rw [hhits] at hpre
  -- The first marker has its place and the second has not.
  match pre, hpre with
  | [], hpre =>
    cases hpre
    cases hthrough
    cases hmisplaced
  | [_], hpre =>
    cases hpre
    have happ : ['é', '[', '!', 'x'] ++ ['[', '>', 'y', '!', ']'] =
        before ++ (['[', '>'] ++ behind) := by
      rw [← List.append_assoc]
      exact ht
    have hlen : 4 = before.length := Nat.add_right_cancel (m := 2) hi
    obtain ⟨rfl, hrest⟩ := List.append_inj happ hlen
    cases hrest
    exact hquotes
  | [_, _], hpre =>
    cases hpre
    cases hthrough
  | _ :: _ :: _ :: _, hpre => simp at hpre

end ScriptedTemplate
