import ScriptedTemplate.Proofs.Generator.Splicing
import ScriptedTemplate.Proofs.Slice.Verdict

/-
  Line ends — a template with LF, and the same template with CR LF

  A template is written once with LF at its line ends and once with CR LF. No marker
  holds a character of a line end, so at either kind the detector goes back to the
  root: the second template is divided as the first, each piece with its returns, and
  no CR is parted from its LF. Escaping a text and flattening code forget the
  difference; an output region keeps it.

  What is proved: `compile_withReturns` — where no output region holds a line end,
  both templates have the same program, trimmed or not; where the first cannot be
  sliced, the second cannot either, for the same reason and at the same marker.
-/

namespace ScriptedTemplate

namespace Text

/-- The text with every LF turned into CR LF. -/
def withReturns (t : Text) : Text := t.flatMap fun c => if c = '\n' then ['\r', '\n'] else [c]

theorem withReturns_lineFeed (t : Text) :
    withReturns ('\n' :: t) = '\r' :: '\n' :: withReturns t := rfl

theorem withReturns_cons {c : Char} (hc : c ≠ '\n') (t : Text) :
    withReturns (c :: t) = c :: withReturns t := by
  simp [withReturns, hc]

theorem withReturns_append (t u : Text) :
    withReturns (t ++ u) = withReturns t ++ withReturns u := List.flatMap_append

theorem withReturns_eq_self {t : Text} (h : '\n' ∉ t) : withReturns t = t := by
  induction t with
  | nil => rfl
  | cons c t ih =>
    obtain ⟨hc, ht⟩ := List.ne_and_not_mem_of_not_mem_cons h
    rw [withReturns_cons (Ne.symm hc), ih ht]

end Text

open Text (withReturns withReturns_lineFeed withReturns_cons withReturns_append
  withReturns_eq_self)

/-- No marker holds a carriage return or a line feed. -/
def MarkerSet.IsUnbroken (ms : MarkerSet) : Prop := ∀ m, '\r' ∉ ms.word m ∧ '\n' ∉ ms.word m

/-- The piece with returns, and the marker that ends it. -/
def Cut.withReturns (c : Cut) : Cut := ⟨c.raw.withReturns, c.marker⟩

/-! ## Payloads -/

namespace Slice

theorem escape_withReturns {t : Text} (ht : '\r' ∉ t) : escape (withReturns t) = escape t := by
  induction t using escape.induct with
  | case1 => rfl
  | case2 t ih =>
    rw [withReturns_cons (by decide), escape, escape, ih (List.not_mem_of_not_mem_cons ht)]
  | case3 t ih =>
    rw [withReturns_cons (by decide), escape, escape, ih (List.not_mem_of_not_mem_cons ht)]
  | case4 t ih =>
    rw [withReturns_lineFeed, escape, escape, escape, ih (List.not_mem_of_not_mem_cons ht)]
  | case5 t ih => exact absurd List.mem_cons_self ht
  | case6 c t hb hq hn hr ih =>
    obtain ⟨hc, ht⟩ := List.ne_and_not_mem_of_not_mem_cons ht
    have hreturn : ∀ {t : Text} u, c = '\r' → t ≠ '\n' :: u := fun u h => absurd h.symm hc
    rw [withReturns_cons hn, escape_plain hb hq hn hreturn, escape_plain hb hq hn hreturn, ih ht]

theorem flatten_plain {c : Char} (hr : c ≠ '\r') (hn : c ≠ '\n') (t : Text) :
    flatten (c :: t) = c :: flatten t := by
  rw [flatten]
  · intro u hc
    exact absurd hc hr
  · exact hn

theorem flatten_withReturns {t : Text} (ht : '\r' ∉ t) : flatten (withReturns t) = flatten t := by
  induction t using flatten.induct with
  | case1 => rfl
  | case2 t ih => exact absurd List.mem_cons_self ht
  | case3 t ih =>
    rw [withReturns_lineFeed, flatten, flatten, ih (List.not_mem_of_not_mem_cons ht)]
  | case4 c t hr hn ih =>
    obtain ⟨hc, ht⟩ := List.ne_and_not_mem_of_not_mem_cons ht
    rw [withReturns_cons hn, flatten_plain hc.symm hn, flatten_plain hc.symm hn, ih ht]

end Slice

theorem Mode.slice_withReturns {q : Mode} {raw : Text} (hr : '\r' ∉ raw)
    (hn : q = .output → '\n' ∉ raw) : q.slice raw.withReturns = q.slice raw := by
  cases q with
  | text => exact congrArg Slice.text (Slice.escape_withReturns hr)
  | code => exact congrArg Slice.code (Slice.flatten_withReturns hr)
  | output => exact congrArg Slice.output (withReturns_eq_self (hn rfl))

/-! ## Detection through line ends -/

namespace Recognizer

open Trie (root)

variable {r : Recognizer}

/-- Where no marker is seen, none is seen with returns either, and the detector ends
at the same node. -/
theorem Faithful.read_withReturns (hr : r.Faithful) (hms : r.markers.IsUnbroken) (t : Text) :
    ∀ {p : Text} {s : Nat}, r.trie.walk root p = some s → ∀ i j, r.hitsFrom s i t = [] →
      r.hitsFrom s j t.withReturns = [] ∧ r.stateFrom s t.withReturns = r.stateFrom s t := by
  have hreturn : ∀ {p s}, r.trie.walk root p = some s → r.feed s '\r' = (root, none) :=
    fun hs => hr.feed_foreign hs fun m => (hms m).1
  have hfeed : ∀ {p s}, r.trie.walk root p = some s → r.feed s '\n' = (root, none) :=
    fun hs => hr.feed_foreign hs fun m => (hms m).2
  induction t with
  | nil => intro p s _ i j _; exact ⟨rfl, rfl⟩
  | cons c t ih =>
    intro p s hs i j hquiet
    by_cases hc : c = '\n'
    · subst hc
      -- Both characters of the line end lead to the root, as the one did.
      have hroot : r.feed root '\n' = (root, none) := hfeed (p := []) rfl
      simp only [hitsFrom, hfeed hs] at hquiet
      simp only [withReturns_lineFeed, hitsFrom, stateFrom, hreturn hs, hroot, hfeed hs]
      exact ih (p := []) rfl _ _ hquiet
    · have hwalk := (hr.feed hs c).1
      simp only [hitsFrom] at hquiet
      simp only [withReturns_cons hc, hitsFrom, stateFrom]
      generalize r.feed s c = f at hquiet hwalk ⊢
      obtain ⟨s', _ | m⟩ := f
      · exact ih hwalk _ _ hquiet
      · cases hquiet

theorem Faithful.quiet_withReturns (hr : r.Faithful) (hms : r.markers.IsUnbroken) {t : Text}
    (ht : r.hits t = []) : r.hits t.withReturns = [] :=
  (hr.read_withReturns hms t (p := []) rfl 0 0 ht).1

theorem Faithful.ends_withReturns (hr : r.Faithful) (hms : r.markers.IsUnbroken) {c : Cut}
    (hc : r.Ends c) : r.Ends c.withReturns := by
  obtain ⟨u, d, hud, hquiet, hsee⟩ := hr.snoc_of_ends hc
  -- The word ends with the last character, which therefore is no line feed.
  have hd : d ∈ r.word c.marker := by
    rcases List.suffix_concat_iff.mp (hr.word_suffix hsee) with hnil | ⟨w, hw, -⟩
    · exact absurd hnil (hr.legal.nonempty c.marker)
    · rw [hw]
      simp
  have hword : '\n' ∉ r.word c.marker := (hms c.marker).2
  have hline : d ≠ '\n' := fun h => hword (h ▸ hd)
  have hwhole : c.raw.withReturns ++ r.word c.marker = u.withReturns ++ [d] := by
    calc c.raw.withReturns ++ r.word c.marker
        = withReturns (c.raw ++ r.word c.marker) := by
          rw [withReturns_append, withReturns_eq_self hword]
      _ = withReturns (u ++ [d]) := by rw [hud]
      _ = u.withReturns ++ [d] := by rw [withReturns_append, withReturns_cons hline]; rfl
  obtain ⟨hquiet', hstate⟩ := hr.read_withReturns hms u (p := []) (s := root) rfl 0 0 hquiet
  have hhits : r.hits (u.withReturns ++ [d]) = [(u.withReturns.length, c.marker)] := by
    rw [hits_snoc, hstate, hsee, hits, hquiet']
    rfl
  show r.hits (c.raw.withReturns ++ r.word c.marker) =
    [((c.raw.withReturns ++ r.word c.marker).length - 1, c.marker)]
  rw [hwhole, hhits]
  simp

theorem rejoin_withReturns (hms : r.markers.IsUnbroken) (cs : List Cut) (tail : Text) :
    r.rejoin (cs.map Cut.withReturns) tail.withReturns = (r.rejoin cs tail).withReturns := by
  induction cs with
  | nil => rfl
  | cons c cs ih =>
    have hword : '\n' ∉ r.word c.marker := (hms c.marker).2
    rw [List.map_cons, rejoin, rejoin, ih, withReturns_append, withReturns_append,
      withReturns_eq_self hword]
    rfl

theorem Faithful.cut_withReturns (hr : r.Faithful) (hms : r.markers.IsUnbroken) (t : Text) :
    r.cut t.withReturns = ⟨(r.cut t).cuts.map Cut.withReturns, (r.cut t).tail.withReturns⟩ := by
  obtain ⟨hwhole, hends, hquiet⟩ := hr.cut_eq_iff.mp (rfl : r.cut t = _)
  refine hr.cut_eq_iff.mpr ⟨?_, ?_, hr.quiet_withReturns hms hquiet⟩
  · rw [rejoin_withReturns hms, hwhole]
  · exact List.forall_mem_map.mpr fun c hc => hr.ends_withReturns hms (hends c hc)

end Recognizer

/-! ## Slicing -/

namespace Slicer

variable {s : Slicer}

/-- Cuts that give slices give the same slices with returns, when no output region
holds a line end. The induction is on the cuts. -/
theorem follow_withReturns {tail : Text} : ∀ {cs : List Cut} {q : Mode} {before : List Text}
    {mark : Text} {ss : List Slice}, s.follow q before mark cs tail = .ok ss →
      '\r' ∉ s.recognizer.rejoin cs tail → (∀ p, Slice.output p ∈ ss → '\n' ∉ p) →
      ∀ (before' : List Text) (mark' : Text),
        s.follow q before' mark' (cs.map Cut.withReturns) tail.withReturns = .ok ss
  | [], q, before, mark, ss, h, hreturn, _ => by
    intro before' mark'
    rw [follow] at h
    split at h
    · next hq =>
      cases h
      have hescape := Slice.escape_withReturns (t := tail) hreturn
      rw [List.map_nil, follow, if_pos hq, Slice.ofText, hescape]
      rfl
    · cases h
  | c :: cs, q, before, mark, ss, h, hreturn, hout => by
    intro before' mark'
    simp only [follow] at h
    split at h
    · cases h
    · next next hnext =>
      split at h
      · next rest hrest =>
        cases h
        simp only [Recognizer.rejoin, List.mem_append, not_or] at hreturn
        obtain ⟨⟨hraw, -⟩, hbehind⟩ := hreturn
        have hslice : q.slice c.raw.withReturns = q.slice c.raw := by
          refine Mode.slice_withReturns hraw ?_
          rintro rfl
          exact hout c.raw List.mem_cons_self
        have hfollow := follow_withReturns hrest hbehind
          (fun p hp => hout p (List.mem_cons_of_mem _ hp))
        simp only [List.map_cons, Cut.withReturns, follow, hnext, hfollow, hslice]
      · cases h

/-- The template with returns has the same slices, when no output region holds a line
end. -/
theorem slice_withReturns (hr : s.recognizer.Faithful) (hms : s.recognizer.markers.IsUnbroken)
    {t : Text} (ht : '\r' ∉ t) {ss : List Slice} (hss : s.slice t = .ok ss)
    (hout : ∀ p, Slice.output p ∈ ss → '\n' ∉ p) : s.slice t.withReturns = .ok ss := by
  obtain ⟨hwhole, -, -⟩ := hr.cut_eq_iff.mp (rfl : s.recognizer.cut t = _)
  rw [slice, hr.cut_withReturns hms]
  rw [← hwhole] at ht
  exact follow_withReturns hss ht hout [] []

/-- When a template cannot be sliced, the one with returns cannot be either: both are
refused for the same reason, at the same marker. -/
theorem refuse_withReturns (hr : s.recognizer.Faithful)
    (hms : s.recognizer.markers.IsUnbroken) {t : Text} {e : SliceError}
    (he : s.slice t = .error e) :
    ∃ kind m before behind, (kind = SliceError.unexpected ∨ kind = SliceError.unclosed) ∧
      t = before ++ s.recognizer.word m ++ behind ∧
      e = kind (.around s.width before (s.recognizer.word m) behind) ∧
      s.slice t.withReturns =
        .error (kind (.around s.width before.withReturns (s.recognizer.word m)
          behind.withReturns)) := by
  obtain ⟨kind, cs₁, c, cs₂, hkind, hcuts, hrefuse⟩ := exists_refusal he
  have hmarkers : (cs₁.map Cut.withReturns).map Cut.marker = cs₁.map Cut.marker := by
    rw [List.map_map]
    rfl
  have hbefore : s.recognizer.rejoin (cs₁.map Cut.withReturns) [] ++ c.raw.withReturns =
      (s.recognizer.rejoin cs₁ [] ++ c.raw).withReturns := by
    rw [withReturns_append, ← Recognizer.rejoin_withReturns hms]
    rfl
  have hmarker : c.withReturns.marker = c.marker := rfl
  refine ⟨kind, c.marker, _, _, hkind, hr.split_of_cuts hcuts, ?_, ?_⟩
  · rw [slice, hcuts, hrefuse rfl rfl Iff.rfl] at he
    exact (Except.error.inj he).symm
  · rw [slice, hr.cut_withReturns hms, hcuts, List.map_append, List.map_cons,
      hrefuse (congrArg _ hmarkers) hmarker List.map_eq_nil_iff,
      Recognizer.rejoin_withReturns hms]
    exact congrArg (fun b => Except.error (kind (.around s.width b _ _))) hbefore

end Slicer

/-- Line ends do not matter to compilation. For markers without line ends and a
template without carriage returns: if the template is sliced and no output region
holds a line feed, it has the same program with CR LF at its line ends, trimmed or
not. If it cannot be sliced, it cannot be with CR LF either, for the same reason and
at the same marker. -/
theorem compile_withReturns {o : Options} {s : Slicer} (ho : o.slicer = .ok s)
    (hms : o.markers.IsUnbroken) {t : Text} (ht : '\r' ∉ t) :
    (∀ ss, s.slice t = .ok ss → (∀ p, Slice.output p ∈ ss → '\n' ∉ p) → ∀ trim,
      ∃ g, Generator.compile t { o with trimAfterCode := trim } = .ok g ∧
        Generator.compile t.withReturns { o with trimAfterCode := trim } = .ok g) ∧
    (∀ e, s.slice t = .error e → ∃ kind m before behind,
      (kind = SliceError.unexpected ∨ kind = SliceError.unclosed) ∧
      t = before ++ o.markers.word m ++ behind ∧
      e = kind (.around s.width before (o.markers.word m) behind) ∧
      s.slice t.withReturns =
        .error (kind (.around s.width before.withReturns (o.markers.word m)
          behind.withReturns))) := by
  have hr := Options.faithful_of_slicer ho
  obtain ⟨-, r, hbuild, rfl⟩ := Options.slicer_eq_ok_iff.mp ho
  obtain ⟨hmarkers, -⟩ := Recognizer.build_faithful hbuild
  rw [← hmarkers] at hms
  constructor
  · intro ss hss hout trim
    -- The slicer does not depend on whether texts are trimmed.
    have hcompile : ∀ {u}, Slicer.slice ⟨r, o.contextWidth⟩ u = .ok ss →
        Generator.compile u { o with trimAfterCode := trim } = .ok ⟨Program.assemble ss trim, []⟩ :=
      Generator.compile_of_slice (o := { o with trimAfterCode := trim }) ho
    exact ⟨_, hcompile hss, hcompile (Slicer.slice_withReturns hr hms ht hss hout)⟩
  · intro e he
    rw [← hmarkers]
    exact Slicer.refuse_withReturns hr hms he

/-- In the template `a␣LF[!x LF y!]LF b` the text behind the code begins with a line
end, which trimming takes whether it is LF or CR LF. In `LF[!x[>LF` a region is opened
inside another one, and with CR LF the same marker is reported. -/
theorem compile_withReturns_multiline :
    ∃ s, Options.standard.slicer = .ok s ∧
      (∀ trim, ∃ g,
        Generator.compile ['a', ' ', '\n', '[', '!', 'x', '\n', 'y', '!', ']', '\n', 'b']
          { Options.standard with trimAfterCode := trim } = .ok g ∧
        Generator.compile ['a', ' ', '\r', '\n', '[', '!', 'x', '\r', '\n', 'y', '!', ']', '\r',
          '\n', 'b'] { Options.standard with trimAfterCode := trim } = .ok g) ∧
      ∃ c c', s.slice ['\n', '[', '!', 'x', '[', '>', '\n'] = .error (.unexpected c) ∧
        s.slice ['\r', '\n', '[', '!', 'x', '[', '>', '\r', '\n'] = .error (.unexpected c') ∧
        c.word = ['[', '>'] ∧ c'.word = ['[', '>'] := by
  obtain ⟨s, hs, hslice, hrefuse⟩ : ∃ s, Options.standard.slicer = .ok s ∧
      s.slice ['a', ' ', '\n', '[', '!', 'x', '\n', 'y', '!', ']', '\n', 'b'] =
        .ok [.text ['a', ' ', '\\', 'n'], .code ['x', ' ', 'y'], .text ['\\', 'n', 'b']] ∧
      s.slice ['\n', '[', '!', 'x', '[', '>', '\n'] =
        .error (.unexpected ⟨['\n', '[', '!', 'x'], ['[', '>'], ['\n']⟩) :=
    ⟨_, rfl, by decide, by decide⟩
  have hms : Options.standard.markers.IsUnbroken := by
    intro m
    cases m <;> decide
  obtain ⟨hsame, -⟩ := compile_withReturns hs hms
    (t := ['a', ' ', '\n', '[', '!', 'x', '\n', 'y', '!', ']', '\n', 'b']) (by decide)
  obtain ⟨-, hfail⟩ := compile_withReturns hs hms
    (t := ['\n', '[', '!', 'x', '[', '>', '\n']) (by decide)
  obtain ⟨kind, m, before, behind, hkind, -, he, hrefuse'⟩ := hfail _ hrefuse
  have hword := congrArg (fun e => e.context.word) he
  rcases hkind with rfl | rfl
  · exact ⟨s, hs, hsame _ hslice (by simp), _, _, hrefuse, hrefuse', rfl, hword.symm⟩
  · cases he

end ScriptedTemplate
