import ScriptedTemplate.Proofs.Generator.Splicing
import ScriptedTemplate.Proofs.Slice.Indent

/-
  Trimming — done by the compiler, or in the template beforehand

  Trimming drops the indent of each text behind code, after the template has been
  divided and its texts escaped. The same can be done in the template itself:
  behind every closing marker of code that the detector sees, the indent is left
  out. No marker holds a character of an indent, so the detector is at the root all
  through an indent, and without it sees the same markers.

  What is proved: `compile_trim_eq_compile_edited` — a template that compiles gives,
  with trimming, the program that the edited template gives without.
-/

namespace ScriptedTemplate

namespace Slice

/-- The text without its indent, where that is asked for. -/
def unindentIf (trim : Bool) (t : Text) : Text := if trim then unindent t else t

/-- The number of characters in the indent of a text. -/
def indentLength (t : Text) : Nat := t.length - (unindent t).length

end Slice

open Slice (IsIndent unindent unindentIf indentLength)

/-- No marker holds a space, a carriage return or a line feed. -/
def MarkerSet.IsSolid (ms : MarkerSet) : Prop := ∀ m, ∀ c ∈ ms.word m, ¬ IsIndent c

namespace Recognizer

/-- Read on from node `s` and write what is read, but leave out the indent behind
every closing marker of code that is seen; `skip` characters are still to be left
out. -/
def editedFrom (r : Recognizer) (s skip : Nat) : Text → Text
  | [] => []
  | c :: t =>
    let left := if (r.feed s c).2 = some .codeEnd then indentLength t else skip - 1
    let rest := r.editedFrom (r.feed s c).1 left t
    if skip = 0 then c :: rest else rest

/-- A template without the indents behind its code. -/
def edited (r : Recognizer) (t : Text) : Text := r.editedFrom Trie.root 0 t

end Recognizer

/-- The division of a text without the indents behind code; `after` says whether the
first piece stands behind code. -/
def Division.edited (after : Bool) (tail : Text) : List Cut → Division
  | [] => ⟨[], unindentIf after tail⟩
  | c :: cs =>
    (Division.edited (c.marker = .codeEnd) tail cs).cons ⟨unindentIf after c.raw, c.marker⟩

/-! ## Indents of texts -/

namespace Slice

theorem exists_unindentIf (after : Bool) (t : Text) :
    ∃ v, t = v ++ unindentIf after t ∧ ∀ c ∈ v, IsIndent c := by
  cases after with
  | false => exact ⟨[], rfl, by simp⟩
  | true => exact exists_unindent t

theorem drop_indentLength (t : Text) : t.drop (indentLength t) = unindent t := by
  obtain ⟨v, hv, -⟩ := exists_unindent t
  have hlen : indentLength t = v.length := by
    have hlen := congrArg List.length hv
    rw [List.length_append] at hlen
    rw [indentLength]
    omega
  rw [hlen]
  conv_lhs => rw [hv]
  exact List.drop_left

theorem indentLength_le (t : Text) : indentLength t ≤ t.length := Nat.sub_le _ _

theorem indentLength_append {c : Char} (hc : ¬ IsIndent c) (t u : Text) :
    indentLength (t ++ c :: u) = indentLength t := by
  rw [indentLength, unindent_append hc, List.length_append, List.length_append, indentLength]
  omega

end Slice

/-! ## Detection through an indent -/

namespace Recognizer

open Trie (root)

variable {r : Recognizer}

theorem Faithful.feed_indent (hr : r.Faithful) (hsolid : r.markers.IsSolid) {c : Char}
    (hc : IsIndent c) : r.feed root c = (root, none) := by
  apply hr.feed_foreign (p := []) rfl
  intro m hmem
  exact hsolid m c hmem hc

theorem Faithful.hitsFrom_indent (hr : r.Faithful) (hsolid : r.markers.IsSolid) {v : Text}
    (hv : ∀ c ∈ v, IsIndent c) (i : Nat) (t : Text) :
    r.hitsFrom root i (v ++ t) = r.hitsFrom root (i + v.length) t := by
  induction v generalizing i with
  | nil => rfl
  | cons c v ih =>
    obtain ⟨hc, hv⟩ := List.forall_mem_cons.mp hv
    have hlen : i + (c :: v).length = i + 1 + v.length := by simp; omega
    simp only [List.cons_append, hitsFrom, hr.feed_indent hsolid hc, hlen]
    exact ih hv (i + 1)

theorem Faithful.hits_unindentIf (hr : r.Faithful) (hsolid : r.markers.IsSolid) (after : Bool)
    (t u : Text) :
    r.hits (t ++ u) = (r.hits (unindentIf after t ++ u)).map
      fun h => (t.length - (unindentIf after t).length + h.1, h.2) := by
  obtain ⟨v, ht, hv⟩ := Slice.exists_unindentIf after t
  have hlen : t.length - (unindentIf after t).length = v.length := by
    have hlen := congrArg List.length ht
    rw [List.length_append] at hlen
    omega
  calc r.hits (t ++ u) = r.hits (v ++ (unindentIf after t ++ u)) := by
        rw [← List.append_assoc, ← ht]
    _ = r.hitsFrom root (v.length + 0) (unindentIf after t ++ u) := by
        rw [hits, hr.hitsFrom_indent hsolid hv, Nat.zero_add, Nat.add_zero]
    _ = _ := by rw [hitsFrom_add, hlen]; rfl

theorem Faithful.ends_unindentIf (hr : r.Faithful) (hsolid : r.markers.IsSolid) {c : Cut}
    (hc : r.Ends c) (after : Bool) : r.Ends ⟨unindentIf after c.raw, c.marker⟩ := by
  obtain ⟨raw, m⟩ := c
  obtain ⟨v, hraw, -⟩ := Slice.exists_unindentIf after raw
  have hlen := congrArg List.length hraw
  have hne : 0 < (r.word m).length := List.length_pos_iff.mpr (hr.legal.nonempty m)
  have hc' : r.hits (raw ++ r.word m) = [((raw ++ r.word m).length - 1, m)] := hc
  rw [hr.hits_unindentIf hsolid after, List.map_eq_singleton_iff] at hc'
  obtain ⟨⟨j, m'⟩, hsee, hplace⟩ := hc'
  obtain ⟨hj, rfl⟩ := Prod.mk.inj hplace
  simp only [List.length_append] at hlen hj
  have hj' : j = (unindentIf after raw ++ r.word m').length - 1 := by
    rw [List.length_append]
    omega
  rw [Ends, hsee, hj']

theorem Faithful.quiet_unindentIf (hr : r.Faithful) (hsolid : r.markers.IsSolid) {t : Text}
    (ht : r.hits t = []) (after : Bool) : r.hits (unindentIf after t) = [] := by
  have hsee := hr.hits_unindentIf hsolid after t []
  rw [List.append_nil, List.append_nil, ht] at hsee
  exact List.map_eq_nil_iff.mp hsee.symm

theorem Faithful.confirms_edited (hr : r.Faithful) (hsolid : r.markers.IsSolid) {tail : Text}
    (hquiet : r.hits tail = []) : ∀ {cs : List Cut}, (∀ c ∈ cs, r.Ends c) → ∀ after : Bool,
      r.Confirms (Division.edited after tail cs)
        (r.rejoin (Division.edited after tail cs).cuts (Division.edited after tail cs).tail)
  | [], _, after => ⟨rfl, by simp [Division.edited], hr.quiet_unindentIf hsolid hquiet after⟩
  | _ :: _, hends, after => by
    obtain ⟨hc, hcs⟩ := List.forall_mem_cons.mp hends
    exact (hr.confirms_edited hsolid hquiet hcs _).cons (hr.ends_unindentIf hsolid hc after)

/-! ## The edited template -/

theorem editedFrom_congr {s s' : Nat} (h : ∀ c, r.feed s c = r.feed s' c) (skip : Nat) (t : Text) :
    r.editedFrom s skip t = r.editedFrom s' skip t := by
  cases t with
  | nil => rfl
  | cons c t => simp only [editedFrom, h]

/-- As long as no marker is seen, the characters to be left out are left out and the
others written. -/
theorem editedFrom_quiet (r : Recognizer) (t u : Text) : ∀ {s i : Nat} (skip : Nat),
    r.hitsFrom s i u = [] →
      r.editedFrom s skip (u ++ t) =
        u.drop skip ++ r.editedFrom (r.stateFrom s u) (skip - u.length) t := by
  induction u with
  | nil => intro s i skip _; simp [stateFrom]
  | cons c u ih =>
    intro s i skip h
    have hlen : skip - (c :: u).length = skip - 1 - u.length := by simp; omega
    simp only [List.cons_append, editedFrom, stateFrom, hlen]
    simp only [hitsFrom] at h
    generalize r.feed s c = f at h ⊢
    obtain ⟨s', _ | m⟩ := f
    · have hnone : ¬ ((none : Option Marker) = some .codeEnd) := by simp
      rw [if_neg hnone, ih _ h]
      cases skip <;> rfl
    · cases h

theorem exists_word_cons (hr : r.Faithful) (hsolid : r.markers.IsSolid) (m : Marker) :
    ∃ c w, r.word m = c :: w ∧ ¬ IsIndent c := by
  obtain ⟨c, w, hw⟩ := List.exists_cons_of_ne_nil (hr.legal.nonempty m)
  exact ⟨c, w, hw, hsolid m c (by rw [hw]; exact List.mem_cons_self)⟩

/-- Editing a text from a piece on, when so many of its characters are left out as
its indent has. The induction is on the cuts; behind each one detection begins
anew. -/
theorem Faithful.editedFrom_rejoin (hr : r.Faithful) (hsolid : r.markers.IsSolid) {tail : Text}
    (hquiet : r.hits tail = []) : ∀ {cs : List Cut}, (∀ c ∈ cs, r.Ends c) → ∀ after : Bool,
      r.editedFrom root (if after then indentLength (r.rejoin cs tail) else 0)
          (r.rejoin cs tail) =
        r.rejoin (Division.edited after tail cs).cuts (Division.edited after tail cs).tail
  | [], _, after => by
    have hskip := r.editedFrom_quiet [] tail (if after then indentLength tail else 0) hquiet
    simp only [List.append_nil, editedFrom] at hskip
    simp only [rejoin, Division.edited, hskip]
    cases after with
    | false => rfl
    | true => exact Slice.drop_indentLength tail
  | ⟨raw, m⟩ :: cs, hends, after => by
    obtain ⟨hc, hcs⟩ := List.forall_mem_cons.mp hends
    have hrest := hr.editedFrom_rejoin hsolid hquiet hcs (m = .codeEnd)
    obtain ⟨u, d, hud, hsilent, hsee⟩ := hr.snoc_of_ends hc
    have hrestart := hr.feed_after_marker hsee
    obtain ⟨e, w, hword, he⟩ := exists_word_cons hr hsolid m
    simp only [rejoin, Division.edited, Division.cons]
    generalize r.rejoin cs tail = rest at hrest ⊢
    -- The indent of what is read is that of its first piece.
    have hindent : indentLength (raw ++ r.word m ++ rest) = indentLength raw := by
      rw [hword, List.append_assoc, List.cons_append, Slice.indentLength_append he]
    rw [hindent]
    have hskip : (if after then indentLength raw else 0) ≤ raw.length := by
      split
      · exact Slice.indentLength_le raw
      · exact Nat.zero_le _
    have hdrop : raw.drop (if after then indentLength raw else 0) = unindentIf after raw := by
      cases after with
      | false => rfl
      | true => exact Slice.drop_indentLength raw
    generalize (if after then indentLength raw else 0) = skip at hskip hdrop ⊢
    have hlen := congrArg List.length hud
    simp only [List.length_append, hword, List.length_cons, List.length_nil] at hlen
    have hzero : skip - u.length = 0 := by omega
    have hstart : raw ++ r.word m ++ rest = u ++ d :: rest := by
      simp only at hud
      rw [hud]
      simp
    have hlast : u.drop skip ++ [d] = unindentIf after raw ++ r.word m := by
      rw [← hdrop, ← List.drop_append_of_le_length hskip, hud,
        List.drop_append_of_le_length (by omega)]
    have hleft : (if (r.feed (r.stateFrom root u) d).2 = some .codeEnd then indentLength rest
        else 0) = if m = .codeEnd then indentLength rest else 0 := by
      simp [hsee]
    rw [hstart, r.editedFrom_quiet (d :: rest) u skip hsilent, hzero, editedFrom]
    simp only [if_pos, Nat.zero_sub, hleft, editedFrom_congr hrestart]
    simp only [decide_eq_true_eq] at hrest
    rw [hrest, ← hlast]
    simp

theorem Faithful.cut_edited (hr : r.Faithful) (hsolid : r.markers.IsSolid) (t : Text) :
    r.cut (r.edited t) = Division.edited false (r.cut t).tail (r.cut t).cuts := by
  obtain ⟨hwhole, hends, hquiet⟩ := hr.cut_eq_iff.mp (rfl : r.cut t = _)
  have hedited := hr.editedFrom_rejoin hsolid hquiet hends false
  rw [hwhole] at hedited
  rw [hr.cut_eq_iff, edited]
  show r.Confirms _ (r.editedFrom root (if false = true then indentLength t else 0) t)
  rw [hedited]
  exact hr.confirms_edited hsolid hquiet hends false

end Recognizer

/-! ## The programs -/

namespace Slicer

/-- The slice that a marker ends is code exactly when the marker closes code, and
behind it stands text. -/
theorem isCode_slice {q next : Mode} {m : Marker} (h : q.after m = some next) (raw : Text) :
    (q.slice raw).isCode = decide (m = .codeEnd) ∧ (m = .codeEnd → next = .text) := by
  cases q <;> cases m <;> cases h <;> exact ⟨rfl, by simp⟩

theorem trimLeading_slice {q : Mode} {after : Bool} (h : after = true → q = .text) (raw : Text) :
    (if after && true then (q.slice raw).trimLeading else q.slice raw) =
      q.slice (unindentIf after raw) := by
  cases after with
  | false => rfl
  | true =>
    rw [h rfl]
    exact Slice.trimLeading_ofText raw

/-- Cuts that give slices give them also without the indents behind code, and the
fragments are those of the slices with trimming. The induction is on the cuts. -/
theorem follow_edited {s : Slicer} {tail : Text} : ∀ {cs : List Cut} {q : Mode}
    {before : List Text} {mark : Text} {ss : List Slice} {after : Bool},
    s.follow q before mark cs tail = .ok ss → (after = true → q = .text) →
      ∀ (before' : List Text) (mark' : Text), ∃ ss',
        s.follow q before' mark' (Division.edited after tail cs).cuts
          (Division.edited after tail cs).tail = .ok ss' ∧
        Program.emitted true after ss = ss'.filter Slice.isValid
  | [], q, before, mark, ss, after, h, hafter => by
    intro before' mark'
    rw [follow] at h
    split at h
    · next hq =>
      cases h
      refine ⟨[.ofText (unindentIf after tail)], ?_, ?_⟩
      · simp only [Division.edited, follow, if_pos hq]
      · have htrim := trimLeading_slice (fun _ => rfl : after = true → Mode.text = .text) tail
        simp only [Mode.slice] at htrim
        simp only [Program.emitted, htrim, List.filter_cons, List.filter_nil]
    · cases h
  | c :: cs, q, before, mark, ss, after, h, hafter => by
    intro before' mark'
    simp only [follow] at h
    split at h
    · cases h
    · next next hnext =>
      split at h
      · next rest hrest =>
        cases h
        obtain ⟨hcode, hclosed⟩ := isCode_slice hnext c.raw
        have hbehind : decide (c.marker = .codeEnd) = true → next = .text :=
          fun h => hclosed (of_decide_eq_true h)
        obtain ⟨ss', hfollow, hemitted⟩ := follow_edited hrest hbehind
          (unindentIf after c.raw :: mark' :: before') (s.recognizer.word c.marker)
        refine ⟨q.slice (unindentIf after c.raw) :: ss', ?_, ?_⟩
        · simp only [Division.edited, Division.cons, follow, hnext, hfollow]
        · simp only [Program.emitted, trimLeading_slice hafter, hcode, hemitted, List.filter_cons]
      · cases h

end Slicer

/-- For markers without spaces and line ends: where a template compiles, so does the
template without the indents behind its code, and without trimming that one gives
the program that the template gives with trimming. -/
theorem compile_trim_eq_compile_edited {o : Options} {s : Slicer} (ho : o.slicer = .ok s)
    (hsolid : o.markers.IsSolid) {t : Text} (ht : ∃ p, Program.compile t o = .ok p) :
    (∃ p, Program.compile (s.recognizer.edited t) o = .ok p) ∧
    ∃ p, Program.compile t { o with trimAfterCode := true } = .ok p ∧
      Program.compile (s.recognizer.edited t) { o with trimAfterCode := false } = .ok p := by
  obtain ⟨-, r, hbuild, rfl⟩ := Options.slicer_eq_ok_iff.mp ho
  obtain ⟨hmarkers, hr⟩ := Recognizer.build_faithful hbuild
  rw [← hmarkers] at hsolid
  -- The slicer does not depend on whether texts are trimmed.
  have hcompile : ∀ trim {t p}, Program.compile t { o with trimAfterCode := trim } = .ok p ↔
      ∃ ss, Slicer.slice ⟨r, o.contextWidth⟩ t = .ok ss ∧ p = Program.assemble ss trim :=
    fun trim => Program.compile_eq_ok_iff (o := { o with trimAfterCode := trim }) ho
  obtain ⟨p, hp⟩ := ht
  obtain ⟨ss, hss, -⟩ := (Program.compile_eq_ok_iff ho).mp hp
  have hstart : false = true → Mode.text = .text := fun _ => rfl
  obtain ⟨ss', hss', hemitted⟩ := Slicer.follow_edited hss hstart [] []
  have hslice : Slicer.slice ⟨r, o.contextWidth⟩ (r.edited t) = .ok ss' := by
    rw [Slicer.slice, hr.cut_edited hsolid]
    exact hss'
  have huntrimmed : Program.emitted false false ss' = ss'.filter Slice.isValid :=
    Program.emitted_eq_filter rfl (fun h => by cases h)
  have hprogram : Program.assemble ss true = Program.assemble ss' false := by
    rw [Program.assemble, Program.assemble, hemitted, huntrimmed]
  refine ⟨⟨_, (Program.compile_eq_ok_iff ho).mpr ⟨ss', hslice, rfl⟩⟩, Program.assemble ss true,
    (hcompile true).mpr ⟨ss, hss, rfl⟩, (hcompile false).mpr ⟨ss', hslice, hprogram⟩⟩

/-- In the template `[!x!]␣␣LF[!␣!]CR LF␣y` a region of code holds nothing but a
space; both indents go, and the space behind the second line end stays. -/
theorem compile_trim_eq_compile_edited_blank_code :
    ∃ s, Options.standard.slicer = .ok s ∧
      s.recognizer.edited ['[', '!', 'x', '!', ']', ' ', ' ', '\n', '[', '!', ' ', '!', ']', '\r',
        '\n', ' ', 'y'] = ['[', '!', 'x', '!', ']', '[', '!', ' ', '!', ']', ' ', 'y'] ∧
      ∃ p, Program.compile ['[', '!', 'x', '!', ']', ' ', ' ', '\n', '[', '!', ' ', '!', ']', '\r',
          '\n', ' ', 'y'] { Options.standard with trimAfterCode := true } = .ok p ∧
        Program.compile ['[', '!', 'x', '!', ']', '[', '!', ' ', '!', ']', ' ', 'y']
          { Options.standard with trimAfterCode := false } = .ok p := by
  obtain ⟨s, hs, hedited, p, hp⟩ : ∃ s, Options.standard.slicer = .ok s ∧
      s.recognizer.edited ['[', '!', 'x', '!', ']', ' ', ' ', '\n', '[', '!', ' ', '!', ']', '\r',
        '\n', ' ', 'y'] = ['[', '!', 'x', '!', ']', '[', '!', ' ', '!', ']', ' ', 'y'] ∧
      ∃ p, Program.compile ['[', '!', 'x', '!', ']', ' ', ' ', '\n', '[', '!', ' ', '!', ']', '\r',
        '\n', ' ', 'y'] .standard = .ok p := ⟨_, rfl, by decide, _, rfl⟩
  have hsolid : Options.standard.markers.IsSolid := by
    intro m
    cases m <;> simp [Options.standard, MarkerSet.word, MarkerSet.standard, IsIndent]
  have heq := compile_trim_eq_compile_edited hs hsolid ⟨p, hp⟩
  rw [hedited] at heq
  exact ⟨s, hs, hedited, heq.2⟩

end ScriptedTemplate
