import ScriptedTemplate.Proofs.Slice.Verdict
import ScriptedTemplate.Proofs.Text.Offsets

/-
  Offsets of a slicing — every cut in range, and the slices that they give

  Slicing by offsets takes the width of a marker from the offset at which it ends,
  and cuts the piece before it out behind the marker before. Neither is guarded. Both
  are in range because a marker that is seen is spelled by the last characters, and
  because none of these was read before the last marker: behind a marker every
  character is read as by a fresh detector.

  `Reached` is what the detector keeps, `Stands` what the pass keeps: what has been
  read is the pieces and markers up to the last one, and a piece in which a fresh
  detector sees nothing.

  What is proved: `slice_by_offsets` — for accepted markers slicing by offsets has an
  answer on every text, and the answer is that of slicing; and whatever has been read,
  the node is in the arena, the offsets are boundaries of the template in ascending
  order, and a marker that is seen stands between the two that it gives.
-/

namespace ScriptedTemplate

namespace Recognizer

open Trie (root)

variable {r : Recognizer}

/-! ## Look-ups -/

theorem walk_lt_size {ms : MarkerSet} (h : build ms = .ok r) {p : Text} {s : Nat}
    (hs : r.trie.walk root p = some s) : s < r.trie.size := by
  simp only [build] at h
  split at h
  · cases h
  · next t hins =>
    split at h
    · cases h
    · cases h
      obtain ⟨-, hspells, -⟩ :=
        Trie.insertAll_ok ms.entries Trie.spells_empty (Trie.claims_empty _) hins
      have hword := (hspells.walk_iff p hspells.atRoot s).mp hs
      rw [← hspells.size]
      exact (List.getElem?_eq_some_iff.mp hword).1

/-- On a node of the arena whose edges stay in the arena no look-up fails. -/
theorem feed?_eq {s : Nat} {c : Char} (hs : s < r.trie.size) (hroot : root < r.trie.size)
    (hnode : (r.feed s c).1 < r.trie.size) : r.feed? s c = some (r.feed s c) := by
  have hlook : ∀ {i : Nat}, i < r.trie.size → ∃ n, r.trie.nodes[i]? = some n ∧
      r.trie.next i c = n.next c ∧ r.trie.marker i = n.marker := by
    intro i hi
    refine ⟨r.trie.nodes[i], List.getElem?_eq_getElem hi, ?_, ?_⟩
    · rw [Trie.next, List.getElem?_eq_getElem hi, Option.bind_some]
    · rw [Trie.marker, List.getElem?_eq_getElem hi, Option.bind_some]
  obtain ⟨held, hheld, hnext, -⟩ := hlook hs
  simp only [feed] at hnode
  simp only [feed?, feed, hheld, hnext, Option.bind_eq_bind, Option.bind_some] at hnode ⊢
  generalize hfrom : (if s ≠ root ∧ (held.next c).isNone then root else s) = from_ at hnode ⊢
  have hlt : from_ < r.trie.size := by
    rw [← hfrom]
    split
    · exact hroot
    · exact hs
  obtain ⟨start, hstart, hedge, -⟩ := hlook hlt
  rw [hedge] at hnode
  rw [hstart, Option.bind_some, hedge]
  cases hn : start.next c with
  | none => rfl
  | some n =>
    rw [hn] at hnode
    obtain ⟨reached, hreached, -, hmarker⟩ := hlook hnode
    simp only [hreached, hmarker, Option.bind_some]

/-! ## The detector -/

/-- The node of a detector that has read a piece since the last marker: it stands for
some text, the next character is read as by a fresh detector that has read the piece,
and that one has seen nothing. -/
structure Reached (r : Recognizer) (node : Nat) (piece : Text) : Prop where
  held : ∃ p, r.trie.walk root p = some node
  alike : ∀ c, r.feed node c = r.feed (r.stateFrom root piece) c
  quiet : r.hits piece = []

theorem reached_root (r : Recognizer) : r.Reached root [] := ⟨⟨[], rfl⟩, fun _ => rfl, rfl⟩

namespace Reached

variable {node : Nat} {piece : Text} {c : Char}

theorem held_next (hr : r.Faithful) (h : r.Reached node piece) (c : Char) :
    ∃ p, r.trie.walk root p = some (r.feed node c).1 := by
  obtain ⟨p, hp⟩ := h.held
  exact ⟨_, (hr.feed hp c).1⟩

theorem grow (hr : r.Faithful) (h : r.Reached node piece) (hc : (r.feed node c).2 = none) :
    r.Reached (r.feed node c).1 (piece ++ [c]) where
  held := h.held_next hr c
  alike := by
    intro d
    rw [h.alike, stateFrom_append]
    rfl
  quiet := by
    rw [hits_snoc, h.quiet, ← h.alike, hc]
    rfl

theorem restart (hr : r.Faithful) (h : r.Reached node piece) {m : Marker}
    (hm : (r.feed node c).2 = some m) : r.Reached (r.feed node c).1 [] where
  held := h.held_next hr c
  alike := by
    intro d
    rw [h.alike] at hm ⊢
    exact hr.feed_after_marker hm d
  quiet := rfl

theorem exists_raw (hr : r.Faithful) (h : r.Reached node piece) {m : Marker}
    (hm : (r.feed node c).2 = some m) : ∃ raw, raw ++ r.word m = piece ++ [c] := by
  rw [h.alike] at hm
  exact hr.word_suffix hm

theorem rejoin_cutFrom (hr : r.Faithful) (h : r.Reached node []) (t : Text) :
    r.rejoin (r.cutFrom node [] t).cuts (r.cutFrom node [] t).tail = t := by
  rw [cutFrom_congr h.alike]
  exact (hr.confirms_cutFrom t (u := []) rfl).whole

theorem feed? {ms : MarkerSet} (hb : build ms = .ok r) (h : r.Reached node piece) (c : Char) :
    r.feed? node c = some (r.feed node c) ∧ node < r.trie.size ∧
      (r.feed node c).1 < r.trie.size := by
  have hroot : root < r.trie.size := walk_lt_size hb (p := []) rfl
  obtain ⟨p, hp⟩ := h.held
  obtain ⟨p', hp'⟩ := h.held_next (build_faithful hb).2 c
  have hnode := walk_lt_size hb hp
  have hnext := walk_lt_size hb hp'
  exact ⟨feed?_eq hnode hroot hnext, hnode, hnext⟩

end Reached

end Recognizer

namespace Slicer

open Text (placedFrom)

variable {s : Slicer}

/-! ## Contexts -/

theorem minus?_bytes (a b : Text) : minus? (Text.bytes (a ++ b)) (Text.bytes b) =
    some (Text.bytes a) := by
  rw [minus?, Text.bytes_append, if_pos (Nat.le_add_left _ _), Nat.add_sub_cancel]

theorem context?_eq (s : Slicer) (a word b : Text) :
    s.context? (a ++ word ++ b) (Text.bytes (a ++ word)) (Text.bytes word) =
      some (.around s.width a word b) := by
  have hlead : (a ++ word ++ b).before? (Text.bytes a) = some a := by
    rw [List.append_assoc]
    exact Text.before?_append a (word ++ b)
  simp only [context?, minus?_bytes, hlead, Text.after?_append, Text.cut?_append,
    Text.trailing?_eq, Text.leading?_eq, Option.bind_eq_bind, Option.bind_some]
  rfl

/-! ## The pass -/

/-- The pass has read `u`: the pieces and markers of `before`, the marker `mark`, and a
piece in which nothing is seen. The offset that is kept stands behind the marker. -/
structure Stands (s : Slicer) (u : Text) (p : Progress) (before : List Text)
    (mark piece : Text) : Prop where
  read : u = textOf before ++ mark ++ piece
  emitted : p.emitted = Text.bytes (textOf before ++ mark)
  lastWidth : p.lastWidth = Text.bytes mark
  reached : s.recognizer.Reached p.node piece

theorem stands_start (s : Slicer) : s.Stands [] .start [] [] [] :=
  ⟨rfl, rfl, rfl, s.recognizer.reached_root⟩

namespace Stands

variable {u : Text} {p : Progress} {before : List Text} {mark piece : Text} {c : Char}

theorem grow (hr : s.recognizer.Faithful) (h : s.Stands u p before mark piece)
    (hc : (s.recognizer.feed p.node c).2 = none) :
    s.Stands (u ++ [c]) { p with node := (s.recognizer.feed p.node c).1 } before mark
      (piece ++ [c]) where
  read := by rw [h.read, List.append_assoc]
  emitted := h.emitted
  lastWidth := h.lastWidth
  reached := h.reached.grow hr hc

theorem read_marker (h : s.Stands u p before mark piece) {m : Marker} {raw : Text}
    (hraw : raw ++ s.recognizer.word m = piece ++ [c]) :
    u ++ [c] = textOf (raw :: mark :: before) ++ s.recognizer.word m := by
  rw [h.read, List.append_assoc, ← hraw, textOf_cons_cons, List.append_assoc _ raw]

theorem restart (hr : s.recognizer.Faithful) (h : s.Stands u p before mark piece) {m : Marker}
    (hm : (s.recognizer.feed p.node c).2 = some m) {raw : Text}
    (hraw : raw ++ s.recognizer.word m = piece ++ [c]) (next : Mode) (ss : List Slice) :
    s.Stands (u ++ [c]) ⟨(s.recognizer.feed p.node c).1, next, Text.bytes (u ++ [c]),
      Text.bytes (s.recognizer.word m), ss⟩ (raw :: mark :: before) (s.recognizer.word m) [] where
  read := by rw [List.append_nil, h.read_marker hraw]
  emitted := by rw [h.read_marker hraw]
  lastWidth := rfl
  reached := h.reached.restart hr hm

theorem advance?_quiet {ms : MarkerSet} (hb : Recognizer.build ms = .ok s.recognizer)
    (h : s.Stands u p before mark piece) (hc : (s.recognizer.feed p.node c).2 = none)
    (t : Text) (i : Nat) : s.advance? t p i c =
      some (.ok { p with node := (s.recognizer.feed p.node c).1 }) := by
  obtain ⟨hfeed, -⟩ := h.reached.feed? hb c
  simp only [advance?, hfeed, Option.bind_eq_bind, Option.bind_some, hc]

theorem advance?_unexpected {ms : MarkerSet} (hb : Recognizer.build ms = .ok s.recognizer)
    (h : s.Stands u p before mark piece) {m : Marker}
    (hm : (s.recognizer.feed p.node c).2 = some m) {raw : Text}
    (hraw : raw ++ s.recognizer.word m = piece ++ [c]) (hplace : p.mode.after m = none) (v : Text) :
    s.advance? (u ++ c :: v) p (Text.bytes u) c =
      some (.error (.unexpected (.around s.width (textOf (raw :: mark :: before))
        (s.recognizer.word m) v))) := by
  obtain ⟨hfeed, -⟩ := h.reached.feed? hb c
  have hread := h.read_marker hraw
  have hstop : Text.bytes u + c.utf8Size =
      Text.bytes (textOf (raw :: mark :: before) ++ s.recognizer.word m) := by
    rw [← hread, Text.bytes_append]
    rfl
  have hinput : u ++ c :: v = textOf (raw :: mark :: before) ++ s.recognizer.word m ++ v := by
    rw [← hread, List.append_assoc]
    rfl
  simp only [advance?, hfeed, Option.bind_eq_bind, Option.bind_some, hm, hplace, hstop, hinput,
    context?_eq]

theorem advance?_marker {ms : MarkerSet} (hb : Recognizer.build ms = .ok s.recognizer)
    (h : s.Stands u p before mark piece) {m : Marker}
    (hm : (s.recognizer.feed p.node c).2 = some m) {raw : Text}
    (hraw : raw ++ s.recognizer.word m = piece ++ [c]) {next : Mode}
    (hplace : p.mode.after m = some next) (v : Text) :
    s.advance? (u ++ c :: v) p (Text.bytes u) c =
      some (.ok ⟨(s.recognizer.feed p.node c).1, next, Text.bytes (u ++ [c]),
        Text.bytes (s.recognizer.word m), p.slices ++ [p.mode.slice raw]⟩) := by
  obtain ⟨hfeed, -⟩ := h.reached.feed? hb c
  have hread := h.read_marker hraw
  have hstop : Text.bytes u + c.utf8Size = Text.bytes (u ++ [c]) := by
    rw [Text.bytes_append]
    rfl
  have hcut : (u ++ c :: v).cut? (Text.bytes (textOf before ++ mark))
      (Text.bytes (textOf (raw :: mark :: before))) = some raw := by
    have hinput : u ++ c :: v =
        textOf before ++ mark ++ raw ++ (s.recognizer.word m ++ v) := by
      rw [← List.append_assoc, ← textOf_cons_cons, ← hread, List.append_assoc]
      rfl
    rw [hinput, textOf_cons_cons]
    exact Text.cut?_append _ raw _
  simp only [advance?, hfeed, Option.bind_eq_bind, Option.bind_some, hm, hplace, hstop, hread,
    minus?_bytes, h.emitted, hcut]

end Stands

/-! ## Whole texts -/

theorem finish?_eq {u : Text} {p : Progress} {before : List Text} {mark piece : Text}
    (h : s.Stands u p before mark piece) : s.finish? u p =
      some ((s.follow p.mode before mark [] piece).map (p.slices ++ ·)) := by
  rw [finish?, follow, h.read, h.emitted, h.lastWidth]
  split
  · rw [Text.after?_append]
    rfl
  · rw [context?_eq]
    rfl

section

variable {ms : MarkerSet} (hb : Recognizer.build ms = .ok s.recognizer)

include hb

/-- What is read from some progress on is what is followed from the same place on. The
induction is on what is left of the template. -/
theorem advanceAll?_follow (v : Text) : ∀ {u : Text} {p : Progress} {before : List Text}
    {mark piece : Text}, s.Stands u p before mark piece →
      ((s.advanceAll? (u ++ v) p (placedFrom (Text.bytes u) v)).bind fun
          | .ok p' => s.finish? (u ++ v) p'
          | .error e => some (.error e)) =
        some ((s.follow p.mode before mark
          (s.recognizer.cutFrom p.node piece.reverse v).cuts
          (s.recognizer.cutFrom p.node piece.reverse v).tail).map (p.slices ++ ·)) := by
  have hr := (Recognizer.build_faithful hb).2
  induction v with
  | nil =>
    intro u p before mark piece h
    rw [List.append_nil, Recognizer.cutFrom, List.reverse_reverse]
    exact finish?_eq h
  | cons c v ih =>
    intro u p before mark piece h
    have hshift : Text.bytes u + c.utf8Size = Text.bytes (u ++ [c]) := by
      rw [Text.bytes_append]
      rfl
    have happ : u ++ c :: v = u ++ [c] ++ v := by rw [List.append_assoc]; rfl
    rw [placedFrom, advanceAll?, hshift, Recognizer.cutFrom]
    cases hseen : (s.recognizer.feed p.node c).2 with
    | none =>
      have hfeed : s.recognizer.feed p.node c = ((s.recognizer.feed p.node c).1, none) :=
        Prod.ext rfl hseen
      have hrest := ih (h.grow hr hseen)
      rw [List.reverse_append] at hrest
      rw [h.advance?_quiet hb hseen, hfeed, happ]
      exact hrest
    | some m =>
      have hfeed : s.recognizer.feed p.node c = ((s.recognizer.feed p.node c).1, some m) :=
        Prod.ext rfl hseen
      obtain ⟨raw, hraw⟩ := h.reached.exists_raw hr hseen
      have hpiece := Recognizer.piece_of_append hraw
      have hrejoin := (h.reached.restart hr hseen).rejoin_cutFrom hr v
      rw [hfeed]
      simp only [hpiece, Division.cons, follow]
      cases hplace : p.mode.after m with
      | none =>
        rw [h.advance?_unexpected hb hseen hraw hplace, hrejoin]
        rfl
      | some next =>
        have hrest := ih (h.restart hr hseen hraw next (p.slices ++ [p.mode.slice raw]))
        rw [List.reverse_nil] at hrest
        rw [h.advance?_marker hb hseen hraw hplace, happ]
        refine hrest.trans (congrArg some ?_)
        dsimp only
        cases s.follow next (raw :: mark :: before) (s.recognizer.word m)
            (s.recognizer.cutFrom (s.recognizer.feed p.node c).1 [] v).cuts
            (s.recognizer.cutFrom (s.recognizer.feed p.node c).1 [] v).tail with
        | error e => rfl
        | ok rest => simp [Except.map]

/-- When a part of the template has been read, the pass stands behind it. The induction
is on the part. -/
theorem stands_of_advanceAll? (t v : Text) : ∀ {u w : Text} {p p' : Progress}
    {before : List Text} {mark piece : Text}, u ++ (v ++ w) = t → s.Stands u p before mark piece →
      s.advanceAll? t p (placedFrom (Text.bytes u) v) = some (.ok p') →
        ∃ before' mark' piece', s.Stands (u ++ v) p' before' mark' piece' := by
  have hr := (Recognizer.build_faithful hb).2
  induction v with
  | nil =>
    intro u w p p' before mark piece ht h hp
    cases hp
    exact ⟨before, mark, piece, by rwa [List.append_nil]⟩
  | cons c v ih =>
    intro u w p p' before mark piece ht h hp
    have hshift : Text.bytes u + c.utf8Size = Text.bytes (u ++ [c]) := by
      rw [Text.bytes_append]
      rfl
    have happ : u ++ c :: v = u ++ [c] ++ v := by rw [List.append_assoc]; rfl
    have hrest : u ++ [c] ++ (v ++ w) = t := by rw [← ht, List.append_assoc]; rfl
    rw [placedFrom, advanceAll?, hshift] at hp
    rw [happ]
    cases hseen : (s.recognizer.feed p.node c).2 with
    | none =>
      rw [h.advance?_quiet hb hseen] at hp
      exact ih hrest (h.grow hr hseen) hp
    | some m =>
      obtain ⟨raw, hraw⟩ := h.reached.exists_raw hr hseen
      subst ht
      cases hplace : p.mode.after m with
      | none =>
        rw [List.cons_append, h.advance?_unexpected hb hseen hraw hplace] at hp
        cases hp
      | some next =>
        rw [List.cons_append, h.advance?_marker hb hseen hraw hplace] at hp
        exact ih hrest (h.restart hr hseen hraw next _) hp

end

/-- Whatever the pass does behind `u` in the template `t` is in range. The node is in the
arena, and so is the one that the next character leads to. The offset behind the last
marker and the one before it are boundaries. A marker that ends with the next character
is not wider than what has been read, it does not begin before the offset that is kept,
and the template has it between its two offsets, which are boundaries too. -/
structure InRange (s : Slicer) (t u : Text) (p : Progress) : Prop where
  node_lt : p.node < s.recognizer.trie.size
  emitted_le : p.emitted ≤ u.bytes
  emitted_boundary : t.IsBoundary p.emitted
  lastWidth_le : p.lastWidth ≤ p.emitted
  last_boundary : t.IsBoundary (p.emitted - p.lastWidth)
  feed : ∀ c, u ++ [c] <+: t → s.recognizer.feed? p.node c = some (s.recognizer.feed p.node c) ∧
    (s.recognizer.feed p.node c).1 < s.recognizer.trie.size
  marker : ∀ c m, u ++ [c] <+: t → (s.recognizer.feed p.node c).2 = some m →
    ∃ start stop, stop = u.bytes + c.utf8Size ∧ (s.recognizer.word m).bytes ≤ stop ∧
      start = stop - (s.recognizer.word m).bytes ∧ p.emitted ≤ start ∧ stop ≤ t.bytes ∧
      t.IsBoundary start ∧ t.IsBoundary stop ∧ t.cut? start stop = some (s.recognizer.word m)

theorem Stands.inRange {ms : MarkerSet} (hb : Recognizer.build ms = .ok s.recognizer)
    {t u : Text} {p : Progress} {before : List Text} {mark piece : Text} (hu : u <+: t)
    (h : s.Stands u p before mark piece) : s.InRange t u p where
  node_lt := (h.reached.feed? hb 'a').2.1
  emitted_le := by
    rw [h.emitted, h.read, Text.bytes_append _ piece]
    exact Nat.le_add_right _ _
  emitted_boundary := by
    refine ⟨textOf before ++ mark, ?_, h.emitted.symm⟩
    rw [h.read] at hu
    exact (List.prefix_append _ piece).trans hu
  lastWidth_le := by
    rw [h.emitted, h.lastWidth, Text.bytes_append]
    exact Nat.le_add_left _ _
  last_boundary := by
    refine ⟨textOf before, ?_, ?_⟩
    · rw [h.read, List.append_assoc] at hu
      exact (List.prefix_append _ _).trans hu
    · rw [h.emitted, h.lastWidth, Text.bytes_append, Nat.add_sub_cancel]
  feed := by
    intro c hc
    obtain ⟨hfeed, -, hnext⟩ := h.reached.feed? hb c
    exact ⟨hfeed, hnext⟩
  marker := by
    intro c m hc hm
    obtain ⟨raw, hraw⟩ := h.reached.exists_raw (Recognizer.build_faithful hb).2 hm
    have hread := h.read_marker hraw
    have hstop : Text.bytes (u ++ [c]) = Text.bytes (textOf (raw :: mark :: before)) +
        Text.bytes (s.recognizer.word m) := by
      rw [hread, Text.bytes_append]
    have hstart : textOf (raw :: mark :: before) <+: t := by
      rw [hread] at hc
      exact (List.prefix_append _ _).trans hc
    refine ⟨Text.bytes (textOf (raw :: mark :: before)), Text.bytes (u ++ [c]),
      Text.bytes_append u [c], ?_, ?_, ?_, ?_, ⟨_, hstart, rfl⟩, ⟨_, hc, rfl⟩, ?_⟩
    · rw [hstop]
      exact Nat.le_add_left _ _
    · rw [hstop, Nat.add_sub_cancel]
    · rw [h.emitted, textOf_cons_cons, Text.bytes_append _ raw]
      exact Nat.le_add_right _ _
    · exact Text.IsBoundary.le ⟨_, hc, rfl⟩
    · obtain ⟨v, rfl⟩ := hc
      rw [hread]
      exact Text.cut?_append _ _ v

end Slicer

open Slicer (InRange)

/-- With accepted markers, however wide their characters and those of the template are
and however many are shown, slicing by offsets has an answer, which is that of slicing;
and all that it looks up and cuts by on the way is in range. -/
theorem slice_by_offsets {ms : MarkerSet} {r : Recognizer} (hb : Recognizer.build ms = .ok r)
    (width : Nat) (t : Text) :
    Slicer.sliceByOffsets? ⟨r, width⟩ t = some (Slicer.slice ⟨r, width⟩ t) ∧
    ∀ u p, u <+: t →
      Slicer.advanceAll? ⟨r, width⟩ t .start (Text.placedFrom 0 u) = some (.ok p) →
        InRange ⟨r, width⟩ t u p := by
  have hstart := Slicer.stands_start ⟨r, width⟩
  constructor
  · have hfollow := Slicer.advanceAll?_follow hb t hstart
    refine hfollow.trans (congrArg some ?_)
    change (Slicer.slice ⟨r, width⟩ t).map ([] ++ ·) = _
    cases Slicer.slice ⟨r, width⟩ t <;> rfl
  · intro u p hu hp
    obtain ⟨v, hv⟩ := hu
    obtain ⟨before, mark, piece, hstands⟩ :=
      Slicer.stands_of_advanceAll? hb t u (u := []) hv hstart hp
    exact hstands.inRange hb ⟨v, hv⟩

/-- Wide markers in a template of wide characters. The arrows begin at the second byte
and end at the eighth. -/
theorem slice_by_offsets_wide : ∃ r, Recognizer.build ⟨['«'], ['»'], ['→', '→'], ['←']⟩ = .ok r ∧
    Slicer.sliceByOffsets? ⟨r, 0⟩ ['é', '→', '→', 'ü', '←', '€'] =
      some (.ok [.text ['é'], .output ['ü'], .text ['€']]) ∧
    Text.cut? 2 8 ['é', '→', '→', 'ü', '←', '€'] = some ['→', '→'] := by
  obtain ⟨r, hr, hslice, hread, hseen⟩ : ∃ r,
      Recognizer.build ⟨['«'], ['»'], ['→', '→'], ['←']⟩ = .ok r ∧
      Slicer.slice ⟨r, 0⟩ ['é', '→', '→', 'ü', '←', '€'] =
        .ok [.text ['é'], .output ['ü'], .text ['€']] ∧
      Slicer.advanceAll? ⟨r, 0⟩ ['é', '→', '→', 'ü', '←', '€'] .start
        (Text.placedFrom 0 ['é', '→']) = some (.ok ⟨3, .text, 0, 0, []⟩) ∧
      (r.feed 3 '→').2 = some .outputBegin :=
    ⟨_, rfl, by decide, by decide, by decide⟩
  obtain ⟨hall, hrange⟩ := slice_by_offsets hr 0 ['é', '→', '→', 'ü', '←', '€']
  refine ⟨r, hr, hall.trans (congrArg some hslice), ?_⟩
  obtain ⟨start, stop, rfl, -, rfl, -, -, -, -, hcut⟩ :=
    (hrange _ _ ⟨['→', 'ü', '←', '€'], rfl⟩ hread).marker '→' .outputBegin
      ⟨['ü', '←', '€'], rfl⟩ hseen
  have hword : r.word .outputBegin = ['→', '→'] := by
    rw [Recognizer.word, (Recognizer.build_faithful hr).1]
    rfl
  rw [hword] at hcut
  exact hcut

end ScriptedTemplate
