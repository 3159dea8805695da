import ScriptedTemplate.Proofs.Marker.Detector

/-
  Division at markers — one detector for all pieces, or a fresh one for each

  A text is divided by one detector that is never reset: after a marker it still
  holds the node of the marker's word. No word goes on, so from that node every
  character is read as from the root, and each piece is read as if the detector
  were fresh.

  What is proved: `cut_eq_iff` — the division of a text is the only one whose
  pieces and words make up the text and that fresh detectors confirm: in each
  piece with its word one marker is seen, that word at the end, and none in the
  tail.
-/

namespace ScriptedTemplate

namespace Recognizer

open Trie (root)

/-- In the piece and its word a fresh detector sees one marker, the one that
ends the piece, with the last character. -/
def Ends (r : Recognizer) (c : Cut) : Prop :=
  r.hits (c.raw ++ r.word c.marker) = [((c.raw ++ r.word c.marker).length - 1, c.marker)]

/-- The division makes up the text, and fresh detectors see its markers and no
others. -/
structure Confirms (r : Recognizer) (d : Division) (t : Text) : Prop where
  whole : r.rejoin d.cuts d.tail = t
  ends : ∀ c ∈ d.cuts, r.Ends c
  quiet : r.hits d.tail = []

variable {r : Recognizer}

/-! ## Reading on -/

theorem stateFrom_append (r : Recognizer) (t u : Text) : ∀ s,
    r.stateFrom s (t ++ u) = r.stateFrom (r.stateFrom s t) u := by
  induction t with
  | nil => intro s; rfl
  | cons c t ih => intro s; exact ih _

theorem hitsFrom_append (r : Recognizer) (t u : Text) : ∀ s i,
    r.hitsFrom s i (t ++ u) =
      r.hitsFrom s i t ++ r.hitsFrom (r.stateFrom s t) (i + t.length) u := by
  induction t with
  | nil => intro s i; rfl
  | cons c t ih =>
    intro s i
    have hlen : i + (c :: t).length = i + 1 + t.length := by simp; omega
    simp only [List.cons_append, hitsFrom, stateFrom, hlen, ih]
    generalize r.feed s c = f
    obtain ⟨s', _ | m⟩ := f <;> simp

/-- What is seen depends on the place of the first character only by its
distance. -/
theorem hitsFrom_add (r : Recognizer) (n : Nat) (t : Text) : ∀ s i : Nat,
    r.hitsFrom s (n + i) t = (r.hitsFrom s i t).map fun h => (n + h.1, h.2) := by
  induction t with
  | nil => intro s i; rfl
  | cons c t ih =>
    intro s i
    simp only [hitsFrom, Nat.add_assoc, ih]
    generalize r.feed s c = f
    obtain ⟨s', _ | m⟩ := f <;> rfl

theorem hitsFrom_congr {s s' : Nat} (h : ∀ c, r.feed s c = r.feed s' c) (i : Nat) (t : Text) :
    r.hitsFrom s i t = r.hitsFrom s' i t := by
  cases t with
  | nil => rfl
  | cons c t => simp only [hitsFrom, h]

theorem hits_snoc (r : Recognizer) (u : Text) (c : Char) : r.hits (u ++ [c]) =
    r.hits u ++ ((r.feed (r.stateFrom root u) c).2.map fun m => (u.length, m)).toList := by
  rw [hits, hitsFrom_append, Nat.zero_add, ← hits]
  congr 1
  simp only [hitsFrom]
  generalize r.feed (r.stateFrom root u) c = f
  obtain ⟨s', _ | m⟩ := f <;> rfl

theorem cutFrom_quiet (r : Recognizer) (t u : Text) : ∀ {s i : Nat} {piece : Text},
    r.hitsFrom s i u = [] →
      r.cutFrom s piece (u ++ t) = r.cutFrom (r.stateFrom s u) (u.reverse ++ piece) t := by
  induction u with
  | nil => intro s i piece _; rfl
  | cons c u ih =>
    intro s i piece h
    simp only [List.cons_append, cutFrom, stateFrom]
    simp only [hitsFrom] at h
    generalize r.feed s c = f at h ⊢
    obtain ⟨s', _ | m⟩ := f
    · have hrest := @ih _ _ (c :: piece) h
      simpa using hrest
    · cases h

theorem cut_of_quiet {t : Text} (h : r.hits t = []) : r.cut t = ⟨[], t⟩ := by
  have hgrow : r.cutFrom root [] (t ++ []) = _ := r.cutFrom_quiet [] t h
  rw [List.append_nil, List.append_nil] at hgrow
  rw [cut, hgrow, cutFrom, List.reverse_reverse]

/-- A piece without the word at its end, as it is taken from the characters read
last. -/
theorem piece_of_append {raw w u : Text} {c : Char} (h : raw ++ w = u ++ [c]) :
    ((c :: u.reverse).drop w.length).reverse = raw := by
  have hrev : c :: u.reverse = w.reverse ++ raw.reverse := by
    rw [← List.reverse_append, h, List.reverse_append]
    rfl
  rw [hrev, List.drop_left' List.length_reverse, List.reverse_reverse]

theorem cutFrom_congr {s s' : Nat} (h : ∀ c, r.feed s c = r.feed s' c) (piece t : Text) :
    r.cutFrom s piece t = r.cutFrom s' piece t := by
  cases t with
  | nil => rfl
  | cons c t => simp only [cutFrom, h]

/-! ## A detector after a marker -/

theorem Faithful.walk_stateFrom (hr : r.Faithful) (u : Text) : ∀ {p : Text} {s : Nat},
    r.trie.walk root p = some s →
      r.trie.walk root (u.foldl r.markers.follow p) = some (r.stateFrom s u) := by
  induction u with
  | nil => intro p s h; exact h
  | cons c u ih => intro p s h; exact ih (hr.feed h c).1

/-- From the node of a word every character is read as by a fresh detector. -/
theorem Faithful.feed_word (hr : r.Faithful) {p : Text} {s : Nat} {m : Marker}
    (hs : r.trie.walk root p = some s) (hm : r.markers.ending? p = some m) (d : Char) :
    r.feed s d = r.feed root d := by
  rw [← MarkerSet.word_of_ending? hm] at hs
  obtain ⟨hwalk, hsee⟩ := hr.feed hs d
  obtain ⟨hwalk', hsee'⟩ := hr.feed (p := []) (s := root) rfl d
  rw [hr.legal.follow_word] at hwalk hsee
  exact Prod.ext (Option.some.inj (hwalk.symm.trans hwalk')) (hsee.trans hsee'.symm)

/-- After a marker every character is read as by a fresh detector. -/
theorem Faithful.feed_after_marker (hr : r.Faithful) {u : Text} {c : Char} {m : Marker}
    (hm : (r.feed (r.stateFrom root u) c).2 = some m) (d : Char) :
    r.feed (r.feed (r.stateFrom root u) c).1 d = r.feed root d := by
  have hheld := hr.walk_stateFrom u (p := []) (s := root) rfl
  obtain ⟨hnode, hmarker⟩ := hr.feed hheld c
  exact hr.feed_word hnode (hmarker.symm.trans hm) d

theorem Faithful.word_suffix (hr : r.Faithful) {u : Text} {c : Char} {m : Marker}
    (hm : (r.feed (r.stateFrom root u) c).2 = some m) : r.word m <:+ u ++ [c] := by
  have hmem : (u.length, m) ∈ r.hits (u ++ [c]) := by
    rw [r.hits_snoc, hm]
    simp
  rw [hr.hits_eq] at hmem
  obtain ⟨-, -, hsuf⟩ := MarkerSet.suffix_of_mem_hitsFrom _ hmem
  rw [List.nil_append, List.take_of_length_le (by simp)] at hsuf
  exact hsuf

/-! ## The division -/

/-- When the only marker is seen with the last character, none is seen before. -/
theorem Faithful.quiet_of_hits_snoc (hr : r.Faithful) {u : Text} {c : Char} {m : Marker}
    (h : r.hits (u ++ [c]) = [(u.length, m)]) :
    r.hits u = [] ∧ (r.feed (r.stateFrom root u) c).2 = some m := by
  rw [r.hits_snoc] at h
  have hquiet : r.hits u = [] := by
    -- A marker seen in `u` would come first in the list, but lies before the end of `u`.
    cases hu : r.hits u with
    | nil => rfl
    | cons e es =>
      obtain ⟨j, m'⟩ := e
      rw [hu, List.cons_append, List.cons.injEq, Prod.mk.injEq] at h
      have hmem : (j, m') ∈ r.hits u := by rw [hu]; exact List.mem_cons_self
      rw [hr.hits_eq] at hmem
      obtain ⟨-, hj, -⟩ := MarkerSet.suffix_of_mem_hitsFrom u hmem
      have hlast := h.1.1
      omega
  refine ⟨hquiet, ?_⟩
  rw [hquiet, List.nil_append] at h
  cases hf : (r.feed (r.stateFrom root u) c).2 with
  | none => rw [hf] at h; cases h
  | some m' => rw [hf] at h; simpa using h

/-- A piece and the word that ends it: no marker is seen up to the last character,
and with that one the marker is. -/
theorem Faithful.snoc_of_ends (hr : r.Faithful) {c : Cut} (hc : r.Ends c) :
    ∃ u d, c.raw ++ r.word c.marker = u ++ [d] ∧ r.hits u = [] ∧
      (r.feed (r.stateFrom root u) d).2 = some c.marker := by
  have hne : c.raw ++ r.word c.marker ≠ [] := by
    intro hnil
    exact hr.legal.nonempty c.marker (List.append_eq_nil_iff.mp hnil).2
  obtain ⟨u, d, hud⟩ : ∃ u d, c.raw ++ r.word c.marker = u ++ [d] :=
    ⟨_, _, (List.dropLast_append_getLast hne).symm⟩
  have hhits : r.hits (u ++ [d]) = [(u.length, c.marker)] := by simpa [Ends, hud] using hc
  exact ⟨u, d, hud, hr.quiet_of_hits_snoc hhits⟩

/-- Behind a piece and its word every character is read as by a fresh
detector. -/
theorem Faithful.feed_after_ends (hr : r.Faithful) {c : Cut} (hc : r.Ends c) (d : Char) :
    r.feed (r.stateFrom root (c.raw ++ r.word c.marker)) d = r.feed root d := by
  obtain ⟨u, e, hue, -, hsee⟩ := hr.snoc_of_ends hc
  rw [hue, stateFrom_append]
  exact hr.feed_after_marker hsee d

theorem Faithful.cut_of_ends (hr : r.Faithful) {c : Cut} (hc : r.Ends c) (t : Text) :
    r.cut (c.raw ++ r.word c.marker ++ t) = (r.cut t).cons c := by
  obtain ⟨raw, m⟩ := c
  obtain ⟨u, d, hud, hquiet, hsee⟩ := hr.snoc_of_ends hc
  -- The piece grows up to the last character, and with that one the marker is seen.
  have hstart : raw ++ r.word m ++ t = u ++ d :: t := by
    simp only at hud
    rw [hud]
    simp
  rw [cut, hstart, r.cutFrom_quiet (d :: t) u hquiet, List.append_nil, cutFrom]
  have hrestart := hr.feed_after_marker hsee
  generalize r.feed (r.stateFrom root u) d = f at hsee hrestart
  obtain ⟨s', _ | m'⟩ := f
  · cases hsee
  · cases hsee
    simp only [piece_of_append hud, cutFrom_congr hrestart]
    rfl

theorem Confirms.cons {d : Division} {c : Cut} {t : Text} (h : r.Confirms d t) (hc : r.Ends c) :
    r.Confirms (d.cons c) (c.raw ++ r.word c.marker ++ t) where
  whole := by
    rw [← h.whole]
    rfl
  ends := by
    intro c' hmem
    rcases List.mem_cons.mp hmem with rfl | hmem
    · exact hc
    · exact h.ends c' hmem
  quiet := h.quiet

/-- The rest of a text is divided as a fresh detector divides it together with
what has been read since the last marker. The induction is on the rest. -/
theorem Faithful.confirms_cutFrom (hr : r.Faithful) (t : Text) : ∀ {u : Text}, r.hits u = [] →
    r.Confirms (r.cutFrom (r.stateFrom root u) u.reverse t) (u ++ t) := by
  induction t with
  | nil =>
    intro u hu
    rw [cutFrom, List.reverse_reverse, List.append_nil]
    exact ⟨rfl, by simp, hu⟩
  | cons c t ih =>
    intro u hu
    have hsnoc := r.hits_snoc u c
    rw [hu, List.nil_append] at hsnoc
    have hrestart := @Faithful.feed_after_marker r hr u c
    have hsuffix := @Faithful.word_suffix r hr u c
    have hstate : r.stateFrom root (u ++ [c]) = (r.feed (r.stateFrom root u) c).1 := by
      rw [stateFrom_append]
      rfl
    have happ : u ++ c :: t = u ++ [c] ++ t := by simp
    rw [cutFrom, happ]
    generalize r.feed (r.stateFrom root u) c = f at *
    obtain ⟨s', _ | m⟩ := f
    · -- No marker is seen: the piece grows by the character.
      have hgrown := ih hsnoc
      rw [hstate, List.reverse_append] at hgrown
      exact hgrown
    · -- The piece ends here, and what follows is read as by a fresh detector.
      obtain ⟨raw, hraw⟩ := hsuffix rfl
      have hends : r.Ends ⟨raw, m⟩ := by
        rw [Ends, hraw, hsnoc]
        simp
      simp only [piece_of_append hraw, cutFrom_congr (hrestart rfl), ← hraw]
      exact (ih (u := []) rfl).cons hends

/-- The division of a text is the one that fresh detectors confirm. -/
theorem Faithful.cut_eq_iff (hr : r.Faithful) {t : Text} {d : Division} :
    r.cut t = d ↔ r.Confirms d t := by
  constructor
  · intro heq
    subst heq
    exact hr.confirms_cutFrom t (u := []) rfl
  · obtain ⟨cs, tail⟩ := d
    induction cs generalizing t with
    | nil =>
      intro hconfirms
      obtain ⟨rfl, -, hquiet⟩ := hconfirms
      exact cut_of_quiet hquiet
    | cons c cs ih =>
      intro hconfirms
      obtain ⟨rfl, hends, hquiet⟩ := hconfirms
      have hrest := ih ⟨rfl, fun c' hc' => hends c' (List.mem_cons_of_mem _ hc'), hquiet⟩
      rw [rejoin, hr.cut_of_ends (hends c List.mem_cons_self)]
      exact congrArg _ hrest

end Recognizer

end ScriptedTemplate
