import ScriptedTemplate.Proofs.Marker.Detector

/-
  Search by leftmost occurrences — which marker sets are never missed

  A plain search looks for a word at every place, from the left, and goes on after
  each word it finds. The detector gives up a partial word with all of its
  characters, so it misses a word that begins inside them. Whether that can happen
  is a matter of the words alone: some beginning `p` of a word must end in a text
  `s` that is a word already, or that goes on to one where `p` does not.

  What is proved:
    1. `Legal.scanFrom_detects` — without such an overlap the search obeys the laws of
       detection, since no word begins inside a partial word that stops.
    2. `Overlap.missed` — each overlap gives a text in which the search finds a
       word and the detector does not see it.
    3. `hits_eq_scan_iff` — the two together; words of two characters at most have
       no overlap.
-/

namespace ScriptedTemplate

namespace MarkerSet

/-- The marker whose word a text begins with. -/
def starting? (ms : MarkerSet) (t : Text) : Option Marker :=
  Marker.all.find? fun m => (ms.word m).isPrefixOf t

/-- The markers found from place `i` on, each with the place of its last
character. -/
def scanFrom (ms : MarkerSet) (i : Nat) : Text → List (Nat × Marker)
  | [] => []
  | c :: t =>
    match ms.starting? (c :: t) with
    | some m => (i + (ms.word m).length - 1, m) ::
        ms.scanFrom (i + (ms.word m).length) (t.drop ((ms.word m).length - 1))
    | none => ms.scanFrom (i + 1) t
termination_by t => t.length
decreasing_by
  all_goals simp only [List.length_drop, List.length_cons]; omega

/-- The markers found in a text. -/
def scan (ms : MarkerSet) (t : Text) : List (Nat × Marker) := ms.scanFrom 0 t

/-- A text `p` that begins a word without being that word ends in a shorter text
`s`, and `s` is a word or goes on to one with a character with which `p` does
not go on. -/
structure Overlap (ms : MarkerSet) (p s : Text) : Prop where
  begins : p ≠ [] ∧ ∃ m, p <+: ms.word m ∧ p ≠ ms.word m
  inside : s ≠ [] ∧ s <:+ p ∧ s ≠ p
  reaches : (∃ m, s = ms.word m) ∨ ∃ c, ms.Begins (s ++ [c]) ∧ ¬ ms.Begins (p ++ [c])

variable {ms : MarkerSet}

theorem starting?_eq_none_iff {t : Text} : ms.starting? t = none ↔ ∀ m, ¬ ms.word m <+: t := by
  simp only [starting?, List.find?_eq_none, List.isPrefixOf_iff_prefix]
  constructor
  · intro h m
    exact h m (by cases m <;> decide)
  · intro h m _
    exact h m

theorem Legal.starting?_eq_some_iff (h : ms.Legal) {t : Text} {m : Marker} :
    ms.starting? t = some m ↔ ms.word m <+: t := by
  constructor
  · intro hm
    simpa using List.find?_some hm
  · intro hm
    cases hs : ms.starting? t with
    | none => exact absurd hm (starting?_eq_none_iff.mp hs m)
    | some m' =>
      have hm' : ms.word m' <+: t := by simpa using List.find?_some hs
      rcases List.prefix_or_prefix_of_prefix hm hm' with hle | hle
      · rw [h.apart m m' hle]
      · rw [h.apart m' m hle]

theorem Legal.partial_iff (h : ms.Legal) {p : Text} :
    ms.Partial p ↔ p ≠ [] ∧ ∃ m, p <+: ms.word m ∧ p ≠ ms.word m := by
  constructor
  · intro hp
    obtain ⟨hne, ⟨m, hm⟩, hword⟩ := hp
    exact ⟨hne, m, hm, fun heq => ending?_eq_none_iff.mp hword m heq.symm⟩
  · intro hproper
    obtain ⟨hne, m, hm, hnot⟩ := hproper
    refine ⟨hne, ⟨m, hm⟩, ending?_eq_none_iff.mpr ?_⟩
    intro m' heq
    subst heq
    exact hnot (by rw [h.apart m' m hm])

theorem Legal.partial_of_prefix (h : ms.Legal) {p q : Text} (hq : ms.Partial q) (hne : p ≠ [])
    (hpq : p <+: q) : ms.Partial p := by
  refine ⟨hne, hq.begins.of_prefix hpq, ending?_eq_none_iff.mpr ?_⟩
  intro m heq
  subst heq
  have hword := h.eq_of_word_prefix hq.begins hpq
  exact ending?_eq_none_iff.mp hq.no_word m hword.symm

/-! ## Without an overlap nothing is missed -/

theorem scanFrom_of_starting {i : Nat} {t : Text} {m : Marker} (hm : ms.starting? t = some m)
    (hne : ms.word m ≠ []) (ht : ms.word m <+: t) : ms.scanFrom i t =
      (i + (ms.word m).length - 1, m) ::
        ms.scanFrom (i + (ms.word m).length) (t.drop (ms.word m).length) := by
  cases t with
  | nil => exact absurd (List.prefix_nil.mp ht) hne
  | cons c t =>
    obtain ⟨n, hn⟩ := Nat.exists_eq_succ_of_ne_zero (mt List.length_eq_zero_iff.mp hne)
    rw [scanFrom]
    simp [hm, hn]

/-- Where no word begins at any place of `p`, all of `p` is passed over. -/
theorem scanFrom_append {t : Text} (p : Text) : ∀ {i : Nat},
    (∀ j < p.length, ms.starting? ((p ++ t).drop j) = none) →
      ms.scanFrom i (p ++ t) = ms.scanFrom (i + p.length) t := by
  induction p with
  | nil => intro i _; rfl
  | cons c p ih =>
    intro i h
    have hfirst : ms.starting? (c :: (p ++ t)) = none := h 0 (by simp)
    have hrest : ∀ j < p.length, ms.starting? ((p ++ t).drop j) = none := by
      intro j hj
      exact h (j + 1) (by simpa using hj)
    have hlen : i + (c :: p).length = i + 1 + p.length := by simp; omega
    rw [List.cons_append, scanFrom, hfirst, hlen]
    exact ih hrest

/-- No word begins inside a partial word that stops: it would end there too, or
go on where the partial word stops, and either is an overlap. -/
theorem Legal.starting?_inside (h : ms.Legal) (hsafe : ∀ p s, ¬ ms.Overlap p s) {p t : Text}
    (hp : ms.Partial p) (hstop : ms.Stops p t) {j : Nat} (hj : j < p.length) :
    ms.starting? ((p ++ t).drop j) = none := by
  rw [starting?_eq_none_iff, List.drop_append_of_le_length (by omega)]
  intro m hm
  have hsplit : p.take j ++ p.drop j = p := List.take_append_drop j p
  rcases List.prefix_or_prefix_of_prefix hm (List.prefix_append _ _) with hin | hout
  · -- The word ends inside `p`: take the beginning of `p` that ends with it.
    have hbegin : p.take j ++ ms.word m <+: p := by
      conv_rhs => rw [← hsplit]
      exact List.prefix_append_right_inj _ |>.mpr hin
    have hpart := h.partial_of_prefix hp (by simp [h.nonempty m]) hbegin
    refine hsafe _ (ms.word m) ⟨h.partial_iff.mp hpart, ⟨h.nonempty m, List.suffix_append _ _, ?_⟩,
      .inl ⟨m, rfl⟩⟩
    intro heq
    exact ending?_eq_none_iff.mp hpart.no_word m heq
  · -- The word begins in `p` and goes on with the first character of `t`.
    obtain ⟨v, hv⟩ := hout
    cases v with
    | nil =>
      have hbegin : p.take j ++ ms.word m = p := by
        rw [← hv, List.append_nil, hsplit]
      have hne : p ≠ ms.word m := fun heq => ending?_eq_none_iff.mp hp.no_word m heq.symm
      exact hsafe p (ms.word m) ⟨h.partial_iff.mp hp, ⟨h.nonempty m, ⟨_, hbegin⟩, hne.symm⟩,
        .inl ⟨m, rfl⟩⟩
    | cons c v =>
      have hgo : ms.Begins (p.drop j ++ [c]) := ⟨m, v, by simpa using hv⟩
      have hhead : c ∈ t.head? := by
        rw [← hv, List.prefix_append_right_inj] at hm
        obtain ⟨t', rfl⟩ := hm
        rfl
      have hne : p.drop j ≠ p := by
        intro heq
        rw [heq] at hgo
        exact hstop c hhead hgo
      have hdrop : p.drop j ≠ [] := by
        rw [Ne, List.drop_eq_nil_iff]
        omega
      exact hsafe p (p.drop j) ⟨h.partial_iff.mp hp, ⟨hdrop, List.drop_suffix _ _, hne⟩,
        .inr ⟨c, hgo, hstop c hhead⟩⟩

/-- Without an overlap the search obeys the laws of detection. -/
theorem Legal.scanFrom_detects (h : ms.Legal) (hsafe : ∀ p s, ¬ ms.Overlap p s) :
    ms.Detects ms.scanFrom where
  nil := by
    intro i
    rw [scanFrom]
  word := by
    intro m i t
    have hpre : ms.word m <+: ms.word m ++ t := List.prefix_append _ _
    rw [scanFrom_of_starting (h.starting?_eq_some_iff.mpr hpre) (h.nonempty m) hpre,
      List.drop_left]
  abandon := by
    intro p t hp hstop i
    exact scanFrom_append p fun j hj => h.starting?_inside hsafe hp hstop hj
  skip := by
    intro c hc i t
    refine scanFrom_append [c] ?_
    intro j hj
    have hzero : j = 0 := by simpa using hj
    subst hzero
    rw [starting?_eq_none_iff]
    intro m hm
    obtain ⟨d, w, hw⟩ := List.exists_cons_of_ne_nil (h.nonempty m)
    rw [hw] at hm
    obtain ⟨rfl, -⟩ := List.cons_prefix_cons.mp hm
    exact hc ⟨m, w, by simpa using hw.symm⟩

/-! ## Every overlap is missed somewhere -/

/-- Where a word stands, the search finds a word that begins there or before. -/
theorem Legal.exists_mem_scanFrom (h : ms.Legal) {m : Marker} (t : Text) : ∀ {i j : Nat},
    ms.word m <+: t.drop j →
      ∃ e m', (e, m') ∈ ms.scanFrom i t ∧ e + 1 ≤ i + j + (ms.word m').length := by
  induction t with
  | nil =>
    intro i j hm
    rw [List.drop_nil] at hm
    exact absurd (List.prefix_nil.mp hm) (h.nonempty m)
  | cons c t ih =>
    intro i j hm
    rw [scanFrom]
    cases hs : ms.starting? (c :: t) with
    | some m' =>
      have hpos := List.length_pos_of_ne_nil (h.nonempty m')
      exact ⟨_, m', List.mem_cons_self, by omega⟩
    | none =>
      cases j with
      | zero => exact absurd hm (starting?_eq_none_iff.mp hs m)
      | succ j =>
        obtain ⟨e, m', hmem, hle⟩ := ih (i := i + 1) hm
        exact ⟨e, m', hmem, by omega⟩

theorem Legal.hitsFrom_partial (h : ms.Legal) (q t : Text) : ∀ (p : Text) (i : Nat),
    ms.Partial (p ++ q) → ms.hitsFrom p i (q ++ t) = ms.hitsFrom (p ++ q) (i + q.length) t := by
  induction q with
  | nil => intro p i _; simp
  | cons c q ih =>
    intro p i hp
    have happ : p ++ c :: q = p ++ [c] ++ q := by simp
    have hpart := h.partial_of_prefix hp (p := p ++ [c]) (by simp) ⟨q, happ.symm⟩
    have hlen : i + (c :: q).length = i + 1 + q.length := by simp; omega
    rw [List.cons_append, hitsFrom, follow_of_begins hpart.begins, hpart.no_word, happ, hlen]
    exact ih _ _ (happ ▸ hp)

/-- An overlap gives a text in which a word is missed: `p` itself, or `p` with
what completes the word that `s` begins. -/
theorem Overlap.missed {p s : Text} (ho : ms.Overlap p s) (h : ms.Legal) :
    ∃ t, ms.hitsFrom [] 0 t ≠ ms.scan t := by
  have hp := h.partial_iff.mpr ho.begins
  obtain ⟨hs, ⟨u, hu⟩, hne⟩ := ho.inside
  have hlen : u.length + s.length = p.length := by rw [← hu, List.length_append]
  have hpos := List.length_pos_of_ne_nil hs
  have hread : ∀ t, ms.hitsFrom [] 0 (p ++ t) = ms.hitsFrom p p.length t := by
    intro t
    simpa using h.hitsFrom_partial p t [] 0 hp
  rcases ho.reaches with ⟨m, rfl⟩ | ⟨c, ⟨m, v, hm⟩, hstop⟩
  · refine ⟨p ++ [], fun heq => ?_⟩
    have hstands : ms.word m <+: (p ++ []).drop u.length := by
      rw [List.append_nil, ← hu, List.drop_left]
    obtain ⟨e, m', hmem, -⟩ := h.exists_mem_scanFrom (i := 0) _ hstands
    rw [← scan, ← heq, hread] at hmem
    cases hmem
  · refine ⟨p ++ c :: v, fun heq => ?_⟩
    have hstands : ms.word m <+: (p ++ c :: v).drop u.length := by
      rw [← hu, List.append_assoc, List.drop_left, ← hm]
      simp
    obtain ⟨e, m', hmem, hle⟩ := h.exists_mem_scanFrom (i := 0) _ hstands
    -- The detector starts anew at `c`, so all that it sees begins after `p`.
    rw [← scan, ← heq, hread, hitsFrom_cons_of_not_begins hstop] at hmem
    have hbegin := length_le_of_mem_hitsFrom hmem
    omega

/-! ## Agreement -/

/-- Words of two characters at most have no overlap: a text in a proper beginning
of one would be empty. -/
theorem not_overlap_of_short (hshort : ∀ m, (ms.word m).length ≤ 2) (p s : Text) :
    ¬ ms.Overlap p s := by
  intro ho
  obtain ⟨⟨-, m, hpm, hne⟩, ⟨hs, hsp, hsne⟩, -⟩ := ho
  have hp : p.length < (ms.word m).length := by
    refine lt_of_le_of_ne hpm.length_le ?_
    intro heq
    exact hne (hpm.eq_of_length heq)
  have hsl : s.length < p.length := by
    refine lt_of_le_of_ne hsp.length_le ?_
    intro heq
    exact hsne (hsp.eq_of_length heq)
  have hpos := List.length_pos_of_ne_nil hs
  have htwo := hshort m
  omega

theorem overlap_repetitive : repetitive.Overlap ['a', 'a'] ['a'] where
  begins := ⟨by decide, .codeBegin, by decide, by decide⟩
  inside := ⟨by decide, by decide, by decide⟩
  reaches := .inr ⟨'a', by decide, by decide⟩

end MarkerSet

/-- The detector finds in every text what the plain search finds exactly when no
beginning of a word has an overlap. It does when no word has more than two
characters, as with the standard words; with the word `aab` it does not. -/
theorem hits_eq_scan_iff {ms : MarkerSet} {r : Recognizer} (h : Recognizer.build ms = .ok r) :
    ((∀ t, r.hits t = ms.scan t) ↔ ¬ ∃ p s, ms.Overlap p s) ∧
    ((∀ m, (ms.word m).length ≤ 2) → ∀ t, r.hits t = ms.scan t) ∧
    (ms = .standard → ∀ t, r.hits t = ms.scan t) ∧
    (ms = .repetitive → ∃ t, r.hits t ≠ ms.scan t) := by
  obtain ⟨rfl, hr⟩ := Recognizer.build_faithful h
  have hagree : (∀ p s, ¬ r.markers.Overlap p s) → ∀ t, r.hits t = r.markers.scan t := by
    intro hsafe t
    rw [hr.hits_eq]
    exact ((hr.legal.scanFrom_detects hsafe).eq_hitsFrom hr.legal t [] 0 (.inl rfl)).symm
  have hdiffer : ∀ {p s}, r.markers.Overlap p s → ∃ t, r.hits t ≠ r.markers.scan t := by
    intro p s ho
    obtain ⟨t, ht⟩ := ho.missed hr.legal
    exact ⟨t, by rwa [hr.hits_eq]⟩
  refine ⟨⟨?_, ?_⟩, ?_, ?_, ?_⟩
  · intro hall hoverlap
    obtain ⟨p, s, ho⟩ := hoverlap
    obtain ⟨t, ht⟩ := hdiffer ho
    exact ht (hall t)
  · intro hnone
    exact hagree fun p s ho => hnone ⟨p, s, ho⟩
  · intro hshort
    exact hagree (MarkerSet.not_overlap_of_short hshort)
  · intro hms
    refine hagree (MarkerSet.not_overlap_of_short ?_)
    rw [hms]
    intro m
    cases m <;> decide
  · intro hms
    exact hdiffer (hms ▸ MarkerSet.overlap_repetitive)

/-- The standard words are never missed, and `aab` is. -/
theorem hits_eq_scan_standard_repetitive :
    (∃ r, Recognizer.build .standard = .ok r ∧ ∀ t, r.hits t = MarkerSet.standard.scan t) ∧
    (∃ r, Recognizer.build .repetitive = .ok r ∧
      ∃ t, r.hits t ≠ MarkerSet.repetitive.scan t) := by
  obtain ⟨r, hr⟩ : ∃ r, Recognizer.build .standard = .ok r := ⟨_, rfl⟩
  obtain ⟨r', hr'⟩ : ∃ r, Recognizer.build .repetitive = .ok r := ⟨_, rfl⟩
  obtain ⟨-, -, hstandard, -⟩ := hits_eq_scan_iff hr
  obtain ⟨-, -, -, hrepetitive⟩ := hits_eq_scan_iff hr'
  exact ⟨⟨r, hr, hstandard rfl⟩, ⟨r', hr', hrepetitive rfl⟩⟩

end ScriptedTemplate
