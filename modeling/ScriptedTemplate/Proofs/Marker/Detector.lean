import ScriptedTemplate.Marker.Detector
import ScriptedTemplate.Proofs.Marker.Trie

/-
  The detector over texts — detection without nodes

  The node that the detector holds stands for a text: what it has in hand of a
  word. `MarkerSet.follow` says what it has in hand after one more character, and
  `MarkerSet.hitsFrom` is detection told on these texts. On a faithful recognizer
  the two detectors see the same (`Faithful.hits_eq`), so what is proved of
  `hitsFrom` needs no trie.

  What is proved about detection:
    1. `suffix_of_mem_hitsFrom` — a marker that is seen stands in the text, with
       its last character where it is said to be.
    2. `hitsFrom_pairwise` — no two markers that are seen share a character.
    3. `Detects.eq_hitsFrom` — four laws determine what is seen: whatever lists
       markers and satisfies them agrees with the detector.
-/

namespace ScriptedTemplate

namespace MarkerSet

/-- What is in hand after one more character: what was in hand and the character,
if that begins a word; else the character alone, if that begins one. -/
def follow (ms : MarkerSet) (p : Text) (c : Char) : Text :=
  if ms.Begins (p ++ [c]) then p ++ [c] else if ms.Begins [c] then [c] else []

/-- The markers seen while reading on with `p` in hand, each with the place of
its last character; `i` is the place of the first character read. -/
def hitsFrom (ms : MarkerSet) (p : Text) (i : Nat) : Text → List (Nat × Marker)
  | [] => []
  | c :: t =>
    match ms.ending? (ms.follow p c) with
    | some m => (i, m) :: ms.hitsFrom (ms.follow p c) (i + 1) t
    | none => ms.hitsFrom (ms.follow p c) (i + 1) t

variable {ms : MarkerSet}

theorem follow_of_begins {p : Text} {c : Char} (h : ms.Begins (p ++ [c])) :
    ms.follow p c = p ++ [c] := if_pos h

theorem follow_of_not_begins {p : Text} {c : Char} (h : ¬ ms.Begins (p ++ [c])) :
    ms.follow p c = ms.follow [] c := by
  simp only [follow, if_neg h, List.nil_append]
  split <;> rfl

/-- What is in hand is always the last that was read. -/
theorem follow_suffix (ms : MarkerSet) (p : Text) (c : Char) : ms.follow p c <:+ p ++ [c] := by
  simp only [follow]
  split
  · exact List.suffix_rfl
  · split
    · exact List.suffix_append _ _
    · exact List.nil_suffix

theorem Legal.follow_word (h : ms.Legal) (m : Marker) (c : Char) :
    ms.follow (ms.word m) c = ms.follow [] c := by
  apply follow_of_not_begins
  intro hb
  have := h.eq_of_word_prefix hb (List.prefix_append _ _)
  simp at this

theorem hitsFrom_congr {p q : Text} (h : ∀ c, ms.follow p c = ms.follow q c) (i : Nat) (t : Text) :
    ms.hitsFrom p i t = ms.hitsFrom q i t := by
  cases t with
  | nil => rfl
  | cons c t => simp only [hitsFrom, h c]

theorem hitsFrom_cons_of_not_begins {p : Text} {c : Char} (h : ¬ ms.Begins (p ++ [c])) (i : Nat)
    (t : Text) : ms.hitsFrom p i (c :: t) = ms.hitsFrom [] i (c :: t) := by
  simp only [hitsFrom, follow_of_not_begins h]

theorem Legal.hitsFrom_word (h : ms.Legal) (m : Marker) (i : Nat) (t : Text) :
    ms.hitsFrom (ms.word m) i t = ms.hitsFrom [] i t :=
  hitsFrom_congr (h.follow_word m) i t

/-! ## What is seen stands in the text -/

theorem suffix_of_mem_hitsFrom {j : Nat} {m : Marker} (t : Text) : ∀ {p : Text} {i : Nat},
    (j, m) ∈ ms.hitsFrom p i t →
      i ≤ j ∧ j < i + t.length ∧ ms.word m <:+ p ++ t.take (j + 1 - i) := by
  induction t with
  | nil => intro p i h; cases h
  | cons c t ih =>
    intro p i h
    have hlen : (c :: t).length = t.length + 1 := rfl
    have hlater : (j, m) ∈ ms.hitsFrom (ms.follow p c) (i + 1) t →
        i ≤ j ∧ j < i + (c :: t).length ∧ ms.word m <:+ p ++ (c :: t).take (j + 1 - i) := by
      intro hmem
      obtain ⟨hij, hj, hsuf⟩ := ih hmem
      refine ⟨by omega, by omega, ?_⟩
      obtain ⟨k, hk⟩ : ∃ k, j + 1 - i = k + 1 := ⟨j - i, by omega⟩
      have hk' : j + 1 - (i + 1) = k := by omega
      rw [hk'] at hsuf
      rw [hk, List.take_succ_cons]
      have hfollow := ms.follow_suffix p c
      obtain ⟨v, hv⟩ := hfollow
      refine hsuf.trans ⟨v, ?_⟩
      rw [← List.append_assoc, hv]
      simp
    simp only [hitsFrom] at h
    split at h
    · next m' hm' =>
      rcases List.mem_cons.mp h with heq | hmem
      · obtain ⟨rfl, rfl⟩ := Prod.mk.inj heq
        refine ⟨Nat.le_refl _, by omega, ?_⟩
        have hone : j + 1 - j = 1 := by omega
        rw [word_of_ending? hm', hone]
        simpa using ms.follow_suffix p c
      · exact hlater hmem
    · exact hlater h

/-- A marker that is seen with nothing in hand lies in what is read. -/
theorem length_le_of_mem_hitsFrom {i j : Nat} {m : Marker} {t : Text}
    (h : (j, m) ∈ ms.hitsFrom [] i t) : i + (ms.word m).length ≤ j + 1 := by
  obtain ⟨hij, -, hsuf⟩ := suffix_of_mem_hitsFrom t h
  have hle := hsuf.length_le
  simp only [List.nil_append, List.length_take] at hle
  omega

theorem Legal.hitsFrom_pairwise (h : ms.Legal) (t : Text) : ∀ (p : Text) (i : Nat),
    (ms.hitsFrom p i t).Pairwise fun a b => a.1 + (ms.word b.2).length ≤ b.1 := by
  induction t with
  | nil => intro p i; exact List.Pairwise.nil
  | cons c t ih =>
    intro p i
    simp only [hitsFrom]
    split
    · next m hm =>
      rw [← word_of_ending? hm, h.hitsFrom_word]
      refine List.Pairwise.cons ?_ (ih [] (i + 1))
      intro e hmem
      obtain ⟨j, m'⟩ := e
      have hle := length_le_of_mem_hitsFrom hmem
      show i + (ms.word m').length ≤ j
      omega
    · exact ih _ _

/-! ## What detection is known by -/

/-- A beginning of a word that is no word, and not empty. -/
structure Partial (ms : MarkerSet) (p : Text) : Prop where
  nonempty : p ≠ []
  begins : ms.Begins p
  no_word : ms.ending? p = none

/-- `p` does not go on into `t`: nothing follows, or a character with which it
begins no word. -/
def Stops (ms : MarkerSet) (p t : Text) : Prop := ∀ c ∈ t.head?, ¬ ms.Begins (p ++ [c])

/-- The laws of detection, for a function that lists markers with their places:
a word is reported and reading goes on after it; a partial word that stops is
passed over as a whole; a character that begins no word is passed over. -/
structure Detects (ms : MarkerSet) (f : Nat → Text → List (Nat × Marker)) : Prop where
  nil : ∀ i, f i [] = []
  word : ∀ m i t, f i (ms.word m ++ t) =
    (i + (ms.word m).length - 1, m) :: f (i + (ms.word m).length) t
  abandon : ∀ {p t}, ms.Partial p → ms.Stops p t → ∀ i, f i (p ++ t) = f (i + p.length) t
  skip : ∀ {c}, ¬ ms.Begins [c] → ∀ i t, f i (c :: t) = f (i + 1) t

/-- The laws leave no choice: what satisfies them sees what the detector sees.
The induction is on the text still to be read, with a partial word in hand. -/
theorem Detects.eq_hitsFrom {f : Nat → Text → List (Nat × Marker)} (hf : ms.Detects f)
    (h : ms.Legal) (t : Text) : ∀ (p : Text) (i : Nat), p = [] ∨ ms.Partial p →
      f i (p ++ t) = ms.hitsFrom p (i + p.length) t := by
  induction t with
  | nil =>
    intro p i hcase
    rcases hcase with rfl | hp
    · exact hf.nil i
    · rw [hf.abandon hp (by simp [Stops]) i, hf.nil]
      rfl
  | cons c t ih =>
    -- With a character that goes on, the word is complete or still partial.
    have hgo : ∀ (p : Text) (i : Nat), ms.Begins (p ++ [c]) →
        f i (p ++ c :: t) = ms.hitsFrom p (i + p.length) (c :: t) := by
      intro p i hb
      have happ : p ++ c :: t = p ++ [c] ++ t := by simp
      have hlen : i + (p ++ [c]).length = i + p.length + 1 := by simp; omega
      simp only [hitsFrom, follow_of_begins hb]
      split
      · next m hm =>
        have hw := word_of_ending? hm
        have ih := ih [] (i + (ms.word m).length) (.inl rfl)
        simp only [List.nil_append, List.length_nil, Nat.add_zero] at ih
        rw [happ, ← hw, hf.word, ih, h.hitsFrom_word, hw, hlen]
        rfl
      · next hm =>
        rw [happ, ih (p ++ [c]) i (.inr ⟨by simp, hb, hm⟩), hlen]
    have hfresh : ∀ i, f i (c :: t) = ms.hitsFrom [] i (c :: t) := by
      intro i
      by_cases hc : ms.Begins [c]
      · exact hgo [] i hc
      · have hfollow : ms.follow [] c = [] := by simp [follow, hc]
        simp only [hitsFrom, hfollow, h.ending?_nil]
        rw [hf.skip hc]
        exact ih [] (i + 1) (.inl rfl)
    intro p i hp
    by_cases hb : ms.Begins (p ++ [c])
    · exact hgo p i hb
    · rw [hitsFrom_cons_of_not_begins hb]
      rcases hp with rfl | hp
      · exact hfresh i
      · rw [hf.abandon hp (by simpa [Stops] using hb), hfresh]

end MarkerSet

/-! ## The detector on the trie -/

namespace Recognizer

open Trie (root)

variable {r : Recognizer}

theorem Faithful.marker_eq (hr : r.Faithful) {p : Text} {s : Nat}
    (hs : r.trie.walk root p = some s) : r.trie.marker s = r.markers.ending? p := by
  apply Option.ext
  intro m
  rw [hr.marker_iff hs, hr.legal.ending?_eq_some_iff]
  rfl

theorem Faithful.feed (hr : r.Faithful) {p : Text} {s : Nat} (hs : r.trie.walk root p = some s)
    (c : Char) : r.trie.walk root (r.markers.follow p c) = some (r.feed s c).1 ∧
      (r.feed s c).2 = r.markers.ending? (r.markers.follow p c) := by
  by_cases hgo : r.markers.Begins (p ++ [c])
  · -- The edge is there.
    obtain ⟨n, hn⟩ := (hr.walk_isSome _).mpr hgo
    have hnext : r.trie.next s c = some n := by rw [← Trie.walk_snoc hs, hn]
    have hfeed : r.feed s c = (n, r.trie.marker n) := by simp [Recognizer.feed, hnext]
    rw [MarkerSet.follow_of_begins hgo, hfeed]
    exact ⟨hn, hr.marker_eq hn⟩
  · -- No edge: the character is tried once more from the root.
    have hnext : r.trie.next s c = none := by
      cases hn : r.trie.next s c with
      | none => rfl
      | some n => exact absurd ((hr.walk_isSome _).mp ⟨n, (Trie.walk_snoc hs c).trans hn⟩) hgo
    have hfrom : (if s ≠ root ∧ (r.trie.next s c).isNone then root else s) = root := by
      by_cases hroot : s = root
      · simp [hroot]
      · simp [hroot, hnext]
    have hone : r.trie.walk root [c] = r.trie.next root c := Trie.walk_snoc (p := []) rfl c
    rw [MarkerSet.follow_of_not_begins hgo]
    by_cases hc : r.markers.Begins [c]
    · obtain ⟨n, hn⟩ := (hr.walk_isSome _).mpr hc
      have hfeed : r.feed s c = (n, r.trie.marker n) := by
        rw [Recognizer.feed, hfrom, ← hone, hn]
      rw [MarkerSet.follow_of_begins (p := []) hc, hfeed]
      exact ⟨hn, hr.marker_eq hn⟩
    · have hn : r.trie.walk root [c] = none := by
        cases hn : r.trie.walk root [c] with
        | none => rfl
        | some n => exact absurd ((hr.walk_isSome _).mp ⟨n, hn⟩) hc
      have hfeed : r.feed s c = (root, none) := by
        rw [Recognizer.feed, hfrom, ← hone, hn]
      have hfollow : r.markers.follow [] c = [] := by simp [MarkerSet.follow, hc]
      rw [hfollow, hfeed]
      exact ⟨rfl, hr.legal.ending?_nil.symm⟩

theorem Faithful.feed_foreign (hr : r.Faithful) {p : Text} {s : Nat}
    (hs : r.trie.walk root p = some s) {c : Char} (hc : ∀ m, c ∉ r.markers.word m) :
    r.feed s c = (root, none) := by
  have hbegins : ∀ q : Text, ¬ r.markers.Begins (q ++ [c]) := by
    intro q hb
    obtain ⟨m, hm⟩ := hb
    exact hc m (hm.subset (by simp))
  have hfollow : r.markers.follow p c = [] := by
    simp only [MarkerSet.follow, if_neg (hbegins p)]
    exact if_neg (hbegins [])
  obtain ⟨hwalk, hmarker⟩ := hr.feed hs c
  rw [hfollow] at hwalk hmarker
  exact Prod.ext (Option.some.inj hwalk).symm (hmarker.trans hr.legal.ending?_nil)

theorem Faithful.hitsFrom_eq (hr : r.Faithful) (t : Text) : ∀ {p : Text} {s : Nat},
    r.trie.walk root p = some s → ∀ i, r.hitsFrom s i t = r.markers.hitsFrom p i t := by
  induction t with
  | nil => intro p s _ i; rfl
  | cons c t ih =>
    intro p s hs i
    obtain ⟨hwalk, hmarker⟩ := hr.feed hs c
    simp only [Recognizer.hitsFrom, MarkerSet.hitsFrom]
    rw [← hmarker]
    have ih := ih hwalk (i + 1)
    generalize r.feed s c = f at ih ⊢
    obtain ⟨s', _ | m⟩ := f
    · exact ih
    · exact congrArg _ ih

/-- What the detector sees in a text. -/
theorem Faithful.hits_eq (hr : r.Faithful) (t : Text) : r.hits t = r.markers.hitsFrom [] 0 t :=
  hr.hitsFrom_eq t rfl 0

end Recognizer

end ScriptedTemplate
