import ScriptedTemplate.Marker.Trie
import ScriptedTemplate.Proofs.Marker.Words
import Mathlib.Data.List.Nodup

/-
  The words of a trie — what each node stands for

  A node stands for the text that leads to it from the root. `Spells t ws` lists
  these texts in the order in which the nodes were made, and says of every edge
  that it leads from the node of `u` to the node of `u ++ [c]`. Entering a word
  appends its beginnings that are not there yet (`Spells.enter`), claiming a node
  changes no word, so after all entries the nodes stand for the beginnings of the
  words, and a node is claimed exactly by the marker whose word it stands for.

  What is proved: `build_faithful` — a marker set that has a recognizer is legal;
  walking a text from the root succeeds exactly for the beginnings of words; and
  the node that it leads to is claimed by a marker exactly when the text is that
  marker's word.
-/

namespace ScriptedTemplate

theorem getElem?_snoc {α : Type} {xs : List α} {x y : α} {j : Nat} :
    (xs ++ [x])[j]? = some y ↔ xs[j]? = some y ∨ (j = xs.length ∧ x = y) := by
  rcases Nat.lt_trichotomy j xs.length with hj | hj | hj
  · rw [List.getElem?_append_left hj]
    constructor
    · exact Or.inl
    · intro hcase
      rcases hcase with h | ⟨h, -⟩
      · exact h
      · omega
  · subst hj
    simp
  · have hout : xs[j]? = none := List.getElem?_eq_none (by omega)
    have hout' : (xs ++ [x])[j]? = none := List.getElem?_eq_none (by simp; omega)
    rw [hout, hout']
    constructor
    · intro h; cases h
    · intro hcase
      rcases hcase with h | ⟨h, -⟩
      · cases h
      · omega

theorem index_unique {α : Type} {xs : List α} {x : α} {i j : Nat} (hd : xs.Nodup)
    (hi : xs[i]? = some x) (hj : xs[j]? = some x) : i = j := by
  have hlt : i < xs.length := (List.getElem?_eq_some_iff.mp hi).1
  exact List.getElem?_inj hlt hd |>.mp (by rw [hi, hj])

namespace Trie

/-- The nodes of `t` stand for the texts `ws`, each for one: the root for the
empty text, and an edge for `c` leads from the node of `u` to that of
`u ++ [c]`. -/
structure Spells (t : Trie) (ws : List Text) : Prop where
  size : ws.length = t.size
  distinct : ws.Nodup
  atRoot : ws[root]? = some []
  edges : ∀ {i : Nat} {u : Text} {n : Node}, ws[i]? = some u → t.nodes[i]? = some n →
    ∀ c j, (c, j) ∈ n.edges ↔ ws[j]? = some (u ++ [c])
  closed : ∀ u c, u ++ [c] ∈ ws → u ∈ ws

/-- The entries `es` have been made: their words have nodes, and a node is
claimed by a marker exactly when its word was entered for that marker. -/
structure Claims (t : Trie) (ws : List Text) (es : List (Marker × Text)) : Prop where
  entered : ∀ e ∈ es, e.2 ∈ ws
  marker_iff : ∀ i m, t.marker i = some m ↔ ∃ w, ws[i]? = some w ∧ (m, w) ∈ es

theorem spells_empty : Spells empty [[]] where
  size := rfl
  distinct := List.nodup_singleton _
  atRoot := rfl
  edges := by
    intro i u n hu hn c j
    have hi : i = 0 := by simpa using (List.getElem?_eq_some_iff.mp hu).1
    subst hi
    simp only [empty, List.getElem?_cons_zero, Option.some.injEq] at hu hn
    subst hu hn
    simp [Node.fresh, List.getElem?_cons]
  closed := by
    intro u c h
    simp at h

theorem claims_empty (ws : List Text) : Claims empty ws [] where
  entered := by
    intro e he
    cases he
  marker_iff := by
    intro i m
    cases i with
    | zero => simp [empty, marker, Node.fresh]
    | succ i => simp [empty, marker]

namespace Spells

variable {t : Trie} {ws : List Text}

theorem node (h : Spells t ws) {i : Nat} {u : Text} (hi : ws[i]? = some u) :
    ∃ n, t.nodes[i]? = some n := by
  have hlt : i < ws.length := (List.getElem?_eq_some_iff.mp hi).1
  have hsize : ws.length = t.nodes.length := h.size
  exact ⟨t.nodes[i], List.getElem?_eq_getElem (by omega)⟩

theorem next_iff (h : Spells t ws) {i : Nat} {u : Text} (hi : ws[i]? = some u) (c : Char)
    (j : Nat) : t.next i c = some j ↔ ws[j]? = some (u ++ [c]) := by
  obtain ⟨n, hn⟩ := h.node hi
  have hedges := h.edges hi hn c
  have hnext : t.next i c = (n.edges.find? fun e => e.1 == c).map (·.2) := by
    simp [next, Node.next, hn]
  rw [hnext, Option.map_eq_some_iff]
  constructor
  · intro hedge
    obtain ⟨⟨d, k⟩, hfind, rfl⟩ := hedge
    have hd : d = c := by simpa using List.find?_some hfind
    subst hd
    exact (hedges k).mp (List.mem_of_find?_eq_some hfind)
  · intro hj
    have hmem := (hedges j).mpr hj
    obtain ⟨⟨d, k⟩, hfind⟩ : ∃ e, n.edges.find? (fun e => e.1 == c) = some e := by
      apply Option.isSome_iff_exists.mp
      rw [List.find?_isSome]
      exact ⟨(c, j), hmem, by simp⟩
    have hd : d = c := by simpa using List.find?_some hfind
    subst hd
    have hk := (hedges k).mp (List.mem_of_find?_eq_some hfind)
    exact ⟨(d, k), hfind, index_unique h.distinct hk hj⟩

/-- Walking a text from the node of `u` leads to the node of the two together. -/
theorem walk_iff (h : Spells t ws) (w : Text) : ∀ {i : Nat} {u : Text}, ws[i]? = some u →
    ∀ j, t.walk i w = some j ↔ ws[j]? = some (u ++ w) := by
  induction w with
  | nil =>
    intro i u hi j
    simp only [walk, Option.some.injEq, List.append_nil]
    constructor
    · intro heq
      subst heq
      exact hi
    · intro hj; exact index_unique h.distinct hi hj
  | cons c w ih =>
    intro i u hi j
    simp only [walk, Option.bind_eq_some_iff]
    constructor
    · intro hpath
      obtain ⟨k, hk, hwalk⟩ := hpath
      have hk' := (h.next_iff hi c k).mp hk
      simpa using (ih hk' j).mp hwalk
    · intro hj
      -- The words are closed under dropping the last character, so `u ++ [c]` has a node.
      have hclosed : ∀ v : Text, u ++ [c] ++ v ∈ ws → u ++ [c] ∈ ws := by
        intro v
        induction v using List.reverseRecOn with
        | nil => intro hm; simpa using hm
        | append_singleton v d ihv =>
          intro hm
          exact ihv (h.closed (u ++ [c] ++ v) d (by simpa using hm))
      have hmem : u ++ [c] ∈ ws := hclosed w (List.mem_of_getElem? (by simpa using hj))
      obtain ⟨k, hk⟩ := List.mem_iff_getElem?.mp hmem
      exact ⟨k, (h.next_iff hi c k).mpr hk, (ih hk j).mpr (by simpa using hj)⟩

theorem grow (h : Spells t ws) {i : Nat} {u : Text} {c : Char} (hi : ws[i]? = some u)
    (hnew : u ++ [c] ∉ ws) : Spells (t.grow i c) (ws ++ [u ++ [c]]) where
  size := by
    have hsize : ws.length = t.nodes.length := h.size
    simp [Trie.grow, Trie.size, hsize]
  distinct := by
    rw [List.nodup_append]
    exact ⟨h.distinct, List.nodup_singleton _, by
      intro x hx y hy heq
      subst heq
      rw [List.mem_singleton.mp hy] at hx
      exact hnew hx⟩
  atRoot := getElem?_snoc.mpr (.inl h.atRoot)
  edges := by
    intro k v n hv hn d j
    have hsize : ws.length = t.nodes.length := h.size
    rw [getElem?_snoc]
    simp only [Trie.grow] at hn
    rcases getElem?_snoc.mp hn with hold | ⟨hk, rfl⟩
    · -- A node that was there: only `i` has an edge more.
      obtain ⟨n₀, hn₀, hmod⟩ : ∃ n₀, t.nodes[k]? = some n₀ ∧
          n = if i = k then { n₀ with edges := n₀.edges ++ [(c, t.size)] } else n₀ := by
        rw [List.getElem?_modify] at hold
        obtain ⟨n₀, hn₀, heq⟩ := Option.map_eq_some_iff.mp hold
        exact ⟨n₀, hn₀, heq.symm⟩
      have hkv : ws[k]? = some v := by
        rcases getElem?_snoc.mp hv with hkv | ⟨hlen, -⟩
        · exact hkv
        · have := (List.getElem?_eq_some_iff.mp hn₀).1
          omega
      have hedges := h.edges hkv hn₀ d
      by_cases hik : i = k
      · subst hik
        have huv : u = v := by rw [hi] at hkv; exact Option.some.inj hkv
        subst huv
        rw [hmod, if_pos rfl, List.mem_append, hedges, List.mem_singleton, Prod.mk.injEq]
        have htsize : t.size = ws.length := h.size.symm
        rw [htsize]
        constructor
        · intro hcase
          rcases hcase with hj | ⟨rfl, rfl⟩
          · exact .inl hj
          · exact .inr ⟨rfl, rfl⟩
        · intro hcase
          rcases hcase with hj | ⟨rfl, hcd⟩
          · exact .inl hj
          · exact .inr ⟨by simpa using hcd.symm, rfl⟩
      · rw [hmod, if_neg hik, hedges]
        constructor
        · exact Or.inl
        · intro hcase
          rcases hcase with hj | ⟨-, hcd⟩
          · exact hj
          · have huv : u = v := (List.append_inj' hcd rfl).1
            subst huv
            exact absurd (index_unique h.distinct hi hkv) hik
    · -- The fresh node: its text goes on in no other.
      have hkv : v = u ++ [c] := by
        rw [List.length_modify, ← hsize] at hk
        rcases getElem?_snoc.mp hv with hold | ⟨-, rfl⟩
        · rw [hk, List.getElem?_eq_none (Nat.le_refl _)] at hold
          cases hold
        · rfl
      subst hkv
      constructor
      · intro hmem
        cases hmem
      · intro hcase
        rcases hcase with hj | ⟨-, hlen⟩
        · exact absurd (h.closed _ d (List.mem_of_getElem? hj)) hnew
        · have := congrArg List.length hlen
          simp at this
  closed := by
    intro v d hv
    rw [List.mem_append, List.mem_singleton] at hv ⊢
    rcases hv with hv | hv
    · exact .inl (h.closed v d hv)
    · have huv : v = u := (List.append_inj' hv rfl).1
      subst huv
      exact .inl (List.mem_of_getElem? hi)

theorem claim (h : Spells t ws) (i : Nat) (m : Marker) : Spells (t.claim i m) ws where
  size := by simpa [Trie.claim, Trie.size] using h.size
  distinct := h.distinct
  atRoot := h.atRoot
  edges := by
    intro k v n hv hn c j
    simp only [Trie.claim, List.getElem?_modify] at hn
    obtain ⟨n₀, hn₀, rfl⟩ := Option.map_eq_some_iff.mp hn
    rw [← h.edges hv hn₀ c j]
    split <;> rfl
  closed := h.closed

end Spells

/-! ## Entering words -/

/-- The words after entering `w` from the node of `u` on: every beginning that
has no node gets one, the shorter first. -/
def enterWords (ws : List Text) (u : Text) : Text → List Text
  | [] => ws
  | c :: w => enterWords (if u ++ [c] ∈ ws then ws else ws ++ [u ++ [c]]) (u ++ [c]) w

theorem mem_enterWords {x : Text} (w : Text) : ∀ {ws : List Text} {u : Text}, u ∈ ws →
    (x ∈ enterWords ws u w ↔ x ∈ ws ∨ ∃ v, v <+: w ∧ x = u ++ v) := by
  induction w with
  | nil =>
    intro ws u hu
    simp only [enterWords, List.prefix_nil]
    constructor
    · exact Or.inl
    · intro hcase
      rcases hcase with hx | ⟨v, rfl, rfl⟩
      · exact hx
      · simpa using hu
  | cons c w ih =>
    intro ws u hu
    have hmem : ∀ y, y ∈ (if u ++ [c] ∈ ws then ws else ws ++ [u ++ [c]]) ↔
        y ∈ ws ∨ y = u ++ [c] := by
      intro y
      by_cases hc : u ++ [c] ∈ ws
      · rw [if_pos hc]
        constructor
        · exact Or.inl
        · intro hcase
          rcases hcase with hy | rfl
          · exact hy
          · exact hc
      · rw [if_neg hc, List.mem_append, List.mem_singleton]
    rw [enterWords, ih ((hmem _).mpr (.inr rfl)), hmem]
    constructor
    · intro hcase
      rcases hcase with (hx | rfl) | ⟨v, hv, rfl⟩
      · exact .inl hx
      · exact .inr ⟨[c], by simp, rfl⟩
      · exact .inr ⟨c :: v, List.cons_prefix_cons.mpr ⟨rfl, hv⟩, by simp⟩
    · intro hcase
      rcases hcase with hx | ⟨v, hv, rfl⟩
      · exact .inl (.inl hx)
      · cases v with
        | nil => exact .inl (.inl (by simpa using hu))
        | cons d v =>
          obtain ⟨rfl, hv'⟩ := List.cons_prefix_cons.mp hv
          exact .inr ⟨v, hv', by simp⟩

theorem enterWords_begins (w : Text) : ∀ (ws : List Text) (u : Text), ws <+: enterWords ws u w := by
  induction w with
  | nil => intro ws u; exact List.prefix_rfl
  | cons c w ih =>
    intro ws u
    rw [enterWords]
    refine List.IsPrefix.trans ?_ (ih _ _)
    split
    · exact List.prefix_rfl
    · exact List.prefix_append _ _

/-- The words after entering the words of some entries, one after the other. -/
def enterAll (ws : List Text) (es : List (Marker × Text)) : List Text :=
  es.foldl (fun ws e => enterWords ws [] e.2) ws

theorem mem_enterAll {x : Text} (es : List (Marker × Text)) : ∀ {ws : List Text}, [] ∈ ws →
    (x ∈ enterAll ws es ↔ x ∈ ws ∨ ∃ e ∈ es, x <+: e.2) := by
  induction es with
  | nil => intro ws _; simp [enterAll]
  | cons e es ih =>
    intro ws hroot
    have hroot' : [] ∈ enterWords ws [] e.2 := (enterWords_begins e.2 ws []).subset hroot
    have hcons : enterAll ws (e :: es) = enterAll (enterWords ws [] e.2) es := rfl
    rw [hcons, ih hroot', mem_enterWords e.2 hroot]
    simp only [List.nil_append, exists_eq_right', List.mem_cons, exists_eq_or_imp, or_assoc]

theorem Spells.enter (w : Text) : ∀ {t : Trie} {ws : List Text} {i : Nat} {u : Text},
    Spells t ws → ws[i]? = some u → Spells (t.enter i w).1 (enterWords ws u w) ∧
      (enterWords ws u w)[(t.enter i w).2]? = some (u ++ w) := by
  induction w with
  | nil =>
    intro t ws i u h hi
    exact ⟨h, by simpa [Trie.enter, enterWords] using hi⟩
  | cons c w ih =>
    intro t ws i u h hi
    simp only [Trie.enter, enterWords]
    have happ : u ++ c :: w = u ++ [c] ++ w := by simp
    rw [happ]
    cases hnext : t.next i c with
    | some n =>
      have hn := (h.next_iff hi c n).mp hnext
      rw [if_pos (List.mem_of_getElem? hn)]
      exact ih h hn
    | none =>
      have hnew : u ++ [c] ∉ ws := by
        intro hmem
        obtain ⟨j, hj⟩ := List.mem_iff_getElem?.mp hmem
        rw [(h.next_iff hi c j).mpr hj] at hnext
        cases hnext
      rw [if_neg hnew]
      exact ih (h.grow hi hnew) (getElem?_snoc.mpr (.inr ⟨h.size.symm, rfl⟩))

theorem marker_grow (t : Trie) (i : Nat) (c : Char) (k : Nat) :
    (t.grow i c).marker k = t.marker k := by
  simp only [marker, Trie.grow]
  rcases Nat.lt_trichotomy k t.nodes.length with hk | hk | hk
  · rw [List.getElem?_append_left (by simpa using hk), List.getElem?_modify]
    cases t.nodes[k]? with
    | none => rfl
    | some n => simp only [Option.bind_some]; split <;> rfl
  · subst hk
    simp [Node.fresh]
  · rw [List.getElem?_eq_none (by simp; omega), List.getElem?_eq_none (by omega)]

theorem marker_enter (w : Text) : ∀ (t : Trie) (i k : Nat),
    (t.enter i w).1.marker k = t.marker k := by
  induction w with
  | nil => intro t i k; rfl
  | cons c w ih =>
    intro t i k
    simp only [Trie.enter]
    cases t.next i c with
    | some n => exact ih t n k
    | none => simp only [ih, marker_grow]

theorem marker_claim (t : Trie) {i : Nat} (hi : i < t.size) (m : Marker) (k : Nat) :
    (t.claim i m).marker k = if i = k then some m else t.marker k := by
  simp only [marker, Trie.claim, List.getElem?_modify]
  by_cases hik : i = k
  · subst hik
    rw [List.getElem?_eq_getElem hi]
    simp
  · simp [hik]

/-! ## Entering a marker set -/

section

variable {t t' : Trie} {ws : List Text} {es : List (Marker × Text)}

theorem Claims.extend (hc : Claims t ws es) {ws' : List Text} (hpre : ws <+: ws')
    (hd : ws'.Nodup) (hsame : ∀ k, t'.marker k = t.marker k) : Claims t' ws' es where
  entered := by
    intro e he
    exact hpre.subset (hc.entered e he)
  marker_iff := by
    have hkeep : ∀ {k : Nat} {x : Text}, ws[k]? = some x → ws'[k]? = some x := by
      intro k x hk
      obtain ⟨v, rfl⟩ := hpre
      rw [List.getElem?_append_left (List.getElem?_eq_some_iff.mp hk).1, hk]
    intro i m
    rw [hsame, hc.marker_iff]
    constructor
    · intro hclaim
      obtain ⟨w, hw, hmem⟩ := hclaim
      exact ⟨w, hkeep hw, hmem⟩
    · intro hclaim
      obtain ⟨w, hw, hmem⟩ := hclaim
      obtain ⟨j, hj⟩ := List.mem_iff_getElem?.mp (hc.entered _ hmem)
      have hji : j = i := index_unique hd (hkeep hj) hw
      exact ⟨w, hji ▸ hj, hmem⟩

/-- A node that no marker has claimed is claimed for the word it stands for. -/
theorem Claims.claim (hc : Claims t ws es) (h : Spells t ws) {i : Nat} {w : Text}
    (hi : ws[i]? = some w) (hfree : t.marker i = none) (m : Marker) :
    Claims (t.claim i m) ws (es ++ [(m, w)]) where
  entered := by
    intro e he
    rcases List.mem_append.mp he with he | he
    · exact hc.entered e he
    · rw [List.mem_singleton.mp he]
      exact List.mem_of_getElem? hi
  marker_iff := by
    have hsize : i < t.size := by
      rw [← h.size]
      exact (List.getElem?_eq_some_iff.mp hi).1
    have hnew : ∀ m', (m', w) ∉ es := by
      intro m' hmem
      rw [(hc.marker_iff i m').mpr ⟨w, hi, hmem⟩] at hfree
      cases hfree
    intro k m'
    rw [marker_claim _ hsize]
    by_cases hk : i = k
    · subst hk
      rw [if_pos rfl, hi]
      simp [hnew, eq_comm]
    · rw [if_neg hk, hc.marker_iff]
      constructor
      · intro hclaim
        obtain ⟨x, hx, hmem⟩ := hclaim
        exact ⟨x, hx, List.mem_append_left _ hmem⟩
      · intro hclaim
        obtain ⟨x, hx, hmem⟩ := hclaim
        rcases List.mem_append.mp hmem with hmem | hmem
        · exact ⟨x, hx, hmem⟩
        · obtain ⟨rfl, rfl⟩ := Prod.mk.inj (List.mem_singleton.mp hmem)
          exact absurd (index_unique h.distinct hi hx) hk

theorem insert_ok {m : Marker} {w : Text} (h : Spells t ws) (hc : Claims t ws es)
    (hins : t.insert m w = .ok t') :
    w ≠ [] ∧ Spells t' (enterWords ws [] w) ∧
      Claims t' (enterWords ws [] w) (es ++ [(m, w)]) := by
  have hne : w ≠ [] := by
    intro heq
    subst heq
    simp [insert] at hins
  obtain ⟨hspells, hend⟩ := Spells.enter w h h.atRoot
  rw [List.nil_append] at hend
  have hclaims : Claims (t.enter root w).1 (enterWords ws [] w) es :=
    hc.extend (enterWords_begins w ws []) hspells.distinct (marker_enter w t root)
  simp only [insert, if_neg hne] at hins
  split at hins
  · cases hins
  · next hfree =>
    cases hins
    rw [Bool.not_eq_true, Option.isSome_eq_false_iff, Option.isNone_iff_eq_none] at hfree
    exact ⟨hne, hspells.claim _ m, hclaims.claim hspells hend hfree m⟩

/-- After all entries the nodes stand for the words entered and their
beginnings. -/
theorem insertAll_ok : ∀ (rest : List (Marker × Text)) {t : Trie} {ws : List Text}
    {es : List (Marker × Text)}, Spells t ws → Claims t ws es → t.insertAll rest = .ok t' →
    (∀ e ∈ rest, e.2 ≠ []) ∧ Spells t' (enterAll ws rest) ∧
      Claims t' (enterAll ws rest) (es ++ rest) := by
  intro rest
  induction rest with
  | nil =>
    intro t ws es h hc hins
    cases hins
    rw [List.append_nil]
    exact ⟨by simp, h, hc⟩
  | cons e rest ih =>
    obtain ⟨m, w⟩ := e
    intro t ws es h hc hins
    simp only [insertAll] at hins
    split at hins
    · next t₁ hfirst =>
      obtain ⟨hne, hs₁, hc₁⟩ := insert_ok h hc hfirst
      obtain ⟨hrest, hs', hc'⟩ := ih hs₁ hc₁ hins
      rw [List.append_assoc] at hc'
      refine ⟨?_, hs', hc'⟩
      intro e he
      rcases List.mem_cons.mp he with rfl | he
      · exact hne
      · exact hrest e he
    · cases hins

theorem walk_append (t : Trie) (u v : Text) : ∀ i, t.walk i (u ++ v) =
    (t.walk i u).bind fun j => t.walk j v := by
  induction u with
  | nil => intro i; rfl
  | cons c u ih =>
    intro i
    simp only [List.cons_append, walk, Option.bind_assoc]
    exact congrArg _ (funext ih)

theorem walk_snoc {t : Trie} {i j : Nat} {p : Text} (h : t.walk i p = some j) (c : Char) :
    t.walk i (p ++ [c]) = t.next j c := by
  rw [walk_append, h, Option.bind_some]
  cases hn : t.next j c <;> simp [walk, hn]

/-- The texts that have nodes after a marker set has been entered. -/
theorem mem_words_iff (ms : MarkerSet) (p : Text) :
    p ∈ enterAll [[]] ms.entries ↔ ms.Begins p := by
  rw [mem_enterAll ms.entries (List.mem_singleton.mpr rfl)]
  constructor
  · intro hcase
    rcases hcase with hp | ⟨⟨m, w⟩, he, hp⟩
    · rw [List.mem_singleton.mp hp]
      exact ms.begins_nil
    · exact ⟨m, ((ms.mem_entries m w).mp he) ▸ hp⟩
  · intro hbegins
    obtain ⟨m, hp⟩ := hbegins
    exact .inr ⟨(m, ms.word m), (ms.mem_entries m _).mpr rfl, hp⟩

theorem next_of_marker (hb : t.blocker? = none) {i : Nat} {m : Marker}
    (hm : t.marker i = some m) (c : Char) : t.next i c = none := by
  simp only [marker, Option.bind_eq_some_iff] at hm
  obtain ⟨n, hn, hm⟩ := hm
  have hnode := List.findSome?_eq_none_iff.mp hb n (List.mem_of_getElem? hn)
  have hempty : n.edges = [] := by
    by_contra hne
    rw [if_neg (by simpa using hne), hm] at hnode
    cases hnode
  simp [next, hn, Node.next, hempty]

/-- Where nothing blocks, no word goes on to another: it would leave its claimed
node by an edge. -/
theorem apart_of_unblocked {ms : MarkerSet} (hb : t.blocker? = none)
    (hbegins : ∀ p, (∃ s, t.walk root p = some s) ↔ ms.Begins p)
    (hmarker : ∀ {p s}, t.walk root p = some s → ∀ m, t.marker s = some m ↔ ms.word m = p)
    (m m' : Marker) (hle : ms.word m <+: ms.word m') : m = m' := by
  obtain ⟨v, hv⟩ := hle
  obtain ⟨s, hs⟩ := (hbegins _).mpr (ms.begins_word m)
  have hclaimed : t.marker s = some m := (hmarker hs m).mpr rfl
  cases v with
  | nil =>
    rw [List.append_nil] at hv
    rw [(hmarker hs m').mpr hv.symm] at hclaimed
    exact (Option.some.inj hclaimed).symm
  | cons c v =>
    obtain ⟨s', hs'⟩ := (hbegins (ms.word m ++ [c])).mpr ⟨m', v, by simpa using hv⟩
    rw [walk_snoc hs, next_of_marker hb hclaimed] at hs'
    cases hs'

end

end Trie

namespace Recognizer

open Trie (root)

/-- A recognizer whose trie says of every text what the marker set says. -/
structure Faithful (r : Recognizer) : Prop where
  legal : r.markers.Legal
  walk_isSome : ∀ p, (∃ s, r.trie.walk root p = some s) ↔ r.markers.Begins p
  marker_iff : ∀ {p s}, r.trie.walk root p = some s → ∀ m, r.trie.marker s = some m ↔ r.word m = p
  root_iff : ∀ {p s}, r.trie.walk root p = some s → (s = root ↔ p = [])

/-- Every recognizer that is built belongs to its marker set and is faithful. -/
theorem build_faithful {ms : MarkerSet} {r : Recognizer} (h : build ms = .ok r) :
    r.markers = ms ∧ r.Faithful := by
  simp only [build] at h
  split at h
  · cases h
  · next t hins =>
    split at h
    · cases h
    · next hblock =>
      cases h
      obtain ⟨hne, hs, hc⟩ :=
        Trie.insertAll_ok ms.entries Trie.spells_empty (Trie.claims_empty _) hins
      rw [List.nil_append] at hc
      have hwalk : ∀ {p s}, t.walk root p = some s ↔
          (Trie.enterAll [[]] ms.entries)[s]? = some p := by
        intro p s
        simpa using hs.walk_iff p hs.atRoot s
      have hmarker : ∀ {p s}, t.walk root p = some s →
          ∀ m, t.marker s = some m ↔ ms.word m = p := by
        intro p s hp m
        rw [hc.marker_iff, hwalk.mp hp]
        simp [ms.mem_entries, eq_comm]
      have hbegins : ∀ p, (∃ s, t.walk root p = some s) ↔ ms.Begins p := by
        intro p
        rw [← Trie.mem_words_iff, List.mem_iff_getElem?]
        exact exists_congr fun s => hwalk
      refine ⟨rfl, ⟨?_, Trie.apart_of_unblocked hblock hbegins hmarker⟩, hbegins, hmarker, ?_⟩
      · intro m
        exact hne (m, ms.word m) ((ms.mem_entries m _).mpr rfl)
      · intro p s hp
        constructor
        · intro heq
          subst heq
          have hroot := hwalk.mp hp
          rw [hs.atRoot] at hroot
          exact (Option.some.inj hroot).symm
        · intro heq
          subst heq
          exact index_unique hs.distinct (hwalk.mp hp) hs.atRoot

end Recognizer

end ScriptedTemplate
