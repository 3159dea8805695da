import ScriptedTemplate.Proofs.Marker.Trie
import Mathlib.Data.Finset.Card

/-
  The arena — how the nodes of a recognizer lie

  Nodes are only ever appended, and an edge is grown to the node that is appended
  with it. So edges lead forward, and a node gets no second edge for a character:
  one is grown only where there is none (`Forward`). What the nodes stand for is
  known from `Spells` and `Claims`; counted, it gives the size of the arena.

  What is proved: `build_represents` — the arena of a marker set that has a
  recognizer is a trie of its words. Its nodes and the beginnings of the words are
  the same in number and stand for each other; the root is free, and the four
  markers stand on four nodes from which no edge leads on.
-/

namespace ScriptedTemplate

/-! ## Beginnings, counted -/

namespace MarkerSet

/-- The beginnings of words that are not empty, each once. -/
def beginnings (ms : MarkerSet) : Finset Text :=
  (Marker.all.flatMap fun m => (ms.word m).inits).toFinset.erase []

theorem mem_beginnings {ms : MarkerSet} {p : Text} :
    p ∈ ms.beginnings ↔ p ≠ [] ∧ ms.Begins p := by
  rw [beginnings, Finset.mem_erase, List.mem_toFinset, List.mem_flatMap]
  apply and_congr_right
  intro _
  constructor
  · intro h
    obtain ⟨m, -, hp⟩ := h
    exact ⟨m, (List.mem_inits _ _).mp hp⟩
  · intro h
    obtain ⟨m, hp⟩ := h
    exact ⟨m, by cases m <;> decide, (List.mem_inits _ _).mpr hp⟩

end MarkerSet

namespace Trie

/-! ## Edges lead forward -/

/-- There is a root, no node has two edges for one character, and every edge leads to
a later node of the arena. -/
structure Forward (t : Trie) : Prop where
  rooted : root < t.size
  single : ∀ {s : Nat} {n : Node}, t.nodes[s]? = some n → (n.edges.map Prod.fst).Nodup
  ahead : ∀ {s : Nat} {n : Node}, t.nodes[s]? = some n → ∀ e ∈ n.edges, s < e.2 ∧ e.2 < t.size

theorem forward_empty : Forward empty where
  rooted := Nat.zero_lt_one
  single := by
    intro s n hn
    have hfresh : n = .fresh := List.mem_singleton.mp (List.mem_of_getElem? hn)
    rw [hfresh]
    exact List.nodup_nil
  ahead := by
    intro s n hn e he
    have hfresh : n = .fresh := List.mem_singleton.mp (List.mem_of_getElem? hn)
    rw [hfresh] at he
    cases he

/-- Where a node has no edge for a character, none of its edges is for it. -/
theorem notMem_edges_of_next {t : Trie} {s : Nat} {n : Node} {c : Char}
    (hn : t.nodes[s]? = some n) (hc : t.next s c = none) : c ∉ n.edges.map Prod.fst := by
  rw [next, hn, Option.bind_some, Node.next, Option.map_eq_none_iff, List.find?_eq_none] at hc
  intro hmem
  obtain ⟨e, he, heq⟩ := List.mem_map.mp hmem
  exact hc e he (by simpa using heq)

theorem size_grow (t : Trie) (s : Nat) (c : Char) : (t.grow s c).size = t.size + 1 := by
  simp [grow, size]

namespace Forward

variable {t t' : Trie} {s : Nat} {c : Char}

theorem next_lt (h : t.Forward) {j : Nat} (hj : t.next s c = some j) : j < t.size := by
  rw [next, Option.bind_eq_some_iff] at hj
  obtain ⟨n, hn, hnext⟩ := hj
  rw [Node.next, Option.map_eq_some_iff] at hnext
  obtain ⟨e, he, heq⟩ := hnext
  rw [← heq]
  exact (h.ahead hn e (List.mem_of_find?_eq_some he)).2

/-- The new edge leads to the last node, and it is the only one for its character. -/
theorem grow (h : t.Forward) (hs : s < t.size) (hc : t.next s c = none) :
    (t.grow s c).Forward := by
  -- A node of the grown arena is an old one, `s` with its new edge, or the fresh one.
  have hnodes : ∀ {k n}, (t.grow s c).nodes[k]? = some n → n.edges = [] ∨
      ∃ n₀, t.nodes[k]? = some n₀ ∧
        n.edges = if s = k then n₀.edges ++ [(c, t.size)] else n₀.edges := by
    intro k n hn
    rw [Trie.grow, getElem?_snoc, List.getElem?_modify] at hn
    rcases hn with hold | ⟨-, heq⟩
    · obtain ⟨n₀, hn₀, heq⟩ := Option.map_eq_some_iff.mp hold
      refine .inr ⟨n₀, hn₀, ?_⟩
      rw [← heq]
      split <;> rfl
    · exact .inl (heq ▸ rfl)
  constructor
  · rw [size_grow]
    exact Nat.lt_succ_of_lt h.rooted
  · intro k n hn
    rcases hnodes hn with hnil | ⟨n₀, hn₀, hedges⟩
    · rw [hnil]
      exact List.nodup_nil
    · by_cases hsk : s = k
      · subst hsk
        rw [hedges, if_pos rfl, List.map_append, List.nodup_append]
        refine ⟨h.single hn₀, List.nodup_singleton _, ?_⟩
        intro a ha b hb hab
        rw [hab, List.mem_singleton.mp hb] at ha
        exact notMem_edges_of_next hn₀ hc ha
      · rw [hedges, if_neg hsk]
        exact h.single hn₀
  · intro k n hn e he
    rw [size_grow]
    rcases hnodes hn with hnil | ⟨n₀, hn₀, hedges⟩
    · rw [hnil] at he
      cases he
    · by_cases hsk : s = k
      · subst hsk
        rw [hedges, if_pos rfl, List.mem_append, List.mem_singleton] at he
        rcases he with he | he
        · have hold := h.ahead hn₀ e he
          omega
        · rw [he]
          exact ⟨hs, Nat.lt_succ_self _⟩
      · rw [hedges, if_neg hsk] at he
        have hold := h.ahead hn₀ e he
        omega

theorem enter (w : Text) : ∀ {t : Trie} {s : Nat}, t.Forward → s < t.size →
    (t.enter s w).1.Forward := by
  induction w with
  | nil => intro t s h _; exact h
  | cons c w ih =>
    intro t s h hs
    rw [Trie.enter]
    cases hnext : t.next s c with
    | some j => exact ih h (h.next_lt hnext)
    | none =>
      apply ih (h.grow hs hnext)
      rw [size_grow]
      exact Nat.lt_succ_self _

theorem claim (h : t.Forward) (s : Nat) (m : Marker) : (t.claim s m).Forward := by
  have hnodes : ∀ {k : Nat} {n : Node}, (t.claim s m).nodes[k]? = some n →
      ∃ n₀ : Node, t.nodes[k]? = some n₀ ∧ n.edges = n₀.edges := by
    intro k n hn
    rw [Trie.claim, List.getElem?_modify] at hn
    obtain ⟨n₀, hn₀, heq⟩ := Option.map_eq_some_iff.mp hn
    refine ⟨n₀, hn₀, ?_⟩
    rw [← heq]
    split <;> rfl
  have hsize : (t.claim s m).size = t.size := by simp [Trie.claim, Trie.size]
  constructor
  · rw [hsize]
    exact h.rooted
  · intro k n hn
    obtain ⟨n₀, hn₀, hedges⟩ := hnodes hn
    rw [hedges]
    exact h.single hn₀
  · intro k n hn e he
    obtain ⟨n₀, hn₀, hedges⟩ := hnodes hn
    rw [hsize]
    exact h.ahead hn₀ e (hedges ▸ he)

theorem insert {m : Marker} {w : Text} (h : t.Forward) (hins : t.insert m w = .ok t') :
    t'.Forward := by
  rw [Trie.insert] at hins
  split at hins
  · cases hins
  · simp only at hins
    split at hins
    · cases hins
    · cases hins
      exact (enter w h h.rooted).claim _ m

theorem insertAll : ∀ (rest : List (Marker × Text)) {t : Trie}, t.Forward →
    t.insertAll rest = .ok t' → t'.Forward
  | [], _, h, hins => by
    cases hins
    exact h
  | (m, w) :: rest, t, h, hins => by
    rw [Trie.insertAll] at hins
    split at hins
    · next t₁ hfirst => exact insertAll rest (h.insert hfirst) hins
    · cases hins

end Forward

end Trie

namespace Recognizer

open Trie (Spells Claims)

/-- The arena of a recognizer has been made by entering the words into an empty one. -/
theorem spells_of_build {ms : MarkerSet} {r : Recognizer} (h : build ms = .ok r) :
    ∃ ws, Spells r.trie ws ∧ Claims r.trie ws ms.entries ∧ r.trie.Forward ∧
      r.trie.blocker? = none := by
  rw [build] at h
  split at h
  · cases h
  · next t hins =>
    split at h
    · cases h
    · next hblock =>
      cases h
      obtain ⟨-, hs, hc⟩ :=
        Trie.insertAll_ok ms.entries Trie.spells_empty (Trie.claims_empty _) hins
      exact ⟨_, hs, hc, Trie.Forward.insertAll ms.entries Trie.forward_empty hins, hblock⟩

end Recognizer

namespace Trie

/-! ## What the nodes stand for, counted -/

section

variable {t : Trie} {ws : List Text} {ms : MarkerSet}

theorem Spells.walk_root (h : Spells t ws) {w : Text} {s : Nat} :
    t.walk root w = some s ↔ ws[s]? = some w := by
  simpa using h.walk_iff w h.atRoot s

/-- There are as many nodes as beginnings, and the root. -/
theorem Spells.size_eq (h : Spells t ws) (hws : ∀ p, p ∈ ws ↔ ms.Begins p) :
    t.size = 1 + ms.beginnings.card := by
  have hwords : ws.toFinset = Insert.insert [] ms.beginnings := by
    ext p
    rw [List.mem_toFinset, hws, Finset.mem_insert, MarkerSet.mem_beginnings]
    by_cases hp : p = []
    · simp [hp, ms.begins_nil]
    · simp [hp]
  have hroot : [] ∉ ms.beginnings := fun hmem => (MarkerSet.mem_beginnings.mp hmem).1 rfl
  calc t.size = ws.length := h.size.symm
    _ = ws.toFinset.card := (List.toFinset_card_of_nodup h.distinct).symm
    _ = 1 + ms.beginnings.card := by
      rw [hwords, Finset.card_insert_of_notMem hroot, Nat.add_comm]

theorem Claims.perm_all (hc : Claims t ws ms.entries) (h : Spells t ws) :
    (t.nodes.filterMap Node.marker).Perm Marker.all := by
  have hword : ∀ {i m}, t.marker i = some m ↔ ws[i]? = some (ms.word m) := by
    intro i m
    rw [hc.marker_iff]
    simp [ms.mem_entries, eq_comm]
  have hnode : ∀ {i : Nat} (hi : i < t.nodes.length), t.marker i = (t.nodes[i]).marker := by
    intro i hi
    rw [marker, List.getElem?_eq_getElem hi, Option.bind_some]
  rw [List.perm_ext_iff_of_nodup _ (by decide : Marker.all.Nodup)]
  · intro m
    have hin : m ∈ Marker.all := by cases m <;> decide
    obtain ⟨i, hi⟩ := List.mem_iff_getElem?.mp
      (hc.entered (m, ms.word m) ((ms.mem_entries m _).mpr rfl))
    have hmarker := hword.mpr hi
    rw [marker, Option.bind_eq_some_iff] at hmarker
    obtain ⟨n, hn, hmarker⟩ := hmarker
    exact iff_of_true (List.mem_filterMap.mpr ⟨n, List.mem_of_getElem? hn, hmarker⟩) hin
  · -- Two nodes with one marker would stand for one word.
    rw [List.Nodup, List.pairwise_filterMap, List.pairwise_iff_getElem]
    intro i j hi hj hlt m hm m' hm' heq
    subst heq
    have hplace : i = j := index_unique h.distinct
      (hword.mp ((hnode hi).trans hm)) (hword.mp ((hnode hj).trans hm'))
    omega

theorem Claims.count_eq (hc : Claims t ws ms.entries) (h : Spells t ws) :
    t.nodes.countP (fun n => n.marker.isSome) = 4 := by
  rw [← List.length_filterMap_eq_countP]
  exact (hc.perm_all h).length_eq

end

/-- The arena is a trie of the words: its nodes and the beginnings of words stand for
each other. -/
structure Represents (t : Trie) (ms : MarkerSet) : Prop where
  /-- A text can be walked exactly if it is a beginning of some word. -/
  walks : ∀ w, (∃ s, t.walk root w = some s) ↔ ms.Begins w
  /-- A walk ends inside the arena. -/
  inside : ∀ {w : Text} {s : Nat}, t.walk root w = some s → s < t.size
  /-- Every node is reached by one text and by no other. -/
  reached : ∀ s < t.size, ∃! w, t.walk root w = some s
  size_eq : t.size = 1 + ms.beginnings.card
  marker_iff : ∀ {w : Text} {s : Nat}, t.walk root w = some s →
    ∀ m, t.marker s = some m ↔ ms.word m = w
  forward : t.Forward
  root_free : t.marker root = none
  four : t.nodes.countP (fun n => n.marker.isSome) = 4
  /-- No edge leads on from a node that a marker has claimed. -/
  final : ∀ {s : Nat} {n : Node}, t.nodes[s]? = some n → n.marker ≠ none → n.edges = []

end Trie

open Trie (root)

/-- The arena of a marker set that has a recognizer is a trie of its words. A text can
be walked from the root exactly if it is a beginning of a word; different beginnings
lead to different nodes, and every node is reached, so there are as many nodes as
beginnings, the empty one included. The node of a text is claimed by a marker exactly if
the text is its word. No node has two edges for one character, and every edge leads to a
later node of the arena. The root is free; four nodes are claimed, and no edge leads on
from them. -/
theorem build_represents {ms : MarkerSet} {r : Recognizer} (h : Recognizer.build ms = .ok r) :
    r.trie.Represents ms := by
  obtain ⟨rfl, hr⟩ := Recognizer.build_faithful h
  obtain ⟨ws, hs, hc, hforward, hblock⟩ := Recognizer.spells_of_build h
  have hwalk : ∀ {w : Text} {s : Nat}, r.trie.walk root w = some s ↔ ws[s]? = some w :=
    hs.walk_root
  have hsize : ws.length = r.trie.size := hs.size
  constructor
  · exact hr.walk_isSome
  · intro w s hw
    rw [← hsize]
    exact (List.getElem?_eq_some_iff.mp (hwalk.mp hw)).1
  · intro s hlt
    rw [← hsize] at hlt
    have hword : ws[s]? = some ws[s] := List.getElem?_eq_getElem hlt
    refine ⟨_, hwalk.mpr hword, ?_⟩
    intro w hw
    exact Option.some.inj ((hwalk.mp hw).symm.trans hword)
  · apply hs.size_eq
    intro p
    rw [← hr.walk_isSome, List.mem_iff_getElem?]
    exact exists_congr fun s => hwalk.symm
  · exact hr.marker_iff
  · exact hforward
  · -- The root stands for the empty text, which is no word.
    cases hm : r.trie.marker root with
    | none => rfl
    | some m => exact absurd ((hr.marker_iff rfl m).mp hm) (hr.legal.nonempty m)
  · exact hc.count_eq hs
  · intro s n hn hclaimed
    obtain ⟨m, hm⟩ := Option.ne_none_iff_exists'.mp hclaimed
    have hmarker : r.trie.marker s = some m := by rw [Trie.marker, hn, Option.bind_some, hm]
    apply List.eq_nil_iff_forall_not_mem.mpr
    intro e he
    have hfree := Trie.next_of_marker hblock hmarker e.1
    exact Trie.notMem_edges_of_next hn hfree (List.mem_map_of_mem he)

/-- Words with a common beginning of two characters share two nodes. -/
theorem build_represents_shared :
    ∃ r, Recognizer.build ⟨['<', '<', '%'], ['%', '>', '>'], ['<', '<', '='], ['=', '>', '>']⟩ =
        .ok r ∧
      r.trie.Represents ⟨['<', '<', '%'], ['%', '>', '>'], ['<', '<', '='], ['=', '>', '>']⟩ ∧
      r.trie.size = 11 := by
  obtain ⟨r, hr, hsize⟩ : ∃ r, Recognizer.build
      ⟨['<', '<', '%'], ['%', '>', '>'], ['<', '<', '='], ['=', '>', '>']⟩ = .ok r ∧
        r.trie.size = 11 := ⟨_, rfl, by decide⟩
  exact ⟨r, hr, build_represents hr, hsize⟩

end ScriptedTemplate
