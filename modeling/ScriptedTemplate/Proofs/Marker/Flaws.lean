import ScriptedTemplate.Proofs.Marker.Trie
import Mathlib.Data.List.TakeWhile

/-
  Flaws — why a marker set has no recognizer

  A word is refused on entry when it is empty or an earlier marker has it; the
  first such word is named. When all words have been entered, a word that goes on
  to a longer one blocks it, and of the blocking words the one whose node was made
  first is named. That order is not the order of the markers: the node of a short
  word may have been made on the way to a longer word entered before it. It is
  the order of `Trie.MadeBefore`, by the first word that has the text as a
  beginning and then by length.

  What is proved: `build_ok_or_culprit` — a marker set has a recognizer exactly
  when no word is empty, no two are equal and none goes on to another; otherwise
  the message names the first word refused, or, where none is, the first that
  blocks.
-/

namespace ScriptedTemplate

namespace Marker

theorem mem_all (m : Marker) : m ∈ all := by cases m <;> decide

instance (p : Marker → Prop) [DecidablePred p] : Decidable (∃ m, p m) :=
  decidable_of_iff (∃ m ∈ all, p m) <| by
    constructor
    · intro hany
      obtain ⟨m, -, hm⟩ := hany
      exact ⟨m, hm⟩
    · intro hany
      obtain ⟨m, hm⟩ := hany
      exact ⟨m, m.mem_all, hm⟩

instance (p : Marker → Prop) [DecidablePred p] : Decidable (∀ m, p m) :=
  decidable_of_iff (∀ m ∈ all, p m) ⟨fun hall m => hall m m.mem_all, fun hall m _ => hall m⟩

/-- The markers whose words are entered before that of `m`. -/
def earlier (m : Marker) : List Marker := all.takeWhile (· != m)

theorem ne_of_mem_earlier {m m' : Marker} (h : m' ∈ m.earlier) : m' ≠ m := by
  simpa using List.mem_takeWhile_imp h

theorem earlier_eq {m : Marker} {before after : List Marker} (h : all = before ++ m :: after) :
    m.earlier = before := by
  have hnodup : (before ++ m :: after).Nodup := h ▸ (by decide)
  have hne : ∀ x ∈ before, (x != m) = true := by
    intro x hx
    have hdisjoint := (List.nodup_append.mp hnodup).2.2 x hx m List.mem_cons_self
    simpa using hdisjoint
  rw [earlier, h, List.takeWhile_append_of_pos hne, List.takeWhile_cons_of_neg (by simp),
    List.append_nil]

/-- What is earlier than one of the first markers is one of them too. -/
theorem mem_of_mem_earlier {m m' : Marker} {first rest : List Marker} (h : all = first ++ rest)
    (hm : m ∈ first) (hm' : m' ∈ m.earlier) : m' ∈ first := by
  obtain ⟨before, after, rfl⟩ := List.append_of_mem hm
  rw [earlier_eq (h.trans (List.append_assoc before (m :: after) rest))] at hm'
  exact List.mem_append_left _ hm'

end Marker

/-! ## The order of the nodes -/

namespace Trie

/-- The place of the first entry whose word begins with `p`, or the number of
entries when there is none. -/
def firstWith (es : List (Marker × Text)) (p : Text) : Nat :=
  es.findIdx fun e => decide (p <+: e.2)

/-- The node of `p` is made before that of `q`: while an earlier word is entered,
or while the same one is and `p` is shorter. -/
def MadeBefore (es : List (Marker × Text)) (p q : Text) : Prop :=
  firstWith es p < firstWith es q ∨ firstWith es p = firstWith es q ∧ p.length < q.length

instance (es : List (Marker × Text)) (p q : Text) : Decidable (MadeBefore es p q) :=
  inferInstanceAs (Decidable (_ ∨ _))

theorem firstWith_lt {es : List (Marker × Text)} {p : Text} (h : ∃ e ∈ es, p <+: e.2) :
    firstWith es p < es.length := by
  obtain ⟨e, he, hp⟩ := h
  exact List.findIdx_lt_length_of_exists ⟨e, he, by simpa using hp⟩

theorem firstWith_append {es : List (Marker × Text)} {p : Text} (h : ∃ e ∈ es, p <+: e.2)
    (more : List (Marker × Text)) : firstWith (es ++ more) p = firstWith es p := by
  rw [firstWith, List.findIdx_append]
  exact if_pos (firstWith_lt h)

theorem firstWith_snoc {es : List (Marker × Text)} {e : Marker × Text} {p : Text}
    (hp : p <+: e.2) (hnew : ¬ ∃ e ∈ es, p <+: e.2) : firstWith (es ++ [e]) p = es.length := by
  have hnone : es.findIdx (fun e => decide (p <+: e.2)) = es.length := by
    apply List.findIdx_eq_length_of_false
    intro x hx
    simpa using fun hpx => hnew ⟨x, hx, hpx⟩
  rw [firstWith, List.findIdx_append, hnone, if_neg (Nat.lt_irrefl _)]
  simp [hp]

/-- Entering a word appends texts: beginnings of the word that were not there, the
shorter first. -/
theorem enterWords_eq (w : Text) : ∀ {ws : List Text} {u : Text}, u ∈ ws →
    ∃ news, enterWords ws u w = ws ++ news ∧ news.Pairwise (fun p q => p.length < q.length) ∧
      ∀ v ∈ news, v ∉ ws ∧ v <+: u ++ w ∧ u.length < v.length := by
  induction w with
  | nil =>
    intro ws u _
    exact ⟨[], by simp [enterWords], List.Pairwise.nil, by simp⟩
  | cons c w ih =>
    intro ws u hu
    have happ : u ++ c :: w = u ++ [c] ++ w := by simp
    have hlen : (u ++ [c]).length = u.length + 1 := by simp
    simp only [enterWords]
    by_cases hc : u ++ [c] ∈ ws
    · rw [if_pos hc]
      obtain ⟨news, heq, hsorted, hnews⟩ := ih hc
      refine ⟨news, heq, hsorted, ?_⟩
      intro v hv
      obtain ⟨hnot, hpre, hlt⟩ := hnews v hv
      exact ⟨hnot, happ ▸ hpre, by omega⟩
    · -- `u ++ [c]` gets a node; all that follow are longer.
      rw [if_neg hc]
      obtain ⟨news, heq, hsorted, hnews⟩ :=
        @ih (ws ++ [u ++ [c]]) (u ++ [c]) (List.mem_append_right _ List.mem_cons_self)
      refine ⟨(u ++ [c]) :: news, by rw [heq, List.append_assoc]; rfl,
        List.Pairwise.cons (fun v hv => (hnews v hv).2.2) hsorted, ?_⟩
      intro v hv
      rcases List.mem_cons.mp hv with rfl | hv
      · exact ⟨hc, happ ▸ List.prefix_append _ _, by omega⟩
      · obtain ⟨hnot, hpre, hlt⟩ := hnews v hv
        exact ⟨fun hmem => hnot (List.mem_append_left _ hmem), happ ▸ hpre, by omega⟩

/-- The nodes stand in the order in which they are made. The induction takes the
last word off: what earlier words made keeps its order, and all that the last one
adds comes behind it. -/
theorem pairwise_enterAll (es : List (Marker × Text)) :
    (enterAll [[]] es).Pairwise (MadeBefore es) := by
  induction es using List.reverseRecOn with
  | nil => exact List.pairwise_singleton _ _
  | append_singleton es e ih =>
    have hmem : ∀ p, p ∈ enterAll [[]] es ↔ p = [] ∨ ∃ e ∈ es, p <+: e.2 := by
      intro p
      rw [mem_enterAll es (List.mem_singleton.mpr rfl), List.mem_singleton]
    have hstep : enterAll [[]] (es ++ [e]) = enterWords (enterAll [[]] es) [] e.2 := by
      simp [enterAll]
    obtain ⟨news, heq, hsorted, hnews⟩ := enterWords_eq e.2 ((hmem []).mpr (.inl rfl))
    -- What is new is a beginning of the last word and of no earlier one.
    have hplace : ∀ v ∈ news, firstWith (es ++ [e]) v = es.length := by
      intro v hv
      obtain ⟨hnot, hpre, -⟩ := hnews v hv
      exact firstWith_snoc hpre fun hold => hnot ((hmem v).mpr (.inr hold))
    rw [hstep, heq, List.pairwise_append]
    refine ⟨?_, ?_, ?_⟩
    · refine ih.imp_of_mem ?_
      intro p q hp hq hpq
      cases es with
      | nil =>
        -- The root is alone, and nothing is made before it.
        rcases hpq with hlt | ⟨-, hlt⟩
        · exact absurd hlt (Nat.lt_irrefl _)
        · have hq : q = [] := by simpa [enterAll] using hq
          simp [hq] at hlt
      | cons x es =>
        have hold : ∀ u, u ∈ enterAll [[]] (x :: es) → ∃ e ∈ x :: es, u <+: e.2 := by
          intro u hu
          rcases (hmem u).mp hu with rfl | hu
          · exact ⟨x, List.mem_cons_self, List.nil_prefix⟩
          · exact hu
        rwa [MadeBefore, firstWith_append (hold p hp), firstWith_append (hold q hq)]
    · refine hsorted.imp_of_mem ?_
      intro p q hp hq hpq
      exact .inr ⟨(hplace p hp).trans (hplace q hq).symm, hpq⟩
    · intro p hp q hq
      rw [MadeBefore, hplace q hq]
      by_cases hold : ∃ e ∈ es, p <+: e.2
      · rw [firstWith_append hold]
        exact .inl (firstWith_lt hold)
      · -- Only the root is older and no beginning: it comes before a longer text.
        rcases (hmem p).mp hp with rfl | hp
        · exact .inr ⟨firstWith_snoc List.nil_prefix hold, (hnews q hq).2.2⟩
        · exact absurd hp hold

/-! ## What is refused -/

variable {t t' : Trie} {ws : List Text} {es : List (Marker × Text)}

theorem Claims.unique (hc : Claims t ws es) {m m' : Marker} {w : Text} (hm : (m, w) ∈ es)
    (hm' : (m', w) ∈ es) : m = m' := by
  obtain ⟨i, hi⟩ := List.mem_iff_getElem?.mp (hc.entered _ hm)
  have hclaimed := (hc.marker_iff i m).mpr ⟨w, hi, hm⟩
  rw [(hc.marker_iff i m').mpr ⟨w, hi, hm'⟩] at hclaimed
  exact (Option.some.inj hclaimed).symm

/-- A word is refused when it is empty, or when its node is claimed and so the
word has been entered. -/
theorem insert_error {m : Marker} {w : Text} {e : MarkerError} (h : Spells t ws)
    (hc : Claims t ws es) (hins : t.insert m w = .error e) :
    (w = [] ∧ e = .empty m) ∨ (w ≠ [] ∧ (∃ m', (m', w) ∈ es) ∧ e = .clash w) := by
  simp only [insert] at hins
  split at hins
  · next hnil =>
    cases hins
    exact .inl ⟨hnil, rfl⟩
  · next hne =>
    split at hins
    · next hclaimed =>
      cases hins
      obtain ⟨hspells, hend⟩ := Spells.enter w h h.atRoot
      have hclaims : Claims (t.enter root w).1 (enterWords ws [] w) es :=
        hc.extend (enterWords_begins w ws []) hspells.distinct (marker_enter w t root)
      obtain ⟨m', hm'⟩ := Option.isSome_iff_exists.mp hclaimed
      obtain ⟨w', hw', hmem⟩ := (hclaims.marker_iff _ m').mp hm'
      rw [hend] at hw'
      cases hw'
      exact .inr ⟨hne, ⟨m', hmem⟩, rfl⟩
    · cases hins

theorem insertAll_error {e : MarkerError} : ∀ (rest : List (Marker × Text)) {t : Trie},
    t.insertAll rest = .error e → ∃ before m w after t', rest = before ++ (m, w) :: after ∧
      t.insertAll before = .ok t' ∧ t'.insert m w = .error e := by
  intro rest
  induction rest with
  | nil => intro t hins; cases hins
  | cons x rest ih =>
    obtain ⟨m, w⟩ := x
    intro t hins
    simp only [insertAll] at hins
    split at hins
    · next t₁ hfirst =>
      obtain ⟨before, m', w', after, t', rfl, hok, herror⟩ := ih hins
      refine ⟨(m, w) :: before, m', w', after, t', rfl, ?_, herror⟩
      simp only [insertAll, hfirst, hok]
    · next e' hfirst =>
      cases hins
      exact ⟨[], m, w, rest, t, rfl, rfl, hfirst⟩

end Trie

/-! ## The culprit -/

namespace MarkerSet

/-- The word of a marker is refused: it is empty, or an earlier marker has it. -/
def Unfit (ms : MarkerSet) (m : Marker) : Prop :=
  ms.word m = [] ∨ ∃ m' ∈ m.earlier, ms.word m' = ms.word m

instance (ms : MarkerSet) (m : Marker) : Decidable (ms.Unfit m) :=
  inferInstanceAs (Decidable (_ ∨ _))

/-- The first marker whose word is refused. -/
structure FirstUnfit (ms : MarkerSet) (m : Marker) : Prop where
  unfit : ms.Unfit m
  first : ∀ m' ∈ m.earlier, ¬ ms.Unfit m'

/-- The word of a marker goes on to the word of another one. -/
def Blocks (ms : MarkerSet) (m : Marker) : Prop :=
  ∃ m', ms.word m <+: ms.word m' ∧ ms.word m ≠ ms.word m'

instance (ms : MarkerSet) (m : Marker) : Decidable (ms.Blocks m) :=
  inferInstanceAs (Decidable (∃ _, _))

/-- The marker that blocks and whose node was made first. -/
structure FirstBlocker (ms : MarkerSet) (m : Marker) : Prop where
  blocks : ms.Blocks m
  first : ∀ m', ms.Blocks m' → m' ≠ m → Trie.MadeBefore ms.entries (ms.word m) (ms.word m')

/-- Why the word of a marker is refused. -/
def refusal (ms : MarkerSet) (m : Marker) : MarkerError :=
  if ms.word m = [] then .empty m else .clash (ms.word m)

variable {ms : MarkerSet}

theorem legal_iff : ms.Legal ↔ (∀ m, ms.word m ≠ []) ∧
    (∀ m m', ms.word m = ms.word m' → m = m') ∧ ∀ m, ¬ ms.Blocks m := by
  constructor
  · intro h
    refine ⟨h.nonempty, fun m m' => h.word_inj, ?_⟩
    intro m hblocks
    obtain ⟨m', hpre, hne⟩ := hblocks
    exact hne (congrArg ms.word (h.apart m m' hpre))
  · intro hparts
    obtain ⟨hne, hinj, hfree⟩ := hparts
    refine ⟨hne, fun m m' hpre => hinj m m' ?_⟩
    by_contra hdiff
    exact hfree m ⟨m', hpre, hdiff⟩

theorem not_unfit_of_insertAll {t : Trie} {first rest : List Marker}
    (hall : Marker.all = first ++ rest)
    (hins : Trie.empty.insertAll (first.map fun m => (m, ms.word m)) = .ok t) :
    ∀ m ∈ first, ¬ ms.Unfit m := by
  obtain ⟨hne, -, hc⟩ := Trie.insertAll_ok _ Trie.spells_empty (Trie.claims_empty _) hins
  rw [List.nil_append] at hc
  have hentry : ∀ m ∈ first, (m, ms.word m) ∈ first.map fun m => (m, ms.word m) := by
    intro m hm
    exact List.mem_map.mpr ⟨m, hm, rfl⟩
  intro m hm hunfit
  rcases hunfit with hnil | ⟨m', hm', heq⟩
  · exact hne _ (hentry m hm) hnil
  · have hmem := hentry m' (Marker.mem_of_mem_earlier hall hm hm')
    rw [heq] at hmem
    exact Marker.ne_of_mem_earlier hm' (hc.unique hmem (hentry m hm))

theorem firstUnfit_of_insertAll {e : MarkerError}
    (hins : Trie.empty.insertAll ms.entries = .error e) :
    ∃ m, ms.FirstUnfit m ∧ e = ms.refusal m := by
  obtain ⟨before, m, w, after, t, hsplit, hok, herror⟩ := Trie.insertAll_error _ hins
  obtain ⟨first, rest, hall, rfl, hrest⟩ := List.map_eq_append_iff.mp hsplit
  obtain ⟨m₀, rest, rfl, hm₀, rfl⟩ := List.map_eq_cons_iff.mp hrest
  cases hm₀
  have hearlier := Marker.earlier_eq hall
  obtain ⟨-, hs, hc⟩ := Trie.insertAll_ok _ Trie.spells_empty (Trie.claims_empty _) hok
  refine ⟨m, ⟨?_, hearlier ▸ not_unfit_of_insertAll hall hok⟩, ?_⟩
  · rcases Trie.insert_error hs hc herror with ⟨hnil, -⟩ | ⟨-, ⟨m', hm'⟩, -⟩
    · exact .inl hnil
    · obtain ⟨m'', hm'', hentry⟩ := List.mem_map.mp hm'
      exact .inr ⟨m'', hearlier ▸ hm'', congrArg Prod.snd hentry⟩
  · rcases Trie.insert_error hs hc herror with ⟨hnil, rfl⟩ | ⟨hne, -, rfl⟩
    · exact (if_pos hnil).symm
    · exact (if_neg hne).symm

/-- The node at which a blocker is found is its word's, and it is the first
claimed node with an edge. -/
theorem firstBlocker_of_blocker? {t : Trie} (hins : Trie.empty.insertAll ms.entries = .ok t)
    {m : Marker} (hblocker : t.blocker? = some m) : ms.FirstBlocker m := by
  obtain ⟨-, hs, hc⟩ := Trie.insertAll_ok _ Trie.spells_empty (Trie.claims_empty _) hins
  have hsorted := Trie.pairwise_enterAll ms.entries
  generalize hws : Trie.enterAll [[]] ms.entries = ws at hs hc hsorted
  have hbegins : ∀ p, p ∈ ws ↔ ms.Begins p := by
    intro p
    rw [← hws, Trie.mem_words_iff]
  rw [List.nil_append] at hc
  have hclaim : ∀ i m, t.marker i = some m ↔ ws[i]? = some (ms.word m) := by
    intro i m
    rw [hc.marker_iff]
    simp [ms.mem_entries, eq_comm]
  obtain ⟨made, n, later, hnodes, hn, hmade⟩ := List.findSome?_eq_some_iff.mp hblocker
  have hplace : t.nodes[made.length]? = some n := by simp [hnodes]
  have hedge : n.edges ≠ [] ∧ n.marker = some m := by
    split at hn
    · cases hn
    · next hne => exact ⟨by simpa using hne, hn⟩
  have hword : ws[made.length]? = some (ms.word m) := by
    rw [← hclaim, Trie.marker, hplace, Option.bind_some, hedge.2]
  refine ⟨?_, ?_⟩
  · -- Its edge leads to the node of a longer beginning.
    obtain ⟨⟨c, j⟩, hmem⟩ := List.exists_mem_of_ne_nil _ hedge.1
    have hlonger := List.mem_of_getElem? ((hs.edges hword hplace c j).mp hmem)
    obtain ⟨m', hm'⟩ := (hbegins _).mp hlonger
    refine ⟨m', (List.prefix_append _ _).trans hm', ?_⟩
    intro heq
    have hle := hm'.length_le
    rw [← heq, List.length_append, List.length_singleton] at hle
    omega
  · intro m' hblocks hne
    obtain ⟨m'', ⟨v, hv⟩, hdiff⟩ := hblocks
    obtain ⟨i, hi⟩ := List.mem_iff_getElem?.mp ((hbegins _).mpr (ms.begins_word m'))
    obtain ⟨n', hn'⟩ := hs.node hi
    -- The other blocker's node is claimed and has an edge, so it was not passed over.
    have hstands : (if n'.edges.isEmpty then none else n'.marker) ≠ none := by
      have hmarker : n'.marker = some m' := by
        have := (hclaim i m').mpr hi
        rwa [Trie.marker, hn', Option.bind_some] at this
      cases v with
      | nil => exact absurd (by simpa using hv) hdiff
      | cons c v =>
        have hlonger : ms.word m' ++ [c] ∈ ws := (hbegins _).mpr ⟨m'', v, by simpa using hv⟩
        obtain ⟨j, hj⟩ := List.mem_iff_getElem?.mp hlonger
        have hmem := (hs.edges hi hn' c j).mpr hj
        have hnonempty : n'.edges.isEmpty = false := by
          simpa using List.ne_nil_of_mem hmem
        rw [hnonempty, hmarker]
        simp
    have hlt : made.length < i := by
      rcases Nat.lt_trichotomy i made.length with hlt | heq | hlt
      · rw [hnodes, List.getElem?_append_left hlt] at hn'
        exact absurd (hmade n' (List.mem_of_getElem? hn')) hstands
      · subst heq
        have hsame := ((hclaim _ m').mpr hi).symm.trans ((hclaim _ m).mpr hword)
        exact absurd (Option.some.inj hsame) hne
      · exact hlt
    obtain ⟨hlen, hget⟩ := List.getElem?_eq_some_iff.mp hword
    obtain ⟨hlen', hget'⟩ := List.getElem?_eq_some_iff.mp hi
    have hrel := List.pairwise_iff_getElem.mp hsorted _ _ hlen hlen' hlt
    rwa [hget, hget'] at hrel

end MarkerSet

namespace Recognizer

open MarkerSet

/-- What an error says of the marker set. -/
theorem build_error {ms : MarkerSet} {e : MarkerError} (h : build ms = .error e) :
    (∃ m, ms.FirstUnfit m ∧ e = ms.refusal m) ∨
      ((∀ m, ¬ ms.Unfit m) ∧ ∃ m, ms.FirstBlocker m ∧ e = .blocks (ms.word m)) := by
  simp only [build] at h
  split at h
  · next e' hins =>
    cases h
    exact .inl (firstUnfit_of_insertAll hins)
  · next t hins =>
    split at h
    · next m hblocker =>
      cases h
      have hall : Marker.all = Marker.all ++ [] := (List.append_nil _).symm
      have hfit := not_unfit_of_insertAll hall hins
      exact .inr ⟨fun m => hfit m m.mem_all, m,
        firstBlocker_of_blocker? hins hblocker, rfl⟩
    · cases h

end Recognizer

/-- A marker set has a recognizer exactly when its words can be told apart. When
some word is refused, the first one is named, as empty or as clashing; when none
is, the first one that blocks another is named. -/
theorem build_ok_or_culprit (ms : MarkerSet) :
    ((∃ r, Recognizer.build ms = .ok r) ↔ (∀ m, ms.word m ≠ []) ∧
      (∀ m m', ms.word m = ms.word m' → m = m') ∧ ∀ m, ¬ ms.Blocks m) ∧
    ((∃ m, ms.Unfit m) → ∃ m, ms.FirstUnfit m ∧
      ∃ e, Recognizer.build ms = .error e ∧ e.message =
        if ms.word m = [] then "Marker \"" ++ m.name ++ "\" must not be empty"
        else "Marker clash on \"" ++ String.ofList (ms.word m) ++ "\"") ∧
    ((∀ m, ¬ ms.Unfit m) → (∃ m, ms.Blocks m) → ∃ m, ms.FirstBlocker m ∧
      ∃ e, Recognizer.build ms = .error e ∧ e.message =
        "Marker \"" ++ String.ofList (ms.word m) ++ "\" blocks other markers") := by
  have hlegal : ∀ r, Recognizer.build ms = .ok r → ms.Legal := by
    intro r hr
    obtain ⟨rfl, hfaithful⟩ := Recognizer.build_faithful hr
    exact hfaithful.legal
  refine ⟨?_, ?_, ?_⟩
  · rw [← MarkerSet.legal_iff]
    constructor
    · intro hok
      obtain ⟨r, hr⟩ := hok
      exact hlegal r hr
    · intro h
      cases hb : Recognizer.build ms with
      | ok r => exact ⟨r, rfl⟩
      | error e =>
        exfalso
        obtain ⟨hne, hinj, hfree⟩ := MarkerSet.legal_iff.mp h
        rcases Recognizer.build_error hb with ⟨m, hm, -⟩ | ⟨-, m, hm, -⟩
        · rcases hm.unfit with hnil | ⟨m', hm', heq⟩
          · exact hne m hnil
          · exact Marker.ne_of_mem_earlier hm' (hinj m' m heq)
        · exact hfree m hm.blocks
  · intro hunfit
    obtain ⟨m₀, hm₀⟩ := hunfit
    cases hb : Recognizer.build ms with
    | ok r =>
      obtain ⟨hne, hinj, -⟩ := MarkerSet.legal_iff.mp (hlegal r hb)
      rcases hm₀ with hnil | ⟨m', hm', heq⟩
      · exact absurd hnil (hne m₀)
      · exact absurd (hinj m' m₀ heq) (Marker.ne_of_mem_earlier hm')
    | error e =>
      rcases Recognizer.build_error hb with ⟨m, hm, rfl⟩ | ⟨hfit, -⟩
      · refine ⟨m, hm, _, rfl, ?_⟩
        simp only [MarkerSet.refusal]
        split <;> rfl
      · exact absurd hm₀ (hfit m₀)
  · intro hfit hblocks
    obtain ⟨m₀, hm₀⟩ := hblocks
    cases hb : Recognizer.build ms with
    | ok r =>
      obtain ⟨-, -, hfree⟩ := MarkerSet.legal_iff.mp (hlegal r hb)
      exact absurd hm₀ (hfree m₀)
    | error e =>
      rcases Recognizer.build_error hb with ⟨m, hm, -⟩ | ⟨-, m, hm, rfl⟩
      · exact absurd hm.unfit (hfit m)
      · exact ⟨m, hm, _, rfl, rfl⟩

/-- A set with two words that block: `x` is entered first, but the node of `ab` is
made before, on the way to `abc`. -/
def MarkerSet.nested : MarkerSet where
  codeBegin := ['a', 'b', 'c']
  codeEnd := ['x', 'y']
  outputBegin := ['x']
  outputEnd := ['a', 'b']

/-- Of the two words that block, the one whose node was made first is named. Where
one word clashes and a later one is empty, the clash is named. -/
theorem build_ok_or_culprit_nested :
    ((∀ m, ¬ MarkerSet.nested.Unfit m) ∧ (∃ m, MarkerSet.nested.Blocks m) ∧
      ∃ e, Recognizer.build .nested = .error e ∧
        e.message = "Marker \"ab\" blocks other markers") ∧
    (∃ m, MarkerSet.Unfit ⟨['a'], ['a'], [], ['b']⟩ m) ∧
      ∃ e, Recognizer.build ⟨['a'], ['a'], [], ['b']⟩ = .error e ∧
        e.message = "Marker clash on \"a\"" := by
  have hfit : ∀ m, ¬ MarkerSet.nested.Unfit m := by decide
  have hblocks : ∃ m, MarkerSet.nested.Blocks m := by decide
  have hunfit : ∃ m, MarkerSet.Unfit ⟨['a'], ['a'], [], ['b']⟩ m := by decide
  obtain ⟨-, -, hculprit⟩ := build_ok_or_culprit .nested
  obtain ⟨m, hm, e, he, hmessage⟩ := hculprit hfit hblocks
  have hlast : m = .outputEnd := by
    by_contra hne
    have hbefore := hm.first .outputEnd (by decide) (Ne.symm hne)
    revert hbefore
    cases m <;> first | exact absurd rfl hne | decide
  obtain ⟨-, hculprit', -⟩ := build_ok_or_culprit ⟨['a'], ['a'], [], ['b']⟩
  obtain ⟨m', hm', e', he', hmessage'⟩ := hculprit' hunfit
  have hsecond : m' = .codeEnd := by
    -- The first is fit, and what comes later is not the first that is unfit.
    have hcodeEnd : MarkerSet.Unfit ⟨['a'], ['a'], [], ['b']⟩ .codeEnd := by decide
    cases m' with
    | codeEnd => rfl
    | codeBegin => exact absurd hm'.unfit (by decide)
    | outputBegin => exact absurd hcodeEnd (hm'.first .codeEnd (by decide))
    | outputEnd => exact absurd hcodeEnd (hm'.first .codeEnd (by decide))
  subst hlast hsecond
  exact ⟨⟨hfit, hblocks, e, he, hmessage⟩, hunfit, e', he', hmessage'⟩

end ScriptedTemplate
