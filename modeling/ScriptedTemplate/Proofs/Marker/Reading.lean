import ScriptedTemplate.Proofs.Marker.Detector
import Mathlib.Data.Nat.Find

/-
  Reading by longest beginnings — detection as a rule on texts

  A text is read piece by piece. The next piece is the longest text here that
  begins a word: if it is a word its marker is reported, and in either case
  reading goes on after the piece; where no word begins, one character is passed
  over. Nothing in this rule is a node, and no character is looked at twice.

  What is proved: `hits_eq_reading` — the detector of every recognizer sees
  exactly the markers that this rule reports; each of them stands in the text
  where it is reported, and no two of them share a character.
-/

namespace ScriptedTemplate

namespace MarkerSet

/-- The length of the longest text here that begins a word. -/
def longest (ms : MarkerSet) (t : Text) : Nat :=
  Nat.findGreatest (fun k => ms.Begins (t.take k)) t.length

/-- The markers reported from place `i` on, each with the place of its last
character. -/
def readFrom (ms : MarkerSet) (i : Nat) : Text → List (Nat × Marker)
  | [] => []
  | c :: t =>
    let k := ms.longest (c :: t)
    if k = 0 then ms.readFrom (i + 1) t
    else
      match ms.ending? ((c :: t).take k) with
      | some m => (i + k - 1, m) :: ms.readFrom (i + k) ((c :: t).drop k)
      | none => ms.readFrom (i + k) ((c :: t).drop k)
termination_by t => t.length
decreasing_by
  all_goals simp only [List.length_drop, List.length_cons]; omega

/-- The markers reported in a text. -/
def reading (ms : MarkerSet) (t : Text) : List (Nat × Marker) := ms.readFrom 0 t

variable {ms : MarkerSet}

theorem longest_append {p t : Text} (hp : ms.Begins p) (hstop : ms.Stops p t) :
    ms.longest (p ++ t) = p.length := by
  rw [longest, Nat.findGreatest_eq_iff]
  refine ⟨by simp, fun _ => by simpa using hp, ?_⟩
  intro n hlt hle hb
  cases t with
  | nil =>
    simp only [List.append_nil] at hle
    omega
  | cons c t =>
    -- A longer beginning would contain `p` and the character behind it.
    refine hstop c rfl (hb.of_prefix ?_)
    have hn : n = p.length + 1 + (n - p.length - 1) := by omega
    have happ : p ++ c :: t = p ++ [c] ++ t := by simp
    have htake := @List.take_length_add_append _ (p ++ [c]) t (n - p.length - 1)
    rw [List.length_append, List.length_singleton] at htake
    rw [happ, hn, htake]
    exact List.prefix_append _ _

theorem readFrom_append {p t : Text} (hne : p ≠ []) (hp : ms.Begins p) (hstop : ms.Stops p t)
    (i : Nat) : ms.readFrom i (p ++ t) =
      match ms.ending? p with
      | some m => (i + p.length - 1, m) :: ms.readFrom (i + p.length) t
      | none => ms.readFrom (i + p.length) t := by
  have hlongest := longest_append hp hstop
  obtain ⟨c, p', rfl⟩ := List.exists_cons_of_ne_nil hne
  rw [List.cons_append] at hlongest ⊢
  rw [readFrom]
  simp only [hlongest]
  rw [if_neg (by simp), ← List.cons_append, List.take_left, List.drop_left]

/-- Reading by longest beginnings obeys the laws of detection. -/
theorem Legal.readFrom_detects (h : ms.Legal) : ms.Detects ms.readFrom where
  nil := by
    intro i
    rw [readFrom]
  word := by
    intro m i t
    have hstop : ms.Stops (ms.word m) t := by
      intro c _ hb
      have := h.eq_of_word_prefix hb (List.prefix_append _ _)
      simp at this
    rw [readFrom_append (h.nonempty m) (ms.begins_word m) hstop, h.ending?_eq_some_iff.mpr rfl]
  abandon := by
    intro p t hp hstop i
    rw [readFrom_append hp.nonempty hp.begins hstop, hp.no_word]
  skip := by
    intro c hc i t
    have hlongest : ms.longest (c :: t) = 0 :=
      longest_append (p := []) ms.begins_nil (by simpa [Stops] using hc)
    rw [readFrom]
    simp only [hlongest, if_true]

end MarkerSet

/-- The detector reads by longest beginnings; what it reports stands in the text,
and no two reports overlap. -/
theorem hits_eq_reading {ms : MarkerSet} {r : Recognizer} (h : Recognizer.build ms = .ok r)
    (t : Text) :
    r.hits t = ms.reading t ∧
    (∀ j m, (j, m) ∈ r.hits t → j < t.length ∧ ms.word m <:+ t.take (j + 1)) ∧
    (r.hits t).Pairwise fun a b => a.1 + (ms.word b.2).length ≤ b.1 := by
  obtain ⟨rfl, hr⟩ := Recognizer.build_faithful h
  have heq := hr.hits_eq t
  refine ⟨?_, ?_, ?_⟩
  · rw [heq]
    exact (hr.legal.readFrom_detects.eq_hitsFrom hr.legal t [] 0 (.inl rfl)).symm
  · intro j m hmem
    rw [heq] at hmem
    obtain ⟨-, hj, hsuf⟩ := MarkerSet.suffix_of_mem_hitsFrom t hmem
    exact ⟨by simpa using hj, by simpa using hsuf⟩
  · rw [heq]
    exact hr.legal.hitsFrom_pairwise t [] 0

/-- In `aaab[[>` the piece `aa` is given up with the word `aab` that begins in it;
the piece `[` is given up too, and the word `[>` after it is seen. -/
theorem hits_eq_reading_repetitive :
    ∃ r, Recognizer.build .repetitive = .ok r ∧
      r.hits ['a', 'a', 'a', 'b', '[', '[', '>'] = [(6, .outputBegin)] ∧
      r.hits ['a', 'a', 'a', 'b', '[', '[', '>'] =
        MarkerSet.repetitive.reading ['a', 'a', 'a', 'b', '[', '[', '>'] ∧
      MarkerSet.repetitive.word .outputBegin <:+ ['a', 'a', 'a', 'b', '[', '[', '>'].take 7 := by
  obtain ⟨r, hr, hhits⟩ : ∃ r, Recognizer.build .repetitive = .ok r ∧
      r.hits ['a', 'a', 'a', 'b', '[', '[', '>'] = [(6, .outputBegin)] := ⟨_, rfl, by decide⟩
  obtain ⟨hread, hstands, -⟩ := hits_eq_reading hr ['a', 'a', 'a', 'b', '[', '[', '>']
  exact ⟨r, hr, hhits, hread, (hstands 6 .outputBegin (by simp [hhits])).2⟩

end ScriptedTemplate
