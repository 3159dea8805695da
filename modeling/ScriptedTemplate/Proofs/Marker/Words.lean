import ScriptedTemplate.Marker.Basic
import Mathlib.Data.List.Infix

/-
  Words and their beginnings — a marker set as a language

  What a detector has in hand is a beginning of some word. A marker set is legal
  when no word is empty and none is a beginning of another; then a text is the
  word of one marker at most, and nothing goes on after a word.
-/

namespace ScriptedTemplate

namespace MarkerSet

/-- A text is a beginning of a marker's word; the word itself counts. -/
def Begins (ms : MarkerSet) (p : Text) : Prop := ∃ m, p <+: ms.word m

instance (ms : MarkerSet) (p : Text) : Decidable (ms.Begins p) :=
  decidable_of_iff (∃ m ∈ Marker.all, p <+: ms.word m) <| by
    constructor
    · intro hbegins
      obtain ⟨m, -, h⟩ := hbegins
      exact ⟨m, h⟩
    · intro hbegins
      obtain ⟨m, h⟩ := hbegins
      exact ⟨m, by cases m <;> decide, h⟩

/-- A set in which a word, `aab`, has two ends in `aaab`. -/
def repetitive : MarkerSet where
  codeBegin := ['a', 'a', 'b']
  codeEnd := ['!', ']']
  outputBegin := ['[', '>']
  outputEnd := ['<', ']']

theorem begins_nil (ms : MarkerSet) : ms.Begins [] := ⟨.codeBegin, List.nil_prefix⟩

theorem begins_word (ms : MarkerSet) (m : Marker) : ms.Begins (ms.word m) := ⟨m, List.prefix_rfl⟩

theorem Begins.of_prefix {ms : MarkerSet} {p q : Text} (h : ms.Begins q) (hpq : p <+: q) :
    ms.Begins p := by
  obtain ⟨m, hm⟩ := h
  exact ⟨m, hpq.trans hm⟩

/-- Words that can be told apart: none is empty, and none is a beginning of
another. -/
structure Legal (ms : MarkerSet) : Prop where
  nonempty : ∀ m, ms.word m ≠ []
  apart : ∀ m m', ms.word m <+: ms.word m' → m = m'

/-- Nothing goes on after a word. -/
theorem Legal.eq_of_word_prefix {ms : MarkerSet} (h : ms.Legal) {m : Marker} {p : Text}
    (hp : ms.Begins p) (hm : ms.word m <+: p) : p = ms.word m := by
  obtain ⟨m', hm'⟩ := hp
  have : m = m' := h.apart m m' (hm.trans hm')
  subst this
  exact hm'.eq_of_length_le hm.length_le

theorem Legal.word_inj {ms : MarkerSet} (h : ms.Legal) {m m' : Marker}
    (hw : ms.word m = ms.word m') : m = m' :=
  h.apart m m' (hw ▸ List.prefix_rfl)

theorem mem_entries (ms : MarkerSet) (m : Marker) (w : Text) :
    (m, w) ∈ ms.entries ↔ ms.word m = w := by
  cases m <;> simp [entries, Marker.all, word, eq_comm]

def ending? (ms : MarkerSet) (p : Text) : Option Marker :=
  Marker.all.find? fun m => ms.word m == p

theorem word_of_ending? {ms : MarkerSet} {p : Text} {m : Marker} (h : ms.ending? p = some m) :
    ms.word m = p := by
  simpa using List.find?_some h

theorem ending?_eq_none_iff {ms : MarkerSet} {p : Text} :
    ms.ending? p = none ↔ ∀ m, ms.word m ≠ p := by
  simp only [ending?, List.find?_eq_none, beq_iff_eq]
  constructor
  · intro h m
    exact h m (by cases m <;> decide)
  · intro h m _
    exact h m

theorem Legal.ending?_eq_some_iff {ms : MarkerSet} (h : ms.Legal) {p : Text} {m : Marker} :
    ms.ending? p = some m ↔ ms.word m = p := by
  constructor
  · exact word_of_ending?
  · intro hm
    cases he : ms.ending? p with
    | none => exact absurd hm (ending?_eq_none_iff.mp he m)
    | some m' => rw [h.word_inj ((word_of_ending? he).trans hm.symm)]

theorem Legal.ending?_nil {ms : MarkerSet} (h : ms.Legal) : ms.ending? [] = none :=
  ending?_eq_none_iff.mpr h.nonempty

end MarkerSet

end ScriptedTemplate
