import ScriptedTemplate.Options.Reader

/-
  Settings in a document — which key asks for which option

  A document with options is read entry by entry. What the settings are then follows
  from the entries alone: each option has a key, the one entry with that key decides it,
  and an option without an entry is left open (`Given`). Other entries decide nothing.

  What is proved: `asked_of_ofYaml` — settings that are read from a text are those that
  the entries of its document ask for.
-/

namespace ScriptedTemplate

namespace Yaml

/-! ## Scalars in a document -/

namespace Document

/-- The node that a node stands for: itself, or the one that it is an alias of. -/
def meant (d : Document) : Node → Node
  | .reference m number => (d.anchor? number).getD (.reference m number)
  | n => n

/-- The text of the scalar that a node stands for. -/
def text? (d : Document) (n : Node) : Option Text :=
  match d.meant n with
  | .scalar _ s => some s.content
  | _ => none

/-- What the scalar spells that a node stands for; in quotes it spells nothing but text. -/
def spelled? {α : Type} (d : Document) (k : Core) (read : Text → Option α) (n : Node) : Option α :=
  match d.meant n with
  | .scalar _ s =>
    if s.style == .plain || (s.style == .literal && s.tag == some k.tag) then read s.content
    else none
  | _ => none

/-- The entries of the mapping at the root. -/
def entries (d : Document) : List (Node × Node) :=
  match d.root with
  | some (.mapping _ _ es) => es
  | _ => []

/-- What the entries of a mapping give for a key: nothing if none has it, else what is
read from the value of the one that has it. -/
inductive Given {α : Type} (d : Document) (es : List (Node × Node)) (key : String)
    (read : Node → Option α) : Option α → Prop where
  | absent : (∀ e ∈ es, d.text? e.1 ≠ some key.toList) → Given d es key read none
  | present {before after : List (Node × Node)} {k v : Node} {a : α} :
      es = before ++ (k, v) :: after → d.text? k = some key.toList →
      (∀ e ∈ before ++ after, d.text? e.1 ≠ some key.toList) → read v = some a →
      Given d es key read (some a)

namespace Given

variable {α : Type} {d : Document} {es : List (Node × Node)} {key : String}
  {read : Node → Option α} {e : Node × Node} {name : Text}

theorem skip {given : Option α} (h : Given d es key read given) (hname : d.text? e.1 = some name)
    (hne : String.ofList name ≠ key) : Given d (es ++ [e]) key read given := by
  have hother : d.text? e.1 ≠ some key.toList := by
    intro heq
    rw [hname] at heq
    apply hne
    rw [Option.some.inj heq, String.ofList_toList]
  cases h with
  | absent habsent =>
    apply absent
    intro e' he'
    rcases List.mem_append.mp he' with hold | hnew
    · exact habsent e' hold
    · rw [List.mem_singleton.mp hnew]
      exact hother
  | @present before after k v a hsplit hkey hrest hread =>
    have hes : es ++ [e] = before ++ (k, v) :: (after ++ [e]) := by
      rw [hsplit, List.append_assoc, List.cons_append]
    refine present hes hkey ?_ hread
    intro e' he'
    rw [← List.append_assoc] at he'
    rcases List.mem_append.mp he' with hold | hnew
    · exact hrest e' hold
    · rw [List.mem_singleton.mp hnew]
      exact hother

theorem take {a : α} (h : Given d es key read none) (hname : d.text? e.1 = some name)
    (heq : String.ofList name = key) (hread : read e.2 = some a) :
    Given d (es ++ [e]) key read (some a) := by
  cases h with
  | absent habsent =>
    refine present rfl ?_ ?_ hread
    · rw [hname, ← heq, String.toList_ofList]
    · rw [List.append_nil]
      exact habsent

end Given

end Document

namespace Extract

variable {α β : Type} {d : Document} {n : Node} {p : Path} {e : Expected} {k k' : Nat}

theorem bind_ok {x : Extract α} {f : α → Extract β} {b : β} (h : (x >>= f).run k = .ok (b, k')) :
    ∃ a j, x.run k = .ok (a, j) ∧ (f a).run j = .ok (b, k') := by
  rw [StateT.run_bind] at h
  cases hx : x.run k with
  | error e =>
    rw [hx] at h
    cases h
  | ok r =>
    rw [hx] at h
    exact ⟨r.1, r.2, rfl, h⟩

theorem pure_ok {a b : α} (h : (pure a : Extract α).run k = .ok (b, k')) : b = a := by
  cases h
  rfl

theorem follow_ok {n' : Node} (h : (follow d n).run k = .ok (n', k')) : n' = d.meant n := by
  cases n with
  | reference m number =>
    obtain ⟨j, i, hj, h⟩ := bind_ok h
    split at h
    · cases h
    · obtain ⟨-, -, -, h⟩ := bind_ok h
      exact pure_ok h
  | broken b => cases h
  | _ => exact pure_ok h

theorem refuse_ne_ok {s : Scalar} {l : Location} {a : α} :
    (refuse s e l).run k ≠ .ok (a, k') := by
  intro h
  rw [refuse] at h
  split at h <;> cases h

theorem refuseNode_ne_ok {a : α} : (refuseNode n e p).run k ≠ .ok (a, k') := by
  intro h
  cases n with
  | scalar m s => exact refuse_ne_ok h
  | _ => cases h

theorem text_ok {t : Text} (h : (text d e p n).run k = .ok (t, k')) : d.text? n = some t := by
  obtain ⟨n', j, hfollow, h⟩ := bind_ok h
  rw [Document.text?, ← follow_ok hfollow]
  cases n' with
  | scalar m s => rw [pure_ok h]
  | _ => exact absurd h refuseNode_ne_ok

theorem spelled_ok {core : Core} {read : Text → Option α} {a : α}
    (h : (spelled d core read e p n).run k = .ok (a, k')) : d.spelled? core read n = some a := by
  obtain ⟨n', j, hfollow, h⟩ := bind_ok h
  rw [Document.spelled?, ← follow_ok hfollow]
  cases n' with
  | scalar m s =>
    dsimp only at h ⊢
    split at h
    · next a' ha => rw [ha, pure_ok h]
    · exact absurd h refuse_ne_ok
  | _ => exact absurd h refuseNode_ne_ok

theorem fromText_ok {read : Document → Extract α} {t : Text} {a : α}
    (h : fromText read t = .ok a) : ∃ j, (read (document t)).run 0 = .ok (a, j) := by
  rw [fromText] at h
  split at h
  · cases h
  · next a' j hread =>
    refine ⟨j, ?_⟩
    split at h
    · cases h
    · split at h
      · cases h
      · cases h
        exact hread

end Extract

end Yaml

/-! ## Settings -/

/-- The key of the option that is the word for a marker. -/
def Marker.key : Marker → String
  | codeBegin => "code_begin"
  | codeEnd => "code_end"
  | outputBegin => "output_begin"
  | outputEnd => "output_end"

namespace Settings

open Yaml (Document Extract)
open Yaml.Extract (bind_ok pure_ok text_ok spelled_ok)

/-- The word that settings ask for, for a marker. -/
def word? (s : Settings) : Marker → Option Text
  | .codeBegin => s.codeBegin
  | .codeEnd => s.codeEnd
  | .outputBegin => s.outputBegin
  | .outputEnd => s.outputEnd

/-- The settings are those that entries of a document ask for. -/
structure Asked (d : Document) (es : List (Yaml.Node × Yaml.Node)) (s : Settings) : Prop where
  word : ∀ m : Marker, d.Given es m.key d.text? (s.word? m)
  trim : d.Given es "trim_after_code" (d.spelled? .bool Yaml.bool?) s.trimAfterCode
  width : d.Given es "debug_len" (d.spelled? .int Yaml.count?) s.contextWidth

variable {d : Document} {s s' : Settings} {k k' : Nat}

theorem asked_nothing (d : Document) : Asked d [] .nothing where
  word m := by cases m <;> exact .absent (by simp)
  trim := .absent (by simp)
  width := .absent (by simp)

theorem once_ok {α : Type} {known : Option α} {name : Text} {whole : Yaml.Mark} {u : Unit}
    (h : (once name whole known).run k = .ok (u, k')) : known = none := by
  cases known with
  | none => rfl
  | some a => cases h

def withWord (s : Settings) (t : Text) : Marker → Settings
  | .codeBegin => { s with codeBegin := some t }
  | .codeEnd => { s with codeEnd := some t }
  | .outputBegin => { s with outputBegin := some t }
  | .outputEnd => { s with outputEnd := some t }

theorem word?_withWord (s : Settings) (t : Text) (m m' : Marker) :
    (s.withWord t m).word? m' = if m' = m then some t else s.word? m' := by
  cases m <;> cases m' <;> rfl

namespace Asked

variable {es : List (Yaml.Node × Yaml.Node)} {e : Yaml.Node × Yaml.Node} {name : Text}

theorem withWord (h : Asked d es s) {m : Marker} {t : Text} (hname : d.text? e.1 = some name)
    (hkey : String.ofList name = m.key) (hopen : s.word? m = none) (ht : d.text? e.2 = some t) :
    Asked d (es ++ [e]) (s.withWord t m) := by
  have hwidth : m.key ≠ "debug_len" := by cases m <;> decide
  have htrim : m.key ≠ "trim_after_code" := by cases m <;> decide
  constructor
  · intro m'
    rw [word?_withWord]
    split
    · next heq =>
      subst heq
      have hgiven := h.word m'
      rw [hopen] at hgiven
      exact hgiven.take hname hkey ht
    · next hne =>
      have hkeys : m.key ≠ m'.key := by
        revert hne
        cases m <;> cases m' <;> decide
      exact (h.word m').skip hname (hkey ▸ hkeys)
  · have hsame : (s.withWord t m).trimAfterCode = s.trimAfterCode := by cases m <;> rfl
    rw [hsame]
    exact h.trim.skip hname (hkey ▸ htrim)
  · have hsame : (s.withWord t m).contextWidth = s.contextWidth := by cases m <;> rfl
    rw [hsame]
    exact h.width.skip hname (hkey ▸ hwidth)

theorem read (h : Asked d es s) {m : Marker} {whole : Yaml.Mark} {expected : Yaml.Expected}
    {p : Yaml.Path} (hname : d.text? e.1 = some name) (hkey : String.ofList name = m.key)
    (hrun : (do
      once name whole (s.word? m)
      let t ← Extract.text d expected p e.2
      return s.withWord t m : Extract Settings).run k = .ok (s', k')) :
    Asked d (es ++ [e]) s' := by
  obtain ⟨_, i, honce, hrun⟩ := bind_ok hrun
  obtain ⟨t, i', hread, hrun⟩ := bind_ok hrun
  rw [pure_ok hrun]
  exact h.withWord hname hkey (once_ok honce) (text_ok hread)

end Asked

/-- One more entry gives the option of its key, which nothing has given before, and no
other option. -/
theorem asked_readEntry {whole : Yaml.Mark} {es : List (Yaml.Node × Yaml.Node)}
    {e : Yaml.Node × Yaml.Node} (hasked : Asked d es s)
    (h : (readEntry d whole s e).run k = .ok (s', k')) : Asked d (es ++ [e]) s' := by
  obtain ⟨name, j, hname, h⟩ := bind_ok h
  have hname := text_ok hname
  -- The keys differ, so an entry with one of them is passed over by all other options.
  have hwords : ∀ m : Marker, String.ofList name = "trim_after_code" ∨
      String.ofList name = "debug_len" → String.ofList name ≠ m.key := by
    intro m hkey
    rcases hkey with hkey | hkey <;> rw [hkey] <;> cases m <;> decide
  split at h
  · next hkey => exact hasked.read (m := .codeBegin) hname hkey h
  · next hkey => exact hasked.read (m := .codeEnd) hname hkey h
  · next hkey => exact hasked.read (m := .outputBegin) hname hkey h
  · next hkey => exact hasked.read (m := .outputEnd) hname hkey h
  · next hkey =>
    obtain ⟨_, i, honce, h⟩ := bind_ok h
    obtain ⟨trim, i', hread, h⟩ := bind_ok h
    rw [pure_ok h]
    have hgiven := hasked.trim
    rw [once_ok honce] at hgiven
    exact ⟨fun m => (hasked.word m).skip hname (hwords m (.inl hkey)),
      hgiven.take hname hkey (spelled_ok hread),
      hasked.width.skip hname (hkey ▸ by decide)⟩
  · next hkey =>
    obtain ⟨_, i, honce, h⟩ := bind_ok h
    obtain ⟨width, i', hread, h⟩ := bind_ok h
    rw [pure_ok h]
    have hgiven := hasked.width
    rw [once_ok honce] at hgiven
    exact ⟨fun m => (hasked.word m).skip hname (hwords m (.inr hkey)),
      hasked.trim.skip hname (hkey ▸ by decide),
      hgiven.take hname hkey (spelled_ok hread)⟩
  · next hcodeBegin hcodeEnd houtputBegin houtputEnd htrim hwidth =>
    obtain ⟨-, i, -, h⟩ := bind_ok h
    rw [pure_ok h]
    refine ⟨?_, hasked.trim.skip hname htrim, hasked.width.skip hname hwidth⟩
    intro m
    apply (hasked.word m).skip hname
    cases m with
    | codeBegin => exact hcodeBegin
    | codeEnd => exact hcodeEnd
    | outputBegin => exact houtputBegin
    | outputEnd => exact houtputEnd

theorem asked_foldlM {whole : Yaml.Mark} (rest : List (Yaml.Node × Yaml.Node)) :
    ∀ {es : List (Yaml.Node × Yaml.Node)} {s : Settings} {k : Nat}, Asked d es s →
      (rest.foldlM (readEntry d whole) s).run k = .ok (s', k') → Asked d (es ++ rest) s' := by
  induction rest with
  | nil =>
    intro es s k hasked h
    rw [pure_ok h, List.append_nil]
    exact hasked
  | cons e rest ih =>
    intro es s k hasked h
    rw [List.foldlM_cons] at h
    obtain ⟨s₁, j, hfirst, hrest⟩ := bind_ok h
    have hall := ih (asked_readEntry hasked hfirst) hrest
    rw [List.append_assoc] at hall
    exact hall

theorem asked_readDocument (h : (readDocument d).run k = .ok (s, k')) : Asked d d.entries s := by
  rw [readDocument] at h
  rw [Document.entries]
  cases hroot : d.root with
  | none =>
    rw [hroot] at h
    rw [pure_ok h]
    exact asked_nothing d
  | some n =>
    rw [hroot] at h
    dsimp only at h
    split at h
    · next m tag es =>
      have hall := asked_foldlM es (asked_nothing d) h
      exact hall
    · rw [pure_ok h]
      exact asked_nothing d
    · exact absurd h Yaml.Extract.refuseNode_ne_ok

/-- Settings that are read from a text are what the entries of its document ask for. -/
theorem asked_of_ofYaml {t : Text} (h : ofYaml t = .ok s) :
    Asked (Yaml.document t) (Yaml.document t).entries s := by
  obtain ⟨j, hread⟩ := Yaml.Extract.fromText_ok h
  exact asked_readDocument hread

end Settings

end ScriptedTemplate
