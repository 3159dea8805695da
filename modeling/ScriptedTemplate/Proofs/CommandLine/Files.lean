import ScriptedTemplate.CommandLine.Files

/-
  Files — what is assumed of a file system

  Nothing is assumed of how paths lead to files, nor of what can fail. Two things are
  documented of writing: an attempt that fails at opening alters no file, and a write
  that succeeds replaces what is in its file and touches no other. They are named here
  (`RefusesCleanly`, `Overwrites`), and whoever needs one takes it as a hypothesis.

  What is proved: `textOf_bytesOf` — a text that is written as bytes reads back as that
  text; `suffix?_eq_json_iff` — which paths name a JSON document.
-/

namespace ScriptedTemplate

namespace CommandLine

theorem textOf_bytesOf (t : Text) : textOf (bytesOf t) = .ok t := by
  have hread : String.fromUTF8? (String.ofList t).toUTF8 = some (String.ofList t) := by
    simp only [String.fromUTF8?, String.toUTF8_eq_toByteArray,
      dif_pos (String.ofList t).isValidUTF8]
    rfl
  rw [textOf, bytesOf, hread]
  exact congrArg Except.ok String.toList_ofList

/-! ## Paths of JSON documents -/

/-- The last name of a path ends in `.json`, and something stands before that. -/
def NamesJson (path : String) : Prop :=
  ∃ before stem, (names path).1 = before ++ [stem ++ ".json"] ∧ stem ≠ ""

theorem takeWhile_point_iff {reversed after : Text} :
    reversed.takeWhile (· ≠ '.') = after ∧ ¬ reversed.length ≤ after.length + 1 ↔
      '.' ∉ after ∧ ∃ stem, stem ≠ [] ∧ reversed = after ++ '.' :: stem := by
  constructor
  · intro h
    obtain ⟨rfl, hlong⟩ := h
    constructor
    · intro hpoint
      simpa using List.all_eq_true.mp List.all_takeWhile '.' hpoint
    · have hsplit : reversed.takeWhile (· ≠ '.') ++ reversed.dropWhile (· ≠ '.') = reversed :=
        List.takeWhile_append_dropWhile
      have hlength := congrArg List.length hsplit
      rw [List.length_append] at hlength
      -- Something is left, since the run is shorter than the whole, and it begins with a point.
      cases hrest : reversed.dropWhile (· ≠ '.') with
      | nil =>
        rw [hrest, List.length_nil] at hlength
        omega
      | cons c stem =>
        have hc : c = '.' := by
          have hhead := List.head?_dropWhile_not (· ≠ '.') reversed
          rw [hrest] at hhead
          simpa using hhead
        rw [hrest, hc] at hsplit
        rw [hrest, List.length_cons] at hlength
        refine ⟨stem, ?_, hsplit.symm⟩
        intro hnil
        rw [hnil, List.length_nil] at hlength
        omega
  · intro h
    obtain ⟨hpoint, stem, hstem, rfl⟩ := h
    have hlength := List.length_pos_iff.mpr hstem
    constructor
    · rw [List.takeWhile_append_of_pos]
      · simp
      · intro c hc
        simpa using fun h : c = '.' => hpoint (h ▸ hc)
    · rw [List.length_append, List.length_cons]
      omega

theorem eq_append_json_iff {last stem : String} : last = stem ++ ".json" ↔
    last.toList.reverse = ['n', 'o', 's', 'j'] ++ '.' :: stem.toList.reverse := by
  rw [← String.toList_inj, ← List.reverse_inj, String.toList_append, List.reverse_append]
  rfl

theorem ofList_reverse_eq_json_iff {after : Text} :
    String.ofList after.reverse = "json" ↔ after = ['n', 'o', 's', 'j'] := by
  rw [← String.toList_inj, String.toList_ofList, ← List.reverse_inj, List.reverse_reverse]
  rfl

/-- Of the names of a path the last one decides. -/
theorem suffix?_of_getLast? {path last : String} (hlast : (names path).1.getLast? = some last) :
    suffix? path = some "json" ↔ ∃ stem, last = stem ++ ".json" ∧ stem ≠ "" := by
  rw [suffix?, hlast]
  dsimp only
  constructor
  · intro h
    split at h
    · cases h
    · next hlong =>
      have hafter := ofList_reverse_eq_json_iff.mp (Option.some.inj h)
      have hlength := fun hle => hlong (Bool.or_eq_true_iff.mpr (.inr (decide_eq_true hle)))
      rw [hafter] at hlength
      obtain ⟨-, stem, hstem, hreversed⟩ := takeWhile_point_iff.mp ⟨hafter, hlength⟩
      refine ⟨String.ofList stem.reverse, ?_, ?_⟩
      · rw [eq_append_json_iff, hreversed, String.toList_ofList, List.reverse_reverse]
      · intro hempty
        rw [← String.toList_inj, String.toList_ofList, List.reverse_eq_iff] at hempty
        exact hstem hempty
  · intro h
    obtain ⟨stem, hjson, hstem⟩ := h
    have hreversed := eq_append_json_iff.mp hjson
    have hsome : stem.toList.reverse ≠ [] := by
      intro hnil
      apply hstem
      rw [← String.toList_inj]
      simpa using hnil
    obtain ⟨hafter, hlength⟩ :=
      takeWhile_point_iff.mpr ⟨by decide, stem.toList.reverse, hsome, hreversed⟩
    have hback : last ≠ ".." := by
      intro hback
      rw [hback] at hreversed
      cases hreversed
    rw [hafter, if_neg]
    · rfl
    · simpa [hback] using hlength

theorem suffix?_eq_json_iff {path : String} : suffix? path = some "json" ↔ NamesJson path := by
  rw [NamesJson]
  cases hlast : (names path).1.getLast? with
  | none =>
    rw [List.getLast?_eq_none_iff] at hlast
    simp [suffix?, hlast]
  | some last =>
    rw [suffix?_of_getLast? hlast]
    obtain ⟨before, hnames⟩ := List.getLast?_eq_some_iff.mp hlast
    constructor
    · intro h
      obtain ⟨stem, hjson, hstem⟩ := h
      exact ⟨before, stem, by rw [hnames, hjson], hstem⟩
    · intro h
      obtain ⟨before', stem, hnames', hstem⟩ := h
      have hsame := List.append_inj_right' (hnames.symm.trans hnames') rfl
      exact ⟨stem, List.singleton_inj.mp hsame, hstem⟩

/-! ## File systems -/

theorem toOption_eq_some_iff {ε α : Type} {x : Except ε α} {a : α} :
    x.toOption = some a ↔ x = .ok a := by
  cases x <;> simp [Except.toOption]

namespace FileSystem

variable {σ : Type}

/-- What is in the file that a path leads to, if it can be read. -/
def content? (disk : FileSystem σ) (s : σ) (path : String) : Option ByteArray :=
  (disk.read s path).toOption

/-- A file that cannot be opened to be written leaves all files as they are. -/
def RefusesCleanly (disk : FileSystem σ) : Prop :=
  ∀ {s : σ} {path : String} {f : FileFault} {after : σ}, disk.create s path = (.error f, after) →
    ∀ other, disk.content? after other = disk.content? s other

/-- Bytes that are written are all that is then in the file. Other files, of which no
path leads to the same one, are as they were. -/
def Overwrites (disk : FileSystem σ) (same : σ → String → String → Prop) : Prop :=
  ∀ {s : σ} {path : String} {b : ByteArray} {after : σ}, disk.write s path b = (.ok (), after) →
    disk.read after path = .ok b ∧
      ∀ other, ¬ same s path other → disk.content? after other = disk.content? s other

end FileSystem

end CommandLine

end ScriptedTemplate
