import ScriptedTemplate.CommandLine.FileTree
import ScriptedTemplate.Proofs.CommandLine.Files

/-
  File trees — the assumptions on file systems hold of one

  Bytes are put at the one place that a path leads to. The directory in which that place
  lies is there already, so a file that is new makes no directory, and paths lead where
  they led before (`follow_put_iff`).

  What is proved: `system_refusesCleanly` and `system_overwrites` — trees refuse without
  a change, and a write changes what two paths read only if both lead to one place.
-/

namespace ScriptedTemplate

namespace CommandLine

namespace FileTree

variable {t : FileTree} {place d : List String} {b : ByteArray}

/-! ## Places -/

theorem at?_put (t : FileTree) (place : List String) (b : ByteArray) (other : List String) :
    (t.put place b).at? other = if other = place then some b else t.at? other := by
  rw [at?, put]
  dsimp only
  split
  · next hthere =>
    have hsame : ((fun f : List String × ByteArray => f.1 == other) ∘
        fun f => if f.1 == place then (place, b) else f) = fun f => f.1 == other := by
      funext f
      simp only [Function.comp]
      split
      · next hf => rw [beq_iff_eq.mp hf]
      · rfl
    rw [List.find?_map, hsame]
    cases hfind : t.files.find? (·.1 == other) with
    | none =>
      have hne : other ≠ place := by
        intro heq
        subst heq
        simp [at?, hfind] at hthere
      simp [at?, hfind, hne]
    | some f =>
      have hf : f.1 = other := by simpa using List.find?_some hfind
      by_cases hother : other = place
      · simp [hf, hother]
      · simp [at?, hfind, hf, hother]
  · next hthere =>
    have habsent : t.at? place = none := by simpa using hthere
    rw [List.find?_append, Option.map_or, ← at?]
    by_cases hother : other = place
    · subst hother
      rw [habsent]
      simp
    · have hone : (place == other) = false := by simpa using Ne.symm hother
      simp [hother, hone]

/-! ## Directories -/

theorem isDirectory_iff : t.isDirectory d = true ↔
    d <+: t.start ∨ ∃ f ∈ t.files, d <+: f.1 ∧ d.length < f.1.length := by
  simp [isDirectory]

theorem isDirectory_of_prefix {d' : List String} (h : t.isDirectory d' = true) (hd : d <+: d') :
    t.isDirectory d = true := by
  rw [isDirectory_iff] at h ⊢
  rcases h with hstart | ⟨f, hf, hbelow, hlength⟩
  · exact .inl (hd.trans hstart)
  · exact .inr ⟨f, hf, hd.trans hbelow, Nat.lt_of_le_of_lt hd.length_le hlength⟩

theorem isDirectory_put_iff (hparent : t.isDirectory place.dropLast = true) (b : ByteArray) :
    (t.put place b).isDirectory d = true ↔ t.isDirectory d = true := by
  -- What leads to the new file leads to the directory in which it lies, or is that.
  have hinside : d <+: place → d.length < place.length → t.isDirectory d = true := by
    intro hd hlength
    apply isDirectory_of_prefix hparent
    rw [List.prefix_iff_eq_take.mp hd, List.dropLast_eq_take]
    exact List.take_prefix_take_left (by omega)
  have hfiles : ∀ f ∈ (t.put place b).files, f.1 = place ∨ f ∈ t.files := by
    intro f hf
    rw [put] at hf
    dsimp only at hf
    split at hf
    · obtain ⟨g, hg, rfl⟩ := List.mem_map.mp hf
      split
      · exact .inl rfl
      · exact .inr hg
    · rcases List.mem_append.mp hf with hold | hnew
      · exact .inr hold
      · rw [List.mem_singleton.mp hnew]
        exact .inl rfl
  constructor
  · intro h
    rcases isDirectory_iff.mp h with hstart | ⟨f, hf, hbelow, hlength⟩
    · exact isDirectory_iff.mpr (.inl hstart)
    · rcases hfiles f hf with hplace | hold
      · rw [hplace] at hbelow hlength
        exact hinside hbelow hlength
      · exact isDirectory_iff.mpr (.inr ⟨f, hold, hbelow, hlength⟩)
  · intro h
    rw [isDirectory_iff] at h ⊢
    rcases h with hstart | ⟨f, hf, hbelow, hlength⟩
    · exact .inl hstart
    · refine .inr ?_
      rw [put]
      dsimp only
      split
      · refine ⟨_, List.mem_map_of_mem hf, ?_⟩
        split
        · next hplace =>
          rw [← beq_iff_eq.mp hplace]
          exact ⟨hbelow, hlength⟩
        · exact ⟨hbelow, hlength⟩
      · exact ⟨f, List.mem_append_left _ hf, hbelow, hlength⟩

/-! ## Paths -/

theorem followFrom_cons_iff {n : String} {ns dest : List String} :
    t.followFrom place (n :: ns) = .ok dest ↔ n.utf8ByteSize ≤ 255 ∧
      (ns = [] ∨ t.isDirectory (next place n) = true) ∧
      t.followFrom (next place n) ns = .ok dest := by
  rw [followFrom]
  by_cases hlength : 255 < n.utf8ByteSize
  · simp [hlength, Nat.not_le.mpr hlength]
  · rw [if_neg hlength]
    by_cases hgo : ns = [] ∨ t.isDirectory (next place n) = true
    · simp [hgo, Nat.not_lt.mp hlength]
    · rw [if_neg (by simpa using hgo)]
      simp only [hgo, false_and, and_false, iff_false]
      split <;> simp

theorem isDirectory_of_followFrom {dest : List String} (ns : List String) :
    ∀ {place : List String}, t.isDirectory place = true → t.followFrom place ns = .ok dest →
      t.isDirectory dest.dropLast = true := by
  induction ns with
  | nil =>
    intro place hplace h
    cases h
    exact isDirectory_of_prefix hplace (List.dropLast_prefix _)
  | cons n ns ih =>
    intro place hplace h
    obtain ⟨-, hlast | hgo, hrest⟩ := followFrom_cons_iff.mp h
    · subst hlast
      cases hrest
      rw [next]
      split
      · exact isDirectory_of_prefix hplace
          ((List.dropLast_prefix _).trans (List.dropLast_prefix place))
      · rw [List.dropLast_concat]
        exact hplace
    · exact ih hgo hrest

theorem isDirectory_of_follow {path : String} (h : t.follow path = .ok place) :
    t.isDirectory place.dropLast = true := by
  rw [follow] at h
  split at h
  · cases h
  · refine isDirectory_of_followFrom _ (isDirectory_iff.mpr (.inl ?_)) h
    split
    · exact List.nil_prefix
    · exact List.prefix_refl _

theorem followFrom_congr {t' : FileTree} (hsame : ∀ d, t'.isDirectory d = t.isDirectory d)
    {dest : List String} (ns : List String) : ∀ place : List String,
      t'.followFrom place ns = .ok dest ↔ t.followFrom place ns = .ok dest := by
  induction ns with
  | nil => intro place; rfl
  | cons n ns ih =>
    intro place
    rw [followFrom_cons_iff, followFrom_cons_iff, hsame, ih]

/-- Putting a file where a path leads turns no path to another place. -/
theorem follow_put_iff {path : String} (h : t.follow path = .ok place) (b : ByteArray)
    {other : String} {dest : List String} :
    (t.put place b).follow other = .ok dest ↔ t.follow other = .ok dest := by
  have hparent := isDirectory_of_follow h
  have hsame : ∀ d, (t.put place b).isDirectory d = t.isDirectory d := fun d =>
    Bool.eq_iff_iff.mpr (isDirectory_put_iff hparent b)
  rw [follow, follow]
  split
  · simp
  · exact followFrom_congr hsame _ _

/-! ## Reading and writing -/

theorem read_eq_ok_iff {path : String} : t.read path = .ok b ↔
    ∃ place, t.follow path = .ok place ∧ t.at? place = some b ∧ (names path).2 = false := by
  rw [read]
  cases t.follow path with
  | error e => simp
  | ok place =>
    cases hat : t.at? place with
    | none => simp [hat]
    | some c => cases hname : (names path).2 <;> simp [hat]

theorem content?_eq_some_iff {path : String} : system.content? t path = some b ↔
    ∃ place, t.follow path = .ok place ∧ t.at? place = some b ∧ (names path).2 = false := by
  rw [← read_eq_ok_iff]
  exact toOption_eq_some_iff

/-- A tree refuses to open a file without a change. -/
theorem system_refusesCleanly : system.RefusesCleanly := by
  intro t path f after h other
  have hsame : after = t := by
    simp only [system, store] at h
    split at h
    · cases h
      rfl
    · split at h
      · cases h
        rfl
      · cases h
  rw [hsame]

theorem store_eq_ok_iff {path : String} {after : FileTree} :
    t.store path b = (.ok (), after) ↔ ∃ place, t.follow path = .ok place ∧
      (names path).2 = false ∧ t.isDirectory place = false ∧ after = t.put place b := by
  rw [store]
  cases t.follow path with
  | error e => simp
  | ok place =>
    cases hname : (names path).2 <;> cases hdir : t.isDirectory place <;>
      simp [hdir, @eq_comm _ _ after]

/-- A tree is written to where a path leads to what can be a file. -/
theorem write_eq_ok_iff {path : String} {after : FileTree} :
    system.write t path b = (.ok (), after) ↔ ∃ place, t.follow path = .ok place ∧
      (names path).2 = false ∧ t.isDirectory place = false ∧
      after = (t.put place .empty).put place b := by
  have hwrite : system.write t path b = (.ok (), after) ↔ ∃ opened,
      t.store path .empty = (.ok (), opened) ∧ opened.store path b = (.ok (), after) := by
    rw [FileSystem.write]
    split
    · next f opened hopen =>
      have hstore : t.store path .empty = (.error f, opened) := hopen
      simp [hstore]
    · next opened hopen =>
      have hstore : t.store path .empty = (.ok (), opened) := hopen
      simp [hstore, system]
  rw [hwrite]
  constructor
  · intro h
    obtain ⟨opened, hopen, hfill⟩ := h
    obtain ⟨place, hfollow, hname, hdir, rfl⟩ := store_eq_ok_iff.mp hopen
    obtain ⟨place', hfollow', -, -, rfl⟩ := store_eq_ok_iff.mp hfill
    have hplace := hfollow'.symm.trans ((follow_put_iff hfollow .empty).mpr hfollow)
    rw [Except.ok.inj hplace]
    exact ⟨place, hfollow, hname, hdir, rfl⟩
  · intro h
    obtain ⟨place, hfollow, hname, hdir, rfl⟩ := h
    have hstays : (t.put place .empty).isDirectory place = false := by
      rw [← Bool.not_eq_true, isDirectory_put_iff (isDirectory_of_follow hfollow), hdir]
      exact Bool.false_ne_true
    exact ⟨_, store_eq_ok_iff.mpr ⟨place, hfollow, hname, hdir, rfl⟩,
      store_eq_ok_iff.mpr ⟨place, (follow_put_iff hfollow .empty).mpr hfollow, hname, hstays, rfl⟩⟩

/-- A write to a tree is seen where it was made, and by no path to another place. -/
theorem system_overwrites :
    system.Overwrites fun t path other => t.follow path = t.follow other := by
  intro t path b after h
  obtain ⟨place, hfollow, hname, -, rfl⟩ := write_eq_ok_iff.mp h
  have hfollowed := (follow_put_iff hfollow .empty).mpr hfollow
  -- Opening and filling turn no path, and leave all places but one.
  have hkept : ∀ {other dest}, ((t.put place .empty).put place b).follow other = .ok dest ↔
      t.follow other = .ok dest := by
    intro other dest
    rw [follow_put_iff hfollowed, follow_put_iff hfollow]
  have hat : ∀ dest, ((t.put place .empty).put place b).at? dest =
      if dest = place then some b else t.at? dest := by
    intro dest
    rw [at?_put, at?_put]
    split <;> rfl
  constructor
  · exact read_eq_ok_iff.mpr ⟨place, hkept.mpr hfollow, by rw [hat, if_pos rfl], hname⟩
  · intro other hother
    ext c
    rw [content?_eq_some_iff, content?_eq_some_iff]
    apply exists_congr
    intro dest
    rw [hkept]
    apply and_congr_right
    intro hdest
    have hne : dest ≠ place := by
      intro heq
      rw [heq] at hdest
      exact hother (hfollow.trans hdest.symm)
    rw [hat, if_neg hne]

end FileTree

end CommandLine

end ScriptedTemplate
