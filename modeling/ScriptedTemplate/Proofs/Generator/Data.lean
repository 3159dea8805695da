import ScriptedTemplate.Proofs.Generator.History

/-
  Data — what a run binds of it

  Only a mapping binds names, and nothing binds none. A key can be any value; its text
  is the name. Keys that differ can have one text, as `1` and `"1"` have, and then the
  entry that comes later in the mapping takes the name from the one before it.

  What is proved: `run_binds_data` — apart from such collisions no entry is lost and no
  name is made up, and the bindings of the data go over those of the globals. All other
  data is refused before there is a sink or a question to the evaluator.

  The handles of namespaces and of loops count as maps, but they mean something inside a
  running program only. What leaves a program is a map of what they hold, so as data
  they are maps like all others; a bare handle is a map without entries.
-/

namespace ScriptedTemplate

namespace Bindings

variable {s : String} {v : Value}

theorem mem_names_insertAll (es : List (String × Value)) : ∀ {b : Bindings},
    s ∈ (b.insertAll es).names ↔ s ∈ es.map (·.1) ∨ s ∈ b.names := by
  induction es with
  | nil => intro b; simp [insertAll]
  | cons e es ih =>
    intro b
    have hcons : s ∈ (b.insertAll (e :: es)).names ↔ _ := ih (b := b.insert e.1 e.2)
    rw [hcons, mem_names_insert, List.map_cons, List.mem_cons, or_left_comm, or_assoc]

theorem get?_insertAll_of_forall_ne {es : List (String × Value)} (h : ∀ e ∈ es, e.1 ≠ s)
    (b : Bindings) : (b.insertAll es).get? s = b.get? s := by
  induction es generalizing b with
  | nil => rfl
  | cons e es ih =>
    obtain ⟨he, hes⟩ := List.forall_mem_cons.mp h
    have hcons : (b.insertAll (e :: es)).get? s = _ := ih hes (b.insert e.1 e.2)
    rw [hcons, get?_insert, if_neg he.symm]

theorem get?_insertAll_last {before after : List (String × Value)} (h : ∀ e ∈ after, e.1 ≠ s)
    (b : Bindings) : (b.insertAll (before ++ (s, v) :: after)).get? s = some v := by
  have hsplit : b.insertAll (before ++ (s, v) :: after) =
      ((b.insertAll before).insert s v).insertAll after := List.foldl_append
  rw [hsplit, get?_insertAll_of_forall_ne h, get?_insert, if_pos rfl]

end Bindings

namespace Generator

/-- The bindings that data gives, whatever it is bound over. -/
def dataBindings (data : Value) : Except RunFault Bindings :=
  (dataEntries data).map Bindings.empty.insertAll

variable {data : Value}

theorem dataBindings_eq_ok_iff {d : Bindings} : dataBindings data = .ok d ↔
    ∃ es, dataEntries data = .ok es ∧ Bindings.empty.insertAll es = d := by
  rw [dataBindings]
  cases dataEntries data with
  | ok es => simp [Except.map]
  | error f => simp [Except.map]

theorem dataBindings_of_nothing (h : data.kind = .undefined ∨ data.kind = .none) :
    dataBindings data = .ok .empty := by
  rw [dataBindings, dataEntries]
  rcases h with hundefined | hnone
  · rw [hundefined]
    rfl
  · rw [hnone]
    rfl

/-- The names that a mapping binds are the texts of its keys, once each, and a name goes
to the last entry whose key has it for its text. -/
theorem dataBindings_map (hmap : data.kind = .map) :
    ∃ d, dataBindings data = .ok d ∧ d.names.Nodup ∧
      (∀ s, s ∈ d.names ↔ ∃ e ∈ data.mapEntries, e.1.displayString = s) ∧
      ∀ before k v after, data.mapEntries = before ++ (k, v) :: after →
        (∀ e ∈ after, e.1.displayString ≠ k.displayString) →
        d.get? k.displayString = some v := by
  have hes := dataEntries_of_isMappingOrNone (.inl hmap)
  refine ⟨_, dataBindings_eq_ok_iff.mpr ⟨_, hes, rfl⟩, ?_, ?_, ?_⟩
  · have hempty : Bindings.empty.Ascends := List.Pairwise.nil
    exact (hempty.insertAll _).imp String.ne_of_lt
  · intro s
    rw [Bindings.mem_names_insertAll, List.map_map, List.mem_map]
    exact or_iff_left List.not_mem_nil
  · -- Of the entries behind it none has its name, so the name keeps the value.
    intro before k v after hsplit hlast
    rw [hsplit, List.map_append, List.map_cons]
    apply Bindings.get?_insertAll_last
    intro e he
    obtain ⟨e', he', rfl⟩ := List.mem_map.mp he
    exact hlast e' he'

/-- A run binds its sink over the data, and the data over the globals. -/
theorem hands_dataBindings {d : Bindings} (h : dataBindings data = .ok d) (g : Generator)
    (buffers : Buffers) : ∃ b, g.Hands data buffers g.program.source b ∧ ∀ s, b.get? s =
      if s = sinkName then some (.object (.sink buffers.fresh.2))
      else (d.get? s).or (g.globals.get? s) := by
  obtain ⟨es, hes, rfl⟩ := dataBindings_eq_ok_iff.mp h
  refine ⟨_, hands_bindings hes, ?_⟩
  intro s
  rw [bindings, Bindings.get?_insert, Bindings.get?_insertAll]

end Generator

open Generator

/-- What a run makes of its data. Data that is undefined or none gives no bindings. A
mapping gives one binding for each text that a key of it has, to the value of the last
entry whose key has that text. The bindings of the data go over the globals, and the sink
over both. Data of any other kind makes a run fail, with a message that names the kind,
whatever the evaluator would do; generator and buffers are as they were. -/
theorem run_binds_data (g : Generator) (buffers : Buffers) (data : Value) :
    (data.kind = .undefined ∨ data.kind = .none → dataBindings data = .ok .empty) ∧
    (data.kind = .map →
      ∃ d, dataBindings data = .ok d ∧ d.names.Nodup ∧
        (∀ s, s ∈ d.names ↔ ∃ e ∈ data.mapEntries, e.1.displayString = s) ∧
        ∀ before k v after, data.mapEntries = before ++ (k, v) :: after →
          (∀ e ∈ after, e.1.displayString ≠ k.displayString) →
          d.get? k.displayString = some v) ∧
    (∀ d, dataBindings data = .ok d →
      ∃ b, g.Hands data buffers g.program.source b ∧ ∀ s, b.get? s =
        if s = sinkName then some (.object (.sink buffers.fresh.2))
        else (d.get? s).or (g.globals.get? s)) ∧
    (data.kind ≠ .undefined → data.kind ≠ .none → data.kind ≠ .map →
      ∃ f, Failure.message (.run f) = "run data must be a mapping, got " ++ data.kind.name ∧
        dataBindings data = .error f ∧ ∀ e, g.run e data buffers = (.error (.run f), buffers) ∧
          Session.use ⟨g, buffers⟩ (.run e data) = ⟨g, buffers⟩) := by
  refine ⟨dataBindings_of_nothing, dataBindings_map, ?_, ?_⟩
  · intro d hd
    exact hands_dataBindings hd g buffers
  · intro hundefined hnone hmap
    have hes : dataEntries data = .error (.notMapping data.kind) :=
      dataEntries_of_not_isMappingOrNone (by simp [Value.IsMappingOrNone, *])
    refine ⟨.notMapping data.kind, rfl, by rw [dataBindings, hes]; rfl, ?_⟩
    intro e
    have hrun : g.run e data buffers = (.error (.run (.notMapping data.kind)), buffers) := by
      simp only [run, hes]
    refine ⟨hrun, ?_⟩
    rw [Session.use, hrun]

/-- The number 1 and a string share a text, a string and a sequence another, and the name
of the sink is a key as well; a sequence is no mapping. -/
theorem run_binds_data_shared_texts :
    ∃ d b, dataBindings (.map [(.int 1, .int 5), (.string "1" false, .int 6),
        (.string "[1]" false, .int 7), (.string "__out__" false, .int 8),
        (.seq [.int 1] none, .int 9)] .plain none) = .ok d ∧
      d.names.Nodup ∧ d.get? "1" = some (.int 6) ∧ d.get? "[1]" = some (.int 9) ∧
      d.get? "__out__" = some (.int 8) ∧
      Hands ⟨⟨['a'], 1⟩, [("1", .int 0), ("g", .int 1)]⟩
        (.map [(.int 1, .int 5), (.string "1" false, .int 6), (.string "[1]" false, .int 7),
          (.string "__out__" false, .int 8), (.seq [.int 1] none, .int 9)] .plain none)
        .empty ['a'] b ∧
      b.get? "1" = some (.int 6) ∧ b.get? "__out__" = some (.object (.sink 0)) ∧
      b.get? "g" = some (.int 1) ∧
      ∃ f, Failure.message (.run f) = "run data must be a mapping, got sequence" ∧
        ∀ e, Generator.run e ⟨⟨['a'], 1⟩, []⟩ (.seq [.int 1] none) .empty =
          (.error (.run f), .empty) := by
  obtain ⟨-, hmap, hbinds, -⟩ := run_binds_data ⟨⟨['a'], 1⟩, [("1", .int 0), ("g", .int 1)]⟩ .empty
    (.map [(.int 1, .int 5), (.string "1" false, .int 6), (.string "[1]" false, .int 7),
      (.string "__out__" false, .int 8), (.seq [.int 1] none, .int 9)] .plain none)
  obtain ⟨d, hd, hnodup, -, hlast⟩ := hmap rfl
  obtain ⟨b, hhands, hget⟩ := hbinds d hd
  have hone : d.get? "1" = some (.int 6) :=
    hlast [(.int 1, .int 5)] (.string "1" false) (.int 6) _ rfl (by decide)
  have hseq : d.get? "[1]" = some (.int 9) :=
    hlast [_, _, _, _] (.seq [.int 1] none) (.int 9) [] rfl (by decide)
  have hsink : d.get? "__out__" = some (.int 8) :=
    hlast [_, _, _] (.string "__out__" false) (.int 8) [_] rfl (by decide)
  obtain ⟨-, -, -, hrefused⟩ := run_binds_data ⟨⟨['a'], 1⟩, []⟩ .empty (.seq [.int 1] none)
  obtain ⟨f, hmessage, -, hruns⟩ := hrefused (by decide) (by decide) (by decide)
  refine ⟨d, b, hd, hnodup, hone, hseq, hsink, hhands, ?_, ?_, ?_, f, hmessage, ?_⟩
  · rw [hget, hone]
    rfl
  · exact hget "__out__"
  · have hg : d.get? "g" = none := by
      cases hd
      rfl
    rw [hget, hg]
    rfl
  · intro e
    exact (hruns e).1

end ScriptedTemplate
