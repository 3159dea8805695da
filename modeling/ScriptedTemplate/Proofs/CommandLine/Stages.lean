import ScriptedTemplate.Proofs.CommandLine.Layering

/-
  Stages — the first that fails ends a run, and a failed run changes nothing

  A run reads its config and its template, compiles, reads its data, runs the program
  and writes. Most stages can fail whether or not another one does: a file that cannot
  be read, options that cannot be used and a file that cannot be opened to be written
  are at fault by themselves. Only slicing and the run of the program need what the
  stages before them give. When no stage fails, a run can still break off while it fills
  the file that it has opened; that is a failure too, but not one before the write.

  What is proved: `run_fails_first` — however many stages fail, a run reports the first
  of them and nothing else; if one fails, the status is 1, nothing is printed and no file
  changes, in every file system that refuses cleanly; and if none fails and the run does
  not break off, the status is 0.
-/

namespace ScriptedTemplate

namespace CommandLine

/-- The stages of a run. -/
inductive Stage where
  | config
  | template
  | compile
  | data
  | run
  | write
  deriving DecidableEq, Repr

/-- The file at a path cannot be read, or what is in it is not text. -/
def Reads.Withholds (r : Reads) (path : String) (f : FileFault) : Prop :=
  r path = .error f ∨ ∃ b, r path = .ok b ∧ textOf b = .error f

namespace Invocation

/-- The stages that a run goes through, in their order; the data is not needed when the
program itself is asked for. -/
def stages (i : Invocation) : List Stage :=
  [.config, .template, .compile] ++ (if i.emitProgram then [] else [.data, .run]) ++ [.write]

/-- A stage fails on files, with this error. -/
inductive Fails {σ : Type} (i : Invocation) (disk : FileSystem σ) (s : σ) :
    Stage → RunError → Prop where
  | unreadableConfig {path : String} {f : FileFault} : i.config = some path →
      Reads.Withholds (disk.read s) path f →
      Fails i disk s .config (.unreadable .config path f)
  | badConfig {path : String} {t : Text} {e : Yaml.Error} : i.config = some path →
      Reads.Holds (disk.read s) path t → Settings.ofYaml t = .error e →
      Fails i disk s .config (.library (.options (.document e)))
  | unreadableTemplate {f : FileFault} : Reads.Withholds (disk.read s) i.template f →
      Fails i disk s .template (.unreadable .template i.template f)
  /-- The options are no good for any template. -/
  | unusableOptions {config : Settings} {o : Options} {f : Failure} :
      i.Configures (disk.read s) config → Layered i.flags config o → o.slicer = .error f →
      Fails i disk s .compile (.library f)
  | badTemplate {config : Settings} {o : Options} {t : Text} {slicer : Slicer} {e : SliceError} :
      i.Configures (disk.read s) config → Layered i.flags config o →
      Reads.Holds (disk.read s) i.template t → o.slicer = .ok slicer →
      slicer.slice t = .error e → Fails i disk s .compile (.library (.slicing e))
  | unreadableData {path : String} {f : FileFault} : i.data = some path →
      Reads.Withholds (disk.read s) path f → Fails i disk s .data (.unreadable .data path f)
  | badJson {path : String} {t : Text} {e : JsonError} : i.data = some path →
      Reads.Holds (disk.read s) path t → NamesJson path → Json.parse t = .error e →
      Fails i disk s .data (.model path (.json e))
  | badYaml {path : String} {t : Text} {e : Yaml.Error} : i.data = some path →
      Reads.Holds (disk.read s) path t → ¬ NamesJson path → Yaml.toJson t = .error e →
      Fails i disk s .data (.model path (.yaml e))
  /-- The document is neither null nor an object. -/
  | dataNotObject {path : String} {t : Text} {j : Json} : i.data = some path →
      Reads.Holds (disk.read s) path t → Documents path t j → j ≠ .null →
      (∀ fields, j ≠ .object fields) → Fails i disk s .data (.model path .notObject)
  /-- The program fails on the data, whatever it has written to its sink by then. -/
  | run {g : Generator} {fields : List (String × Json)} {f : Failure} :
      i.Compiles (disk.read s) g → i.Supplies (disk.read s) fields →
      (g.run (.ofScripts .bare) (Json.object fields).toValue .empty).1 = .error f →
      Fails i disk s .run (.library f)
  /-- The file for the output cannot be opened. -/
  | write {path : String} {f : FileFault} : i.output = some path →
      (disk.create s path).1 = .error f → Fails i disk s .write (.unwritable path f)

variable {σ : Type}

/-- A stage of the run fails and none before it does. -/
def FailsFirst (i : Invocation) (disk : FileSystem σ) (s : σ) (stage : Stage) (e : RunError) :
    Prop :=
  i.Fails disk s stage e ∧ ∃ pre post, i.stages = pre ++ stage :: post ∧
    ∀ earlier ∈ pre, ∀ e', ¬ i.Fails disk s earlier e'

/-- The file for the output is opened, and what is to be put out does not get into it. -/
inductive BreaksOff (i : Invocation) (disk : FileSystem σ) (s : σ) : RunError → Prop where
  | intro {t : Text} {path : String} {opened after : σ} {f : FileFault} :
      i.Puts (disk.read s) t → i.output = some path → disk.create s path = (.ok (), opened) →
      disk.fill opened path (bytesOf t) = (.error f, after) →
      BreaksOff i disk s (.unwritable path f)

end Invocation

/-! ## Failures of each stage -/

def error? {ε α : Type} : Except ε α → Option ε
  | .error e => some e
  | .ok _ => none

@[simp] theorem error?_error {ε α : Type} (e : ε) : error? (.error e : Except ε α) = some e := rfl

@[simp] theorem error?_ok {ε α : Type} (a : α) : error? (.ok a : Except ε α) = none := rfl

theorem error?_eq_some_iff {ε α : Type} {x : Except ε α} {e : ε} :
    error? x = some e ↔ x = .error e := by
  cases x <;> simp

theorem mapError_eq_error_iff {α ε ε' : Type} {x : Except ε α} {f : ε → ε'} {e' : ε'} :
    x.mapError f = .error e' ↔ ∃ e, x = .error e ∧ e' = f e := by
  cases x <;> simp [Except.mapError, eq_comm]

theorem Reads.text_eq_error_iff {r : Reads} {k : Source} {path : String} {e : RunError} :
    r.text k path = .error e ↔ ∃ f, r.Withholds path f ∧ e = .unreadable k path f := by
  simp only [Reads.text, Reads.Withholds]
  cases r path with
  | error f => simp [eq_comm]
  | ok b =>
    cases hb : textOf b with
    | error f => simp [hb, eq_comm]
    | ok t => simp [hb]

theorem Model.ofDocument?_eq_none_iff {j : Json} :
    Model.ofDocument? j = none ↔ j ≠ .null ∧ ∀ fields, j ≠ .object fields := by
  cases j <;> simp [Model.ofDocument?]

theorem document_eq_error_iff {path : String} {t : Text} {f : ModelFault} :
    Model.document (suffix? path == some "json") t = .error f ↔
      (NamesJson path ∧ ∃ e, Json.parse t = .error e ∧ f = .json e) ∨
      (¬ NamesJson path ∧ ∃ e, Yaml.toJson t = .error e ∧ f = .yaml e) := by
  by_cases hjson : NamesJson path
  · simp [Invocation.document_of_json hjson, mapError_eq_error_iff, hjson]
  · simp [Invocation.document_of_yaml hjson, mapError_eq_error_iff, hjson]

namespace Invocation

variable {σ : Type} {i : Invocation} {disk : FileSystem σ} {s : σ} {e : RunError}

/-- The error of a stage, as it is found in a run. -/
def fault? (i : Invocation) (disk : FileSystem σ) (s : σ) : Stage → Option RunError
  | .config => error? (i.configured (disk.read s))
  | .template => error? (Reads.text (disk.read s) .template i.template)
  | .compile =>
    match i.options (disk.read s) with
    | .error _ => none
    | .ok o =>
      -- The options are at fault whether there is a template or not.
      match o.slicer, Reads.text (disk.read s) .template i.template with
      | .error f, _ => some (.library f)
      | .ok slicer, .ok t => (error? (slicer.slice t)).map fun e => .library (.slicing e)
      | .ok _, .error _ => none
  | .data => error? (i.model (disk.read s))
  | .run =>
    match i.generator (disk.read s), i.model (disk.read s) with
    | .ok g, .ok m => error? (rendered g m)
    | _, _ => none
  | .write => i.output.bind fun path => (error? (disk.create s path).1).map (.unwritable path)

theorem fails_config_iff :
    i.Fails disk s .config e ↔ i.configured (disk.read s) = .error e := by
  constructor
  · intro h
    cases h with
    | unreadableConfig hpath hwithheld =>
      simp [configured, hpath, Reads.text_eq_error_iff.mpr ⟨_, hwithheld, rfl⟩]
    | badConfig hpath ht he => simp [configured, hpath, Reads.text_eq_ok_iff.mpr ht, he]
  · intro h
    rw [configured] at h
    split at h
    · cases h
    · next path hpath =>
      split at h
      · next e' he =>
        cases h
        obtain ⟨f, hwithheld, rfl⟩ := Reads.text_eq_error_iff.mp he
        exact .unreadableConfig hpath hwithheld
      · next t ht =>
        split at h
        · next e' he =>
          cases h
          exact .badConfig hpath (Reads.text_eq_ok_iff.mp ht) he
        · cases h

theorem fails_template_iff : i.Fails disk s .template e ↔
    Reads.text (disk.read s) .template i.template = .error e := by
  rw [Reads.text_eq_error_iff]
  constructor
  · intro h
    cases h with
    | unreadableTemplate hwithheld => exact ⟨_, hwithheld, rfl⟩
  · intro h
    obtain ⟨f, hwithheld, rfl⟩ := h
    exact .unreadableTemplate hwithheld

theorem fails_compile_iff (hflags : i.flags.trimAfterCode ≠ some true) :
    i.Fails disk s .compile e ↔ i.fault? disk s .compile = some e := by
  have hoptions : ∀ {o}, i.options (disk.read s) = .ok o ↔ _ := options_eq_ok_iff hflags
  constructor
  · intro h
    cases h with
    | unusableOptions hconfig hlayered hf =>
      simp [fault?, hoptions.mpr ⟨_, hconfig, hlayered⟩, hf]
    | badTemplate hconfig hlayered ht hslicer he =>
      simp [fault?, hoptions.mpr ⟨_, hconfig, hlayered⟩, Reads.text_eq_ok_iff.mpr ht, hslicer, he]
  · intro h
    rw [fault?] at h
    split at h
    · cases h
    · next o ho =>
      obtain ⟨config, hconfig, hlayered⟩ := hoptions.mp ho
      split at h
      · next f hf =>
        cases h
        exact .unusableOptions hconfig hlayered hf
      · next slicer t hslicer ht =>
        obtain ⟨e', he, rfl⟩ := Option.map_eq_some_iff.mp h
        exact .badTemplate hconfig hlayered (Reads.text_eq_ok_iff.mp ht) hslicer
          (error?_eq_some_iff.mp he)
      · cases h

theorem fails_data_iff : i.Fails disk s .data e ↔ i.model (disk.read s) = .error e := by
  have hdocument : ∀ {path t f}, i.data = some path → Reads.Holds (disk.read s) path t →
      Model.document (suffix? path == some "json") t = .error f →
      i.model (disk.read s) = .error (.model path f) := by
    intro path t f hpath ht hf
    simp [model, hpath, Reads.text_eq_ok_iff.mpr ht, Model.ofText, hf, Except.mapError]
  constructor
  · intro h
    cases h with
    | unreadableData hpath hwithheld =>
      simp [model, hpath, Reads.text_eq_error_iff.mpr ⟨_, hwithheld, rfl⟩]
    | badJson hpath ht hjson he =>
      exact hdocument hpath ht (document_eq_error_iff.mpr (.inl ⟨hjson, _, he, rfl⟩))
    | badYaml hpath ht hyaml he =>
      exact hdocument hpath ht (document_eq_error_iff.mpr (.inr ⟨hyaml, _, he, rfl⟩))
    | dataNotObject hpath ht hj hnull hobject =>
      have hnone := Model.ofDocument?_eq_none_iff.mpr ⟨hnull, hobject⟩
      simp [model, hpath, Reads.text_eq_ok_iff.mpr ht, Model.ofText, documents_iff.mpr hj, hnone,
        Except.mapError]
  · intro h
    rw [model] at h
    split at h
    · cases h
    · next path hpath =>
      split at h
      · next e' he =>
        cases h
        obtain ⟨f, hwithheld, rfl⟩ := Reads.text_eq_error_iff.mp he
        exact .unreadableData hpath hwithheld
      · next t ht =>
        have hholds := Reads.text_eq_ok_iff.mp ht
        obtain ⟨f, hf, rfl⟩ := mapError_eq_error_iff.mp h
        rw [Model.ofText] at hf
        split at hf
        · next f' hf' =>
          cases hf
          rcases document_eq_error_iff.mp hf' with ⟨hjson, e, he, rfl⟩ | ⟨hyaml, e, he, rfl⟩
          · exact .badJson hpath hholds hjson he
          · exact .badYaml hpath hholds hyaml he
        · next j hj =>
          split at hf
          · cases hf
          · next hnone =>
            cases hf
            obtain ⟨hnull, hobject⟩ := Model.ofDocument?_eq_none_iff.mp hnone
            exact .dataNotObject hpath hholds (documents_iff.mp hj) hnull hobject

theorem fails_run_iff (hflags : i.flags.trimAfterCode ≠ some true) :
    i.Fails disk s .run e ↔ i.fault? disk s .run = some e := by
  constructor
  · intro h
    cases h with
    | run hcompiles hsupplies hf =>
      obtain ⟨schema, hmodel⟩ := model_eq_ok_iff.mpr hsupplies
      simp only [fault?, (generator_eq_ok_iff hflags).mpr hcompiles, hmodel, error?_eq_some_iff]
      exact mapError_eq_error_iff.mpr ⟨_, hf, rfl⟩
  · intro h
    rw [fault?] at h
    split at h
    · next g m hg hm =>
      obtain ⟨f, hf, rfl⟩ := mapError_eq_error_iff.mp (error?_eq_some_iff.mp h)
      exact .run ((generator_eq_ok_iff hflags).mp hg) (model_eq_ok_iff.mp ⟨m.schema, hm⟩) hf
    · cases h

theorem fails_write_iff : i.Fails disk s .write e ↔ i.fault? disk s .write = some e := by
  constructor
  · intro h
    cases h with
    | write hpath hf => simp [fault?, hpath, hf]
  · intro h
    obtain ⟨path, hpath, h⟩ := Option.bind_eq_some_iff.mp h
    obtain ⟨f, hf, rfl⟩ := Option.map_eq_some_iff.mp h
    exact .write hpath (error?_eq_some_iff.mp hf)

theorem fails_iff (hflags : i.flags.trimAfterCode ≠ some true) {stage : Stage} :
    i.Fails disk s stage e ↔ i.fault? disk s stage = some e := by
  cases stage with
  | config => rw [fails_config_iff, fault?, error?_eq_some_iff]
  | template => rw [fails_template_iff, fault?, error?_eq_some_iff]
  | compile => exact fails_compile_iff hflags
  | data => rw [fails_data_iff, fault?, error?_eq_some_iff]
  | run => exact fails_run_iff hflags
  | write => exact fails_write_iff

/-! ## The error of a run -/

theorem error?_generator (i : Invocation) (disk : FileSystem σ) (s : σ) :
    error? (i.generator (disk.read s)) =
      [Stage.config, .template, .compile].findSome? (i.fault? disk s) := by
  simp only [generator, job, options, fault?, List.findSome?_cons, List.findSome?_nil]
  cases i.configured (disk.read s) with
  | error e => rfl
  | ok config =>
    cases Reads.text (disk.read s) .template i.template with
    | error e => rfl
    | ok t =>
      simp only [Except.map, Generator.compile, Program.compile]
      cases (i.flags.above config).options.slicer with
      | error f => rfl
      | ok slicer =>
        dsimp only
        cases slicer.slice t <;> rfl

/-- What is not put out is refused at the first of the stages before the output. -/
theorem error?_produce (i : Invocation) (disk : FileSystem σ) (s : σ) :
    error? (i.produce (disk.read s)) =
      ([Stage.config, .template, .compile] ++
        if i.emitProgram then [] else [Stage.data, .run]).findSome? (i.fault? disk s) := by
  rw [List.findSome?_append, ← error?_generator, produce]
  cases hg : i.generator (disk.read s) with
  | error e => rfl
  | ok g =>
    cases i.emitProgram with
    | true => rfl
    | false =>
      cases hm : i.model (disk.read s) with
      | error e => simp [fault?, hm]
      | ok m => cases hrun : rendered g m <;> simp [fault?, hg, hm, hrun]

/-- The first failure on the way of a run. -/
def fault (i : Invocation) (disk : FileSystem σ) (s : σ) : Option RunError :=
  i.stages.findSome? (i.fault? disk s)

theorem fault?_eq_none_iff (hflags : i.flags.trimAfterCode ≠ some true) {stage : Stage} :
    i.fault? disk s stage = none ↔ ∀ e, ¬ i.Fails disk s stage e := by
  simp only [fails_iff hflags, Option.eq_none_iff_forall_ne_some, ne_eq]

theorem fault_eq_none_iff (hflags : i.flags.trimAfterCode ≠ some true) :
    i.fault disk s = none ↔ ∀ stage ∈ i.stages, ∀ e, ¬ i.Fails disk s stage e := by
  simp only [fault, List.findSome?_eq_none_iff, fault?_eq_none_iff hflags]

theorem fault_eq_some_iff (hflags : i.flags.trimAfterCode ≠ some true) :
    i.fault disk s = some e ↔ ∃ stage, i.FailsFirst disk s stage e := by
  rw [fault, List.findSome?_eq_some_iff]
  constructor
  · intro h
    obtain ⟨pre, stage, post, hstages, he, hpre⟩ := h
    exact ⟨stage, (fails_iff hflags).mpr he, pre, post, hstages,
      fun x hx => (fault?_eq_none_iff hflags).mp (hpre x hx)⟩
  · intro h
    obtain ⟨stage, he, pre, post, hstages, hpre⟩ := h
    exact ⟨pre, stage, post, hstages, (fails_iff hflags).mp he,
      fun x hx => (fault?_eq_none_iff hflags).mpr (hpre x hx)⟩

theorem fault_eq (i : Invocation) (disk : FileSystem σ) (s : σ) :
    i.fault disk s = (error? (i.produce (disk.read s))).or (i.fault? disk s .write) := by
  rw [fault, stages, List.findSome?_append, ← error?_produce]
  simp

/-- A run with a failure on its way reports it, and has at most tried to open a file. -/
theorem run_of_fault (h : i.fault disk s = some e) :
    (i.run disk s).error = some e ∧ (i.run disk s).status = 1 ∧ (i.run disk s).printed = [] ∧
      ((i.run disk s).files = s ∨ ∃ path f, i.output = some path ∧ e = .unwritable path f ∧
        disk.create s path = (.error f, (i.run disk s).files)) := by
  rw [fault_eq] at h
  cases hproduce : i.produce (disk.read s) with
  | error e' =>
    have hfirst : e' = e := by simpa [hproduce] using h
    simp [run, ending, hproduce, hfirst]
  | ok t =>
    -- There is something to put out, so it is the last stage that fails.
    have hwrite : i.fault? disk s .write = some e := by simpa [hproduce] using h
    obtain ⟨path, hpath, hwrite⟩ := Option.bind_eq_some_iff.mp hwrite
    obtain ⟨f, hf, rfl⟩ := Option.map_eq_some_iff.mp hwrite
    obtain ⟨result, after, hcreate⟩ : ∃ result after, disk.create s path = (result, after) :=
      ⟨_, _, rfl⟩
    have hresult : result = .error f := by simpa [hcreate, error?_eq_some_iff] using hf
    subst hresult
    have hrun : i.run disk s = ⟨1, [], i.events (disk.read s) (.ok t),
        some (.unwritable path f), after⟩ := by
      simp [run, ending, hproduce, hpath, FileSystem.write, hcreate]
    rw [hrun]
    exact ⟨rfl, rfl, rfl, .inr ⟨path, f, hpath, rfl, hcreate⟩⟩

theorem run_of_breaksOff (hflags : i.flags.trimAfterCode ≠ some true)
    (h : i.BreaksOff disk s e) : (i.run disk s).error = some e ∧ (i.run disk s).status = 1 := by
  cases h with
  | intro hputs hpath hcreate hfill =>
    have hproduce := (produce_eq_ok_iff hflags).mpr hputs
    simp [run, ending, hproduce, hpath, FileSystem.write, hcreate, hfill]

/-- A run without a failure on its way breaks off, or it is a success. -/
theorem run_of_no_fault (hflags : i.flags.trimAfterCode ≠ some true)
    (h : i.fault disk s = none) :
    ((i.run disk s).error = none ∧ (i.run disk s).status = 0) ∨ ∃ e, i.BreaksOff disk s e := by
  rw [fault_eq, Option.or_eq_none_iff] at h
  obtain ⟨hnothing, hopens⟩ := h
  cases hproduce : i.produce (disk.read s) with
  | error e => simp [hproduce] at hnothing
  | ok t =>
    cases houtput : i.output with
    | none => exact .inl (by simp [run, ending, hproduce, houtput])
    | some path =>
      obtain ⟨result, opened, hcreate⟩ : ∃ result opened,
          disk.create s path = (result, opened) := ⟨_, _, rfl⟩
      obtain ⟨result', after, hfill⟩ : ∃ result after,
          disk.fill opened path (bytesOf t) = (result, after) := ⟨_, _, rfl⟩
      cases result with
      | error f => simp [fault?, houtput, hcreate] at hopens
      | ok u =>
        cases result' with
        | error f =>
          exact .inr ⟨_, .intro ((produce_eq_ok_iff hflags).mp hproduce) houtput hcreate hfill⟩
        | ok u' =>
          exact .inl (by simp [run, ending, hproduce, houtput, FileSystem.write, hcreate, hfill])

end Invocation

/-- A run that fails changes nothing. For every command line and all files, in whatever
file system: if a stage of the run fails, whichever and however many of them do, the
status is 1 and nothing is printed. What is reported is the error of the first stage that
fails. The files are those there were, or when that is the write, what the attempt to
open the output has left of them: if a file that cannot be opened is not altered, then
every file has what it had, the one named for the output among them. When no stage fails,
a run reports at most that it broke off while it filled its file; and if it did not break
off either, and only then, the status is 0. -/
theorem run_fails_first {arguments : List String} {i : Invocation} (hi : parse arguments = .ok i)
    {σ : Type} (disk : FileSystem σ) (s : σ) :
    (∀ stage ∈ i.stages, ∀ e, i.Fails disk s stage e →
      (i.run disk s).status = 1 ∧ (i.run disk s).printed = [] ∧
      ∃ first e', i.FailsFirst disk s first e' ∧ (i.run disk s).error = some e' ∧
        ((i.run disk s).files = s ∨ ∃ path f, i.output = some path ∧ e' = .unwritable path f ∧
          disk.create s path = (.error f, (i.run disk s).files)) ∧
        (disk.RefusesCleanly → ∀ path,
          disk.content? (i.run disk s).files path = disk.content? s path)) ∧
    (∀ e, (i.run disk s).error = some e ↔
      (∃ stage, i.FailsFirst disk s stage e) ∨ i.BreaksOff disk s e) ∧
    ((i.run disk s).status = 0 ↔
      (∀ stage ∈ i.stages, ∀ e, ¬ i.Fails disk s stage e) ∧ ∀ e, ¬ i.BreaksOff disk s e) := by
  have hflags := flags_trimAfterCode hi
  have hnone : i.fault disk s = none ↔ _ := Invocation.fault_eq_none_iff hflags
  have hfirst : ∀ {e}, i.fault disk s = some e ↔ _ := Invocation.fault_eq_some_iff hflags
  refine ⟨?_, ?_, ?_⟩
  · intro stage hstage e he
    obtain ⟨e', hfault⟩ : ∃ e', i.fault disk s = some e' := by
      apply Option.ne_none_iff_exists'.mp
      intro hno
      exact hnone.mp hno stage hstage e he
    obtain ⟨herror, hstatus, hprinted, hfiles⟩ := Invocation.run_of_fault hfault
    obtain ⟨first, hreported⟩ := hfirst.mp hfault
    refine ⟨hstatus, hprinted, first, e', hreported, herror, hfiles, ?_⟩
    intro hclean path
    rcases hfiles with hsame | ⟨output, f, -, -, hcreate⟩
    · rw [hsame]
    · exact hclean hcreate path
  · intro e
    constructor
    · intro h
      cases hfault : i.fault disk s with
      | some e' =>
        cases (Invocation.run_of_fault hfault).1.symm.trans h
        exact .inl (hfirst.mp hfault)
      | none =>
        rcases Invocation.run_of_no_fault hflags hfault with ⟨hno, -⟩ | ⟨e', he'⟩
        · cases hno.symm.trans h
        · cases (Invocation.run_of_breaksOff hflags he').1.symm.trans h
          exact .inr he'
    · intro h
      rcases h with hstage | hbreaks
      · exact (Invocation.run_of_fault (hfirst.mpr hstage)).1
      · exact (Invocation.run_of_breaksOff hflags hbreaks).1
  · rw [← hnone]
    constructor
    · intro hstatus
      constructor
      · cases hfault : i.fault disk s with
        | none => rfl
        | some e => cases (Invocation.run_of_fault hfault).2.1.symm.trans hstatus
      · intro e hbreaks
        cases (Invocation.run_of_breaksOff hflags hbreaks).2.symm.trans hstatus
    · intro h
      rcases Invocation.run_of_no_fault hflags h.1 with ⟨-, hstatus⟩ | ⟨e, he⟩
      · exact hstatus
      · exact absurd he (h.2 e)

/-- The template is `[!` and the data is not there. Both are at fault and the template is
reported; the file that is there already for the output is what it was. -/
theorem run_fails_first_before_data :
    ∃ (i : Invocation) (tree : FileTree),
      parse ["--data", "/none/d", "--output", "u", "t"] = .ok i ∧
      tree = ⟨[(["t"], bytesOf ['[', '!']), (["u"], bytesOf ['o', 'l', 'd'])], []⟩ ∧
      i.Fails FileTree.system tree .data (.unreadable .data "/none/d" .missing) ∧
      (i.run FileTree.system tree).error =
        some (.library (.slicing (.unclosed ⟨[], ['[', '!'], []⟩))) ∧
      (i.run FileTree.system tree).status = 1 ∧ (i.run FileTree.system tree).printed = [] ∧
      FileTree.system.content? (i.run FileTree.system tree).files "u" =
        some (bytesOf ['o', 'l', 'd']) := by
  obtain ⟨i, hi, hconfig, htemplate, hdata, hstages, hflags⟩ : ∃ i : Invocation,
      parse ["--data", "/none/d", "--output", "u", "t"] = .ok i ∧ i.config = none ∧
      i.template = "t" ∧ i.data = some "/none/d" ∧
      i.stages = [.config, .template, .compile, .data, .run, .write] ∧ i.flags = {} :=
    ⟨_, rfl, rfl, rfl, rfl, rfl, rfl⟩
  obtain ⟨tree, htree, ht, hd, hu⟩ : ∃ tree : FileTree,
      tree = ⟨[(["t"], bytesOf ['[', '!']), (["u"], bytesOf ['o', 'l', 'd'])], []⟩ ∧
      tree.read "t" = .ok (bytesOf ['[', '!']) ∧ tree.read "/none/d" = .error .missing ∧
      FileTree.system.content? tree "u" = some (bytesOf ['o', 'l', 'd']) := by
    refine ⟨_, rfl, FileTree.read_eq_ok_iff.mpr ⟨["t"], ?_, rfl, ?_⟩, ?_,
      FileTree.content?_eq_some_iff.mpr ⟨["u"], ?_, rfl, ?_⟩⟩ <;> rfl
  obtain ⟨hunchanged, herror, -⟩ := run_fails_first hi FileTree.system tree
  have hholds : Reads.Holds tree.read i.template ['[', '!'] := by
    rw [htemplate]
    exact ⟨_, ht, textOf_bytesOf _⟩
  have hdatum : i.Fails FileTree.system tree .data (.unreadable .data "/none/d" .missing) :=
    .unreadableData hdata (.inl hd)
  obtain ⟨slicer, hslicer, hslice⟩ : ∃ slicer, ({} : Options).slicer = .ok slicer ∧
      slicer.slice ['[', '!'] = .error (.unclosed ⟨[], ['[', '!'], []⟩) :=
    ⟨_, rfl, rfl⟩
  have hlayered : Layered i.flags .nothing {} := by
    rw [hflags]
    exact ⟨fun m => by cases m <;> rfl, rfl, rfl⟩
  have hcompile : i.Fails FileTree.system tree .compile _ :=
    .badTemplate (.nothing hconfig) hlayered hholds hslicer hslice
  have hfirst : i.FailsFirst FileTree.system tree .compile
      (.library (.slicing (.unclosed ⟨[], ['[', '!'], []⟩))) := by
    refine ⟨hcompile, [.config, .template], [.data, .run, .write], hstages, ?_⟩
    intro earlier hearlier e he
    simp only [List.mem_cons, List.not_mem_nil, or_false] at hearlier
    rcases hearlier with rfl | rfl
    · have hnothing := Invocation.fails_config_iff.mp he
      rw [Invocation.configured, hconfig] at hnothing
      cases hnothing
    · cases (Invocation.fails_template_iff.mp he).symm.trans (Reads.text_eq_ok_iff.mpr hholds)
  obtain ⟨hstatus, hprinted, first, e, -, -, -, hfiles⟩ :=
    hunchanged .data (by simp [hstages]) _ hdatum
  refine ⟨i, tree, hi, htree, hdatum, (herror _).mpr (.inl ⟨_, hfirst⟩), hstatus, hprinted, ?_⟩
  rw [hfiles FileTree.system_refusesCleanly, hu]

end CommandLine

end ScriptedTemplate
