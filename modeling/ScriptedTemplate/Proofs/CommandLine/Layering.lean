import Mathlib
import ScriptedTemplate.CommandLine.Run
import ScriptedTemplate.Proofs.CommandLine.FileTree
import ScriptedTemplate.Proofs.Options.Reader

/-
  Layering — the command line as the library on files

  A command line asks for nothing that the library does not do. Its options are laid
  over each other: a flag over the config, the config over the standard. The template
  is compiled with them, and the program is put out, or what it gives for the data;
  then a run delivers what is put out, to a file or to its output. What files there are
  and how paths lead to them is left open, and so is how a text is read as YAML or as
  JSON: the relations below say what becomes of what has been read.

  What is proved: `run_layers` — the options in effect are the layered ones; what is
  put out is what the library gives for them, and the data is not consulted when the
  program itself is asked for; a run with status 0 has delivered exactly that, by one
  write or none, so where a write touches no file but its own, no other file changes.
-/

namespace ScriptedTemplate

theorem MarkerSet.ext_word {ms ms' : MarkerSet} (h : ∀ m, ms.word m = ms'.word m) : ms = ms' := by
  have hcodeBegin := h .codeBegin
  have hcodeEnd := h .codeEnd
  have houtputBegin := h .outputBegin
  have houtputEnd := h .outputEnd
  cases ms
  cases ms'
  simp only [MarkerSet.word] at *
  simp [*]

namespace CommandLine

/-! ## What a run is to do -/

/-- The options that flags and a config come to: each is that of the flags if they
have it, else that of the config if it has it, else the standard one. The only flag
there is for trimming turns it off. -/
structure Layered (flags config : Settings) (o : Options) : Prop where
  word : ∀ m, o.markers.word m =
    ((flags.word? m).or (config.word? m)).getD (MarkerSet.standard.word m)
  width : o.contextWidth = (flags.contextWidth.or config.contextWidth).getD 6
  trim : o.trimAfterCode =
    if flags.trimAfterCode = some false then false else config.trimAfterCode.getD true

/-- The file at a path holds a text. -/
def Reads.Holds (r : Reads) (path : String) (t : Text) : Prop :=
  ∃ b, r path = .ok b ∧ textOf b = .ok t

namespace Invocation

/-- The settings in the config, each under its key; without a config there are none. -/
inductive Configures (i : Invocation) (r : Reads) : Settings → Prop where
  | nothing : i.config = none → i.Configures r .nothing
  | document {path : String} {t : Text} {s : Settings} : i.config = some path →
      r.Holds path t → Settings.ofYaml t = .ok s →
      s.Asked (Yaml.document t) (Yaml.document t).entries → i.Configures r s

/-- The template compiles to this generator under the options in effect. -/
def Compiles (i : Invocation) (r : Reads) (g : Generator) : Prop :=
  ∃ s o t, i.Configures r s ∧ Layered i.flags s o ∧ r.Holds i.template t ∧
    Generator.compile t o = .ok g

/-- The text of a file is this document, as JSON if the path ends in `.json`, else as
YAML. -/
inductive Documents (path : String) (t : Text) (j : Json) : Prop where
  | json : NamesJson path → Json.parse t = .ok j → Documents path t j
  | yaml : ¬ NamesJson path → Yaml.toJson t = .ok j → Documents path t j

/-- The entries of the data: none without data or for null, else those of the object
without the one for the schema. -/
inductive Supplies (i : Invocation) (r : Reads) : List (String × Json) → Prop where
  | nothing : i.data = none → i.Supplies r []
  | null {path : String} {t : Text} : i.data = some path → r.Holds path t →
      Documents path t .null → i.Supplies r []
  | object {path : String} {t : Text} {fields : List (String × Json)} : i.data = some path →
      r.Holds path t → Documents path t (.object fields) →
      i.Supplies r (fields.filter fun f => f.1 != "$schema")

/-- What is put out: the program itself when that is asked for, else what it gives
for the data. -/
inductive Puts (i : Invocation) (r : Reads) : Text → Prop where
  | program {g : Generator} : i.Compiles r g → i.emitProgram = true → i.Puts r g.program.source
  | rendered {g : Generator} {fields : List (String × Json)} {t : Text} : i.Compiles r g →
      i.emitProgram = false → i.Supplies r fields →
      (g.run (.ofScripts .bare) (Json.object fields).toValue .empty).1 = .ok t → i.Puts r t

end Invocation

/-- A text is delivered: printed when no file is named, and nothing is written; else
written to that file and nowhere else, and nothing is printed. -/
inductive Delivers {σ : Type} (disk : FileSystem σ) (s : σ) (output : Option String) (t : Text)
    (out : Outcome σ) : Prop where
  | printed : output = none → out.printed = t → out.files = s → Delivers disk s output t out
  | saved {path : String} : output = some path → out.printed = [] →
      disk.write s path (bytesOf t) = (.ok (), out.files) → Delivers disk s output t out

/-! ## Options -/

theorem flags_trimAfterCode {arguments : List String} {i : Invocation}
    (hi : parse arguments = .ok i) : i.flags.trimAfterCode ≠ some true := by
  rw [parse] at hi
  split at hi
  · cases hi
  · split at hi
    · cases hi
    · cases hi
      simp only [Intake.flags]
      split <;> simp

theorem layered_iff {flags config : Settings} (hflags : flags.trimAfterCode ≠ some true)
    {o : Options} : Layered flags config o ↔ o = (flags.above config).options := by
  have hword : ∀ m, (flags.above config).options.markers.word m =
      ((flags.word? m).or (config.word? m)).getD (MarkerSet.standard.word m) := by
    intro m
    cases m <;> rfl
  have htrim : (flags.above config).options.trimAfterCode =
      if flags.trimAfterCode = some false then false else config.trimAfterCode.getD true := by
    simp only [Settings.options, Settings.above]
    cases hgiven : flags.trimAfterCode with
    | none => rfl
    | some b =>
      cases b with
      | false => rfl
      | true => exact absurd hgiven hflags
  constructor
  · intro h
    obtain ⟨markers, trim, width⟩ := o
    have hmarkers : markers = (flags.above config).options.markers :=
      MarkerSet.ext_word fun m => (h.word m).trans (hword m).symm
    have htrim' := h.trim.trans htrim.symm
    have hwidth := h.width
    simp only at htrim' hwidth
    rw [hmarkers, htrim', hwidth]
    rfl
  · intro h
    subst h
    exact ⟨hword, rfl, htrim⟩

/-! ## The stages of a run -/

theorem mapError_eq_ok_iff {α ε ε' : Type} {x : Except ε α} {f : ε → ε'} {a : α} :
    x.mapError f = .ok a ↔ x = .ok a := by
  cases x <;> simp [Except.mapError]

theorem Reads.text_eq_ok_iff {r : Reads} {k : Source} {path : String} {t : Text} :
    r.text k path = .ok t ↔ r.Holds path t := by
  simp only [Reads.text, Reads.Holds]
  cases r path with
  | error f => simp
  | ok b =>
    cases hb : textOf b with
    | error f => simp [hb]
    | ok u => simp [hb]

namespace Invocation

variable {i : Invocation} {r : Reads}

theorem configured_eq_ok_iff {s : Settings} : i.configured r = .ok s ↔ i.Configures r s := by
  constructor
  · intro h
    rw [configured] at h
    split at h
    · next hnone =>
      cases h
      exact .nothing hnone
    · next path hsome =>
      split at h
      · cases h
      · next t ht =>
        split at h
        · cases h
        · next s' hs =>
          cases h
          exact .document hsome (Reads.text_eq_ok_iff.mp ht) hs (Settings.asked_of_ofYaml hs)
  · intro h
    cases h with
    | nothing hnone => simp [configured, hnone]
    | document hsome ht hs _ => simp [configured, hsome, Reads.text_eq_ok_iff.mpr ht, hs]

theorem options_eq_ok_iff (hflags : i.flags.trimAfterCode ≠ some true) {o : Options} :
    i.options r = .ok o ↔ ∃ s, i.Configures r s ∧ Layered i.flags s o := by
  simp only [options, layered_iff hflags, ← configured_eq_ok_iff]
  cases i.configured r with
  | error e => simp [Except.map]
  | ok s => simp [Except.map, eq_comm]

theorem job_eq_ok_iff {o : Options} {t : Text} :
    i.job r = .ok (o, t) ↔ i.options r = .ok o ∧ r.Holds i.template t := by
  rw [job, ← Reads.text_eq_ok_iff (k := .template)]
  cases i.options r with
  | error e => simp
  | ok o' =>
    cases r.text .template i.template with
    | error e => simp [Except.map]
    | ok t' => simp [Except.map]

theorem generator_eq_ok_iff (hflags : i.flags.trimAfterCode ≠ some true) {g : Generator} :
    i.generator r = .ok g ↔ i.Compiles r g := by
  constructor
  · intro h
    rw [generator] at h
    split at h
    · cases h
    · next o t hjob =>
      obtain ⟨ho, ht⟩ := job_eq_ok_iff.mp hjob
      obtain ⟨s, hs, hlayered⟩ := (options_eq_ok_iff hflags).mp ho
      exact ⟨s, o, t, hs, hlayered, ht, mapError_eq_ok_iff.mp h⟩
  · intro h
    obtain ⟨s, o, t, hs, hlayered, ht, hg⟩ := h
    have hjob := job_eq_ok_iff.mpr ⟨(options_eq_ok_iff hflags).mpr ⟨s, hs, hlayered⟩, ht⟩
    rw [generator, hjob]
    exact mapError_eq_ok_iff.mpr hg

theorem document_of_json {path : String} (h : NamesJson path) (t : Text) :
    Model.document (suffix? path == some "json") t = (Json.parse t).mapError .json := by
  rw [Model.document, suffix?_eq_json_iff.mpr h]
  exact if_pos (by decide)

theorem document_of_yaml {path : String} (h : ¬ NamesJson path) (t : Text) :
    Model.document (suffix? path == some "json") t = (Yaml.toJson t).mapError .yaml := by
  have hsuffix : (suffix? path == some "json") = false := by
    simpa using mt suffix?_eq_json_iff.mp h
  rw [Model.document, hsuffix]
  exact if_neg (by decide)

theorem documents_iff {path : String} {t : Text} {j : Json} :
    Model.document (suffix? path == some "json") t = .ok j ↔ Documents path t j := by
  by_cases hjson : NamesJson path
  · rw [document_of_json hjson, mapError_eq_ok_iff]
    constructor
    · intro h
      exact .json hjson h
    · intro h
      cases h with
      | json _ h => exact h
      | yaml hyaml _ => exact absurd hjson hyaml
  · rw [document_of_yaml hjson, mapError_eq_ok_iff]
    constructor
    · intro h
      exact .yaml hjson h
    · intro h
      cases h with
      | json hjson' _ => exact absurd hjson' hjson
      | yaml _ h => exact h

/-- The model that a document is has its entries without the one for the schema. -/
theorem ofText_eq_ok_iff {isJson : Bool} {t : Text} {fields : List (String × Json)} :
    (∃ schema, Model.ofText isJson t = .ok ⟨fields, schema⟩) ↔
      (Model.document isJson t = .ok .null ∧ fields = []) ∨
      ∃ all, Model.document isJson t = .ok (.object all) ∧
        fields = all.filter fun f => f.1 != "$schema" := by
  rw [Model.ofText]
  cases Model.document isJson t with
  | error f => simp
  | ok j =>
    cases j with
    | null => simp [Model.ofDocument?, Model.empty, eq_comm]
    | object all =>
      simp [Model.ofDocument?, Json.dropField, Model.schemaField, @eq_comm _ _ fields]
    | _ => simp [Model.ofDocument?]

theorem model_of_ofText {path : String} {t : Text} {m : Model} (hpath : i.data = some path)
    (ht : r.Holds path t) (hm : Model.ofText (suffix? path == some "json") t = .ok m) :
    i.model r = .ok m := by
  simp only [model, hpath, Reads.text_eq_ok_iff.mpr ht]
  exact mapError_eq_ok_iff.mpr hm

theorem model_eq_ok_iff {fields : List (String × Json)} :
    (∃ schema, i.model r = .ok ⟨fields, schema⟩) ↔ i.Supplies r fields := by
  constructor
  · intro h
    obtain ⟨schema, h⟩ := h
    rw [model] at h
    split at h
    · next hnone =>
      cases h
      exact .nothing hnone
    · next path hsome =>
      split at h
      · cases h
      · next t ht =>
        have hholds := Reads.text_eq_ok_iff.mp ht
        rcases ofText_eq_ok_iff.mp ⟨schema, mapError_eq_ok_iff.mp h⟩ with
          ⟨hnull, rfl⟩ | ⟨all, hobject, rfl⟩
        · exact .null hsome hholds (documents_iff.mp hnull)
        · exact .object hsome hholds (documents_iff.mp hobject)
  · intro h
    cases h with
    | nothing hnone =>
      refine ⟨none, ?_⟩
      rw [model, hnone]
      rfl
    | null hsome ht hnull =>
      obtain ⟨schema, hmodel⟩ := ofText_eq_ok_iff.mpr (.inl ⟨documents_iff.mpr hnull, rfl⟩)
      exact ⟨schema, model_of_ofText hsome ht hmodel⟩
    | object hsome ht hobject =>
      obtain ⟨schema, hmodel⟩ :=
        ofText_eq_ok_iff.mpr (.inr ⟨_, documents_iff.mpr hobject, rfl⟩)
      exact ⟨schema, model_of_ofText hsome ht hmodel⟩

/-- What is put out is what the library gives. -/
theorem produce_eq_ok_iff (hflags : i.flags.trimAfterCode ≠ some true) {t : Text} :
    i.produce r = .ok t ↔ i.Puts r t := by
  constructor
  · intro h
    rw [produce] at h
    split at h
    · cases h
    · next g hg =>
      have hcompiles := (generator_eq_ok_iff hflags).mp hg
      split at h
      · next hemit =>
        cases h
        exact .program hcompiles hemit
      · next hemit =>
        split at h
        · cases h
        · next m hm =>
          have hsupplies := model_eq_ok_iff.mp ⟨m.schema, hm⟩
          exact .rendered hcompiles (by simpa using hemit) hsupplies (mapError_eq_ok_iff.mp h)
  · intro h
    cases h with
    | program hcompiles hemit =>
      rw [produce, (generator_eq_ok_iff hflags).mpr hcompiles]
      exact if_pos hemit
    | rendered hcompiles hemit hsupplies hrun =>
      obtain ⟨schema, hmodel⟩ := model_eq_ok_iff.mpr hsupplies
      simp only [produce, (generator_eq_ok_iff hflags).mpr hcompiles, hemit, hmodel]
      exact mapError_eq_ok_iff.mpr hrun

/-! ## What is not consulted -/

/-- What is put out depends on nothing but the files that may be read. -/
theorem produce_congr {r' : Reads} (h : ∀ path ∈ i.sources, r path = r' path) :
    i.produce r = i.produce r' := by
  have htext : ∀ k, ∀ path ∈ i.sources, r.text k path = r'.text k path := by
    intro k path hpath
    rw [Reads.text, Reads.text, h path hpath]
  have hconfigured : i.configured r = i.configured r' := by
    rw [configured, configured]
    cases hconfig : i.config with
    | none => rfl
    | some path => simp only [htext .config path (by simp [sources, hconfig])]
  have hgenerator : i.generator r = i.generator r' := by
    have htemplate := htext .template i.template (by simp [sources])
    simp only [generator, job, options, hconfigured, htemplate]
  rw [produce, produce, hgenerator]
  split
  · rfl
  · split
    · rfl
    · next hemit =>
      have hmodel : i.model r = i.model r' := by
        rw [model, model]
        cases hdata : i.data with
        | none => rfl
        | some path => simp only [htext .data path (by simp [sources, hdata, hemit])]
      rw [hmodel]

variable {σ : Type} {disk : FileSystem σ}

/-- When the program itself is asked for, a run is the same with any data. -/
theorem run_of_emitProgram (hemit : i.emitProgram = true) (data : Option String) (s : σ) :
    ({ i with data := data } : Invocation).run disk s = i.run disk s := by
  have hproduce : ({ i with data := data } : Invocation).produce (disk.read s) =
      i.produce (disk.read s) := by
    simp only [produce, generator, job, options, configured, hemit, if_pos]
  have hevents : ∀ result, ({ i with data := data } : Invocation).events (disk.read s) result =
      i.events (disk.read s) result := by
    intro result
    simp only [events, generator, job, options, configured, hemit, if_pos]
  simp only [run, hproduce, hevents, ending]

/-! ## Delivery -/

/-- A run that has something to put out delivers it, if it can. -/
theorem run_of_produce {t : Text} {s : σ} (h : i.produce (disk.read s) = .ok t) :
    ((i.run disk s).status = 0 ↔ ∀ path, i.output = some path →
      ∃ after, disk.write s path (bytesOf t) = (.ok (), after)) ∧
    ((i.run disk s).status = 0 → Delivers disk s i.output t (i.run disk s)) := by
  cases houtput : i.output with
  | none => simp [run, ending, h, houtput, Delivers.printed]
  | some path =>
    obtain ⟨result, after, hwrite⟩ : ∃ result after, disk.write s path (bytesOf t) =
        (result, after) := ⟨_, _, rfl⟩
    cases result with
    | error f => simp [run, ending, h, houtput, hwrite]
    | ok u =>
      simp only [run, ending, h, houtput, hwrite]
      exact ⟨by simp [hwrite], fun _ => .saved rfl rfl hwrite⟩

theorem exists_of_status {s : σ} (h : (i.run disk s).status = 0) :
    ∃ t, i.produce (disk.read s) = .ok t := by
  cases hproduce : i.produce (disk.read s) with
  | ok t => exact ⟨t, rfl⟩
  | error e => simp [run, ending, hproduce] at h

end Invocation

/-- The command line is the library and layers. For every command line and all files, in
whatever file system: the options in effect are those of the flags, laid over those of
the config, laid over the standard ones. What is put out is the program of the template
under these options when that is asked for, and then the data is not consulted, whatever
it is; else it is what the program gives for the data without its schema. A run ends
with status 0 exactly when there is something to put out that can be written where it
shall be, and then it has delivered that, by this write alone. If writes replace what is
in their file and touch no other, the file has that text, and every other what it had. -/
theorem run_layers {arguments : List String} {i : Invocation} (hi : parse arguments = .ok i)
    {σ : Type} (disk : FileSystem σ) (s : σ) :
    (∀ o, i.options (disk.read s) = .ok o ↔
      ∃ config, i.Configures (disk.read s) config ∧ Layered i.flags config o) ∧
    (∀ t, i.produce (disk.read s) = .ok t ↔ i.Puts (disk.read s) t) ∧
    (i.emitProgram = true →
      (∀ data, ({ i with data := data } : Invocation).run disk s = i.run disk s) ∧
      ∀ r : Reads, (∀ path ∈ i.config.toList ++ [i.template], r path = disk.read s path) →
        i.produce r = i.produce (disk.read s)) ∧
    ((i.run disk s).status = 0 ↔ ∃ t, i.Puts (disk.read s) t ∧
      ∀ path, i.output = some path → ∃ after, disk.write s path (bytesOf t) = (.ok (), after)) ∧
    (∀ t, i.Puts (disk.read s) t → (i.run disk s).status = 0 →
      Delivers disk s i.output t (i.run disk s)) ∧
    ∀ same, disk.Overwrites same → ∀ t path, i.Puts (disk.read s) t → i.output = some path →
      (i.run disk s).status = 0 → Reads.Holds (disk.read (i.run disk s).files) path t ∧
        ∀ other, ¬ same s path other →
          disk.content? (i.run disk s).files other = disk.content? s other := by
  have hflags := flags_trimAfterCode hi
  have hproduce : ∀ {t}, i.produce (disk.read s) = .ok t ↔ i.Puts (disk.read s) t :=
    Invocation.produce_eq_ok_iff hflags
  refine ⟨fun o => Invocation.options_eq_ok_iff hflags, fun t => hproduce, ?_, ?_, ?_, ?_⟩
  · intro hemit
    refine ⟨fun data => Invocation.run_of_emitProgram hemit data s, ?_⟩
    intro r hr
    apply Invocation.produce_congr
    rw [Invocation.sources, if_pos hemit]
    exact hr
  · constructor
    · intro hstatus
      obtain ⟨t, ht⟩ := Invocation.exists_of_status hstatus
      exact ⟨t, hproduce.mp ht, (Invocation.run_of_produce ht).1.mp hstatus⟩
    · intro h
      obtain ⟨t, ht, hwritable⟩ := h
      exact (Invocation.run_of_produce (hproduce.mpr ht)).1.mpr hwritable
  · intro t ht
    exact (Invocation.run_of_produce (hproduce.mpr ht)).2
  · intro same hsame t path ht houtput hstatus
    cases (Invocation.run_of_produce (hproduce.mpr ht)).2 hstatus with
    | printed hnone => cases houtput.symm.trans hnone
    | saved hpath hprinted hwrite =>
      cases houtput.symm.trans hpath
      obtain ⟨hread, hothers⟩ := hsame hwrite
      exact ⟨⟨_, hread, textOf_bytesOf t⟩, hothers⟩

/-- The config has a length and a marker, and a flag has another length: the flag gives
the length and the config the marker. The data has a schema, which is not in what is run,
and the output is written. The config and the data are not where the run starts. -/
theorem run_layers_flags_over_config :
    ∃ (i : Invocation) (tree : FileTree) (o : Options) (fields : List (String × Json)),
      parse ["--config", "../c", "--debug-len", "2", "--data", "/d.json", "--output", "u",
        "t"] = .ok i ∧
      tree = ⟨[(["c"], bytesOf "debug_len: 9\ncode_end: '%]'".toList),
        (["d.json"], bytesOf "\x7b\"$schema\":null,\"x\":\"b\"\x7d".toList),
        (["home", "t"], bytesOf "[>x<]".toList)], ["home"]⟩ ∧
      i.options tree.read = .ok o ∧ o.contextWidth = 2 ∧ o.markers.codeEnd = ['%', ']'] ∧
      i.Supplies tree.read fields ∧ fields.map (·.1) = ["x"] ∧ i.Puts tree.read ['b'] ∧
      (i.run FileTree.system tree).status = 0 ∧
      Delivers FileTree.system tree (some "u") ['b'] (i.run FileTree.system tree) ∧
      Reads.Holds (i.run FileTree.system tree).files.read "u" ['b'] ∧
      FileTree.system.content? (i.run FileTree.system tree).files "/d.json" =
        FileTree.system.content? tree "/d.json" := by
  obtain ⟨i, hi, hconfig, htemplate, hdata, houtput, hemit, hflags⟩ : ∃ i : Invocation,
      parse ["--config", "../c", "--debug-len", "2", "--data", "/d.json", "--output", "u",
        "t"] = .ok i ∧
      i.config = some "../c" ∧ i.template = "t" ∧ i.data = some "/d.json" ∧
      i.output = some "u" ∧ i.emitProgram = false ∧ i.flags = { contextWidth := some 2 } :=
    ⟨_, rfl, rfl, rfl, rfl, rfl, rfl, rfl⟩
  obtain ⟨tree, htree, hc, hd, ht, hu, hother⟩ : ∃ tree : FileTree,
      tree = ⟨[(["c"], bytesOf "debug_len: 9\ncode_end: '%]'".toList),
        (["d.json"], bytesOf "\x7b\"$schema\":null,\"x\":\"b\"\x7d".toList),
        (["home", "t"], bytesOf "[>x<]".toList)], ["home"]⟩ ∧
      tree.read "../c" = .ok (bytesOf "debug_len: 9\ncode_end: '%]'".toList) ∧
      tree.read "/d.json" = .ok (bytesOf "\x7b\"$schema\":null,\"x\":\"b\"\x7d".toList) ∧
      tree.read "t" = .ok (bytesOf "[>x<]".toList) ∧
      (tree.follow "u" = .ok ["home", "u"] ∧ (names "u").2 = false ∧
        tree.isDirectory ["home", "u"] = false) ∧ tree.follow "/d.json" = .ok ["d.json"] := by
    refine ⟨_, rfl, FileTree.read_eq_ok_iff.mpr ⟨["c"], ?_, rfl, ?_⟩,
      FileTree.read_eq_ok_iff.mpr ⟨["d.json"], ?_, rfl, ?_⟩,
      FileTree.read_eq_ok_iff.mpr ⟨["home", "t"], ?_, rfl, ?_⟩, ⟨?_, ?_, ?_⟩, ?_⟩ <;> rfl
  obtain ⟨hoptions, -, -, hstatus, hdelivers, hkept⟩ := run_layers hi FileTree.system tree
  have hsettings : Settings.ofYaml "debug_len: 9\ncode_end: '%]'".toList =
      .ok { contextWidth := some 9, codeEnd := some ['%', ']'] } :=
    toOption_eq_some_iff.mp (by decide +kernel)
  have hconfigures := Invocation.Configures.document hconfig ⟨_, hc, textOf_bytesOf _⟩ hsettings
    (Settings.asked_of_ofYaml hsettings)
  have hlayered : Layered i.flags { contextWidth := some 9, codeEnd := some ['%', ']'] }
      ⟨{ MarkerSet.standard with codeEnd := ['%', ']'] }, true, 2⟩ := by
    rw [hflags]
    exact ⟨fun m => by cases m <;> rfl, rfl, rfl⟩
  have htext : Reads.Holds tree.read i.template "[>x<]".toList := by
    rw [htemplate]
    exact ⟨_, ht, textOf_bytesOf _⟩
  obtain ⟨g, m, hg, hm, hnames, hrun⟩ : ∃ g m, Generator.compile "[>x<]".toList
      ⟨{ MarkerSet.standard with codeEnd := ['%', ']'] }, true, 2⟩ = .ok g ∧
      Model.ofText (suffix? "/d.json" == some "json")
        "\x7b\"$schema\":null,\"x\":\"b\"\x7d".toList = .ok m ∧
      m.fields.map (·.1) = ["x"] ∧ (g.run (.ofScripts .bare) m.value .empty).1 = .ok ['b'] := by
    obtain ⟨g, hg, hrun⟩ : ∃ g, Generator.compile "[>x<]".toList
        ⟨{ MarkerSet.standard with codeEnd := ['%', ']'] }, true, 2⟩ = .ok g ∧
        (Model.ofText (suffix? "/d.json" == some "json")
          "\x7b\"$schema\":null,\"x\":\"b\"\x7d".toList).toOption.map (fun m =>
            (m.fields.map (·.1), (g.run (.ofScripts .bare) m.value .empty).1.toOption)) =
          some (["x"], some ['b']) := ⟨_, rfl, by decide +kernel⟩
    obtain ⟨m, hm, heq⟩ := Option.map_eq_some_iff.mp hrun
    obtain ⟨hnames, hrun⟩ := Prod.mk.inj heq
    exact ⟨g, m, hg, toOption_eq_some_iff.mp hm, hnames, toOption_eq_some_iff.mp hrun⟩
  have hsupplies : i.Supplies tree.read m.fields :=
    Invocation.model_eq_ok_iff.mp
      ⟨m.schema, Invocation.model_of_ofText hdata ⟨_, hd, textOf_bytesOf _⟩ hm⟩
  have hputs : i.Puts tree.read ['b'] :=
    .rendered ⟨_, _, _, hconfigures, hlayered, htext, hg⟩ hemit hsupplies hrun
  have hzero : (i.run FileTree.system tree).status = 0 := by
    refine hstatus.mpr ⟨_, hputs, ?_⟩
    intro path hpath
    cases houtput.symm.trans hpath
    exact ⟨_, FileTree.write_eq_ok_iff.mpr ⟨_, hu.1, hu.2.1, hu.2.2, rfl⟩⟩
  have hdelivered := hdelivers _ hputs hzero
  rw [houtput] at hdelivered
  obtain ⟨hwritten, hothers⟩ := hkept _ FileTree.system_overwrites _ _ hputs houtput hzero
  have hdistinct : tree.follow "u" ≠ tree.follow "/d.json" := by
    rw [hu.1, hother]
    simp
  exact ⟨i, tree, _, _, hi, htree, (hoptions _).mpr ⟨_, hconfigures, hlayered⟩, rfl, rfl,
    hsupplies, hnames, hputs, hzero, hdelivered, hwritten, hothers _ hdistinct⟩

end CommandLine

end ScriptedTemplate
