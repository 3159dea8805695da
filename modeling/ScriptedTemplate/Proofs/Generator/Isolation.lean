import ScriptedTemplate.Proofs.Generator.History

/-
  Isolation — what a run puts out is its own

  An evaluator writes by calling the sink that the run has made. A call with one
  argument that is not undefined appends the text of it; any other call fails and
  appends nothing (`call_of_accepted`, `call_of_refused`). The buffer of the sink is
  new, so it holds what this run has appended and nothing else, and the buffers of
  other runs are left as they are.

  What is proved: `run_isolated` — after every history, whatever its runs have written
  and however they ended, a run puts out the texts of its own calls that succeed, in
  order, or fails with the message of its evaluator and puts out nothing.
-/

namespace ScriptedTemplate

namespace Buffers

variable {b : Buffers} {i j : Nat}

/-- The text that a call of a sink appends; there is none when the call fails. -/
def accepted? : List Value → Option Text
  | [v] => if v.isUndefined then none else some v.display
  | _ => none

theorem call_of_accepted {args : List Value} {t : Text} (h : accepted? args = some t) :
    b.call i args = (.ok (.string "" false), b.push i t) := by
  match args with
  | [] => cases h
  | [v] =>
    simp only [accepted?] at h
    split at h
    · cases h
    · next hv =>
      cases h
      rw [call, if_neg hv]
  | _ :: _ :: _ => cases h

theorem call_of_refused {args : List Value} (h : accepted? args = none) :
    ∃ cause, b.call i args = (.error cause, b) := by
  match args with
  | [] => exact ⟨_, rfl⟩
  | [v] =>
    simp only [accepted?] at h
    split at h
    · next hv => exact ⟨_, if_pos hv⟩
    · cases h
  | _ :: _ :: _ => exact ⟨_, rfl⟩

/-- What is appended to one buffer does not show in another. -/
theorem text_push_of_ne (h : j ≠ i) (t : Text) : (b.push i t).text j = b.text j := by
  have hplace : (b.contents.modify i (t :: ·))[j]? = b.contents[j]? :=
    List.getElem?_modify_ne _ _ h.symm
  simp only [text, push, List.getD_eq_getElem?_getD, hplace]

theorem text_pushAll_of_ne (h : j ≠ i) (ts : List Text) : ∀ b : Buffers,
    (b.pushAll i ts).text j = b.text j := by
  induction ts with
  | nil => intro b; rfl
  | cons t ts ih => intro b; exact (ih (b.push i t)).trans (text_push_of_ne h t)

theorem text_take_of_ne (h : j ≠ i) : (b.take i).2.text j = b.text j := by
  simp [take, text, List.getD_eq_getElem?_getD, h.symm]

theorem text_fresh (h : j < b.contents.length) : b.fresh.1.text j = b.text j := by
  simp [fresh, text, List.getD_eq_getElem?_getD, List.getElem?_append_left h]

end Buffers

open Buffers (accepted?)

/-- What a performance comes to in a run: the texts that its calls append, in order, or
the failure that it ends with. -/
def Performance.result (p : Performance) : Except Failure Text :=
  match p.failure with
  | none => .ok (p.calls.filterMap accepted?).flatten
  | some message => .error (.run (.evaluation message))

namespace Evaluator

theorem writeAll_eq (i : Nat) (calls : List (List Value)) : ∀ b : Buffers,
    writeAll b i calls = b.pushAll i (calls.filterMap accepted?) := by
  induction calls with
  | nil => intro b; rfl
  | cons args calls ih =>
    intro b
    have hcons : writeAll b i (args :: calls) = writeAll (b.call i args).2 i calls := rfl
    rw [hcons, ih]
    cases h : accepted? args with
    | some t =>
      rw [Buffers.call_of_accepted h, List.filterMap_cons_some h]
      rfl
    | none =>
      obtain ⟨cause, hcall⟩ := Buffers.call_of_refused (b := b) (i := i) h
      rw [hcall, List.filterMap_cons_none h]

theorem evaluate_ofPerformance {perform : Text → Bindings → Performance} {program : Text}
    {b : Bindings} {i : Nat} (hsink : b.HasSink i) (buffers : Buffers) :
    (ofPerformance perform).evaluate program b buffers =
      (match (perform program b).failure with
        | none => .ok ()
        | some message => .error message,
      buffers.pushAll i ((perform program b).calls.filterMap accepted?)) := by
  have hi : sinkOf b = some i := by rw [sinkOf, show b.get? sinkName = _ from hsink]
  simp only [ofPerformance, hi, writeAll_eq]
  cases (perform program b).failure <;> rfl

end Evaluator

namespace Generator

/-- The results of the runs in a history, in order. -/
def Session.answers (x : Session) : List Use → List (Except Failure Text)
  | [] => []
  | .register s v :: us => (x.use (.register s v)).answers us
  | .run e data :: us => (x.generator.run e data x.buffers).1 :: (x.use (.run e data)).answers us

theorem Session.answers_append (us us' : List Use) : ∀ x : Session,
    x.answers (us ++ us') = x.answers us ++ (x.after us).answers us' := by
  induction us with
  | nil => intro x; rfl
  | cons u us ih =>
    intro x
    have hrest := ih (x.use u)
    cases u with
    | register s v => exact hrest
    | run e data => exact congrArg _ hrest

variable {x : Session} {data : Value} {b : Bindings}

/-- A run with a performance comes to the result of the performance, and leaves what
earlier buffers hold. -/
theorem run_performance (perform : Text → Bindings → Performance)
    (hhands : x.generator.Hands data x.buffers x.generator.program.source b)
    (hsink : b.HasSink x.buffers.fresh.2) :
    (x.generator.run (.ofPerformance perform) data x.buffers).1 =
        (perform x.generator.program.source b).result ∧
      ∀ j < x.buffers.contents.length,
        (x.use (.run (.ofPerformance perform) data)).buffers.text j = x.buffers.text j := by
  have hold : ∀ j < x.buffers.contents.length, ∀ ts,
      (x.buffers.fresh.1.pushAll x.buffers.fresh.2 ts).text j = x.buffers.text j := by
    intro j hj ts
    have hne : j ≠ x.buffers.fresh.2 := Nat.ne_of_lt hj
    rw [Buffers.text_pushAll_of_ne hne, Buffers.text_fresh hj]
  rw [Session.use, hhands, Evaluator.evaluate_ofPerformance hsink, Performance.result]
  generalize perform x.generator.program.source b = p
  obtain ⟨calls, failure⟩ := p
  cases failure with
  | some message => exact ⟨rfl, fun j hj => hold j hj _⟩
  | none =>
    refine ⟨congrArg Except.ok (Buffers.text_pushAll_fresh x.buffers _), ?_⟩
    intro j hj
    exact (Buffers.text_take_of_ne (Nat.ne_of_lt hj)).trans (hold j hj _)

end Generator

open Generator

/-- In every history of a generator a run on data that can be bound hands over bindings
with a sink of its own. Whatever comes before the run and behind it, its result is its
own: the message with which its evaluator fails, and then no output, or, for an
evaluator that calls the sink and succeeds, the texts of the arguments of those calls
that succeed, in order. The buffers of earlier runs hold what they held. A call that
succeeds appends the text of its argument; one that fails, as with an undefined
argument, appends nothing. -/
theorem run_isolated (g : Generator) (buffers : Buffers) (us : List Use) {x : Session}
    (hx : Session.after ⟨g, buffers⟩ us = x) {data : Value} (hdata : data.IsMappingOrNone) :
    (∃ b, x.generator.Hands data x.buffers x.generator.program.source b ∧
      b.get? sinkName = some (.object (.sink x.buffers.fresh.2)) ∧
      (∀ e message after us',
        e.evaluate x.generator.program.source b x.buffers.fresh.1 = (.error message, after) →
          Session.answers ⟨g, buffers⟩ (us ++ .run e data :: us') =
            Session.answers ⟨g, buffers⟩ us ++ .error (.run (.evaluation message)) ::
              (x.use (.run e data)).answers us' ∧
          (Failure.run (.evaluation message)).message = message) ∧
      ∀ perform p us', perform x.generator.program.source b = p →
        Session.answers ⟨g, buffers⟩ (us ++ .run (.ofPerformance perform) data :: us') =
          Session.answers ⟨g, buffers⟩ us ++ p.result ::
            (x.use (.run (.ofPerformance perform) data)).answers us' ∧
        ∀ j < x.buffers.contents.length,
          (x.use (.run (.ofPerformance perform) data)).buffers.text j = x.buffers.text j) ∧
    ∀ (b : Buffers) (i : Nat) (args : List Value),
      (∀ t, accepted? args = some t → b.call i args = (.ok (.string "" false), b.push i t)) ∧
      (accepted? args = none → ∃ cause, b.call i args = (.error cause, b)) ∧
      ∀ v, args = [v] → v.isUndefined = true → accepted? args = none := by
  have hanswers : ∀ e us', Session.answers ⟨g, buffers⟩ (us ++ .run e data :: us') =
      Session.answers ⟨g, buffers⟩ us ++ (x.generator.run e data x.buffers).1 ::
        (x.use (.run e data)).answers us' := by
    intro e us'
    rw [Session.answers_append, hx]
    rfl
  constructor
  · obtain ⟨es, hes⟩ : ∃ es, dataEntries data = .ok es :=
      ⟨_, dataEntries_of_isMappingOrNone hdata⟩
    have hhands : x.generator.Hands data x.buffers x.generator.program.source _ :=
      hands_bindings hes
    have hsink := hasSink_bindings x.generator es x.buffers.fresh.2
    refine ⟨_, hhands, hsink, ?_, ?_⟩
    · intro e message after us' hanswer
      rw [hanswers, hhands, hanswer]
      exact ⟨rfl, rfl⟩
    · intro perform p us' hp
      obtain ⟨hresult, hold⟩ := run_performance perform hhands hsink
      rw [hanswers, hresult, hp]
      exact ⟨rfl, hold⟩
  · intro b i args
    refine ⟨fun t h => Buffers.call_of_accepted h, Buffers.call_of_refused, ?_⟩
    intro v hargs hv
    subst hargs
    exact if_pos hv

/-- A run that has written and failed comes first. The next run calls the sink with a
text, with nothing defined, with no argument and with none; it puts out what the first
and the last call append. -/
theorem run_isolated_after_failure : ∃ g, Generator.compile ['a'] .standard = .ok g ∧
    Session.answers ⟨g, .empty⟩
      [.run (.ofPerformance fun _ _ => ⟨[[.string "x" false]], some "stop"⟩) .none,
        .run (.ofPerformance fun _ _ =>
          ⟨[[.string "y" false], [.undefined false], [], [.none]], none⟩) .none] =
      [.error (.run (.evaluation "stop")), .ok ['y', 'N', 'o', 'n', 'e']] := by
  obtain ⟨p, hg⟩ : ∃ p, Generator.compile ['a'] .standard = .ok ⟨p, []⟩ := ⟨_, rfl⟩
  have hnone : Value.IsMappingOrNone .none := .inr (.inl rfl)
  obtain ⟨⟨b, -, -, -, hperform⟩, -⟩ := run_isolated ⟨p, []⟩ .empty
    [.run (.ofPerformance fun _ _ => ⟨[[.string "x" false]], some "stop"⟩) .none] rfl hnone
  exact ⟨_, hg, (hperform (fun _ _ =>
    ⟨[[.string "y" false], [.undefined false], [], [.none]], none⟩) _ [] rfl).1⟩

end ScriptedTemplate
