import ScriptedTemplate.Output.Use
import ScriptedTemplate.Proofs.Generator.Isolation
import Mathlib.Data.List.DropRight

/-
  What a sink holds — any uses in any order

  A sink adds one buffer to those that are there. What the buffer holds depends on
  the uses since the last take alone: each appends the text that it writes, and a
  call that is refused writes none. `Extends` says this of the buffers as a whole,
  so it is carried through every use (`Extends.use`) and with it through a whole
  history (`extends_useSink`).

  What is proved: `useSink_history` — a take answers exactly what has been written
  since the take before it, and after it the sink is as when it was made; calls
  succeed for one argument that is not undefined, and a refused one changes nothing.
-/

namespace ScriptedTemplate

namespace Buffers

def Use.isTake : Use → Bool
  | .take => true
  | _ => false

/-- The text that a use appends: a pushed text, or that of an accepted argument. -/
def Use.written : Use → Text
  | .push t => t
  | .clonePush t => t
  | .call args => (accepted? args).getD []
  | .take => []

/-- What has been written since the last take, or since the start. -/
def pending (us : List Use) : Text := (us.rtakeWhile fun u => !u.isTake).flatMap Use.written

/-- What is pending starts anew behind a take, and grows with every other use. -/
theorem pending_append (us : List Use) (u : Use) :
    pending (us ++ [u]) = if u.isTake then [] else pending us ++ u.written := by
  cases hu : u.isTake with
  | true =>
    rw [pending, List.rtakeWhile_concat_neg]
    · rfl
    · simp [hu]
  | false =>
    rw [pending, List.rtakeWhile_concat_pos, List.flatMap_append, List.flatMap_singleton]
    · rfl
    · simp [hu]

/-! ## One use -/

/-- The buffers `b` and one more, which holds the text `t`. -/
def Extends (x b : Buffers) (t : Text) : Prop :=
  ∃ ts : List Text, x.contents = b.contents ++ [ts] ∧ ts.reverse.flatten = t

variable {x b : Buffers} {t : Text}

theorem extends_fresh (b : Buffers) : b.fresh.1.Extends b [] := ⟨[], rfl, rfl⟩

theorem Extends.text (h : x.Extends b t) : x.text b.fresh.2 = t := by
  obtain ⟨ts, hx, ht⟩ := h
  rw [Buffers.text, hx, ← ht]
  simp [fresh, List.getD_eq_getElem?_getD]

theorem Extends.text_of_lt (h : x.Extends b t) {j : Nat} (hj : j < b.contents.length) :
    x.text j = b.text j := by
  obtain ⟨ts, hx, -⟩ := h
  rw [Buffers.text, hx, Buffers.text]
  simp [List.getD_eq_getElem?_getD, List.getElem?_append_left hj]

theorem Extends.push (h : x.Extends b t) (u : Text) :
    (x.push b.fresh.2 u).Extends b (t ++ u) := by
  obtain ⟨ts, hx, ht⟩ := h
  refine ⟨u :: ts, ?_, by simp [← ht]⟩
  have hlast : b.contents.length < (b.contents ++ [ts]).length := by simp
  show x.contents.modify b.contents.length (u :: ·) = b.contents ++ [u :: ts]
  rw [hx, List.modify_eq_take_cons_drop hlast]
  simp

/-- Taking gives the text, and leaves what there was when the sink was made. -/
theorem Extends.take (h : x.Extends b t) : x.take b.fresh.2 = (t, b.fresh.1) := by
  have htext := h.text
  obtain ⟨ts, hx, -⟩ := h
  rw [Buffers.take, htext, hx]
  simp [fresh]

/-- A use that takes leaves no text; every other one appends what it writes. -/
theorem Extends.use (h : x.Extends b t) (u : Use) :
    (x.use b.fresh.2 u).2.Extends b (if u.isTake then [] else t ++ u.written) := by
  cases u with
  | push s => exact h.push s
  | clonePush s => exact h.push s
  | take =>
    have htake : (x.use b.fresh.2 .take).2 = b.fresh.1 := congrArg Prod.snd h.take
    rw [htake]
    exact extends_fresh b
  | call args =>
    show (x.call b.fresh.2 args).2.Extends b (t ++ (accepted? args).getD [])
    cases haccepted : accepted? args with
    | some s =>
      rw [call_of_accepted haccepted]
      exact h.push s
    | none =>
      obtain ⟨cause, hcall⟩ := call_of_refused (b := x) (i := b.fresh.2) haccepted
      rw [hcall, Option.getD_none, List.append_nil]
      exact h

/-! ## A history of uses -/

theorem useAll_append (us us' : List Use) : ∀ (b : Buffers) (i : Nat),
    b.useAll i (us ++ us') =
      ((b.useAll i us).1 ++ ((b.useAll i us).2.useAll i us').1,
        ((b.useAll i us).2.useAll i us').2) := by
  induction us with
  | nil => intro b i; rfl
  | cons u us ih =>
    intro b i
    simp only [List.cons_append, useAll, ih]

theorem useSink_append (b : Buffers) (us us' : List Use) : b.useSink (us ++ us') =
    ((b.useSink us).1 ++ ((b.useSink us).2.useAll b.fresh.2 us').1,
      ((b.useSink us).2.useAll b.fresh.2 us').2) :=
  useAll_append us us' b.fresh.1 b.fresh.2

/-- After a history the sink holds what is pending, and all other buffers are as they
were. -/
theorem extends_useSink (b : Buffers) (us : List Use) :
    (b.useSink us).2.Extends b (pending us) := by
  -- The induction takes the last use off, as what is pending is told from the end.
  induction us using List.reverseRecOn with
  | nil => exact extends_fresh b
  | append_singleton us u ih =>
    have hlast : (b.useSink (us ++ [u])).2 = ((b.useSink us).2.use b.fresh.2 u).2 := by
      rw [useSink_append]
      rfl
    rw [hlast, pending_append]
    exact ih.use u

/-- A take answers what is pending, and what comes after it is as for a new sink. -/
theorem useSink_take (b : Buffers) (before after : List Use) :
    b.useSink (before ++ .take :: after) =
      ((b.useSink before).1 ++ .taken (pending before) :: (b.useSink after).1,
        (b.useSink after).2) := by
  have htake : (b.useSink before).2.use b.fresh.2 .take = (.taken (pending before), b.fresh.1) :=
    congrArg (fun p : Text × Buffers => (Reply.taken p.1, p.2)) (extends_useSink b before).take
  -- The buffers are then those of a new sink, so the rest begins a history of its own.
  rw [useSink_append, useAll, htake]
  rfl

/-- The reply to a call comes behind the others. An accepted call answers the empty
string; a refused one answers an error and leaves the buffers as they were. -/
theorem useSink_call (b : Buffers) (before : List Use) (args : List Value) :
    ∃ r, (b.useSink (before ++ [.call args])).1 = (b.useSink before).1 ++ [.called r] ∧
      (accepted? args ≠ none → r = .ok (.string "" false)) ∧
      (accepted? args = none → (∃ cause, r = .error cause) ∧
        (b.useSink (before ++ [.call args])).2 = (b.useSink before).2) := by
  have hcalled : b.useSink (before ++ [.call args]) =
      ((b.useSink before).1 ++ [.called ((b.useSink before).2.call b.fresh.2 args).1],
        ((b.useSink before).2.call b.fresh.2 args).2) := by
    rw [useSink_append]
    rfl
  refine ⟨((b.useSink before).2.call b.fresh.2 args).1, congrArg Prod.fst hcalled, ?_, ?_⟩
  · intro haccepted
    obtain ⟨t, ht⟩ := Option.ne_none_iff_exists'.mp haccepted
    rw [call_of_accepted ht]
  · intro hrefused
    obtain ⟨cause, hcall⟩ := call_of_refused (b := (b.useSink before).2) (i := b.fresh.2) hrefused
    refine ⟨⟨cause, congrArg Prod.fst hcall⟩, ?_⟩
    calc (b.useSink (before ++ [.call args])).2
        _ = ((b.useSink before).2.call b.fresh.2 args).2 := by rw [hcalled]
        _ = (b.useSink before).2 := by rw [hcall]

theorem accepted?_ne_none_iff {args : List Value} :
    accepted? args ≠ none ↔ ∃ v, args = [v] ∧ v.isUndefined = false := by
  match args with
  | [] => simp [accepted?]
  | [v] =>
    cases hv : v.isUndefined with
    | true => simp [accepted?, hv]
    | false => simp [accepted?, hv]
  | _ :: _ :: _ => simp [accepted?]

end Buffers

open Buffers (Use pending)

/-- What comes of any uses of a sink, whatever buffers there are. It holds what the pushes
and the accepted calls since the last take have written, in order, and the buffers that
were there hold what they held. A take answers just that, and leaves the sink as it was
made: it is empty, and all further uses come to what they come to at the start. A call
is accepted exactly for one argument that is not undefined; it then answers the empty
string, and if it is refused nothing has changed. -/
theorem useSink_history (b : Buffers) (before : List Use) :
    (b.useSink before).2.text b.fresh.2 = pending before ∧
    (∀ j < b.contents.length, (b.useSink before).2.text j = b.text j) ∧
    (∀ after, b.useSink (before ++ .take :: after) =
      ((b.useSink before).1 ++ .taken (pending before) :: (b.useSink after).1,
        (b.useSink after).2)) ∧
    (b.useSink (before ++ [.take])).2.text b.fresh.2 = [] ∧
    ∀ args, ∃ r,
      (b.useSink (before ++ [.call args])).1 = (b.useSink before).1 ++ [.called r] ∧
      ((∃ v, r = .ok v) ↔ ∃ v, args = [v] ∧ v.isUndefined = false) ∧
      (∀ v, r = .ok v → v = .string "" false) ∧
      ∀ cause, r = .error cause →
        (b.useSink (before ++ [.call args])).2 = (b.useSink before).2 := by
  have hholds := Buffers.extends_useSink b before
  refine ⟨hholds.text, fun j hj => hholds.text_of_lt hj, Buffers.useSink_take b before, ?_, ?_⟩
  · rw [(Buffers.extends_useSink b _).text, Buffers.pending_append]
    rfl
  · intro args
    obtain ⟨r, hreply, haccepted, hrefused⟩ := Buffers.useSink_call b before args
    refine ⟨r, hreply, ?_⟩
    rw [← Buffers.accepted?_ne_none_iff]
    by_cases h : Buffers.accepted? args = none
    · obtain ⟨⟨cause, rfl⟩, hsame⟩ := hrefused h
      simp [h, hsame]
    · simp [h, haccepted h]

/-- Two writers and a caller, of whom one call has no argument and one an undefined one,
then a take, and a call behind it. -/
theorem useSink_history_interleaved :
    (Buffers.useSink ⟨[[['z']]]⟩ ([.push ['a'], .call [.int 42], .call [], .clonePush ['b'],
      .call [.undefined true]] ++ .take :: [.call [.string "c" false], .take])).1 =
      [.done, .called (.ok (.string "" false)), .called (.error .missingArgument), .done,
        .called (.error .undefinedOutput), .taken ['a', '4', '2', 'b'],
        .called (.ok (.string "" false)), .taken ['c']] := by
  obtain ⟨-, -, htake, -⟩ := useSink_history ⟨[[['z']]]⟩ [.push ['a'], .call [.int 42], .call [],
    .clonePush ['b'], .call [.undefined true]]
  rw [htake]
  rfl

end ScriptedTemplate
