import ScriptedTemplate.Proofs.Script.Parsing
import ScriptedTemplate.Proofs.Value.Data
import ScriptedTemplate.Script.Evaluate

/-
  Running calls — what a program of calls writes

  A call of the sink appends the text of its argument to the buffer of the sink and
  shows an empty string: of a literal its value, of a name what the name stands
  for, if that is data. Nothing else changes, so the sink is found under its name
  again by the next call, and the texts stand in the buffer in the order of the
  calls.

  What is proved: `evaluate_calls` — with a sink among the bindings, a program of
  calls succeeds and has appended the texts of their arguments, one after the other,
  to the buffer of that sink.
-/

namespace ScriptedTemplate

namespace Buffers

/-- Texts appended to a buffer, one after the other. -/
def pushAll (b : Buffers) (i : Nat) (ts : List Text) : Buffers := ts.foldl (push · i) b

theorem pushAll_append (b : Buffers) (i : Nat) (ts us : List Text) :
    b.pushAll i (ts ++ us) = (b.pushAll i ts).pushAll i us := List.foldl_append

theorem length_push (b : Buffers) (i : Nat) (t : Text) :
    (b.push i t).contents.length = b.contents.length := by
  simp [push]

theorem text_push {b : Buffers} {i : Nat} (hi : i < b.contents.length) (t : Text) :
    (b.push i t).text i = b.text i ++ t := by
  simp [push, text, List.getD_eq_getElem?_getD, hi]

theorem text_pushAll (ts : List Text) : ∀ {b : Buffers} {i : Nat}, i < b.contents.length →
    (b.pushAll i ts).text i = b.text i ++ ts.flatten := by
  induction ts with
  | nil => intro b i _; simp [pushAll]
  | cons t ts ih =>
    intro b i hi
    have hrest : i < (b.push i t).contents.length := by rwa [length_push]
    have hcons : b.pushAll i (t :: ts) = (b.push i t).pushAll i ts := rfl
    rw [hcons, ih hrest, text_push hi, List.flatten_cons, List.append_assoc]

theorem text_pushAll_fresh (b : Buffers) (ts : List Text) :
    (b.fresh.1.pushAll b.fresh.2 ts).text b.fresh.2 = ts.flatten := by
  rw [text_pushAll]
  · simp [fresh, text]
  · simp [fresh]

end Buffers

namespace Bindings

theorem get?_identify {b : Bindings} {s : String} {v : Value} (hs : b.get? s = some v) (n : Nat) :
    ∃ k, (b.identify n).1.get? s = some (v.identify k).1 := by
  induction b with
  | nil => cases hs
  | cons e rest ih =>
    obtain ⟨t, w⟩ := e
    simp only [identify, List.foldr_cons, get?] at hs ⊢
    split at hs
    · next heq =>
      cases hs
      exact ⟨_, if_pos heq⟩
    · next hne =>
      rw [if_neg hne]
      exact ih hs

/-- A name is bound to data, the text of which `env` gives. -/
def Holds (b : Bindings) (env : Text → Text) (w : Text) : Prop :=
  ∃ v, b.get? (String.ofList w) = some v ∧ v.IsData ∧ v.display = env w

theorem Holds.identify {b : Bindings} {env : Text → Text} {w : Text} (h : b.Holds env w)
    (n : Nat) : (b.identify n).1.Holds env w := by
  obtain ⟨v, hv, hdata, hdisplay⟩ := h
  obtain ⟨k, hfound⟩ := get?_identify hv n
  exact ⟨_, hfound, (hdata.identify k).1, (hdata.display_identify k).trans hdisplay⟩

/-- The name of the sink is bound to the sink of buffer `i`. -/
def HasSink (b : Bindings) (i : Nat) : Prop := b.get? sinkName = some (.object (.sink i))

theorem HasSink.identify {b : Bindings} {i : Nat} (h : b.HasSink i) (n : Nat) :
    (b.identify n).1.HasSink i := (get?_identify h n).choose_spec

end Bindings

namespace Run

variable {α β : Type}

theorem bind_ok {x : Run α} {f : α → Run β} {m m' : Machine} {a : α}
    (h : x m = (.ok a, m')) : (x >>= f) m = f a m' := by
  simp only [bind, ExceptT.bind, ExceptT.mk, StateT.bind, h]
  rfl

theorem at_of_ok {x : Run α} {m m' : Machine} {a : α} (h : x m = (.ok a, m')) (line : Nat) :
    at_ line x m = (.ok a, m') := by
  simp only [at_, h]

theorem at_congr {x y : Run α} {m m' : Machine} (h : x m = y m') (line : Nat) :
    at_ line x m = at_ line y m' := by
  simp only [at_, h]

theorem get_ok (m : Machine) : (get : Run Machine) m = (.ok m, m) := rfl

end Run

/-- The text of an argument, `env` giving the texts of names. -/
def Lexer.Passed.textIn (env : Text → Text) : Lexer.Passed → Text
  | literal q => Slice.unescape q
  | name w => env w

namespace Evaluate

open Run
open Lexer (Passed)
open Grammar (callStatement callStatements passedExpr)
open Value (IsData)

/-- A machine in which the name of the sink stands for the sink of buffer `i`,
and what is shown is not escaped. -/
structure Sinks (m : Machine) (i : Nat) : Prop where
  found : m.lookup sinkName = some (.object (.sink i))
  plain : m.escapes = false

/-- The names among arguments stand for data with these texts. -/
def Knows (m : Machine) (env : Text → Text) (ps : List Passed) : Prop :=
  ∀ w, .name w ∈ ps → ∃ v, m.lookup (String.ofList w) = some v ∧ IsData v ∧ v.display = env w

variable {m : Machine} {i : Nat} {env : Text → Text}

theorem named_sink (h : Host) (re : Reentry) (hm : Sinks m i) {v : Value} (hv : IsData v) :
    Call.named h re sinkName [v] m =
      (.ok (.string "" false), { m with buffers := m.buffers.push i v.display }) := by
  have hcall : m.buffers.call i [v] = (.ok (.string "" false), m.buffers.push i v.display) := by
    simp only [Buffers.call, hv.isUndefined, Bool.false_eq_true, if_false]
  have hwrite : Call.write i [v] m =
      (.ok (.string "" false), { m with buffers := m.buffers.push i v.display }) := by
    rw [Call.write, bind_ok (get_ok m), List.map_singleton, hv.view, hcall]
    rfl
  rw [Call.named, if_neg (by decide), bind_ok (get_ok m), hm.found]
  exact hwrite

theorem exists_expr_passed (h : Host) (re : Reentry) {p : Passed} (hp : Knows m env [p])
    (l : Nat) : ∃ v, expr h re (passedExpr l p) m = (.ok v, m) ∧ IsData v ∧
      v.display = p.textIn env := by
  cases p with
  | literal q => exact ⟨_, rfl, .string _ _, String.toList_ofList⟩
  | name w =>
    obtain ⟨v, hlookup, hv, hdisplay⟩ := hp w List.mem_cons_self
    refine ⟨v, ?_, hv, hdisplay⟩
    rw [passedExpr, expr, bind_ok (get_ok m), hlookup]
    exact at_of_ok (hv.valid m) _

theorem expr_call (h : Host) (re : Reentry) {e : Expr} {v : Value}
    (he : expr h re e m = (.ok v, m)) (s : String) (l : Nat) :
    expr h re (.mkCall (.name s l) [.plain e] l) m =
      at_ (e.lineAfter l) (Call.named h re s [v] >>= identified) m := by
  have harguments : arguments h re [.plain e] m = (.ok ⟨[(false, v)], []⟩, m) := by
    have hfirst : argument h re (.plain e) m = (.ok ⟨[(false, v)], []⟩, m) := by
      rw [argument, bind_ok he]
      rfl
    rw [arguments, bind_ok hfirst]
    rfl
  have hgather : gather ⟨[(false, v)], []⟩ m = (.ok [v], m) := rfl
  rw [Expr.mkCall, expr, bind_ok harguments]
  exact at_congr (bind_ok hgather) _

/-- The statement that calls the sink with data appends its text and shows nothing. -/
theorem statement_sink (h : Host) (re : Reentry) (hm : Sinks m i) {e : Expr} {v : Value}
    (he : expr h re e m = (.ok v, m)) (hv : IsData v) (l : Nat) :
    statement h re (.shown (.mkCall (.name sinkName l) [.plain e] l) l) m =
      (.ok (), { m with
        buffers := m.buffers.push i v.display, written := [] :: m.written }) := by
  have hcall : expr h re (.mkCall (.name sinkName l) [.plain e] l) m =
      (.ok (.string "" false), { m with buffers := m.buffers.push i v.display }) := by
    rw [expr_call h re he]
    refine at_of_ok ?_ _
    rw [bind_ok (named_sink h re hm hv)]
    rfl
  rw [statement, bind_ok hcall]
  refine at_of_ok ?_ _
  rw [Call.display, bind_ok (get_ok _)]
  simp only [hm.plain]
  rfl

/-- The statement that calls the sink appends the text of its argument and shows
nothing. -/
theorem statement_call (h : Host) (re : Reentry) (hm : Sinks m i) {p : Passed}
    (hp : Knows m env [p]) (l : Nat) :
    statement h re (callStatement l p) m =
      (.ok (), { m with
        buffers := m.buffers.push i (p.textIn env), written := [] :: m.written }) := by
  obtain ⟨v, hexpr, hv, hdisplay⟩ := exists_expr_passed h re hp l
  rw [callStatement, statement_sink h re hm hexpr hv, hdisplay]

theorem statements_append (h : Host) (re : Reentry) (ss ss' : List Statement) :
    statements h re (ss ++ ss') = (do statements h re ss; statements h re ss') := by
  induction ss with
  | nil => exact (pure_bind _ _).symm
  | cons st ss ih => rw [List.cons_append, statements, ih, statements, bind_assoc]

theorem Sinks.written (hm : Sinks m i) (t : Text) (ts : List Text) :
    Sinks { m with buffers := m.buffers.push i t, written := ts } i :=
  ⟨hm.found, hm.plain⟩

theorem Knows.written {ps : List Passed} (hm : Knows m env ps) (b : Buffers) (ts : List Text) :
    Knows { m with buffers := b, written := ts } env ps := hm

/-- Calls of the sink, one after the other: only buffers and what is shown change. -/
theorem statements_calls (h : Host) (re : Reentry) (ps : List Passed) : ∀ {m : Machine} (l : Nat),
    Sinks m i → Knows m env ps → ∃ ts, statements h re (callStatements l ps) m =
      (.ok (), { m with
        buffers := m.buffers.pushAll i (ps.map (Passed.textIn env)), written := ts }) := by
  induction ps with
  | nil => intro m l _ _; exact ⟨m.written, rfl⟩
  | cons p ps ih =>
    intro m l hm hps
    have hp : Knows m env [p] := fun w hw => hps w (by simpa using .inl (List.mem_singleton.mp hw))
    have hrest : Knows m env ps := fun w hw => hps w (List.mem_cons_of_mem _ hw)
    obtain ⟨ts, hcalls⟩ := ih (l + p.height + 1) (hm.written (p.textIn env) ([] :: m.written))
      (hrest.written _ _)
    refine ⟨ts, ?_⟩
    rw [callStatements, statements, bind_ok (statement_call h re hm hp l)]
    exact hcalls

/-! ## Runs -/

/-- The frame of a run, which stands on its bindings. -/
def groundFrame (b : Bindings) : Frame := { ground := .bindings b }

/-- A machine between the statements of a program: there is the frame of the run and
no other. -/
structure Outside (m : Machine) (b : Bindings) : Prop where
  frames : m.frames = [groundFrame b]
  plain : m.escapes = false
  depth : m.depth = 0

variable {b : Bindings} {ps : List Passed}

theorem Outside.lookup (hm : Outside m b) {s : String} {v : Value} (hs : b.get? s = some v) :
    m.lookup s = some v := by
  simp only [Machine.lookup, hm.frames, List.findSome?_cons, Machine.lookupIn, groundFrame,
    Bindings.get?, Machine.lookupIn.onGround, hs]

theorem Outside.sinks (hm : Outside m b) (hsink : b.HasSink i) : Sinks m i :=
  ⟨hm.lookup hsink, hm.plain⟩

theorem Outside.knows (hm : Outside m b) (hps : ∀ w, .name w ∈ ps → b.Holds env w) :
    Knows m env ps := by
  intro w hw
  obtain ⟨v, hv, hdata⟩ := hps w hw
  exact ⟨v, hm.lookup hv, hdata⟩

theorem Outside.calls (h : Host) (re : Reentry) (hm : Outside m b) (hsink : b.HasSink i)
    (hps : ∀ w, .name w ∈ ps → b.Holds env w) (l : Nat) : ∃ m',
      statements h re (callStatements l ps) m = (.ok (), m') ∧ Outside m' b ∧
        m'.buffers = m.buffers.pushAll i (ps.map (Passed.textIn env)) := by
  obtain ⟨ts, hcalls⟩ := statements_calls h re ps l (hm.sinks hsink) (hm.knows hps)
  exact ⟨_, hcalls, ⟨hm.frames, hm.plain, hm.depth⟩, rfl⟩

end Evaluate

namespace Script

open Evaluate
open Lexer (Passed programOf)
open Grammar (callFragments callStatements)

theorem outside_machine (s : Script) (b : Bindings) (buffers : Buffers) :
    Outside (s.machine b buffers) (b.identify s.identities).1 := ⟨rfl, rfl, rfl⟩

/-- What a program does is what its statements do. -/
theorem evaluate_of_statements {h : Host} {program : Text} {s : Script} {b : Bindings}
    {buffers : Buffers} {m : Machine} (hparse : parse program = .ok s)
    (hrun : statements h (level h (Run.depthLimit + 1)) s.body (s.machine b buffers) =
      (.ok (), m)) :
    evaluate h program b buffers = (.ok m.written.reverse.flatten, m.buffers) := by
  have hscript : run h s (s.machine b buffers) = (.ok (), m) := hrun
  rw [evaluate, hparse]
  simp only [hscript]

/-- A program that calls the sink succeeds, and the texts of the arguments have been
appended to the sink's buffer. -/
theorem evaluate_calls (h : Host) {b : Bindings} {i : Nat} {env : Text → Text}
    {ps : List Passed} (hfit : ∀ p ∈ ps, p.IsFit) (hsink : b.HasSink i)
    (hps : ∀ w, .name w ∈ ps → b.Holds env w) (buffers : Buffers) :
    ∃ t, evaluate h (programOf (callFragments ps)) b buffers =
      (.ok t, buffers.pushAll i (ps.map (Passed.textIn env))) := by
  obtain ⟨m, hrun, -, hbuffers⟩ := (outside_machine ⟨callStatements 1 ps, [], 0⟩ b buffers).calls h
    (level h (Run.depthLimit + 1)) (hsink.identify 0) (fun w hw => (hps w hw).identify 0) 1
  refine ⟨m.written.reverse.flatten, ?_⟩
  rw [evaluate_of_statements (parse_calls hfit) hrun, hbuffers]
  rfl

end Script

end ScriptedTemplate
