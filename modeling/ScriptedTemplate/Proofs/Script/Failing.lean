import ScriptedTemplate.Proofs.Script.Quotations
import ScriptedTemplate.Proofs.Script.Running

/-
  Failing — where a run ends

  A step that fails ends the run, and what stands behind it is not run. A fault is
  placed by the innermost call that it comes through, on the line to which the
  arguments of that call lead; the calls around it do not move it. So a failing
  argument of the sink is reported on the line of its fragment, if the argument
  begins there.

  What is proved: `evaluate_fails` — a program of literals, an expression that fails,
  and any expressions behind it fails as that expression does, on the line on which
  its fragment begins. `failsOn_undefined` and `failsOn_raise` are two expressions
  that fail.
-/

namespace ScriptedTemplate

theorem Bindings.get?_identify_none {b : Bindings} {s : String} (hs : b.get? s = none) (n : Nat) :
    (b.identify n).1.get? s = none := by
  induction b with
  | nil => rfl
  | cons e rest ih =>
    obtain ⟨t, w⟩ := e
    simp only [identify, List.foldr_cons, get?] at hs ⊢
    split at hs
    · cases hs
    · next hne =>
      rw [if_neg hne]
      exact ih hs

namespace Run

variable {α β : Type}

theorem bind_error {x : Run α} {k : α → Run β} {m m' : Machine} {f : Fault}
    (h : x m = (.error f, m')) : (x >>= k) m = (.error f, m') := by
  simp only [bind, ExceptT.bind, ExceptT.mk, StateT.bind, h]
  rfl

theorem at_of_error {x : Run α} {m m' : Machine} {f : Fault} (h : x m = (.error f, m'))
    (line : Nat) : at_ line x m = (.error (f.atLine line), m') := by
  simp only [at_, h]

end Run

namespace Evaluate

open Run
open Grammar (calling quotationExpr quotationStatements)
open Lexer (Quotation)

variable {m : Machine} {b : Bindings} {i : Nat}

/-- Outside of loops a name that is not bound is that of a function of the language, or it
stands for nothing. -/
theorem Outside.lookup_of_none (hm : Outside m b) {s : String} (hs : b.get? s = none) :
    m.lookup s = if builtinNames.contains s then some (.object (.builtin s)) else none := by
  simp only [Machine.lookup, hm.frames, List.findSome?_cons, Machine.lookupIn, groundFrame,
    Bindings.get?, Machine.lookupIn.onGround, hs, List.findSome?_nil]

theorem Outside.quotations (h : Host) (re : Reentry) (hsink : b.HasSink i) (qs : List Quotation) :
    ∀ {m : Machine} (l : Nat), Outside m b → ∃ m',
      statements h re (quotationStatements l qs) m = (.ok (), m') ∧ Outside m' b := by
  induction qs with
  | nil =>
    intro m l hm
    exact ⟨m, rfl, hm⟩
  | cons q qs ih =>
    intro m l hm
    have hexpr : expr h re (quotationExpr q l) m =
        (.ok (.string (String.ofList q.value) false), m) := rfl
    have hfirst := statement_sink h re (hm.sinks hsink) hexpr (.string _ _) l
    obtain ⟨m', hrest, hm'⟩ := ih (l + Lexer.breaks q.text + 1) (m := { m with
      buffers := m.buffers.push i (Value.string (String.ofList q.value) false).display,
      written := [] :: m.written }) ⟨hm.frames, hm.plain, hm.depth⟩
    refine ⟨m', ?_, hm'⟩
    rw [quotationStatements, statements]
    exact (bind_ok hfirst).trans hrest

/-! ## Arguments that fail -/

/-- A call fails as its argument does. -/
theorem expr_call_error (h : Host) (re : Reentry) {e : Expr} {f : Fault} {m' : Machine}
    (he : expr h re e m = (.error f, m')) (s : String) (l : Nat) :
    expr h re (calling s e l) m = (.error f, m') := by
  have harguments : arguments h re [.plain e] m = (.error f, m') := by
    have hfirst : argument h re (.plain e) m = (.error f, m') := by
      rw [argument]
      exact bind_error he
    rw [arguments]
    exact bind_error hfirst
  rw [calling, Expr.mkCall, expr]
  exact bind_error harguments

/-- An expression, given for every line, that fails on its line when it is run outside of
loops on these bindings. -/
def FailsOn (b : Bindings) (e : Nat → Expr) (c : Cause) : Prop :=
  ∀ (h : Host) (re : Reentry) (k l : Nat) {m : Machine}, Outside m (b.identify k).1 →
    expr h re (e l) m = (.error ⟨c, some l⟩, m)

theorem failsOn_undefined (hsink : b.HasSink i) {w : String} (hw : b.get? w = none)
    (hbuiltin : w ∉ builtinNames) :
    FailsOn b (fun l => calling sinkName (.name w l) l) .undefinedOutput := by
  intro h re k l m hm
  have hlookup : m.lookup w = none := by
    rw [hm.lookup_of_none (Bindings.get?_identify_none hw k), if_neg (by simpa using hbuiltin)]
  have hname : expr h re (.name w l) m = (.ok (.undefined false), m) := by
    rw [expr, bind_ok (get_ok m), hlookup]
    rfl
  -- Whether the machine has anything that can change or not, this is no part of it.
  have hview : m.view (.undefined false) = .undefined false := by
    simp only [Machine.view, Machine.withHandles, ite_self]
  have hcall : Call.named h re sinkName [.undefined false] m =
      (.error (.of .undefinedOutput), m) := by
    rw [Call.named, if_neg (by decide), bind_ok (get_ok m), (hm.sinks (hsink.identify k)).found]
    show Call.write i [.undefined false] m = _
    rw [Call.write, bind_ok (get_ok m), List.map_singleton, hview]
    rfl
  show expr h re (calling sinkName (.name w l) l) m = _
  rw [calling, expr_call h re hname]
  exact at_of_error (bind_error hcall) _

theorem failsOn_raise (hraise : b.get? "raise" = none) (v : String) :
    FailsOn b (fun l => calling sinkName (calling "raise" (.literal (.string v false) l) l) l)
      (.raised v) := by
  intro h re k l m hm
  have hlookup : m.lookup "raise" = some (.object (.builtin "raise")) := by
    rw [hm.lookup_of_none (Bindings.get?_identify_none hraise k)]
    rfl
  have htaken : Arguments.all Call.raise [.string v false] = .error (.raised v) := by
    have htext : (Value.string v false).displayString = v := String.ofList_toList
    show Except.error (Cause.raised (Value.string v false).displayString) = _
    rw [htext]
  have hcall : Call.named h re "raise" [.string v false] m = (.error (.of (.raised v)), m) := by
    rw [Call.named, if_neg (by decide), bind_ok (get_ok m), hlookup]
    show lift (Arguments.all Call.raise [.string v false]) m = _
    rw [htaken]
    rfl
  have hinner : expr h re (calling "raise" (.literal (.string v false) l) l) m =
      (.error ⟨.raised v, some l⟩, m) := by
    have hliteral : expr h re (.literal (.string v false) l) m = (.ok (.string v false), m) := rfl
    rw [calling, expr_call h re hliteral]
    exact at_of_error (bind_error hcall) _
  -- The fault has its line from the inner call, and the outer one does not move it.
  exact expr_call_error h re hinner _ _

end Evaluate

namespace Script

open Evaluate Run
open Grammar (ShowsAs Shows lineBehind quotationFragments quotationStatements)
open Lexer (Fragment Quotation programOf)

/-- A program fails as its statements do. -/
theorem evaluate_of_error {h : Host} {program : Text} {s : Script} {b : Bindings}
    {buffers : Buffers} {m : Machine} {f : Fault} (hparse : parse program = .ok s)
    (hrun : statements h (level h (depthLimit + 1)) s.body (s.machine b buffers) =
      (.error f, m)) :
    evaluate h program b buffers = (.error f, m.buffers) := by
  have hscript : run h s (s.machine b buffers) = (.error f, m) := hrun
  rw [evaluate, hparse]
  simp only [hscript]

/-- Behind literals the first expression that fails decides. -/
theorem evaluate_fails (h : Host) (qs : List Quotation) {f : Fragment} {e : Nat → Expr}
    (hf : ShowsAs f e) {fs : List Fragment} (hfs : ∀ g ∈ fs, Shows g) {b : Bindings} {i : Nat}
    (hsink : b.HasSink i) {c : Cause} (hfails : FailsOn b e c) (buffers : Buffers) : ∃ after,
      evaluate h (programOf (quotationFragments qs ++ f :: fs)) b buffers =
        (.error ⟨c, some (lineBehind 1 (quotationFragments qs))⟩, after) := by
  obtain ⟨ss, n, hparse⟩ := parse_quotations qs hf hfs
  let l := lineBehind 1 (quotationFragments qs)
  let s : Script := ⟨quotationStatements 1 qs ++ .shown (e l) l :: ss, [], n⟩
  let re := level h (depthLimit + 1)
  obtain ⟨m, hquotations, hm⟩ := Outside.quotations h re (hsink.identify n) qs 1
    (outside_machine s b buffers)
  have hshown : statement h re (.shown (e l) l) m = (.error ⟨c, some l⟩, m) := by
    rw [statement]
    exact bind_error (hfails h re n l hm)
  have hrun : statements h re s.body (s.machine b buffers) = (.error ⟨c, some l⟩, m) := by
    rw [statements_append, bind_ok hquotations, statements]
    exact bind_error hshown
  exact ⟨m.buffers, evaluate_of_error hparse hrun⟩

end Script

end ScriptedTemplate
