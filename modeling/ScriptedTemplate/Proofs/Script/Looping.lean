import ScriptedTemplate.Proofs.Script.Running

/-
  Running loops — what a loop of calls writes

  A loop runs in a frame of its own, which holds nothing but its target. Each turn
  begins by emptying that frame and giving the target the next item; the calls of
  the body then find the item under the name of the target and all else where they
  found it before the loop. So a turn appends the texts of the body, with the text
  of the item for the target, and the turns do so one after the other.

  What is proved: `evaluate_loop` — a program of calls with a loop over bound data
  succeeds and has appended the texts of the calls before the loop, those of the
  body for each item in order, and those of the calls behind the loop.
-/

namespace ScriptedTemplate

namespace Evaluate

open Run
open Lexer (Passed)
open Grammar (callStatements)
open Value (IsData)

/-- A machine in the body of loop `j`, the frame of which has these names. -/
structure Inside (m : Machine) (b : Bindings) (j : Nat) (locals : Bindings) : Prop where
  frames : ∃ closure, m.frames = [{ locals, loop := some (j, true), closure }, groundFrame b]
  plain : m.escapes = false
  depth : m.depth = 0

variable {m : Machine} {b : Bindings} {i j : Nat} {locals : Bindings}

/-! ## Names -/

theorem Inside.lookup_target {x : String} {v : Value} (hm : Inside m b j [(x, v)]) :
    m.lookup x = some v := by
  obtain ⟨closure, hframes⟩ := hm.frames
  simp only [Machine.lookup, hframes, List.findSome?_cons, Machine.lookupIn, Bindings.get?, if_pos]

theorem Inside.lookup {x s : String} {v w : Value} (hm : Inside m b j [(x, w)]) (hsx : s ≠ x)
    (hloop : s ≠ "loop") (hs : b.get? s = some v) : m.lookup s = some v := by
  obtain ⟨closure, hframes⟩ := hm.frames
  simp only [Machine.lookup, hframes, List.findSome?_cons, Machine.lookupIn, Bindings.get?,
    if_neg hsx, if_neg hloop, Machine.lookupIn.onGround, groundFrame, hs]

theorem Inside.written (hm : Inside m b j locals) (bs : Buffers) (ts : List Text) :
    Inside { m with buffers := bs, written := ts } b j locals := ⟨hm.frames, hm.plain, hm.depth⟩

/-! ## Turns -/

theorem Inside.clearFrame (hm : Inside m b j locals) : ∃ m', clearFrame m = (.ok (), m') ∧
    Inside m' b j [] ∧ m'.buffers = m.buffers := by
  obtain ⟨closure, hframes⟩ := hm.frames
  have hclear : Run.clearFrame m = (.ok (), { m with
      frames := [{ locals := [], loop := some (j, true) }, groundFrame b] }) := by
    show (Except.ok (), _) = _
    simp only [hframes]
  exact ⟨_, hclear, ⟨⟨none, rfl⟩, hm.plain, hm.depth⟩, rfl⟩

/-- The target is given an item, which may be given identities first. -/
theorem Inside.store (hm : Inside m b j []) (x : String) {v : Value} (hv : IsData v) :
    ∃ m' w, store x v m = (.ok (), m') ∧ Inside m' b j [(x, w)] ∧ m'.buffers = m.buffers ∧
      IsData w ∧ w.display = v.display := by
  obtain ⟨closure, hframes⟩ := hm.frames
  obtain ⟨m', w, hidentified, hsame, hw, hdisplay⟩ : ∃ m' w, identified v m = (.ok w, m') ∧
      (m'.frames = m.frames ∧ m'.escapes = m.escapes ∧ m'.depth = m.depth ∧
        m'.buffers = m.buffers) ∧ IsData w ∧ w.display = v.display := by
    simp only [identified]
    split
    · exact ⟨_, _, rfl, ⟨rfl, rfl, rfl, rfl⟩, (hv.identify _).1, hv.display_identify _⟩
    · exact ⟨_, _, rfl, ⟨rfl, rfl, rfl, rfl⟩, hv, rfl⟩
  obtain ⟨hframes', hescapes, hdepth, hbuffers⟩ := hsame
  rw [Run.store, bind_ok hidentified, bind_ok (get_ok m')]
  rw [hframes] at hframes'
  simp only [hframes']
  exact ⟨_, w, rfl, ⟨⟨closure, rfl⟩, hescapes.trans hm.plain, hdepth.trans hm.depth⟩, hbuffers, hw,
    hdisplay⟩

/-- The texts of names in a turn. -/
def turnEnv (env : Text → Text) (x t : Text) : Text → Text := fun w => if w = x then t else env w

/-- What the body of a loop takes from outside of it. -/
structure Takes (b : Bindings) (i : Nat) (env : Text → Text) (x : Text) (ps : List Passed) :
    Prop where
  sink : b.HasSink i
  noSink : String.ofList x ≠ sinkName
  names : ∀ w, .name w ∈ ps → w ≠ x → String.ofList w ≠ "loop" ∧ b.Holds env w

variable {env : Text → Text} {x : Text} {ps : List Passed}

/-- In a turn the calls of the body find the item under the name of the target. -/
theorem Takes.knows (hps : Takes b i env x ps) {v : Value} (hv : IsData v)
    (hm : Inside m b j [(String.ofList x, v)]) :
    Sinks m i ∧ Knows m (turnEnv env x v.display) ps := by
  refine ⟨⟨hm.lookup hps.noSink.symm (by decide) hps.sink, hm.plain⟩, ?_⟩
  intro w hw
  by_cases hwx : w = x
  · subst hwx
    exact ⟨v, hm.lookup_target, hv, (if_pos rfl).symm⟩
  · obtain ⟨hloop, u, hu, hdata, hdisplay⟩ := hps.names w hw hwx
    have hne : String.ofList w ≠ String.ofList x := fun heq => hwx (String.ofList_injective heq)
    exact ⟨u, hm.lookup hne hloop hu, hdata, hdisplay.trans (if_neg hwx).symm⟩

theorem Takes.identify (hps : Takes b i env x ps) (n : Nat) :
    Takes (b.identify n).1 i env x ps := by
  refine ⟨hps.sink.identify n, hps.noSink, ?_⟩
  intro w hw hwx
  obtain ⟨hloop, hw⟩ := hps.names w hw hwx
  exact ⟨hloop, hw.identify n⟩

/-- The turns of a loop of calls, one after the other. The induction is on the
items; each turn leaves the machine in the body of the loop. -/
theorem turns_calls (h : Host) (re : Reentry) (hps : Takes b i env x ps) (l k : Nat)
    (vs : List Value) : ∀ {m : Machine} {locals : Bindings}, Inside m b j locals →
      (∀ v ∈ vs, IsData v) → ∃ m' locals',
        Call.turns j (Call.assign (expr h re) (.name (String.ofList x) l))
          (statements h re (callStatements k ps)) vs m = (.ok (), m') ∧
        Inside m' b j locals' ∧ m'.buffers = m.buffers.pushAll i
          (vs.flatMap fun v => ps.map (Passed.textIn (turnEnv env x v.display))) := by
  induction vs with
  | nil => intro m locals hm _; exact ⟨m, locals, rfl, hm, rfl⟩
  | cons v vs ih =>
    intro m locals hm hvs
    obtain ⟨hv, hvs⟩ := List.forall_mem_cons.mp hvs
    obtain ⟨m₁, hclear, hm₁, hbuffers₁⟩ := hm.clearFrame
    -- The loop takes note of its item, which nothing but `loop` shows.
    let m₂ : Machine := { m₁ with loops := m₁.loops.modify j fun l =>
      { l with past := l.current.toList ++ l.past, current := some v, future := vs } }
    have hm₂ : Inside m₂ b j [] := ⟨hm₁.frames, hm₁.plain, hm₁.depth⟩
    obtain ⟨m₃, w, hstore, hm₃, hbuffers₃, hw, hdisplay⟩ := hm₂.store (String.ofList x) hv
    obtain ⟨hsinks, hknows⟩ := hps.knows hw hm₃
    obtain ⟨ts, hbody⟩ := statements_calls h re ps k hsinks hknows
    obtain ⟨m', locals', hturns, hm', hbuffers'⟩ := ih (hm₃.written _ ts) hvs
    refine ⟨m', locals', ?_, hm', ?_⟩
    · have hnote : (modify fun m : Machine => { m with loops := m.loops.modify j fun l =>
          { l with past := l.current.toList ++ l.past, current := some v, future := vs } } :
            Run Unit) m₁ = (.ok (), m₂) := rfl
      have hassign : Call.assign (expr h re) (.name (String.ofList x) l) v m₂ = (.ok (), m₃) :=
        hstore
      rw [Call.turns, bind_ok (hv.valid m), bind_ok hclear, bind_ok hnote, bind_ok hassign,
        bind_ok hbody]
      exact hturns
    · rw [hbuffers', List.flatMap_cons, Buffers.pushAll_append, hbuffers₃, hdisplay]
      exact congrArg (fun bs : Buffers => (bs.pushAll i _).pushAll i _) hbuffers₁

/-! ## The loop -/

/-- A step in a frame of its own, where frames are not nested too deep. -/
theorem withFrame_ok {α : Type} {f : Frame} {r : Run α} {m' : Machine} {a : α}
    (hdepth : m.depth + m.frames.length ≤ depthLimit)
    (h : r { m with frames := f :: m.frames } = (.ok a, m')) :
    withFrame f r m = (.ok a, { m' with frames := m'.frames.drop 1 }) := by
  have hset : (set { m with frames := f :: m.frames } : Run Unit) m =
      (.ok (), { m with frames := f :: m.frames }) := rfl
  rw [withFrame, bind_ok (get_ok m)]
  simp only [if_neg (Nat.not_lt.mpr hdepth)]
  rw [bind_ok hset, bind_ok h]
  rfl

/-- A loop of calls runs in a frame of its own and leaves no frame behind. -/
theorem loop_calls (h : Host) (re : Reentry) (hm : Outside m b) (hps : Takes b i env x ps)
    (l k : Nat) {vs : List Value} (hvs : ∀ v ∈ vs, IsData v)
    (again : Option (Target × List Statement)) (sized : Bool) : ∃ m',
      Call.loop (Call.assign (expr h re) (.name (String.ofList x) l))
        (statements h re (callStatements k ps)) again vs sized m = (.ok (), m') ∧
      Outside m' b ∧ m'.buffers = m.buffers.pushAll i
        (vs.flatMap fun v => ps.map (Passed.textIn (turnEnv env x v.display))) := by
  -- The loop is noted with the depth at which it is called again, which shows nowhere.
  obtain ⟨depth, hstart⟩ : ∃ depth, Call.loop
      (Call.assign (expr h re) (.name (String.ofList x) l)) (statements h re (callStatements k ps))
      again vs sized m = withFrame { loop := some (m.loops.size, true) }
        (Call.turns m.loops.size (Call.assign (expr h re) (.name (String.ofList x) l))
          (statements h re (callStatements k ps)) vs)
        { m with loops := m.loops.push ⟨[], none, vs, sized, depth, none, again⟩ } := ⟨_, rfl⟩
  let m₁ : Machine := { m with loops := m.loops.push ⟨[], none, vs, sized, depth, none, again⟩ }
  have hinside : Inside { m₁ with frames := { loop := some (m.loops.size, true) } :: m₁.frames } b
      m.loops.size [] := by
    refine ⟨⟨none, ?_⟩, hm.plain, hm.depth⟩
    show _ :: m.frames = _
    rw [hm.frames]
  obtain ⟨m₂, locals, hturns, hm₂, hbuffers⟩ := turns_calls h re hps l k vs hinside hvs
  have hdepth : m₁.depth + m₁.frames.length ≤ depthLimit := by
    show m.depth + m.frames.length ≤ depthLimit
    rw [hm.depth, hm.frames]
    exact Nat.le_of_ble_eq_true rfl
  refine ⟨{ m₂ with frames := m₂.frames.drop 1 }, ?_, ⟨?_, hm₂.plain, hm₂.depth⟩, hbuffers⟩
  · rw [hstart]
    exact withFrame_ok hdepth hturns
  · obtain ⟨closure, hframes⟩ := hm₂.frames
    rw [hframes]
    rfl

/-- The statement that loops over a list of data. -/
theorem statement_loop_calls (h : Host) (re : Reentry) (hm : Outside m b)
    (hps : Takes b i env x ps) {xs : String} {vs : List Value} {id : Option Nat}
    (hxs : b.get? xs = some (.seq vs id)) (hvs : ∀ v ∈ vs, IsData v) (l k : Nat) : ∃ m',
      statement h re (.loop (.name (String.ofList x) l) (.name xs l) none false
        (callStatements k ps) [] l) m = (.ok (), m') ∧
      Outside m' b ∧ m'.buffers = m.buffers.pushAll i
        (vs.flatMap fun v => ps.map (Passed.textIn (turnEnv env x v.display))) := by
  have hitems : loopItems h re (.name (String.ofList x) l) (.name xs l) none l m =
      (.ok (vs, true), m) := by
    have hexpr : expr h re (.name xs l) m = (.ok (.seq vs id), m) := by
      rw [expr, bind_ok (get_ok m), hm.lookup hxs]
      rfl
    have hlist : Call.items (.seq vs id) m = (.ok (vs, true), m) := rfl
    rw [loopItems, bind_ok hexpr, bind_ok (at_of_ok hlist _)]
    rfl
  obtain ⟨m', hloop, hm', hbuffers⟩ := loop_calls h re hm hps l k hvs none true
  refine ⟨m', ?_, hm', hbuffers⟩
  rw [statement, bind_ok hitems]
  simp only [Bool.false_eq_true, if_false]
  rw [bind_ok (at_of_ok hloop _)]
  -- Without items nothing else runs.
  cases vs.isEmpty <;> rfl

end Evaluate

namespace Script

open Evaluate Run
open Lexer (Passed programOf)
open Grammar (AreLoopNames loopFragments callStatements)
open Value (IsData)

variable {b : Bindings} {i : Nat} {env : Text → Text} {x xs : Text}

/-- A program of calls with a loop over data succeeds; the buffer of the sink has
been given the texts of the calls before the loop, of those of its body for every
item in order, and of those behind it. -/
theorem evaluate_loop (h : Host) (hnames : AreLoopNames x xs) {lead body tail : List Passed}
    (hlead : ∀ p ∈ lead, p.IsFit) (hbody : ∀ p ∈ body, p.IsFit) (htail : ∀ p ∈ tail, p.IsFit)
    (hbefore : ∀ w, .name w ∈ lead → b.Holds env w) (hturn : Takes b i env x body)
    (hbehind : ∀ w, .name w ∈ tail → b.Holds env w) {items : List Value}
    (hxs : b.get? (String.ofList xs) = some (.ofItems items)) (hitems : ∀ v ∈ items, IsData v)
    (buffers : Buffers) :
    ∃ t, evaluate h (programOf (loopFragments x xs lead body tail)) b buffers =
      (.ok t, buffers.pushAll i (lead.map (Passed.textIn env) ++
        items.flatMap (fun v => body.map (Passed.textIn (turnEnv env x v.display))) ++
          tail.map (Passed.textIn env))) := by
  obtain ⟨l, k, n, hparse⟩ := parse_loop hnames hlead hbody htail
  let s : Script := ⟨callStatements 1 lead ++ .loop (.name (String.ofList x) l)
    (.name (String.ofList xs) l) none false (callStatements k body) [] l ::
      callStatements n tail, [], 0⟩
  let re := level h (Run.depthLimit + 1)
  have hturn := hturn.identify 0
  obtain ⟨id, hfound⟩ := Bindings.get?_identify hxs 0
  obtain ⟨items', hseq, hdata, hdisplays⟩ := Value.exists_identify_seq hitems id
  rw [hseq] at hfound
  -- The calls before the loop, the loop, and the calls behind it.
  obtain ⟨m₁, hcalls₁, hm₁, hbuffers₁⟩ := (outside_machine s b buffers).calls h re hturn.sink
    (fun w hw => (hbefore w hw).identify 0) 1
  obtain ⟨m₂, hloop, hm₂, hbuffers₂⟩ := statement_loop_calls h re hm₁ hturn hfound hdata l k
  obtain ⟨m₃, hcalls₃, -, hbuffers₃⟩ := hm₂.calls h re hturn.sink
    (fun w hw => (hbehind w hw).identify 0) n
  have hrun : statements h re s.body (s.machine b buffers) = (.ok (), m₃) := by
    rw [statements_append, bind_ok hcalls₁, statements, bind_ok hloop, hcalls₃]
  -- The items with identities have the texts of the items.
  have hitems' : (items'.flatMap fun v => body.map (Passed.textIn (turnEnv env x v.display))) =
      items.flatMap fun v => body.map (Passed.textIn (turnEnv env x v.display)) := by
    have hmap := congrArg
      (List.flatMap fun t => body.map (Passed.textIn (turnEnv env x t))) hdisplays
    rwa [List.flatMap_map, List.flatMap_map] at hmap
  refine ⟨m₃.written.reverse.flatten, ?_⟩
  rw [evaluate_of_statements hparse hrun, hbuffers₃, hbuffers₂, hbuffers₁, hitems',
    Buffers.pushAll_append, Buffers.pushAll_append]
  rfl

end Script

end ScriptedTemplate
