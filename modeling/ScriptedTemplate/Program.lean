import ScriptedTemplate.Slice.Basic

/-
  Programs — slices assembled into program text

  A program is the text of its fragments, one after the other. A text slice
  directly after a code slice first loses its indentation and line end, when
  that is asked for; what is then not valid is left out.
-/

namespace ScriptedTemplate

/-- The program of a template: its text and the number of its fragments. -/
structure Program where
  source : Text
  fragments : Nat
  deriving DecidableEq, Repr

namespace Program

def isEmpty (p : Program) : Bool := p.fragments == 0

/-- The slices that become fragments, each as it is emitted; `afterCode` says
whether the slice before was code. -/
def emitted (trim afterCode : Bool) : List Slice → List Slice
  | [] => []
  | s :: rest =>
    let kept := if afterCode && trim then s.trimLeading else s
    if kept.isValid then kept :: emitted trim s.isCode rest else emitted trim s.isCode rest

/-- The program made of some slices as they are. -/
def ofFragments (ss : List Slice) : Program := ⟨ss.flatMap Slice.render, ss.length⟩

/-- The program of the slices of a template. -/
def assemble (slices : List Slice) (trim : Bool) : Program :=
  ofFragments (emitted trim false slices)

end Program

end ScriptedTemplate
