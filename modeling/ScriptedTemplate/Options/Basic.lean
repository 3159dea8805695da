import ScriptedTemplate.Marker.Basic

/-
  Options — how a template is to be compiled

  The options are the four markers, whether a text loses its indentation and
  line end after code, and how many characters of context an error shows on each
  side of a marker. Without context an error would say nothing, so a width of
  zero is refused.

  Settings ask for some of the options and leave the others open. They are laid
  over each other, and what is still open in the end is taken from the standard.
-/

namespace ScriptedTemplate

/-- The options of a compilation; each has a value for when nothing is asked. -/
structure Options where
  markers : MarkerSet := .standard
  trimAfterCode : Bool := true
  contextWidth : Nat := 6
  deriving DecidableEq, Repr

namespace Options

def standard : Options where

/-- Whether the options can be used, the markers apart. -/
def isUsable (o : Options) : Bool := 1 ≤ o.contextWidth

end Options

/-- The options that are asked for; the others are left open. -/
structure Settings where
  codeBegin : Option Text := none
  codeEnd : Option Text := none
  outputBegin : Option Text := none
  outputEnd : Option Text := none
  trimAfterCode : Option Bool := none
  contextWidth : Option Nat := none
  deriving DecidableEq, Repr

namespace Settings

def nothing : Settings where

/-- Settings laid over others: what the upper ones leave open the lower ones
decide. -/
def above (s lower : Settings) : Settings where
  codeBegin := s.codeBegin.or lower.codeBegin
  codeEnd := s.codeEnd.or lower.codeEnd
  outputBegin := s.outputBegin.or lower.outputBegin
  outputEnd := s.outputEnd.or lower.outputEnd
  trimAfterCode := s.trimAfterCode.or lower.trimAfterCode
  contextWidth := s.contextWidth.or lower.contextWidth

def options (s : Settings) : Options where
  markers :=
    { codeBegin := s.codeBegin.getD MarkerSet.standard.codeBegin
      codeEnd := s.codeEnd.getD MarkerSet.standard.codeEnd
      outputBegin := s.outputBegin.getD MarkerSet.standard.outputBegin
      outputEnd := s.outputEnd.getD MarkerSet.standard.outputEnd }
  trimAfterCode := s.trimAfterCode.getD Options.standard.trimAfterCode
  contextWidth := s.contextWidth.getD Options.standard.contextWidth

end Settings

end ScriptedTemplate
