import ScriptedTemplate.Text.Basic

/-
  Markers — the four delimiters of a template

  A code region stands between `codeBegin` and `codeEnd`, an output region
  between `outputBegin` and `outputEnd`; what stands outside is text. A marker
  set gives each of the four its word. Which sets can be told apart in a text is
  decided by `Recognizer.build`.
-/

namespace ScriptedTemplate

/-- One of the four delimiters. -/
inductive Marker where
  | codeBegin
  | codeEnd
  | outputBegin
  | outputEnd
  deriving DecidableEq, Repr

namespace Marker

/-- The four markers in the order in which their words are entered. -/
def all : List Marker := [codeBegin, codeEnd, outputBegin, outputEnd]

def name : Marker → String
  | codeBegin => "codeBegin"
  | codeEnd => "codeEnd"
  | outputBegin => "outputBegin"
  | outputEnd => "outputEnd"

end Marker

/-- The words of the four markers. -/
structure MarkerSet where
  codeBegin : Text
  codeEnd : Text
  outputBegin : Text
  outputEnd : Text
  deriving DecidableEq, Repr

namespace MarkerSet

def word (ms : MarkerSet) : Marker → Text
  | .codeBegin => ms.codeBegin
  | .codeEnd => ms.codeEnd
  | .outputBegin => ms.outputBegin
  | .outputEnd => ms.outputEnd

/-- The words used when nothing else is asked for: `[! !]` around code and
`[> <]` around output. -/
def standard : MarkerSet where
  codeBegin := ['[', '!']
  codeEnd := ['!', ']']
  outputBegin := ['[', '>']
  outputEnd := ['<', ']']

/-- Every marker with its word, in the order of `Marker.all`. -/
def entries (ms : MarkerSet) : List (Marker × Text) :=
  Marker.all.map fun m => (m, ms.word m)

end MarkerSet

end ScriptedTemplate
