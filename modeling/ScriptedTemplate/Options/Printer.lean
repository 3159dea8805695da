import ScriptedTemplate.Options.Basic
import ScriptedTemplate.Yaml.Printer

/-
  Writing options

  All options are written, one entry each, in a fixed order.
-/

namespace ScriptedTemplate

namespace Options

def toYaml (o : Options) : Text :=
  let word (key : String) (t : Text) : Text := Yaml.Printer.entry key (Yaml.Printer.scalar t)
  word "code_begin" o.markers.codeBegin ++ word "code_end" o.markers.codeEnd
    ++ word "output_begin" o.markers.outputBegin ++ word "output_end" o.markers.outputEnd
    ++ Yaml.Printer.entry "trim_after_code" (toString o.trimAfterCode).toList
    ++ Yaml.Printer.entry "debug_len" (toString o.contextWidth).toList

end Options

end ScriptedTemplate
