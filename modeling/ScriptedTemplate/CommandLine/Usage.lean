import ScriptedTemplate.Text.Basic

/-
  Usage — the parameters and switches of the command line

  A parameter takes a value: the template, which is given by its place, or one of
  the options. A switch takes none. Each is shown in messages by its long name.
-/

namespace ScriptedTemplate

namespace CommandLine

/-- What takes a value. -/
inductive Parameter where
  | template
  | data
  | output
  | config
  | codeBegin
  | codeEnd
  | outputBegin
  | outputEnd
  | contextWidth
  deriving DecidableEq, Repr

namespace Parameter

def display : Parameter → String
  | template => "<TEMPLATE>"
  | data => "--data <FILE>"
  | output => "--output <FILE>"
  | config => "--config <FILE>"
  | codeBegin => "--code-begin <CODE_BEGIN>"
  | codeEnd => "--code-end <CODE_END>"
  | outputBegin => "--output-begin <OUTPUT_BEGIN>"
  | outputEnd => "--output-end <OUTPUT_END>"
  | contextWidth => "--debug-len <N>"

/-- Whether the value of a parameter names a file. -/
def isFile : Parameter → Bool
  | template => true
  | data => true
  | output => true
  | config => true
  | _ => false

end Parameter

/-- What takes no value. -/
inductive Switch where
  | noTrim
  | emitProgram
  | verbose
  | help
  | version
  deriving DecidableEq, Repr

def Switch.display : Switch → String
  | noTrim => "--no-trim"
  | emitProgram => "--emit-program"
  | verbose => "--verbose..."
  | help => "--help"
  | version => "--version"

/-- What a name on the command line stands for. -/
inductive Meaning where
  | parameter (p : Parameter)
  | switch (s : Switch)
  deriving DecidableEq, Repr

/-- The meaning of a long name; markers can be named with an underscore too. -/
def long? : String → Option Meaning
  | "data" => some (.parameter .data)
  | "output" => some (.parameter .output)
  | "config" => some (.parameter .config)
  | "code-begin" => some (.parameter .codeBegin)
  | "code_begin" => some (.parameter .codeBegin)
  | "code-end" => some (.parameter .codeEnd)
  | "code_end" => some (.parameter .codeEnd)
  | "output-begin" => some (.parameter .outputBegin)
  | "output_begin" => some (.parameter .outputBegin)
  | "output-end" => some (.parameter .outputEnd)
  | "output_end" => some (.parameter .outputEnd)
  | "debug-len" => some (.parameter .contextWidth)
  | "no-trim" => some (.switch .noTrim)
  | "emit-program" => some (.switch .emitProgram)
  | "verbose" => some (.switch .verbose)
  | "help" => some (.switch .help)
  | "version" => some (.switch .version)
  | _ => none

def short? : Char → Option Meaning
  | 'd' => some (.parameter .data)
  | 'o' => some (.parameter .output)
  | 'v' => some (.switch .verbose)
  | 'h' => some (.switch .help)
  | 'V' => some (.switch .version)
  | _ => none

/-- Why a text is not a number of at most 64 bits. -/
inductive NumberFault where
  | empty
  | badDigit
  | tooLarge
  deriving DecidableEq, Repr

def NumberFault.message : NumberFault → String
  | empty => "cannot parse integer from empty string"
  | badDigit => "invalid digit found in string"
  | tooLarge => "number too large to fit in target type"

/-- Why a command line cannot be followed. -/
inductive UsageFault where
  | noTemplate
  | unexpected (argument : String)
  | repeated (shown : String)
  | noValue (p : Parameter)
  | superfluousValue (value : String) (s : Switch)
  | badValue (value : String) (p : Parameter) (f : NumberFault)
  deriving DecidableEq, Repr

namespace UsageFault

def message : UsageFault → String
  | noTemplate => "the following required arguments were not provided:\n  <TEMPLATE>"
  | unexpected argument => "unexpected argument '" ++ argument ++ "' found"
  | repeated shown => "the argument '" ++ shown ++ "' cannot be used multiple times"
  | noValue p => "a value is required for '" ++ p.display ++ "' but none was supplied"
  | superfluousValue value s =>
    "unexpected value '" ++ value ++ "' for '" ++ s.display ++ "' found; no more were expected"
  | badValue value p f =>
    "invalid value '" ++ value ++ "' for '" ++ p.display ++ "': " ++ f.message

end UsageFault

def usageLine : String := "Usage: stcg [OPTIONS] <TEMPLATE>"

/-- What is printed when a command line cannot be followed. -/
def UsageFault.report (f : UsageFault) : String :=
  "error: " ++ f.message ++ "\n\n" ++ usageLine ++ "\n\nFor more information, try '--help'.\n"

/-- What is printed when help is asked for. -/
def helpText : String :=
  "Scripted Template Content Generator\n\n" ++ usageLine ++ "\n\n" ++
  "Arguments:\n" ++
  "  <TEMPLATE>  Template file\n\n" ++
  "Options:\n" ++
  "  -d, --data <FILE>                  Data model file (JSON, or YAML for other extensions)\n" ++
  "  -o, --output <FILE>                Output file (default: stdout)\n" ++
  "      --config <FILE>                YAML file with compile options; flags below " ++
  "override it\n" ++
  "      --code-begin <CODE_BEGIN>      Code begin block marker\n" ++
  "      --code-end <CODE_END>          Code end block marker\n" ++
  "      --output-begin <OUTPUT_BEGIN>  Output begin block marker\n" ++
  "      --output-end <OUTPUT_END>      Output end block marker\n" ++
  "      --no-trim                      Keep the text right after code blocks untouched\n" ++
  "      --debug-len <N>                Characters of context shown around syntax errors\n" ++
  "      --emit-program                 Print the compiled program instead of running it\n" ++
  "  -v, --verbose...                   Verbosity level (-v, -vv, -vvv)\n" ++
  "  -h, --help                         Print help\n" ++
  "  -V, --version                      Print version\n"

/-- What is printed when the version is asked for. -/
def versionText : String := "stcg 1.1.0\n"

end CommandLine

end ScriptedTemplate
