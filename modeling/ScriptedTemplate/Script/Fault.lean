import ScriptedTemplate.Value.Basic
import ScriptedTemplate.Text.Quoted

/-
  Faults — why a program does not run

  A fault has a cause and, once it is known, the line of the program at which it
  arose. The first line attached stays: what calls a failing piece of program
  does not move the fault to the place of the call.
-/

namespace ScriptedTemplate

/-- Why a program text is not a program. -/
inductive GrammarFault where
  | strayCharacter
  | openString
  | openComment
  | openRaw
  | trailingUnderscore
  | badFloat
  | badInteger
  /-- This cannot stand here. -/
  | unexpected (found : String)
  /-- Something else must stand here. -/
  | expected (found wanted : String)
  | unknownStatement (name : String)
  | notStatement (found : String)
  /-- The name has a meaning of its own and cannot be assigned to. -/
  | reserved (name : String)
  | emptySubscript
  | lateArgument
  | tooManyArguments
  | notCall (found : String)
  | noFilter
  | blockInRoutine
  | requiredContent
  | blockTwice (name : String)
  | blockName (found wanted : String)
  | tooDeep
  deriving DecidableEq, Repr

namespace GrammarFault

def message : GrammarFault → String
  | strayCharacter => "unexpected character"
  | openString => "unexpected end of string"
  | openComment => "unexpected end of comment"
  | openRaw => "unexpected end of raw block"
  | trailingUnderscore => "'_' may not occur at end of number"
  | badFloat => "invalid float"
  | badInteger => "invalid integer (too large)"
  | unexpected found => "unexpected " ++ found
  | expected found wanted => "unexpected " ++ found ++ ", expected " ++ wanted
  | unknownStatement name => "unknown statement " ++ name
  | notStatement found => "unknown " ++ found ++ ", expected statement"
  | reserved name => "cannot assign to reserved variable name " ++ name
  | emptySubscript => "empty subscript"
  | lateArgument => "non-keyword arg after keyword arg"
  | tooManyArguments => "Too many arguments in function call"
  | notCall found => "expected call expression in call block, got " ++ found
  | noFilter => "expected a filter"
  | blockInRoutine => "block tags in macros are not allowed"
  | requiredContent => "Required blocks can only contain comments or whitespace"
  | blockTwice name => "block '" ++ name ++ "' defined twice"
  | blockName found wanted =>
    "mismatching name on block. Got `" ++ found ++ "`, expected `" ++ wanted ++ "`"
  | tooDeep => "template exceeds maximum recursion limits"

end GrammarFault

/-- Why a program, or a step of it, fails. -/
inductive Cause where
  | grammar (g : GrammarFault)
  | badEscape
  /-- Something was wanted of an undefined value. -/
  | undefinedValue
  /-- An undefined value was to be written out. -/
  | undefinedOutput
  | missingArgument
  | missingKeyword (name : String)
  | tooManyArguments
  | unknownKeyword (name : String)
  | strangeKeyword
  /-- Named arguments stand where a text must. -/
  | namedText
  | notKeywords (k : Kind)
  | strayKeyword (name : String)
  | repeatedArgument (name : String)
  | unknownFilter (name : String)
  | unknownMappedFilter
  | unknownTest (name : String)
  | unknownSelectedTest
  | unknownFunction (name : String)
  | unknownMethod (k : Kind) (name : String)
  | unknownBlock (name : String)
  | notUnpackable
  | wrongLength (wanted found : Nat)
  | templateNotIncluded (name : String)
  | templatesNotIncluded (names : String)
  | templateNotFound (name : String)
  | notTemplateName
  /-- The program itself asked to fail, with this message. -/
  | raised (message : String)
  /-- A value that could not be made is used. -/
  | invalidValue (reason : String)
  | requiredBlock (name : String)
  /-- The operation has no meaning for this value. -/
  | bare
  | notIterable (k : Kind)
  | notCallable (k : Kind)
  | notCallableObject
  | notConvertible (k : Kind) (target : String)
  | notString
  | notListable
  | unsupported (op : String) (a b : Kind)
  | incalculable (a op b : String)
  | notRepeatable
  | notRepeatableItems
  | notRepeatableStream
  | notContainer
  | overflow
  | notSliceable (k : Kind)
  | zeroStep
  | zeroRangeStep
  | rangeTooLong
  | zeroCount
  | noPairs
  | noPairList
  | noFirst
  | noLast
  | noLength (k : Kind)
  | notReversible (k : Kind)
  | notJoinable (k : Kind)
  | notSummable (k : Kind)
  | notRoundable (k : Kind)
  | notAbsolute
  | absoluteOverflow
  | notInteger (k : Kind)
  | notFloat (k : Kind)
  | badNumeral (message : String)
  | openFormat (offset : Nat)
  | badFormat (offset : Nat) (found wanted : String) (conversion : Char)
  | unknownFormat (offset : Nat) (conversion : Char)
  | missingFormat (offset : Nat)
  | mixedFormat
  | notZippable (k : Kind)
  | noFilterName
  | filterNameNotString
  | notSpace (k : Kind)
  | notAssignable (k : Kind)
  | loopArguments
  | outsideRecursion
  | recursionNotIterable
  | loopMoved
  | superArguments
  | outsideBlock
  | noParentBlock
  | recursionLimit
  | badEscaping
  deriving DecidableEq, Repr

namespace Cause

/-- The first half of a message, which says what sort of failure it is. -/
def sort : Cause → String
  | grammar _ => "syntax error"
  | badEscape => "bad string escape"
  | undefinedValue | undefinedOutput => "undefined value"
  | missingArgument | missingKeyword _ => "missing argument"
  | tooManyArguments | unknownKeyword _ | strayKeyword _ | repeatedArgument _ =>
    "too many arguments"
  | unknownFilter _ | unknownMappedFilter => "unknown filter"
  | unknownTest _ | unknownSelectedTest => "unknown test"
  | unknownFunction _ => "unknown function"
  | unknownMethod _ _ => "unknown method"
  | unknownBlock _ => "unknown block"
  | notUnpackable | wrongLength _ _ => "cannot unpack"
  | templateNotIncluded _ | templatesNotIncluded _ | templateNotFound _ => "template not found"
  | _ => "invalid operation"

def quote (s : String) : String := String.ofList (Text.quoted s.toList)

/-- The second half of a message, where there is one. -/
def detail : Cause → Option String
  | grammar g => some g.message
  | badEscape => none
  | undefinedValue => none
  | undefinedOutput => some "cannot output an undefined value"
  | missingArgument => none
  | missingKeyword name => some ("missing keyword argument '" ++ name ++ "'")
  | tooManyArguments => none
  | unknownKeyword name => some ("unknown keyword argument '" ++ name ++ "'")
  | strangeKeyword => some "non string keys passed to kwargs"
  | namedText => some "cannot convert kwargs to string"
  | notKeywords k =>
    some ("attempted to apply keyword arguments from non map (got " ++ k.name ++ ")")
  | strayKeyword name => some ("unknown keyword argument `" ++ name ++ "`")
  | repeatedArgument name => some ("duplicate argument `" ++ name ++ "`")
  | unknownFilter name => some ("filter " ++ name ++ " is unknown")
  | unknownMappedFilter => none
  | unknownTest name => some ("test " ++ name ++ " is unknown")
  | unknownSelectedTest => none
  | unknownFunction name => some (name ++ " is unknown")
  | unknownMethod k name => some (k.name ++ " has no method named " ++ name)
  | unknownBlock name => some ("block '" ++ name ++ "' not found")
  | notUnpackable => some "value is not iterable"
  | wrongLength wanted found =>
    some ("sequence of wrong length (expected " ++ toString wanted ++ ", got " ++ toString found
      ++ ")")
  | templateNotIncluded name =>
    some ("tried to include non-existing template " ++ quote name)
  | templatesNotIncluded names =>
    some ("tried to include one of multiple templates, none of which existed " ++ names)
  | templateNotFound name => some ("template " ++ quote name ++ " does not exist")
  | notTemplateName => some "template name was not a string"
  | raised message => some message
  | invalidValue reason => some reason
  | requiredBlock name => some ("Required block '" ++ name ++ "' not found")
  | bare => none
  | notIterable k => some (k.name ++ " is not iterable")
  | notCallableObject => some "object is not callable"
  | notCallable k => some ("value of type " ++ k.name ++ " is not callable")
  | notConvertible k target => some ("cannot convert " ++ k.name ++ " to " ++ target)
  | notString => some "value is not a string"
  | notListable => some "cannot convert value to list"
  | unsupported op a b =>
    some ("tried to use " ++ op ++ " operator on unsupported types " ++ a.name ++ " and " ++ b.name)
  | incalculable a op b => some ("unable to calculate " ++ a ++ " " ++ op ++ " " ++ b)
  | notRepeatable => some "strings can only be multiplied with integers"
  | notRepeatableItems => some "sequences and iterables can only be multiplied with integers"
  | notRepeatableStream => some "cannot repeat unsized iterables"
  | notContainer => some "cannot perform a containment check on this value"
  | overflow => some "overflow"
  | notSliceable k => some ("value of type " ++ k.name ++ " cannot be sliced")
  | zeroStep => some "cannot slice by step size of 0"
  | zeroRangeStep => some "cannot create range with step of 0"
  | rangeTooLong => some "range has too many elements"
  | zeroCount => some "count cannot be 0"
  | noPairs => some "cannot convert value into pairs"
  | noPairList => some "cannot convert value into pair list"
  | noFirst => some "cannot get first item from value"
  | noLast => some "cannot get last item from value"
  | noLength k => some ("cannot calculate length of value of type " ++ k.name)
  | notReversible k => some ("cannot reverse values of type " ++ k.name)
  | notJoinable k => some ("cannot join value of type " ++ k.name)
  | notSummable k => some ("can only sum numbers, got " ++ k.name)
  | notRoundable k => some ("cannot round value (" ++ k.name ++ ")")
  | notAbsolute => some "cannot get absolute value"
  | absoluteOverflow => some "overflow on abs"
  | notInteger k => some ("cannot convert " ++ k.name ++ " to integer")
  | notFloat k => some ("cannot convert " ++ k.name ++ " to float")
  | badNumeral message => some message
  | openFormat offset =>
    some ("incomplete format spec at offset " ++ toString offset ++ "; missing conversion type")
  | badFormat offset found wanted conversion =>
    some ("invalid format spec at offset " ++ toString offset ++ "; '" ++ found
      ++ "' cannot be formatted in " ++ wanted ++ " format ('" ++ conversion.toString ++ "')")
  | unknownFormat offset conversion =>
    some ("invalid format spec at offset " ++ toString offset ++ "; unknown conversion type '"
      ++ conversion.toString ++ "'")
  | missingFormat offset =>
    some ("missing an argument for format spec at offset '" ++ toString offset ++ "'")
  | mixedFormat => some "cannot format with positional and keyword arguments at the same time"
  | notZippable k => some ("zip filter argument must be iterable, got " ++ k.name)
  | noFilterName => some "filter name is required"
  | filterNameNotString => some "filter name must be a string"
  | notSpace k => some ("expected object or keyword arguments, got " ++ k.name)
  | notAssignable k => some ("can only assign to namespaces, not " ++ k.name)
  | loopArguments => some "loop() takes one argument"
  | outsideRecursion => some "cannot recurse outside of recursive loop"
  | recursionNotIterable => some "cannot recurse because of non-iterable value"
  | loopMoved => some "loop cannot be called if reassigned to different variable"
  | superArguments => some "super() takes no arguments"
  | outsideBlock => some "cannot super outside of block"
  | noParentBlock => some "no parent block exists"
  | recursionLimit => some "recursion limit exceeded"
  | badEscaping => some "invalid value to autoescape tag"

end Cause

/-- A failure: its cause, and the line at which it arose. -/
structure Fault where
  cause : Cause
  line : Option Nat
  deriving DecidableEq, Repr

namespace Fault

/-- A failure whose line is not known yet. -/
def of (c : Cause) : Fault := ⟨c, none⟩

/-- The failure with a line, unless it has one. -/
def atLine (n : Nat) (f : Fault) : Fault := ⟨f.cause, some (f.line.getD n)⟩

/-- The wording of a failure; the program has no name of its own. -/
def message (f : Fault) : String :=
  (match f.cause.detail with
    | some d => f.cause.sort ++ ": " ++ d
    | none => f.cause.sort)
  ++ (match f.line with
    | some n => " (in <string>:" ++ toString n ++ ")"
    | none => "")

end Fault

end ScriptedTemplate
