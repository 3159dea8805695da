import ScriptedTemplate.Script.Format
import ScriptedTemplate.Script.Host
import ScriptedTemplate.Script.Test
import ScriptedTemplate.Script.Literal

/-
  Filters — what can be made of a value

  A filter takes the value first and then its own arguments. A filter that wants
  items walks through the value; an undefined value has none, and asking for
  them is a failure. Some filters of texts answer a safe text for a safe one.
-/

namespace ScriptedTemplate

namespace Filter

open Arguments

/-- The items of a value, which must not be undefined. -/
def items (v : Value) : Except Cause (List Value) :=
  match v with
  | .undefined false => .error .undefinedValue
  | v => Operation.walk v

/-- The items of a value that is to become a list. -/
def listed (v : Value) : Except Cause (List Value) :=
  match items v with
  | .ok vs => .ok vs
  | .error _ => .error .notListable

/-- The item of a value under a key; an undefined value has none to ask for. -/
def itemOf (v key : Value) : Except Cause Value :=
  match v with
  | .undefined _ => .error .undefinedValue
  | v => .ok ((Operation.item? v key).getD (.undefined false))

/-- The member of a value; an undefined value has none to ask for. -/
def memberOf (v : Value) (s : String) : Except Cause Value :=
  match v with
  | .undefined _ => .error .undefinedValue
  | v => .ok ((Operation.member? v s).getD (.undefined false))

/-- One step of a path: a number is a place, anything else a member. -/
def stepOf (v : Value) (part : Text) : Except Cause Value :=
  let digits := match part with | '+' :: rest => rest | p => p
  if digits != [] && digits.all Char.isDigit then
    itemOf v (.int (digits.foldl (fun n c => n * 10 + (c.toNat - '0'.toNat)) 0))
  else memberOf v (String.ofList part)

/-- What a path with points leads to. -/
def pathOf (v : Value) (path : String) : Except Cause Value :=
  (Text.pieces ['.'] none path.toList).foldlM stepOf v

/-- What a path leads to, or a default where it leads nowhere. -/
def pathOr (v : Value) (path : String) (fallback : Value) : Value :=
  match pathOf v path with
  | .ok w => if w.isUndefined then fallback else w
  | .error _ => fallback

/-- A text as it is compared when case does not count. -/
def foldCase (s : String) : String := String.ofList (s.toList.map Char.toLower)

/-- The order of values, texts without regard to case unless it counts. -/
def orderFolded (caseCounts : Bool) (a b : Value) : Ordering :=
  match a, b with
  | .string s _, .string t _ => if caseCounts then a.order b else compare (foldCase s) (foldCase t)
  | a, b => a.order b

/-- The order of lists of keys: by the first that differ. A key that is missing
differs from none. -/
def orderKeys (caseCounts : Bool) : List (Option Value) → List (Option Value) → Ordering
  | some a :: as, some b :: bs => (orderFolded caseCounts a b).then (orderKeys caseCounts as bs)
  | _ :: as, _ :: bs => orderKeys caseCounts as bs
  | _, _ => .eq

/-- The values sorted by the keys that `keys` makes of them, or turned round;
equal ones keep their order. -/
def sortedBy {α : Type} (caseCounts turned : Bool) (keys : α → List (Option Value)) (xs : List α) :
    List α :=
  xs.mergeSort fun a b =>
    if turned then orderKeys caseCounts (keys a) (keys b) != .lt
    else orderKeys caseCounts (keys a) (keys b) != .gt

/-- Groups of `count` values, the last one filled up. -/
def batches (count : Nat) (fill : Option Value) : Nat → List Value → List Value
  | 0, _ => []
  | fuel + 1, vs =>
    if vs.isEmpty then []
    else
      let group := vs.take count
      let group :=
        match fill with
        | some f => group ++ List.replicate (count - group.length) f
        | none => group
      .ofItems group :: batches count fill fuel (vs.drop count)

/-- `count` groups of values of nearly equal size. -/
def columns (count : Nat) (fill : Option Value) (vs : List Value) : List Value :=
  let size := vs.length / count
  let extra := vs.length % count
  (List.range count).map fun i =>
    let start := i * size + min i extra
    let group := (vs.drop start).take (size + if i < extra then 1 else 0)
    match fill with
    | some f => .ofItems (if extra ≤ i then group ++ [f] else group)
    | none => .ofItems group

/-- The sum of numbers; undefined values do not count. -/
def sum : List Value → Value → Except Cause Value
  | [], acc => .ok acc
  | v :: vs, acc =>
    if v.isUndefined then sum vs acc
    else if v.kind != .number then .error (.notSummable v.kind)
    else
      match Operation.plus acc v with
      | .ok acc => sum vs acc
      | .error e => .error e

/-- The values whose key has not been seen before. -/
def distinct (key : Value → Value) : List Value → List Value → List Value
  | _, [] => []
  | seen, v :: vs =>
    if seen.any fun w => w.order (key v) == .eq then distinct key seen vs
    else v :: distinct key (key v :: seen) vs

/-- Values in groups of equal keys; equal ones stand next to each other. -/
def grouped (caseCounts : Bool) (key : Value → Value) : List Value → List (Value × List Value)
  | [] => []
  | v :: vs =>
    match grouped caseCounts key vs with
    | [] => [(key v, [v])]
    | (k, ws) :: rest =>
      if orderFolded caseCounts (key v) k == .eq then (k, v :: ws) :: rest
      else (key v, [v]) :: (k, ws) :: rest

/-- Lists of first items, of second items, and so on, as long as all have
one. -/
def zipped : Nat → List (List Value) → List Value
  | 0, _ => []
  | fuel + 1, lists =>
    if lists.any List.isEmpty then []
    else .ofItems (lists.filterMap List.head?) :: zipped fuel (lists.map List.tail)

/-- The items of a value that is walked through next to others. -/
def zippable (v : Value) : Except Cause (List Value) :=
  match Operation.walk v with
  | .ok vs => .ok vs
  | .error _ => .error (.notZippable v.kind)

/-- The items of a value among others; of a value without items, one that could
not be made. -/
def chained (v : Value) : List Value :=
  match Operation.walk v with
  | .ok vs => vs
  | .error c => [.invalid (c.detail.getD "")]

/-- The entries of maps, one after the other: of equal keys the last counts, as
long as it has a value. -/
def merged (es : List (Value × Value)) : List (Value × Value) :=
  es.foldl (fun acc e =>
    if e.2.isUndefined && (Value.entry? e.1 acc).isSome then acc
    else Value.insertEntry e.1 e.2 acc) []

/-- The whole number that a text spells, a sign before the digits or not. -/
def wholeOf? (t : Text) : Option Int :=
  let (negative, digits) :=
    match t with
    | '-' :: rest => (true, rest)
    | '+' :: rest => (false, rest)
    | t => (false, t)
  if digits.isEmpty || !digits.all Char.isDigit then none
  else
    let n : Int := digits.foldl (fun n c => n * 10 + (c.toNat - '0'.toNat)) 0
    let n := if negative then -n else n
    if Operation.fits n then some n else none

/-- The double that a text spells, infinities and what is no number included. -/
def doubleOf? (t : Text) : Option Float :=
  let (negative, word) :=
    match t with
    | '-' :: rest => (true, rest)
    | '+' :: rest => (false, rest)
    | t => (false, t)
  let lower := String.ofList (word.map Char.toLower)
  if lower = "inf" || lower = "infinity" then some (if negative then -1.0 / 0.0 else 1.0 / 0.0)
  else if lower = "nan" then some Binary.nan
  else Decimal.float? t

/-- Why a text spells no double. -/
def numeralFault (t : Text) : Cause :=
  .badNumeral
    (if t.isEmpty then "cannot parse float from empty string" else "invalid float literal")

/-- The whole number that a value converts to. -/
def toWhole : Value → Except Cause Value
  | .undefined silent => if silent then .ok (.int 0) else .error .undefinedValue
  | .invalid reason => .error (.invalidValue reason)
  | .none => .ok (.int 0)
  | .bool b => .ok (.int b.toNat)
  | .int n => .ok (.int n)
  | .float x => .ok (.int (Binary.toWhole Operation.least Operation.greatest x))
  | .string s _ =>
    match wholeOf? s.toList with
    | some n => .ok (.int n)
    | none =>
      match doubleOf? s.toList with
      | some x => .ok (.int (Binary.toWhole Operation.least Operation.greatest x))
      | none => .error (numeralFault s.toList)
  | v => .error (.notInteger v.kind)

def toDouble : Value → Except Cause Value
  | .undefined silent => if silent then .ok (.float 0.0) else .error .undefinedValue
  | .invalid reason => .error (.invalidValue reason)
  | .none => .ok (.float 0.0)
  | .bool b => .ok (.float (if b then 1.0 else 0.0))
  | .int n => .ok (.float (Value.floatOf n))
  | .float x => .ok (.float x)
  | .string s _ =>
    match doubleOf? s.toList with
    | some x => .ok (.float x)
    | none => .error (numeralFault s.toList)
  | v => .error (.notFloat v.kind)

def reversed (v : Value) : Except Cause Value :=
  match v with
  | .undefined _ => .ok v
  | .none => .ok v
  | .string s safe => .ok (.string (String.ofList s.toList.reverse) safe)
  | .bytes bs => .ok (.bytes bs.reverse)
  | v =>
    match Operation.contents? v with
    | some vs => .ok (.ofStream vs.reverse)
    | none => .error (.notReversible v.kind)

/-- The value with its text escaped for HTML. -/
def escape (v : Value) : Value :=
  match v with
  | .string _ true => v
  | .string s false => .string (String.ofList (Text.escaped s.toList)) true
  | .undefined _ => .string "" true
  | .none => .string v.displayString true
  | .bool _ => .string v.displayString true
  | .int _ => .string v.displayString true
  | .float _ => .string v.displayString true
  | v => .string (String.ofList (Text.escaped v.display)) true

mutual

/-- The text of a value, every item on a line of its own; `depth` is how far
lines are indented. -/
def spread (depth : Nat) : Value → Text
  | .seq [] _ => "[]".toList
  | .iterator [] true _ => "[]".toList
  | .map [] _ _ => "\x7b\x7d".toList
  | .map _ (.loop _ done turns) _ => Value.loopText done turns
  | .seq vs _ => "[\n".toList ++ spreadItems (depth + 1) vs ++ margin depth ++ [']']
  | .iterator vs true _ => "[\n".toList ++ spreadItems (depth + 1) vs ++ margin depth ++ [']']
  | .group k vs _ =>
    "[\n".toList ++ margin (depth + 1) ++ spread (depth + 1) k ++ ",\n".toList
      ++ margin (depth + 1) ++ "[\n".toList ++ spreadItems (depth + 2) vs ++ margin (depth + 1)
      ++ "],\n".toList ++ margin depth ++ [']']
  | .map es _ _ => "\x7b\n".toList ++ spreadEntries (depth + 1) es ++ margin depth ++ ['}']
  | v => v.inner
termination_by structural v => v

/-- The texts of items, each on a line of its own. -/
def spreadItems (depth : Nat) : List Value → Text
  | [] => []
  | v :: vs => margin depth ++ spread depth v ++ ",\n".toList ++ spreadItems depth vs
termination_by structural vs => vs

/-- The texts of entries, each on a line of its own. -/
def spreadEntries (depth : Nat) : List (Value × Value) → Text
  | [] => []
  | e :: es => margin depth ++ spreadEntry depth e ++ ",\n".toList ++ spreadEntries depth es
termination_by structural es => es

def spreadEntry (depth : Nat) : Value × Value → Text
  | (k, v) => k.inner ++ ": ".toList ++ spread depth v
termination_by structural e => e

/-- The blanks before a line. -/
def margin (depth : Nat) : Text := List.replicate (4 * depth) ' '

end

/-- Whether a value counts as true; nothing can be said of an undefined one. -/
def truth (v : Value) : Except Cause Bool :=
  match v with
  | .undefined false => .error .undefinedValue
  | v => .ok v.isTrue

def ofText (f : Text → Text) : Taking Value := do return .ofText (f (← text).toList)

/-- The next argument as a text, and whether it is safe. -/
def markedText : Taking (Text × Bool) := do
  let v ← value
  let t ← asText v
  match v with
  | .string _ safe => return (t.toList, safe)
  | _ => return (t.toList, false)

def marked (t : Text) (safe : Bool) : Value := .string (String.ofList t) safe

/-- A filter of a text that keeps a safe one safe. -/
def ofMarked (f : Text → Text) : Taking Value := do
  let (t, safe) ← markedText
  return marked (f t) safe

/-- A text as it stands among safe texts. -/
def escapedUnless (safe : Bool) (t : Text) : Text := if safe then t else Text.escaped t

/-- The filter `replace`. Where text is escaped and one of the texts is safe, all
of them are made safe. -/
def replacing (escapes : Bool) : Taking Value := do
  let (t, isSafe) ← markedText
  let (old, oldSafe) ← markedText
  let (new, newSafe) ← markedText
  if escapes && (isSafe || oldSafe || newSafe) then
    return marked (Text.replaced old (escapedUnless newSafe new) (escapedUnless isSafe t)) true
  else return marked (Text.replaced old new t) false

/-- The filter `format`. In a safe pattern the arguments are made safe. -/
def formatting : Taking Value := do
  let (pattern, safe) ← markedText
  let (plain, named) := partition (← rest)
  if !plain.isEmpty && !named.entries.isEmpty then throw .mixedFormat
  let shown (v : Value) : Text :=
    match v with
    | .string s isSafe => escapedUnless (isSafe || !safe) s.toList
    | v => escapedUnless (!safe) v.display
  return marked (← all (Format.fill pattern named shown) plain) safe

/-- How far lines are indented if nothing is said about it. -/
def indentWidth : Nat := 4

/-- A filter that takes nothing but the value. -/
def strict (f : Value → Except Cause Value) : Taking Value := do
  let v ← value
  done
  f v

/-- A filter that keeps the items for which a test holds, or fails to hold; the
test may be asked of what a path leads to. -/
def selecting (isHostFilter : String → Bool) (keep : Bool) (byPath : Bool) : Taking Value := do
  let v ← value
  let path? ← if byPath then some <$> text else pure none
  let name? ← text?
  let extra ← rest
  let test? ←
    match name? with
    | none => pure none
    | some s =>
      match Test.find? isHostFilter s with
      | some t => pure (some t)
      | none => throw .unknownSelectedTest
  let vs ← items v
  let kept ← vs.filterM fun v => do
    let subject ← match path? with
      | some p => pathOf v p
      | none => pure v
    let holds ← match test? with
      | some t => t (subject :: extra)
      | none => pure subject.isTrue
    return holds == keep
  return .ofItems kept

/-- A filter that takes a member of every item, or puts every item through
another filter. -/
def mapping (filter? : String → Option Callable) : Taking Value := do
  let v ← value
  let (plain, byName) := partition (← rest)
  match ← byName.taken? "attribute" Except.ok with
  | some path =>
    if !plain.isEmpty then throw .tooManyArguments
    let fallback := (byName.get? "default").getD (.undefined false)
    let vs ← items v
    let found ← vs.mapM fun v => do
      let outcome :=
        match path with
        | .string s _ => pathOf v s
        | key => itemOf v key
      match outcome with
      | .ok w => return if w.isUndefined then fallback else w
      | .error e => if fallback.isUndefined then throw e else return fallback
    byName.only ["attribute", "default"]
    return .ofItems found
  | none =>
    match plain with
    | [] => throw .noFilterName
    | name :: extra =>
      match name with
      | .string s _ =>
        match filter? s with
        | none => throw .unknownMappedFilter
        | some f =>
          let vs ← items v
          return .ofItems (← vs.mapM fun v => f (v :: extra))
      | _ => throw .filterNameNotString

/-- The arguments that sorting filters share: whether case counts, and whether
the order is turned round. -/
def sortingOf (n : Named) : Except Cause (Bool × Bool) := do
  let caseCounts ← n.taken? "case_sensitive" asFlag
  let turned ← n.taken? "reverse" asFlag
  return (caseCounts.getD false, turned.getD false)

/-- The filters that need no other filter; `escapes` says whether text is escaped
for HTML. -/
def plain? (escapes : Bool) : String → Option (Taking Value)
  | "safe" => some do return .string (← text) true
  | "escape" | "e" => some do return escape (← value)
  | "lower" => some (ofMarked Text.toLower)
  | "upper" => some (ofMarked Text.toUpper)
  | "title" => some (ofText Text.title)
  | "capitalize" => some (ofText Text.capitalize)
  | "replace" => some (replacing escapes)
  | "format" => some formatting
  | "length" | "count" => some do
    let v ← value
    done
    match Operation.length? v with
    | some n => return .ofNat n
    | none => throw (.noLength v.kind)
  | "dictsort" => some do
    let v ← value
    let n ← named
    match v with
    | .map entries _ _ =>
      let byValue := (← n.taken? "by" asString) == some "value"
      let (caseCounts, turned) ← sortingOf n
      n.only ["by", "case_sensitive", "reverse"]
      let key (e : Value × Value) : Value := if byValue then e.2 else e.1
      let sorted := sortedBy caseCounts turned (fun e => [some (key e)]) entries
      return .ofItems (sorted.map fun e => .ofItems [e.1, e.2])
    | _ => throw .noPairList
  | "items" => some do
    let v ← value
    done
    match v with
    | .map entries _ _ => return .ofStream (entries.map fun e => .ofItems [e.1, e.2])
    | _ => throw .noPairs
  | "reverse" => some (strict reversed)
  | "trim" => some do
    let (t, safe) ← markedText
    match ← text? with
    | some chars => return marked (Text.trimOf chars.toList t) safe
    | none => return marked (Text.trim t) safe
  | "join" => some do
    let v ← value
    let sep ← text?
    done
    if isAbsent v then return .string "" false
    match Operation.walk v with
    | .ok vs => return .ofText (Text.joined (sep.getD "").toList (vs.map Value.display))
    | .error _ => throw (.notJoinable v.kind)
  | "split" => some do
    let t ← taken asString
    let sep ← taken? asString
    let most ← taken? asInteger
    let most : Option Nat := most.bind fun n => if n < 0 then none else some (n.toNat + 1)
    let parts :=
      match sep, most with
      | some sep, most => Text.pieces sep.toList most t.toList
      | none, none => Text.words t.toList
      | none, some n => Text.someWords n t.toList
    return .ofItems (parts.map Value.ofText)
  | "lines" => some do return .ofItems ((Text.lines (← taken asString).toList).map Value.ofText)
  | "default" | "d" => some do
    let v ← value
    let other := (← next?).getD (.string "" false)
    let lax ← truth ((← next?).getD (.bool false))
    return if v.isUndefined || (lax && !v.isTrue) then other else v
  | "round" => some do
    let v ← value
    let places ← taken? asShort
    done
    match v with
    | .int n => return .int n
    | .float x => return .float (Binary.roundTo (places.getD 0) x)
    | v => throw (.notRoundable v.kind)
  | "abs" => some (strict fun
    | .int n => if n = Operation.least then .error .absoluteOverflow else .ok (.int n.natAbs)
    | .float x => .ok (.float x.abs)
    | _ => .error .notAbsolute)
  | "int" => some (strict toWhole)
  | "float" => some (strict toDouble)
  | "attr" => some do
    let v ← value
    let key ← value
    done
    itemOf v key
  | "first" => some do
    let v ← value
    done
    match v with
    | .string s _ => return (s.toList.head?.map fun c => .ofText [c]).getD (.undefined false)
    | v =>
      match Operation.contents? v with
      | some vs => return vs.head?.getD (.undefined false)
      | none => throw .noFirst
  | "last" => some do
    let v ← value
    done
    match v with
    | .string s _ => return (s.toList.getLast?.map fun c => .ofText [c]).getD (.undefined false)
    | v =>
      match v.items? with
      | some vs => return vs.getLast?.getD (.undefined false)
      | none => throw .noLast
  | "min" => some do
    let v ← value
    done
    let vs ← listed v
    match vs with
    | [] => return .undefined false
    | v :: rest => return rest.foldl (fun m v => if v.order m == .lt then v else m) v
  | "max" => some do
    let v ← value
    done
    let vs ← listed v
    match vs with
    | [] => return .undefined false
    | v :: rest => return rest.foldl (fun m v => if v.order m == .lt then m else v) v
  | "sort" => some do
    let v ← value
    let n ← named
    let vs ← listed v
    let path? ← n.taken? "attribute" asString
    let (caseCounts, turned) ← sortingOf n
    n.only ["attribute", "case_sensitive", "reverse"]
    let keys (v : Value) : List (Option Value) :=
      match path? with
      | some p => (Text.pieces [','] none p.toList).map fun p =>
        (pathOf v (String.ofList p)).toOption
      | none => [some v]
    return .ofItems (sortedBy caseCounts turned keys vs)
  | "list" => some (strict fun v => (listed v).map .ofItems)
  | "string" => some do
    match ← value with
    | .string s safe => return .string s safe
    | v => return .string v.displayString false
  | "bool" => some do return .bool (← truth (← value))
  | "batch" => some do
    let v ← value
    let count ← taken asSize
    let fill ← value?
    done
    if count = 0 then throw .zeroCount
    let vs ← items v
    return .ofItems (batches count fill (vs.length + 1) vs)
  | "slice" => some do
    let v ← value
    let count ← taken asSize
    let fill ← value?
    done
    if count = 0 then throw .zeroCount
    return .ofItems (columns count fill (← items v))
  | "sum" => some (strict fun v => do sum (← items v) (.int 0))
  | "indent" => some do
    let t ← text
    let (plain, n) := partition (← rest)
    let width ← n.either plain 0 "width" asSize
    let first ← n.either plain 1 "first" asFlag
    let blank ← n.either plain 2 "blank" asFlag
    if 3 < plain.length then throw .tooManyArguments
    n.only (Named.unplaced plain ["width", "first", "blank"])
    return .ofText
      (Text.indent (width.getD indentWidth) (first.getD false) (blank.getD false) t.toList)
  | "groupby" => some do
    let v ← value
    let (plain, n) := partition (← rest)
    if 1 < plain.length then throw .tooManyArguments
    let fallback := ((n.get? "default").getD (.undefined false))
    let caseCounts := (← n.taken? "case_sensitive" asFlag).getD false
    let path ← match plain.find? (!isAbsent ·) with
      | some p => asString p
      | none =>
        match n.get? "attribute" with
        | some p => asString p
        | none => throw (.missingKeyword "attribute")
    let vs ← Operation.walk v
    n.only (["default", "case_sensitive"] ++ Named.unplaced plain ["attribute"])
    let key (v : Value) : Value := pathOr v path fallback
    let groups := grouped caseCounts key (sortedBy caseCounts false (fun v => [some (key v)]) vs)
    return .ofItems (groups.map fun g => .group ((g.2.getLast?.map key).getD g.1) g.2 none)
  | "unique" => some do
    let v ← value
    let n ← named
    let path? ← n.taken? "attribute" asString
    let caseCounts := (← n.taken? "case_sensitive" asFlag).getD false
    n.only ["attribute", "case_sensitive"]
    let key (v : Value) : Value :=
      let k :=
        match path? with
        | some p => pathOr v p (.undefined false)
        | none => v
      match k with
      | .string s _ => if caseCounts then k else .ofText (Text.toLower s.toList)
      | k => k
    return .ofItems (distinct key [] (← items v))
  | "chain" => some do
    let v ← value
    let vs := v :: (← rest)
    if vs.all fun v => v.kind == .map then
      let entries := vs.flatMap fun
        | .map es _ _ => es
        | _ => []
      return .ofMap (merged entries)
    else
      let all := vs.flatMap chained
      return if vs.all fun v => v.kind == .sequence then .ofItems all else .iterator all false none
  | "zip" => some do
    let v ← value
    let vs := v :: (← rest)
    let lists ← vs.mapM fun v => zippable v
    let items := zipped ((lists.head?.map List.length).getD 0 + 1) lists
    return .iterator items (vs.all fun v => (Operation.length? v).isSome) none
  | "pprint" => some do return .ofText (spread 0 (← value))
  | _ => none

/-- The filter of a name. A filter that applies others takes their arguments
from its own, and one of those is a name, so there are no more filters inside
each other than arguments. -/
def find? (host : Host) (escapes : Bool) : Nat → String → Option Callable
  | 0, _ => none
  | fuel + 1, s =>
    match host.filter? s with
    | some f => some f
    | none =>
      let isHostFilter (s : String) : Bool := (host.filter? s).isSome
      match s with
      | "select" => some (all (selecting isHostFilter true false))
      | "reject" => some (all (selecting isHostFilter false false))
      | "selectattr" => some (all (selecting isHostFilter true true))
      | "rejectattr" => some (all (selecting isHostFilter false true))
      | "map" => some (all (mapping fun s => find? host escapes fuel s))
      | s => (plain? escapes s).map all

end Filter

end ScriptedTemplate
