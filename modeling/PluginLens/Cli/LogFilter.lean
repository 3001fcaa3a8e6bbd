import PluginLens.Report.Basic

/-!
# Which log lines are written

A log filter is a comma-separated list of directives. A directive is a level on its own
(`info`, `DEBUG`, a rank such as `3` or `+04`), or a target with an optional `=level` (a
target alone enables every level), optionally with a bracketed span part `[name{fields}]`.
A target runs up to `=` or `[` and may hold any character after its first one, which must be
a letter, a digit, `-`, `:` or `_`. A filter that does not read this way is refused as a
whole; an empty one enables nothing.

For an event of some target, the most specific directive that applies decides: the one with
the longest target that is a prefix of the event's target, a level alone applying to every
target. Of two directives with the same target the later one counts. Directives that name a
span (even an empty one, `[]`), or that match field values, only apply inside spans; the
events written here are not inside one, so those directives never enable them.
-/

namespace PluginLens.Cli

/-- How much a directive lets through, from nothing to everything. -/
inductive LevelFilter where
  | off
  | error
  | warn
  | info
  | debug
  | trace
  deriving DecidableEq, Inhabited, Repr

/-- The rank of a level filter: more verbose is higher. -/
def LevelFilter.rank : LevelFilter → Nat
  | .off => 0
  | .error => 1
  | .warn => 2
  | .info => 3
  | .debug => 4
  | .trace => 5

/-- The level filter of a rank from 0 to 5. -/
def LevelFilter.ofRank? : Nat → Option LevelFilter
  | 0 => some .off
  | 1 => some .error
  | 2 => some .warn
  | 3 => some .info
  | 4 => some .debug
  | 5 => some .trace
  | _ => none

/-- The rank an event of this severity needs. -/
def severityRank : Severity → Nat
  | .debug => 4
  | .info => 3
  | .warn => 2

def unsignedValue? (s : String) : Option Nat :=
  let ds := if s.startsWith "+" then s.drop 1 |>.toString else s
  if ds.isEmpty || !ds.all Char.isDigit then none else ds.toNat?

/-- A level filter by name (any case), by rank, or the empty text, which means `error`. -/
def LevelFilter.ofName? (s : String) : Option LevelFilter :=
  match (unsignedValue? s).bind LevelFilter.ofRank? with
  | some l => some l
  | none =>
    match s.toLower with
    | "" => some .error
    | "error" => some .error
    | "warn" => some .warn
    | "info" => some .info
    | "debug" => some .debug
    | "trace" => some .trace
    | "off" => some .off
    | _ => none

/-- A directive that applies outside spans: an optional target prefix, the field names an
event must have, and the level it lets through. -/
structure Directive where
  target : Option String
  fields : List String
  level : LevelFilter
  deriving DecidableEq, Inhabited, Repr

/-- A field match of a directive: a field name, and the value it must have, if any. -/
structure FieldMatch where
  name : String
  value : Option String
  deriving DecidableEq, Inhabited, Repr

/-- Whether a value pattern of a field match can be read: balanced parentheses and
brackets, and no backslash at the end. -/
def patternReadable (v : String) : Bool :=
  let step := fun (acc : Option (Nat × Nat × Bool)) (c : Char) =>
    match acc with
    | none => none
    | some (parens, brackets, escaped) =>
      if escaped then some (parens, brackets, false)
      else if c == '\\' then some (parens, brackets, true)
      else if brackets > 0 then
        if c == ']' then some (parens, brackets - 1, false) else some (parens, brackets, false)
      else if c == '[' then some (parens, 1, false)
      else if c == '(' then some (parens + 1, brackets, false)
      else if c == ')' then (if parens == 0 then none else some (parens - 1, brackets, false))
      else some (parens, brackets, false)
  match v.toList.foldl step (some (0, 0, false)) with
  | some (0, 0, false) => true
  | _ => false

/-- Reads a field match `name` or `name=value`; only the text up to a second `=` counts
as the value. -/
def FieldMatch.parse? (s : String) : Option FieldMatch :=
  match s.splitOn "=" with
  | [] => none
  | [name] => some { name, value := none }
  | name :: value :: _ => if patternReadable value then some { name, value := some value } else none

/-- Where reading a directive stands. -/
inductive DirectiveState where
  | start
  | levelOrTarget (start : Nat)
  | span (start : Nat)
  | field (start : Nat)
  | fields
  | target
  | level (start : Nat)
  deriving Inhabited

/-- What reading a directive has found so far. -/
structure DirectiveParts where
  target : Option String := none
  span : Option String := none
  fields : List FieldMatch := []
  deriving Inhabited

def byteSlice? (s : String) (a b : Nat) : Option String :=
  if a ≤ b && b ≤ s.utf8ByteSize then String.fromUTF8? (s.toUTF8.extract a b) else none

def byteRest? (s : String) (a : Nat) : Option String := byteSlice? s a s.utf8ByteSize

/-- One step of reading a directive over character `c`, at byte `i` of the trimmed text;
slices are taken from the untrimmed text `d` at the same byte positions. -/
def directiveStep (d : String) (acc : Option (DirectiveState × DirectiveParts)) (ic : Nat × Char) :
    Option (DirectiveState × DirectiveParts) := do
  let (st, parts) ← acc
  let (i, c) := ic
  match st with
  | .start =>
    if c == '[' then pure (.span (i + 1), parts)
    else if c == '-' || c == ':' || c == '_' || c.isAlphanum || (c.toNat > 127 && !PluginLens.Text.isWhite c) then
      pure (.levelOrTarget i, parts)
    else none
  | .levelOrTarget s =>
    if c == '=' then pure (.level (i + 1), { parts with target := some (← byteSlice? d s i) })
    else if c == '[' then pure (.span (i + 1), { parts with target := some (← byteSlice? d s i) })
    else pure (st, parts)
  | .target => if c == '=' then pure (.level (i + 1), parts) else none
  | .span s =>
    if c == ']' then pure (.target, { parts with span := some (← byteSlice? d s i) })
    else if c == '\x7b' then
      let name ← byteSlice? d s i
      pure (.field (i + 1), { parts with span := if name.isEmpty then none else some name })
    else pure (st, parts)
  | .field s =>
    if c == '\x7d' || c == ',' then
      let text ← byteSlice? d s i
      if text.isEmpty then none
      let m ← FieldMatch.parse? text
      pure (if c == ',' then .field (i + 1) else .fields, { parts with fields := parts.fields ++ [m] })
    else pure (st, parts)
  | .fields => if c == ']' then pure (.target, parts) else none
  | .level _ => pure (st, parts)

def charsWithOffsets (s : String) : List (Nat × Char) :=
  (s.toList.foldl (fun (acc : List (Nat × Char) × Nat) c => ((acc.2, c) :: acc.1, acc.2 + c.utf8Size))
    ([], 0)).1.reverse

/-- Reads a directive; `none` when it is malformed, `some none` when it applies only inside
spans (it names a span, or matches a field value). The text is read with its surrounding
blanks trimmed, but the pieces are cut from it at the positions found in the trimmed text. -/
def parseDirective (d : String) : Option (Option Directive) := do
  let trimmed := PluginLens.Text.trimWhite d
  let (st, parts) ← (charsWithOffsets trimmed).foldl (directiveStep d) (some (.start, {}))
  let (target, level) ← match st with
    | .levelOrTarget s => do
      let rest ← byteRest? d s
      match LevelFilter.ofName? rest with
      | some l => pure (none, l)
      | none => pure (some rest, LevelFilter.trace)
    | .level s => do
      let rest ← byteRest? d s
      if rest.isEmpty then pure (parts.target, LevelFilter.trace)
      else pure (parts.target, ← LevelFilter.ofName? rest)
    | .target => pure (parts.target, LevelFilter.trace)
    | _ => none
  if parts.span.isSome || parts.fields.any (·.value.isSome) then pure none
  else pure (some { target, fields := parts.fields.map (·.name), level })

/-- A log filter: its directives that apply outside spans, in the order given. -/
structure LogFilter where
  directives : List Directive
  deriving Inhabited

def LogFilter.parse? (s : String) : Option LogFilter :=
  let parts := (s.splitOn ",").filter (· != "")
  (parts.mapM parseDirective).map fun ds => { directives := ds.filterMap id }

def LogFilter.infoLevel : LogFilter := { directives := [{ target := none, fields := [], level := .info }] }

/-- Whether directive `d` applies to an event of `target` with these fields. -/
def Directive.appliesTo (d : Directive) (target : String) (fields : List String) : Bool :=
  (match d.target with
    | some t => target.startsWith t
    | none => true) && d.fields.all fields.contains

def Directive.specificity (d : Directive) : Nat × Nat :=
  ((d.target.map (·.length + 1)).getD 0, d.fields.length)

/-- Whether one list of names comes after another, comparing name by name. -/
def namesAfter : List String → List String → Bool
  | [], _ => false
  | _ :: _, [] => true
  | a :: as, b :: bs => if a == b then namesAfter as bs else compare a b == .gt

/-- Whether directive `d` is tried before directive `e`: the more specific first, and among
equally specific ones the greater target, then the greater field names. -/
def Directive.before (d e : Directive) : Bool :=
  let (dt, df) := d.specificity
  let (et, ef) := e.specificity
  if dt != et then dt > et
  else if df != ef then df > ef
  else if d.target != e.target then compare (d.target.getD "") (e.target.getD "") == .gt
  else namesAfter d.fields e.fields

/-- The directive that decides for an event: the first one that applies in the order of
`Directive.before`, a later directive replacing an earlier one with the same target and
fields. -/
def LogFilter.decider? (f : LogFilter) (target : String) (fields : List String) : Option Directive :=
  f.directives.foldl (fun best d =>
    if !d.appliesTo target fields then best
    else match best with
      | none => some d
      | some b =>
        if d.target == b.target && d.fields == b.fields then some d
        else if d.before b then some d
        else some b) none

/-- Whether an event of `target`, with these fields and severity, is written. -/
def LogFilter.enables (f : LogFilter) (target : String) (fields : List String) (s : Severity) : Bool :=
  match f.decider? target fields with
  | some d => severityRank s ≤ d.level.rank
  | none => false

/-- The filter in force: the environment's setting when it reads as a filter, else the
configured level when it does, else `info`. -/
def LogFilter.choose (fromEnvironment : Option String) (configured : String) : LogFilter :=
  match fromEnvironment.bind LogFilter.parse? with
  | some f => f
  | none => (LogFilter.parse? configured).getD LogFilter.infoLevel

end PluginLens.Cli
