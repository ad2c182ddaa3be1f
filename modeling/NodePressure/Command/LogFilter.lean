import NodePressure.Number.Decimal
import NodePressure.Text.Blank
import NodePressure.Text.Pattern

/-!
# NodePressure.Command.LogFilter - which log records are written

A filter is a row of directives between commas. A directive names a level for all records, or for
those whose source begins with a text and that have certain fields; the most specific one decides.
What a directive says about spans, or about the values of their fields, concerns no record here, for
none is written within a span.
-/

namespace NodePressure.Command

/-- How much is written: from nothing to everything. -/
inductive Verbosity
  | off
  | error
  | warn
  | info
  | debug
  | trace
  deriving DecidableEq, Repr

namespace Verbosity

/-- The levels from nothing to everything, each with its name. -/
def names : List (Verbosity × String) :=
  [(off, "off"), (error, "error"), (warn, "warn"), (info, "info"), (debug, "debug"),
    (trace, "trace")]

/-- How far a level lies above nothing. -/
def rank : Verbosity → Nat
  | off => 0
  | error => 1
  | warn => 2
  | info => 3
  | debug => 4
  | trace => 5

/-- The level that a text names, in any case, or by the number of its rank. -/
def ofText? (s : List Char) : Option Verbosity :=
  let word := String.ofList (s.map Char.toLower)
  let number := (Number.readUnsigned Number.max64 s).toOption
  (names.find? fun (v, name) => word == name || number == some v.rank).map (·.1)

end Verbosity

/-- A level for the records whose source begins with a text, if one is given, and that have certain
fields. -/
structure Directive where
  source : Option (List Char)
  fields : List String
  level : Verbosity
  deriving DecidableEq, Repr

namespace Directive

/-- How two directives for the same record compare: the longer source is the more specific one, then
the greater number of fields, then the later names in their order. -/
def order (a b : Directive) : Ordering :=
  let length (d : Directive) := d.source.elim 0 (·.length + 1)
  (compare (length a) (length b)).then <| (compare a.fields.length b.fields.length).then <|
    compare a.fields b.fields

/-- The better of two directives for the same record: the more specific one, or else the later. -/
def sharper (a b : Directive) : Directive :=
  if a.order b == .gt then a else b

/-- Whether a directive concerns records of a source with fields. -/
def concerns (d : Directive) (source : String) (fields : List String) : Bool :=
  d.source.all (·.isPrefixOf source.toList) && d.fields.all fields.contains

end Directive

/-- What one directive of a filter says: something about records, or only about spans. -/
inductive Clause
  | records (d : Directive)
  | spans
  deriving DecidableEq, Repr

/-- A field that a directive asks for, with or without a value. -/
structure FieldDemand where
  name : List Char
  hasValue : Bool
  deriving DecidableEq, Repr

/-- Reads what is asked of a field: its name, and behind an equals sign its value, which is a number
or a pattern. -/
def FieldDemand.read? (s : List Char) : Option FieldDemand :=
  match Text.pieces (· == '=') s with
  | name :: value :: _ =>
    if (Number.readFloat value).isSome || Text.isPattern value then some ⟨name, true⟩ else none
  | _ => if s.isEmpty then none else some ⟨s, false⟩

/-- The part of a directive in which its reader is; a part that matters begins at a place. -/
inductive Draft.Part
  | start
  | subject
  | span (first : Nat)
  | field (first : Nat)
  | behindFields
  | behindSpan
  | level (first : Nat)
  deriving DecidableEq, Repr

/-- A directive that has been read up to some place. -/
structure Draft where
  part : Draft.Part
  source : Option (List Char)
  span : Option (List Char)
  fields : List FieldDemand
  deriving DecidableEq, Repr

namespace Draft

/-- A directive of which nothing has been read. -/
def empty : Draft := ⟨.start, none, none, []⟩

/-- Whether a directive may begin with a character. -/
def canBegin (c : Char) : Bool :=
  c == '-' || c == ':' || c == '_' || Text.isAlphanumeric c

/-- Reads one more character. Parts are cut out of `s`, the directive with the blanks around it, at
the places of the directive without them; so blanks in front shift what is cut. -/
def step (s : List Char) (d : Draft) (c : Char) (i : Nat) : Option Draft :=
  let cut (first : Nat) := (s.take i).drop first
  match d.part with
  | .start =>
    if c == '[' then some { d with part := .span (i + 1) }
    else if canBegin c then some { d with part := .subject }
    else none
  | .subject =>
    if c == '=' then some { d with part := .level (i + 1), source := some (cut 0) }
    else if c == '[' then some { d with part := .span (i + 1), source := some (cut 0) }
    else some d
  | .span first =>
    if c == ']' then some { d with part := .behindSpan, span := some (cut first) }
    else if c == '\x7b' then
      some { d with part := .field (i + 1), span := if first = i then none else some (cut first) }
    else some d
  | .field first =>
    if c == '\x7d' then
      (FieldDemand.read? (cut first)).map fun f =>
        { d with part := .behindFields, fields := d.fields ++ [f] }
    else some d
  | .behindFields => if c == ']' then some { d with part := .behindSpan } else none
  | .behindSpan => if c == '=' then some { d with part := .level (i + 1) } else none
  | .level _ => some d

/-- Reads the characters from a place on. -/
def readFrom (s : List Char) : Nat → Draft → List Char → Option Draft
  | _, d, [] => some d
  | i, d, c :: r => (d.step s c i).bind fun d => readFrom s (i + 1) d r

/-- What a directive says at a level. One that names a span, or asks for the value of a field, says
nothing about records outside of spans. -/
def clause (d : Draft) (level : Verbosity) : Clause :=
  if d.span.isSome || d.fields.any (·.hasValue) then .spans
  else .records ⟨d.source, d.fields.map (String.ofList ·.name), level⟩

/-- What a directive says that has been read to its end. One without a level allows everything; a
word alone is a level if it can be, and otherwise a source. -/
def finish (s : List Char) (d : Draft) : Option Clause :=
  match d.part with
  | .subject =>
    match Verbosity.ofText? s with
    | some v => some (d.clause v)
    | none => some ({ d with source := some s }.clause .trace)
  | .level first =>
    match s.drop first with
    | [] => some (d.clause .trace)
    | word => (Verbosity.ofText? word).map d.clause
  | .behindSpan => some (d.clause .trace)
  | _ => none

end Draft

/-- Reads one directive. -/
def Clause.read (s : List Char) : Option Clause :=
  (Draft.readFrom s 0 .empty (Text.trim s)).bind (Draft.finish s)

/-- The directives of a filter; of two for the same source the last one counts. -/
abbrev LogFilter := List Directive

namespace LogFilter

/-- The filter unless another one is given: what is of interest to whoever runs the program. -/
def default : LogFilter := [⟨none, [], .info⟩]

/-- Reads a filter. One that says nothing lets errors through alone. -/
def read (s : String) : Option LogFilter :=
  ((Text.pieces (· == ',') s.toList).filter (!·.isEmpty)).mapM Clause.read |>.map fun clauses =>
    if clauses.isEmpty then [⟨none, [], .error⟩]
    else clauses.filterMap fun c =>
      match c with
      | .records d => some d
      | .spans => none

/-- The filter of the environment; one that cannot be read counts as none. -/
def ofVariables (vars : List (String × String)) : LogFilter :=
  ((vars.lookup "RUST_LOG").bind read).getD default

/-- The directive that decides on records of a source with fields. -/
def decisive? (f : LogFilter) (source : String) (fields : List String) : Option Directive :=
  (f.filter (·.concerns source fields)).foldl
    (fun best d => some (best.elim d (·.sharper d))) none

/-- Whether records of a source with fields are written at a level. -/
def allows (f : LogFilter) (source : String) (fields : List String) (level : Verbosity) : Bool :=
  (f.decisive? source fields).any fun d => level.rank ≤ d.level.rank

end LogFilter

end NodePressure.Command
