import PoolServer.Trace.Event
import PoolServer.Text.Decimal
import PoolServer.Text.Split
import PoolServer.Text.Pattern
/-!
# Log filters

A filter is a comma-separated list of directives; empty pieces are skipped. A directive is a
level alone (`info`), which applies to every event, or a target, an optional span in brackets and
an optional `=level`: `server=debug`, `[name{field,other=value}]=off`, `pool[work]`. A target
applies to the events whose target starts with it; a directive without a level lets every level
through, and `x=` means `error`. Levels are `off`, `error`, `warn`, `info`, `debug` and `trace`, in
any case, or a number from 0 to 5 in that order, written as an unsigned decimal (`+1` and `05`
are numbers). A text that reads as a level is a level even before `=`; otherwise it is a target,
so `info=warn` names the target `info`.

The target runs up to the first `[` or `=` and is ASCII; it may be empty only when a span follows.
The span runs up to the first `]`, after which only `=` or the end may come. Inside it, a name
stands before an optional list of fields in braces, which must not be empty: each field is a name
(a letter, digit or `_`, then those or `.`), optionally with `=value`. A value that is not a
boolean or a number is a pattern, which must parse.

A directive that names a span or asks for a field's value applies only inside spans, which no
event here is in; the others (field names alone included) apply by target and field names. An
event is decided by the most specific directive that applies to it, and when none applies it is
dropped. Directives are ordered by target length (no target below all), then by number of fields,
then by target and field names as text, the greater first; of two with the same target and field
names the later counts. A filter with no directive at all lets through `error` events.
-/
namespace PoolServer

/-- The least severe level a directive lets through, or none at all. -/
inductive Threshold where
  | off
  | atLeast (l : Level)
  deriving DecidableEq, Repr

namespace Threshold

/-- Whether an event of level `l` gets through. -/
def admits : Threshold → Level → Bool
  | .off, _ => false
  | .atLeast t, l => t.rank ≤ l.rank

/-- Reads a level: a number from 0 (off) to 5 (trace), or a name in any case; the empty text is
`error`. -/
def ofText? (s : String) : Option Threshold :=
  match Decimal.readNat Decimal.wordMax s.toList with
  | .ok 0 => some .off
  | .ok 1 => some (.atLeast .error)
  | .ok 2 => some (.atLeast .warn)
  | .ok 3 => some (.atLeast .info)
  | .ok 4 => some (.atLeast .debug)
  | .ok 5 => some (.atLeast .trace)
  | _ =>
    match String.ofList (s.toList.map Char.toLower) with
    | "" | "error" => some (.atLeast .error)
    | "warn" => some (.atLeast .warn)
    | "info" => some (.atLeast .info)
    | "debug" => some (.atLeast .debug)
    | "trace" => some (.atLeast .trace)
    | "off" => some .off
    | _ => none

end Threshold

/-- One directive of a filter. -/
structure Directive where
  /-- The start of the targets it applies to; none for all. -/
  target : Option String
  /-- The span it is limited to, if any. -/
  span : Option String
  /-- The fields an event must carry, each with the value asked for, if any. -/
  fields : List (String × Option String)
  threshold : Threshold
  deriving DecidableEq, Repr

/-- Why a directive cannot be read. -/
inductive DirectiveError where
  /-- Its shape is wrong. -/
  | malformed
  /-- Its level is not a level. -/
  | badLevel
  /-- A field's value is neither a boolean, nor a number, nor a pattern that parses. -/
  | badPattern
  deriving DecidableEq, Repr

namespace DirectiveError

/-- The wording of the refusal. -/
def message : DirectiveError → String
  | .malformed => "invalid filter directive"
  | .badLevel => "error parsing level filter: expected one of \"off\", \"error\", \"warn\", " ++
      "\"info\", \"debug\", \"trace\", or a number 0-5"
  | .badPattern => "invalid field filter: error building NFA"

end DirectiveError

namespace Directive

/-- The digits at the front of a text, and what follows them. -/
def digitRun (cs : List Char) : List Char × List Char :=
  (cs.takeWhile Char.isDigit, cs.dropWhile Char.isDigit)

/-- Whether a text is a number as a field's value may spell it: an optional sign, then digits
with an optional point and fraction or a point and a fraction, then an optional exponent; or
`inf`, `infinity` or `nan` in any case after the sign. -/
def isNumber (s : String) : Bool :=
  let unsigned := match s.toList with
    | '+' :: m | '-' :: m => m
    | m => m
  let word := String.ofList (unsigned.map Char.toLower)
  if word == "inf" || word == "infinity" || word == "nan" then true
  else
    let (whole, afterWhole) := digitRun unsigned
    let (fraction, afterFraction) := match afterWhole with
      | '.' :: m => digitRun m
      | m => ([], m)
    let exponentOk := match afterFraction with
      | [] => true
      | e :: m =>
        let ds := match m with
          | '+' :: d | '-' :: d => d
          | d => d
        (e == 'e' || e == 'E') && !ds.isEmpty && ds.all Char.isDigit
    (!whole.isEmpty || !fraction.isEmpty) && exponentOk

/-- Whether a field's value is one a filter can compare with: a boolean, a number, or a pattern
that parses. -/
def isComparable (v : String) : Bool :=
  v == "true" || v == "false" || isNumber v || Pattern.parses v

/-- Whether a character may start a field's name. -/
def isNameStart (c : Char) : Bool := c.isAlphanum || c == '_'

/-- Reads one field inside a span's braces: a name, optionally with `=value`. -/
def field (text : List Char) : Except DirectiveError (String × Option String) :=
  let name := text.takeWhile (· != '=')
  let value := match text.drop name.length with
    | '=' :: v => some (String.ofList v)
    | _ => none
  match name with
  | c :: more =>
    if !(isNameStart c && more.all fun d => isNameStart d || d == '.') then .error .malformed
    else
      match value with
      | some v => if isComparable v then .ok (String.ofList name, some v) else .error .badPattern
      | none => .ok (String.ofList name, none)
  | [] => .error .malformed

/-- Reads the inside of a span's brackets: the span's name, if any, and the fields in braces. -/
def spanOf (inner : List Char) :
    Except DirectiveError (Option String × List (String × Option String)) :=
  let name := inner.takeWhile (· != '\x7b')
  match inner.drop name.length with
  | [] => .ok (some (String.ofList name), [])
  | _ :: body =>
    match body.reverse with
    | '\x7d' :: reversed =>
      if reversed.isEmpty then .error .malformed
      else do
        let fields ← (Text.splitWhere (· == ',') reversed.reverse).mapM field
        .ok (if name.isEmpty then none else some (String.ofList name), fields)
    | _ => .error .malformed

/-- Reads one directive. -/
def parse (text : String) : Except DirectiveError Directive :=
  match Threshold.ofText? text with
  | some t => .ok { target := none, span := none, fields := [], threshold := t }
  | none =>
    let cs := text.toList
    let target := cs.takeWhile fun c => c != '[' && c != '='
    let bracket : Option (Option (List Char) × List Char) :=
      match cs.drop target.length with
      | '[' :: more =>
        let inner := more.takeWhile (· != ']')
        match more.drop inner.length with
        | ']' :: after => some (some inner, after)
        | _ => none
      | rest => some (none, rest)
    let level : List Char → Option (Except DirectiveError Threshold)
      | [] => some (.ok (.atLeast .trace))
      | '=' :: l => some ((Threshold.ofText? (String.ofList l)).elim (.error .badLevel) .ok)
      | _ => none
    match bracket with
    | none => .error .malformed
    | some (span, after) =>
      if (target.isEmpty && span.isNone) || target.any (·.toNat ≥ 128) then .error .malformed
      else
        match level after with
        | none => .error .malformed
        | some threshold => do
          let (span, fields) ← match span with
            | some inner => spanOf inner
            | none => .ok (none, [])
          let threshold ← threshold
          .ok { target := if target.isEmpty then none else some (String.ofList target), span,
                fields, threshold }

/-- The directive of a filter that has none: `error` events pass. -/
def fallback : Directive :=
  { target := none, span := none, fields := [], threshold := .atLeast .error }

/-- Whether the directive applies only inside spans: it names a span or asks for a field's value.
-/
def isScoped (d : Directive) : Bool := d.span.isSome || d.fields.any (·.2.isSome)

/-- The names of the fields the directive asks for. -/
def fieldNames (d : Directive) : List String := d.fields.map (·.1)

/-- Whether the directive applies to an event of a target with the given field names. -/
def appliesTo (d : Directive) (target : String) (names : List String) : Bool :=
  !d.isScoped && (d.target.all fun t => target.startsWith t) && d.fieldNames.all names.contains

/-- Compares two texts character by character, a prefix before what extends it. -/
def compareText : List Char → List Char → Ordering
  | [], [] => .eq
  | [], _ :: _ => .lt
  | _ :: _, [] => .gt
  | a :: as, b :: bs =>
    match compare a.toNat b.toNat with
    | .eq => compareText as bs
    | o => o

/-- Compares two lists of texts in the same way. -/
def compareTexts : List String → List String → Ordering
  | [], [] => .eq
  | [], _ :: _ => .lt
  | _ :: _, [] => .gt
  | a :: as, b :: bs =>
    match compareText a.toList b.toList with
    | .eq => compareTexts as bs
    | o => o

/-- Compares two directives by how specific they are: by the length of the target (none below
all), then the number of fields, then the target and the field names as text. -/
def specificity (d e : Directive) : Ordering :=
  let targetLength (d : Directive) : Nat := (d.target.map (·.length + 1)).getD 0
  let byTarget : Ordering := match d.target, e.target with
    | none, none => .eq
    | none, some _ => .lt
    | some _, none => .gt
    | some s, some t => compareText s.toList t.toList
  (compare (targetLength d) (targetLength e)).then <|
    (compare d.fields.length e.fields.length).then <|
      byTarget.then (compareTexts d.fieldNames e.fieldNames)

end Directive

/-- A log filter: its directives in the order given. -/
structure Filter where
  directives : List Directive
  deriving Repr

namespace Filter

/-- The directives that decide events: those not limited to spans (or the fallback, when the
filter has no directive), the later of two with the same target and field names replacing the
earlier. -/
def deciding (f : Filter) : List Directive :=
  let candidates :=
    if f.directives.isEmpty then [Directive.fallback] else f.directives.filter (!·.isScoped)
  candidates.foldl (fun acc d =>
    acc.filter (fun e => e.target != d.target || e.fieldNames != d.fieldNames) ++ [d]) []

/-- Whether the filter lets an event through: the most specific deciding directive that applies
to it decides, and with none the event is dropped. Every event carries its message as a field. -/
def admits (f : Filter) (e : Event) : Bool :=
  let names := "message" :: e.fields.map (·.1)
  let applicable := f.deciding.filter (·.appliesTo e.origin.target names)
  let best := applicable.foldl (fun b d =>
    match b with
    | none => some d
    | some c => if d.specificity c == .gt then some d else some c) none
  match best with
  | some d => d.threshold.admits e.level
  | none => false

/-- The pieces of a filter text: its comma-separated parts, empty ones dropped. -/
def pieces (text : String) : List String :=
  ((Text.splitWhere (· == ',') text.toList).filter (!·.isEmpty)).map String.ofList

/-- Reads a filter strictly: every directive must be readable. -/
def parse (text : String) : Except DirectiveError Filter :=
  (pieces text).mapM Directive.parse |>.map Filter.mk

/-- Reads a filter leniently: unreadable directives are left out, each with a warning line. -/
def parseLenient (text : String) : Filter × List String :=
  (pieces text).foldl (fun (f, warnings) p =>
    match Directive.parse p with
    | .ok d => (⟨f.directives ++ [d]⟩, warnings)
    | .error e => (f, warnings ++ ["ignoring `" ++ p ++ "`: " ++ e.message])) (⟨[]⟩, [])

example : (parse "info").toOption.map (·.admits { level := .info, message := "", fields := [] }) =
    some true := by decide +kernel

example : (parse "").toOption.map (·.admits { level := .error, message := "", fields := [] }) =
    some true := by decide +kernel

end Filter

end PoolServer
