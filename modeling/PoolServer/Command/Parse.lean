import PoolServer.Command.Failure
import PoolServer.Command.Similar
import PoolServer.Text.Split
/-!
# Reading a command line

Arguments are read from the left. `--` makes every later argument a positional value, so an
option met just before it is left without one. `--name=value` gives
an option its value at once; `--name` takes the next argument that does not look like a flag.
`-h` and `--help`, `-V` and `--version` stop the reading. Any other argument that starts with `-`
(but is not `-` alone) is unknown, and so is a value when every positional is taken.

A value is read by its parameter only when the next flag, the next positional value, or the end
of the line comes, so an earlier bad value wins over a later request for help; an unknown argument
wins over a bad value still waiting. Parameters not given take their environment variable, in the
order of the command's parameters, and then their default.
-/
namespace PoolServer

namespace Command

/-- What has been read so far. -/
structure Walk where
  /-- The parameters given, in the order met, with their value; none if it was refused. -/
  given : List (Param × Option Value) := []
  /-- The parameter whose value is waiting to be read; an option still without its value has
  none. -/
  pending : Option (Param × Option String) := none
  /-- The index of the next positional parameter. -/
  next : Nat := 0
  /-- Whether `--` has been met. -/
  trailing : Bool := false

namespace Walk

/-- Whether a parameter has been given. -/
def has (w : Walk) (p : Param) : Bool := w.given.any (·.1.id == p.id)

/-- The options given, as an error's usage line names them. -/
def shownOptions (w : Walk) : List String :=
  (w.given.filter (!·.1.isPositional)).map (·.1.displayGiven)

/-- The positionals given. -/
def givenPositionals (w : Walk) : List String :=
  (w.given.filter (·.1.isPositional)).map (·.1.id)

/-- Takes a value for a parameter from the command line: refused if missing, if the parameter was
already given (which then counts as not given), or if the parameter cannot read it. -/
def take (w : Walk) (p : Param) : Option String → Walk × Option Failure
  | none => (w, some (.noValue p))
  | some raw =>
    if w.has p then ({ w with given := w.given.filter (·.1.id != p.id) }, some (.repeated p))
    else
      match p.reader.read raw with
      | .ok v => ({ w with given := w.given ++ [(p, some v)] }, none)
      | .error e => ({ w with given := w.given ++ [(p, none)] }, some (.badValue p raw e))

/-- Reads the waiting value, if any. -/
def settle (w : Walk) : Walk × Option Failure :=
  match w.pending with
  | none => (w, none)
  | some (p, raw) => take { w with pending := none } p raw

/-- Reads the waiting value, and stops at its refusal. -/
def settled (w : Walk) : Except Failure Walk :=
  match w.settle with
  | (w', none) => .ok w'
  | (_, some f) => .error f

end Walk

namespace Spec

/-- Takes an argument as the next positional value, once the waiting value is read. -/
def positional (c : Spec) (w : Walk) (arg : String) : Except Failure Walk :=
  match c.positionals[w.next]? with
  | some p => do
    let w ← w.settled
    .ok { w with pending := some (p, some arg), next := w.next + 1 }
  | none => .error (.unknown arg none false [] [])

/-- Takes an argument as a value: the value of the option waiting for one, or the next positional.
-/
def value (c : Spec) (w : Walk) (arg : String) : Except Failure Walk :=
  match w.pending with
  | some (p, none) => .ok { w with pending := some (p, some arg) }
  | _ => c.positional w arg

/-- Reads a long flag or option, `--name` or `--name=value`. -/
def long (c : Spec) (w : Walk) (body : String) : Except Failure Walk :=
  let (name, attached) := match Text.splitFirst '=' body.toList with
    | some (n, v) => (String.ofList n, some (String.ofList v))
    | none => (body, none)
  if name == "help" || name == "version" then
    match attached with
    | some v => .error (.flagValue name v (w.shownOptions ++ ["--" ++ name]) w.givenPositionals)
    | none => do
      let _ ← w.settled
      .error (if name == "help" then .helpWanted else .versionWanted)
  else
    match c.findLong name with
    | some p => do
      let w ← w.settled
      match attached with
      | some v =>
        match w.take p (some v) with
        | (w', none) => .ok w'
        | (_, some f) => .error f
      | none => .ok { w with pending := some (p, none) }
    | none =>
      let w := w.settle.1
      let similar := Similar.suggest name c.longs
      let shown := match similar with
        | some s =>
          match c.findLong s with
          | some p => if w.has p then w.shownOptions else w.shownOptions ++ [p.displayGiven]
          | none => w.shownOptions ++ ["--" ++ s]
        | none => w.shownOptions
      .error (.unknown ("--" ++ name) similar similar.isNone shown w.givenPositionals)

/-- Reads one argument. -/
def step (c : Spec) (w : Walk) (arg : String) : Except Failure Walk :=
  if w.trailing then c.positional w arg
  else if arg == "--" then .ok { w with trailing := true }
  else if arg.startsWith "--" then c.long w (String.ofList (arg.toList.drop 2))
  else
    match arg.toList with
    | '-' :: ch :: _ =>
      if ch == 'h' then do
        let _ ← w.settled
        .error .helpWanted
      else if ch == 'V' then do
        let _ ← w.settled
        .error .versionWanted
      else .error (.unknown (String.ofList ['-', ch]) none true [] [])
    | _ => c.value w arg

/-- The value of a parameter that was not given: its environment variable, else its default. -/
def fallback (env : String → Option String) (p : Param) : Except Failure Value :=
  match p.env.bind env with
  | some raw =>
    match p.reader.read raw with
    | .ok v => .ok v
    | .error e => .error (.badValue p raw e)
  | none =>
    match p.reader.read p.default with
    | .ok v => .ok v
    | .error _ => .ok (.text p.default)

/-- Reads a command line (without the command's own name) in an environment: the value of every
parameter, by id, in the order of the command's parameters. -/
def parse (c : Spec) (env : String → Option String) (args : List String) :
    Except Failure (List (String × Value)) := do
  let w ← args.foldlM c.step {}
  let w ← w.settled
  c.params.mapM fun p =>
    match w.given.find? (·.1.id == p.id) with
    | some (_, some v) => .ok (p.id, v)
    | _ => (fallback env p).map (p.id, ·)

end Spec

end Command

end PoolServer
