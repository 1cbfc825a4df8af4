import PoolServer.Text.Decimal
/-!
# Command-line parameters

A command takes positional values, in order, and long options (`--name value` or `--name=value`),
each with a help line, an optional environment variable that stands in when the parameter is not
given, and a default. Every value is read by the parameter's reader: a port is read as a signed
64-bit numeral and must then lie in 0..=65535, a count as an unsigned 64-bit numeral, and text as
it is.

A refused port names the value it read, so `+70000` is refused as `70000`.
-/
namespace PoolServer

namespace Command

/-- How a parameter's text becomes a value. -/
inductive Reader where
  /-- A signed 64-bit numeral in 0..=65535. -/
  | port
  /-- An unsigned 64-bit numeral. -/
  | count
  /-- Any text. -/
  | text
  deriving DecidableEq, Repr

/-- A value read from the command line, the environment or a default. -/
inductive Value where
  | num (n : Nat)
  | text (s : String)
  deriving DecidableEq, Repr

/-- Why a text is not a value of a parameter. -/
inductive ValueError where
  /-- The text is no numeral of the right kind. -/
  | unreadable (e : NumeralError)
  /-- The numeral was read as `n` and lies outside `lo..=hi`. -/
  | outOfRange (n : Int) (lo hi : Nat)
  deriving DecidableEq, Repr

namespace ValueError

/-- Why the value was refused, in words. -/
def message : ValueError → String
  | .unreadable e => e.message
  | .outOfRange n lo hi =>
    Decimal.showInt n ++ " is not in " ++ toString lo ++ "..=" ++ toString hi

/-- The value as the refusal quotes it: the text as given, or the number as read. -/
def shown (raw : String) : ValueError → String
  | .unreadable _ => raw
  | .outOfRange n _ _ => Decimal.showInt n

end ValueError

namespace Reader

/-- The smallest and largest signed 64-bit values. -/
def signedMin : Int := -Int.pow 2 63

def signedMax : Int := Int.pow 2 63 - 1

/-- Reads a parameter's text. -/
def read (r : Reader) (raw : String) : Except ValueError Value :=
  match r with
  | .port =>
    match Decimal.readInt signedMin signedMax raw.toList with
    | .error e => .error (.unreadable e)
    | .ok n => if 0 ≤ n ∧ n ≤ 65535 then .ok (.num n.toNat) else .error (.outOfRange n 0 65535)
  | .count =>
    match Decimal.readNat Decimal.wordMax raw.toList with
    | .error e => .error (.unreadable e)
    | .ok n => .ok (.num n)
  | .text => .ok (.text raw)

example : read .port "+80" = .ok (.num 80) := rfl

example : read .port "+70000" = .error (.outOfRange 70000 0 65535) := rfl

example : read .count "-1" = .error (.unreadable .invalidDigit) := rfl

end Reader

/-- A parameter: positional when it has no long name. -/
structure Param where
  /-- The name the parsed values are kept under. -/
  id : String
  long : Option String
  /-- The placeholder for the value, in capitals. -/
  valueName : String
  help : String
  env : Option String
  default : String
  reader : Reader
  deriving Repr

namespace Param

/-- Whether the parameter is positional. -/
def isPositional (p : Param) : Bool := p.long.isNone

/-- The parameter as help and errors name it: `[NAME]` for a positional that may be left out,
`--name <NAME>` for an option. -/
def display (p : Param) : String :=
  match p.long with
  | none => "[" ++ p.valueName ++ "]"
  | some l => "--" ++ l ++ " <" ++ p.valueName ++ ">"

/-- The parameter as a usage line names it once it has been given: `<NAME>` for a positional. -/
def displayGiven (p : Param) : String :=
  match p.long with
  | none => "<" ++ p.valueName ++ ">"
  | some l => "--" ++ l ++ " <" ++ p.valueName ++ ">"

end Param

end Command

end PoolServer
