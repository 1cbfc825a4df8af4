import PoolServer.Command.Basic
/-!
# Why a command line is refused

A command line is refused for a value its parameter cannot read, an option left without its value,
an option given twice, an argument the command does not know, or a value attached to a flag.
Asking for help or for the version also ends the reading, and is told apart from the refusals.

Every refusal is printed as `error: ` and one sentence, then tips, then for some kinds the usage
line, and last a pointer to `--help`.
-/
namespace PoolServer

namespace Command

/-- Why reading a command line stopped. -/
inductive Failure where
  /-- The parameter cannot read the value. -/
  | badValue (p : Param) (raw : String) (why : ValueError)
  /-- The option was given without a value. -/
  | noValue (p : Param)
  /-- The option was given twice. -/
  | repeated (p : Param)
  /-- An argument the command does not know; `similar` is a known long name close to it, `asValue`
  tells whether to suggest passing it after `--`, and `opts`, `given` are what the usage line
  names. -/
  | unknown (arg : String) (similar : Option String) (asValue : Bool) (opts given : List String)
  /-- A value attached to a flag that takes none. -/
  | flagValue (flag value : String) (opts given : List String)
  /-- Help was asked for. -/
  | helpWanted
  /-- The version was asked for. -/
  | versionWanted
  deriving Repr

namespace Failure

/-- Whether the reading stopped to show help or the version rather than for a fault. -/
def isRequest : Failure → Bool
  | .helpWanted | .versionWanted => true
  | _ => false

/-- The closing pointer to the help. -/
def tryHelp : String := "\n\nFor more information, try '--help'.\n"

/-- The usage block of an error. -/
def usageBlock (c : Spec) (opts given : List String) : String :=
  "\n\nUsage: " ++ c.usageAfter opts given

/-- The printed refusal. -/
def render (c : Spec) : Failure → String
  | .badValue p raw why =>
    "error: invalid value '" ++ why.shown raw ++ "' for '" ++ p.display ++ "': " ++ why.message ++
      tryHelp
  | .noValue p => "error: a value is required for '" ++ p.display ++ "' but none was supplied" ++ tryHelp
  | .repeated p =>
    "error: the argument '" ++ p.display ++ "' cannot be used multiple times" ++ usageBlock c [] [] ++
      tryHelp
  | .unknown arg similar asValue opts given =>
    let similarTip := match similar with
      | some s => "\n\n  tip: a similar argument exists: '--" ++ s ++ "'"
      | none => ""
    let valueTip :=
      if asValue then
        (if similar.isSome then "\n" else "\n\n") ++ "  tip: to pass '" ++ arg ++
          "' as a value, use '-- " ++ arg ++ "'"
      else ""
    "error: unexpected argument '" ++ arg ++ "' found" ++ similarTip ++ valueTip ++
      usageBlock c opts given ++ tryHelp
  | .flagValue flag value opts given =>
    "error: unexpected value '" ++ value ++ "' for '--" ++ flag ++ "' found; no more were expected" ++
      usageBlock c opts given ++ tryHelp
  | .helpWanted => ""
  | .versionWanted => c.versionText

end Failure

end Command

end PoolServer
