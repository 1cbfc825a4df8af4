import PoolServer.Command.Param
/-!
# Commands

A command has a name, a version, a one-line description and its parameters; every command also
knows `-h`/`--help` and `-V`/`--version`. Its usage line lists `[OPTIONS]` and the positional
values. Once some parameters have been given, an error's usage line names those instead: the
options given, then every positional, the given ones as `<NAME>`.
-/
namespace PoolServer

namespace Command

/-- A command and its parameters, positional ones in order. -/
structure Spec where
  name : String
  version : String
  about : String
  params : List Param
  deriving Repr

namespace Spec

/-- The positional parameters, in order. -/
def positionals (c : Spec) : List Param := c.params.filter (·.isPositional)

/-- The options. -/
def options (c : Spec) : List Param := c.params.filter (!·.isPositional)

/-- Every long name the command knows, the help and version flags last. -/
def longs (c : Spec) : List String := c.options.filterMap (·.long) ++ ["help", "version"]

/-- The option with a long name. -/
def findLong (c : Spec) (name : String) : Option Param :=
  c.options.find? (·.long == some name)

/-- The usage line when nothing particular has been given. -/
def usage (c : Spec) : String :=
  String.join ([c.name, " [OPTIONS]"] ++ c.positionals.map (" " ++ ·.display))

/-- The usage line after the options shown as `opts` and the positionals named in `given`. -/
def usageAfter (c : Spec) (opts : List String) (given : List String) : String :=
  if opts.isEmpty && given.isEmpty then c.usage
  else
    String.join ([c.name] ++ opts.map (" " ++ ·) ++
      c.positionals.map fun p => " " ++ if given.contains p.id then p.displayGiven else p.display)

/-- The text that `--version` prints. -/
def versionText (c : Spec) : String := c.name ++ " " ++ c.version ++ "\n"

end Spec

end Command

end PoolServer
