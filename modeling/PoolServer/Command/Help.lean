import PoolServer.Command.Basic
/-!
# The help text

The help text is the description, the usage line, and two sections: `Arguments:` for the
positional values and `Options:` for the options and the two flags. Every entry shows its help line
followed by `[env: NAME=value]`, with the variable's current value (empty when unset), and
`[default: value]`.

A section is laid out on one line per entry, the help lines aligned two columns after the longest
name, unless that would be crowded in 100 columns: when the names take more than 40 of them and
some help line does not fit beside them, every help line of the section goes on its own line,
indented by ten spaces. A help line that holds a line break (a variable's value may) goes on
at the help column on the next line.
-/
namespace PoolServer

namespace Command

/-- One entry of a help section. -/
structure Entry where
  /-- The one-letter name, if any. -/
  short : Option Char
  /-- The name as shown: `[NAME]`, `--name <NAME>` or `--name`. -/
  name : String
  /-- Whether the entry is an option or flag rather than a positional value. -/
  dashed : Bool
  /-- The help line with its notes. -/
  text : String
  /-- The width of the help line and of the notes, without the space between them. -/
  width : Nat
  deriving Repr

namespace Entry

/-- The width the layout reserves for the names of a section. -/
def reserved (dashed : Bool) (longest : Nat) : Nat := if dashed then longest + 8 else longest + 4

/-- The name with what stands before it: two spaces, and for options the one-letter name and a
comma, or four spaces in its place. -/
def lead (e : Entry) : String :=
  if e.dashed then
    match e.short with
    | some c => "  -" ++ String.ofList [c] ++ ", " ++ e.name
    | none => "      " ++ e.name
  else "  " ++ e.name

/-- The help text with every line after the first indented by `column` spaces. -/
def indented (column : Nat) (text : String) : String :=
  String.intercalate ("\n" ++ String.ofList (List.replicate column ' ')) (text.splitOn "\n")

/-- The entry on one line, the help aligned after a name of width `longest`. -/
def sameLine (longest : Nat) (e : Entry) : String :=
  let pad := if e.dashed && e.short.isNone then longest + 2 - e.name.length
    else if e.dashed then longest + 6 - e.name.length
    else longest + 2 - e.name.length
  let head := e.lead ++ String.ofList (List.replicate pad ' ')
  head ++ indented head.length e.text

/-- The entry on two lines, the help indented by ten spaces. -/
def nextLine (e : Entry) : String := e.lead ++ "\n          " ++ indented 10 e.text

end Entry

/-- The width of the help area. -/
def termWidth : Nat := 100

/-- A section of entries, laid out as the module header says. -/
def layout (entries : List Entry) : String :=
  let longest := entries.foldl (fun m e => max m e.name.length) 2
  let crowded := entries.any fun e =>
    let taken := Entry.reserved e.dashed longest
    taken ≤ termWidth && 10 * taken > 4 * termWidth && e.width > termWidth - taken
  "\n".intercalate (entries.map fun e => if crowded then e.nextLine else e.sameLine longest)

namespace Param

/-- The notes after a parameter's help line: its variable and its default. -/
def notes (env : String → Option String) (p : Param) : String :=
  " ".intercalate ((match p.env with
    | some v => ["[env: " ++ v ++ "=" ++ (env v).getD "" ++ "]"]
    | none => []) ++ ["[default: " ++ p.default ++ "]"])

/-- The help entry of a parameter. -/
def entry (env : String → Option String) (p : Param) : Entry :=
  { short := none, name := p.display, dashed := !p.isPositional,
    text := if p.help.isEmpty then p.notes env else p.help ++ " " ++ p.notes env,
    width := p.help.length + (p.notes env).length }

end Param

namespace Spec

/-- The help text, in an environment whose variables it shows. -/
def helpText (c : Spec) (env : String → Option String) : String :=
  let flags : List Entry :=
    [{ short := some 'h', name := "--help", dashed := true, text := "Print help", width := 10 },
     { short := some 'V', name := "--version", dashed := true, text := "Print version",
       width := 13 }]
  c.about ++ "\n\nUsage: " ++ c.usage ++ "\n\nArguments:\n" ++
    layout (c.positionals.map (Param.entry env)) ++ "\n\nOptions:\n" ++
    layout (c.options.map (Param.entry env) ++ flags) ++ "\n"

end Spec

end Command

end PoolServer
