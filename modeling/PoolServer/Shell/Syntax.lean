import PoolServer.Text.Utf8
/-!
# Shell scripts: syntax

The programs the server runs for dynamic pages are shell scripts. This module holds the syntax of
the POSIX shell language: words made of literal text, quoted text and expansions; simple commands
with assignments and redirections; the compound commands (`if`, `while`, `until`, `for`, `case`,
braces, parentheses) and function definitions, joined by `;`, `&`, newlines, `&&`, `||`, `|` and
`!`.

A script is text of bytes, and so are the values of variables and the words of a command.
-/
namespace PoolServer

namespace Shell

/-- What a parameter expansion does with its parameter. -/
inductive ParamOp where
  /-- `$name`, `${name}`: the value, empty when unset. -/
  | plain
  /-- `${#name}`: the number of bytes of the value. -/
  | length
  /-- `${name:-word}` (`colon` true) or `${name-word}`: the word when unset (or empty). -/
  | orElse (colon : Bool)
  /-- `${name:+word}` or `${name+word}`: the word when set (and not empty), else nothing. -/
  | ifSet (colon : Bool)
  /-- `${name:=word}` or `${name=word}`: like `orElse`, and the variable is set to the word. -/
  | assign (colon : Bool)
  /-- `${name:?word}` or `${name?word}`: the value, and when unset (or empty) the shell fails
  with the word as its message. -/
  | orFail (colon : Bool)
  /-- `${name#pattern}` or, `longest`, `${name##pattern}`: the value without the shortest (or
  longest) front part that the pattern matches. -/
  | dropPrefix (longest : Bool)
  /-- `${name%pattern}` or `${name%%pattern}`: the value without a matching back part. -/
  | dropSuffix (longest : Bool)
  /-- A substitution the shell cannot make, such as `${x:1}`: expanding it is an error. -/
  | bad
  deriving DecidableEq, Repr

/-- A piece of a word. `quoted` pieces are never split into fields and stand for themselves in
patterns. -/
inductive Part where
  /-- Literal text. -/
  | text (bytes : Bytes) (quoted : Bool)
  /-- A parameter expansion, with the word of its operator when it has one. -/
  | param (name : String) (op : ParamOp) (word : List Part) (quoted : Bool)
  /-- An arithmetic expansion `$((expression))`. -/
  | arith (expr : List Part) (quoted : Bool)
  /-- A command substitution `$(script)` or, `backquoted`, `` `script` ``: the script's output,
  trailing line feeds removed. -/
  | command (script : Bytes) (quoted backquoted : Bool)

/-- A word: pieces that join into one or more fields. -/
abbrev Word := List Part

/-- A redirection of a file descriptor. -/
inductive Redirect where
  /-- `n>path`, `n>>path` (`append`), `n>|path` (`force`, past the no-clobber option). -/
  | output (fd : Nat) (path : Word) (append force : Bool)
  /-- `n<path`. -/
  | input (fd : Nat) (path : Word)
  /-- `n<>path`: open for reading and writing. -/
  | both (fd : Nat) (path : Word)
  /-- `n>&word` (`writing`) or `n<&word`: a copy of the descriptor the word names, or `-` to
  close. -/
  | dup (fd : Nat) (target : Word) (writing : Bool)
  /-- `n<<word`: the here-document's text, expanded as the word is. -/
  | here (fd : Nat) (body : Word)

/-- A command. -/
inductive Command where
  /-- Assignments, words and redirections, on the given line. -/
  | simple (assigns : List (String × Word)) (words : List Word) (redirects : List Redirect)
      (line : Nat)
  /-- One command, then the other. -/
  | seq (first second : Command)
  /-- `c &`: run apart, without waiting. -/
  | background (c : Command)
  /-- The second command when the first succeeds. -/
  | andThen (first second : Command)
  /-- The second command when the first fails. -/
  | orElse (first second : Command)
  /-- The command with its status inverted. -/
  | negate (c : Command)
  /-- A pipeline: the first command's output is the second's input. -/
  | pipe (first second : Command)
  /-- `while cond; do body; done`, or `until` when `whileTrue` is false. -/
  | loop (whileTrue : Bool) (cond body : Command)
  /-- `if cond; then yes; else no; fi`. -/
  | cond (test yes no : Command)
  /-- `for name in words; do body; done`; without `in`, the words are the positional
  parameters. -/
  | forEach (name : String) (words : Option (List Word)) (body : Command)
  /-- `case word in pattern | pattern) commands ;; … esac`. -/
  | caseOf (subject : Word) (arms : List (List Word × Command))
  /-- `( commands )`: run apart, so assignments and `exit` stay inside. -/
  | subshell (c : Command)
  /-- A compound command with redirections. -/
  | redirected (c : Command) (redirects : List Redirect)
  /-- `name() body`: defines a function. -/
  | function (name : String) (body : Command)
  /-- Does nothing and succeeds. -/
  | skip

end Shell

end PoolServer
