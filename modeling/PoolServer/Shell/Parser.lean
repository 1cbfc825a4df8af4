import PoolServer.Shell.Lexer
/-!
# Shell scripts: commands

Builds commands from tokens. A script is read one complete command at a time (up to a line end
outside any compound command), so that the commands before a syntax error have run when the
error is met, as the shell reads its input.

Reserved words (`if`, `then`, `else`, `elif`, `fi`, `while`, `until`, `do`, `done`, `for`, `in`,
`case`, `esac`, `{`, `}`, `!`) are recognised only where a command may start, and only when
written without quotes. A word followed by `()` defines a function whose body is the next command.
-/
namespace PoolServer

namespace Shell

/-- The reserved words. -/
def reserved : List String :=
  ["if", "then", "else", "elif", "fi", "while", "until", "do", "done", "for", "in", "\x7b", "\x7d",
   "!", "case", "esac"]

/-- The unquoted text a token spells, if it is a plain word. -/
def Token.plain? : Token → Option String
  | .word [.text bs false] _ => some (asText bs)
  | _ => none

/-- The reserved word a token spells, if it is one. -/
def Token.reservedWord? (t : Token) : Option String :=
  t.plain?.bind fun s => if reserved.contains s then some s else none

/-- Whether a token is the given operator. -/
def Token.isOp (t : Token) (o : String) : Bool :=
  match t with
  | .op p => p == o
  | _ => false

/-- How a token is named in a syntax error: a reserved word or an operator in quotes, any other
word as `word`, a line end as `newline`. -/
def Token.describe : Token → String
  | .word w _ =>
    match w with
    | [.text bs false] =>
      if reserved.contains (asText bs) then "\"" ++ asText bs ++ "\"" else "word"
    | _ => "word"
  | .op o => "\"" ++ o ++ "\""
  | .ioNumber _ => "word"
  | .newline => "newline"
  | .bodies _ | .here _ => "word"
  | .bad why _ => why

/-- The error for a token where it does not belong; a token the lexer could not read carries
its own message. -/
def unexpected (t : Token) : String :=
  match t with
  | .bad why _ => why
  | t => "Syntax error: " ++ t.describe ++ " unexpected"

/-- The error for a token where another one was expected. -/
def unexpectedFor (t : Token) (expecting : String) : String :=
  match t with
  | .bad why _ => why
  | t => unexpected t ++ " (expecting " ++ expecting ++ ")"

/-- The error for the end of the text where more is needed. -/
def endUnexpected (expecting : String) : String :=
  "Syntax error: end of file unexpected (expecting " ++ expecting ++ ")"

/-- A reserved word or an operator as an error names what was expected. -/
def quoted (w : String) : String := "\"" ++ w ++ "\""

/-- A syntax error: its message, and the tokens from the one it was found at; none at the end
of the text. -/
structure SyntaxError where
  message : String
  rest : List Token

/-- What reading a piece of a script gives: the piece, or a syntax error. -/
abbrev Parse (α : Type) := Except SyntaxError α

/-- Fails with a message at the front of the tokens. -/
def failAt {α : Type} (msg : String) (ts : List Token) : Parse α := .error ⟨msg, ts⟩

/-- Drops line ends. -/
def skipNewlines : List Token → List Token
  | .newline :: ts => skipNewlines ts
  | ts => ts

/-- Whether a text is a name: a letter or `_`, then letters, digits or `_`. -/
def isName (bs : Bytes) : Bool :=
  match bs with
  | n :: rest => isNameStart n && rest.all isNameByte
  | [] => false

/-- The name and value of an assignment word `name=value`. -/
def assignment? (w : Word) : Option (String × Word) :=
  match w with
  | .text bs false :: rest =>
    let name := bs.takeWhile (· != byte '=')
    match bs.drop name.length with
    | _ :: value =>
      if isName name then
        some (asText name, (if value.isEmpty then [] else [Part.text value false]) ++ rest)
      else none
    | [] => none
  | _ => none

/-- Reads a redirection whose operator is next, for descriptor `fd` if one was written. -/
def redirect (fd : Option Nat) : List Token → Parse (Redirect × List Token)
  | .op _ :: .here body :: rest => pure (.here (fd.getD 0) body, rest)
  | ts@(.op o :: .word w _ :: rest) =>
    if o == ">" then pure (.output (fd.getD 1) w false false, rest)
    else if o == ">>" then pure (.output (fd.getD 1) w true false, rest)
    else if o == ">|" then pure (.output (fd.getD 1) w false true, rest)
    else if o == "<" then pure (.input (fd.getD 0) w, rest)
    else if o == "<>" then pure (.both (fd.getD 0) w, rest)
    else if o == ">&" then pure (.dup (fd.getD 1) w true, rest)
    else if o == "<&" then pure (.dup (fd.getD 0) w false, rest)
    else failAt (unexpected (.op o)) ts
  | _ :: t :: more => failAt (unexpected t) (t :: more)
  | _ => failAt "Syntax error: end of file unexpected" []

/-- Whether a token is a redirection operator. -/
def isRedirectOp (t : Token) : Bool :=
  [">", ">>", ">|", "<", "<>", ">&", "<&", "<<", "<<-"].any t.isOp

/-- Reads one redirection, if one comes next. -/
def redirectNext? (ts : List Token) : Option (Parse (Redirect × List Token)) :=
  match ts with
  | .ioNumber fd :: rest => some (redirect (some fd) rest)
  | t :: _ => if isRedirectOp t then some (redirect none ts) else none
  | [] => none

/-- Reads redirections as long as they come. -/
def redirects : Nat → List Token → Parse (List Redirect × List Token)
  | 0, ts => pure ([], ts)
  | fuel + 1, ts =>
    match redirectNext? ts with
    | some r => do
      let (r, rest) ← r
      let (rs, rest) ← redirects fuel rest
      pure (r :: rs, rest)
    | none => pure ([], ts)

/-- Reads the assignments, words and redirections of a simple command. -/
def simple (fuel : Nat) (line : Nat) (assigns : List (String × Word)) (words : List Word)
    (rs : List Redirect) (ts : List Token) : Parse (Command × List Token) :=
  match fuel with
  | 0 => failAt "Syntax error: too long" []
  | fuel + 1 =>
    match ts with
    | .word w _ :: rest =>
      match assignment? w, words with
      | some a, [] => simple fuel line (assigns ++ [a]) words rs rest
      | _, _ => simple fuel line assigns (words ++ [w]) rs rest
    | _ =>
      match redirectNext? ts with
      | some r => do
        let (r, rest) ← r
        simple fuel line assigns words (rs ++ [r]) rest
      | none => pure (.simple assigns words rs line, ts)

/-- Joins commands in sequence. -/
def seqAll : List Command → Command
  | [] => .skip
  | [c] => c
  | c :: cs => .seq c (seqAll cs)

/-- Whether reading a list stops here: at the end, at one of the reserved words in `stop`, at
`)` or at `;;`. -/
def atStop (stop : List String) : List Token → Bool
  | t :: _ => (t.reservedWord?.map stop.contains).getD false || t.isOp ")" || t.isOp ";;"
  | [] => true

mutual

/-- Reads commands separated by `;`, `&` or line ends until a stop (see `atStop`). -/
def list (fuel : Nat) (stop : List String) (acc : List Command) (ts : List Token) :
    Parse (Command × List Token) :=
  match fuel with
  | 0 => failAt "Syntax error: too long" []
  | fuel + 1 =>
    let ts := skipNewlines ts
    if atStop stop ts then pure (seqAll acc, ts)
    else do
      let (c, rest) ← andOr fuel ts
      match rest with
      | .op ";" :: rest' => list fuel stop (acc ++ [c]) rest'
      | .op "&" :: rest' => list fuel stop (acc ++ [.background c]) rest'
      | .newline :: rest' => list fuel stop (acc ++ [c]) rest'
      | _ => pure (seqAll (acc ++ [c]), rest)

/-- Reads a list that must hold a command before its stop; at the end of the text the stop that
was expected is what is missing. -/
def someList (fuel : Nat) (stop : List String) (ts : List Token) :
    Parse (Command × List Token) :=
  match fuel with
  | 0 => failAt "Syntax error: too long" []
  | fuel + 1 => do
    let (c, rest) ← list fuel stop [] ts
    match c, rest with
    | .skip, t :: more => failAt (unexpected t) (t :: more)
    | c, rest => pure (c, rest)

/-- Reads pipelines joined by `&&` and `||`, which bind left to right. -/
def andOr (fuel : Nat) (ts : List Token) : Parse (Command × List Token) :=
  match fuel with
  | 0 => failAt "Syntax error: too long" []
  | fuel + 1 => do
    let (first, rest) ← pipeline fuel ts
    andOrRest fuel first rest

/-- Continues a chain of `&&` and `||` after its first pipeline. -/
def andOrRest (fuel : Nat) (left : Command) (ts : List Token) :
    Parse (Command × List Token) :=
  match fuel with
  | 0 => failAt "Syntax error: too long" []
  | fuel + 1 =>
    match ts with
    | t :: rest =>
      if t.isOp "&&" then do
        let (right, rest) ← pipeline fuel (skipNewlines rest)
        andOrRest fuel (.andThen left right) rest
      else if t.isOp "||" then do
        let (right, rest) ← pipeline fuel (skipNewlines rest)
        andOrRest fuel (.orElse left right) rest
      else pure (left, ts)
    | [] => pure (left, [])

/-- Reads `!`, then commands joined by `|`. -/
def pipeline (fuel : Nat) (ts : List Token) : Parse (Command × List Token) :=
  match fuel with
  | 0 => failAt "Syntax error: too long" []
  | fuel + 1 =>
    match ts with
    | t :: rest =>
      if t.reservedWord? == some "!" then
        match rest with
        | u :: _ =>
          if u.reservedWord? == some "!" then failAt (unexpected u) rest
          else do
            let (c, rest) ← command fuel rest
            let (c, rest) ← pipeRest fuel c rest
            pure (.negate c, rest)
        | [] => failAt "Syntax error: end of file unexpected" []
      else do
        let (c, rest) ← command fuel ts
        pipeRest fuel c rest
    | [] => failAt "Syntax error: end of file unexpected" []

/-- Continues a pipeline after its first command. -/
def pipeRest (fuel : Nat) (left : Command) (ts : List Token) :
    Parse (Command × List Token) :=
  match fuel with
  | 0 => failAt "Syntax error: too long" []
  | fuel + 1 =>
    match ts with
    | t :: rest =>
      if t.isOp "|" then do
        let (right, rest) ← command fuel (skipNewlines rest)
        pipeRest fuel (.pipe left right) rest
      else pure (left, ts)
    | [] => pure (left, [])

/-- Reads one command: a compound command with its redirections, a function definition, or a
simple command. -/
def command (fuel : Nat) (ts : List Token) : Parse (Command × List Token) :=
  match fuel with
  | 0 => failAt "Syntax error: too long" []
  | fuel + 1 =>
    match ts with
    | t :: rest =>
      match t.reservedWord? with
      | some "while" => do
        let (c, rest) ← loopCmd fuel true rest
        withRedirects fuel c rest
      | some "until" => do
        let (c, rest) ← loopCmd fuel false rest
        withRedirects fuel c rest
      | some "if" => do
        let (c, rest) ← ifCmd fuel rest
        withRedirects fuel c rest
      | some "for" => do
        let (c, rest) ← forCmd fuel rest
        withRedirects fuel c rest
      | some "case" => do
        let (c, rest) ← caseCmd fuel rest
        withRedirects fuel c rest
      | some "\x7b" => do
        let (body, rest) ← someList fuel ["\x7d"] rest
        let rest ← expect "\x7d" rest
        withRedirects fuel body rest
      | some _ => failAt (unexpected t) ts
      | none =>
        if t.isOp "(" then do
          let (body, rest) ← someList fuel [] rest
          match rest with
          | u :: rest' =>
            if u.isOp ")" then withRedirects fuel (.subshell body) rest'
            else failAt (unexpectedFor u (quoted ")")) rest
          | [] => failAt (endUnexpected (quoted ")")) []
        else
          match t, rest with
          | .word w line, .op "(" :: .op ")" :: body => do
            match w with
            | [.text name false] =>
              if isName name then do
                let (c, rest) ← command fuel (skipNewlines body)
                pure (.function (asText name) c, rest)
              else failAt "Syntax error: Bad function name" ts
            | _ => failAt "Syntax error: Bad function name" ts
          | .word w _, .op "(" :: more =>
            if (assignment? w).isSome then failAt (unexpected (.op "(")) rest
            else
              match more with
              | u :: _ => failAt (unexpectedFor u (quoted ")")) more
              | [] => failAt (endUnexpected (quoted ")")) []
          | .bad why _, _ => failAt why ts
          | .newline, _ => failAt "Syntax error: newline unexpected" ts
          | .op o, _ =>
            if isRedirectOp t then simple fuel 0 [] [] [] ts else failAt (unexpected (.op o)) ts
          | .word _ line, _ => simple fuel line [] [] [] ts
          | _, _ => simple fuel 0 [] [] [] ts
    | [] => failAt "Syntax error: end of file unexpected" []

/-- Reads `cond; do body; done` after `while` or `until`. -/
def loopCmd (fuel : Nat) (whileTrue : Bool) (ts : List Token) :
    Parse (Command × List Token) :=
  match fuel with
  | 0 => failAt "Syntax error: too long" []
  | fuel + 1 => do
    let (c, rest) ← someList fuel ["do"] ts
    let rest ← expect "do" rest
    let (body, rest) ← someList fuel ["done"] rest
    let rest ← expect "done" rest
    pure (.loop whileTrue c body, rest)

/-- Reads `cond; then …; [elif …;] [else …;] fi` after `if` or `elif`. -/
def ifCmd (fuel : Nat) (ts : List Token) : Parse (Command × List Token) :=
  match fuel with
  | 0 => failAt "Syntax error: too long" []
  | fuel + 1 => do
    let (c, rest) ← someList fuel ["then"] ts
    let rest ← expect "then" rest
    let (yes, rest) ← someList fuel ["elif", "else", "fi"] rest
    match rest with
    | t :: rest' =>
      match t.reservedWord? with
      | some "elif" => do
        let (no, rest) ← ifCmd fuel rest'
        pure (.cond c yes no, rest)
      | some "else" => do
        let (no, rest) ← someList fuel ["fi"] rest'
        let rest ← expect "fi" rest
        pure (.cond c yes no, rest)
      | some "fi" => pure (.cond c yes .skip, rest')
      | _ => failAt (unexpectedFor t (quoted "fi")) rest
    | [] => failAt (endUnexpected (quoted "fi")) []

/-- Reads `name [in words]; do body; done` after `for`; line ends may come before `in` and
`do`. -/
def forCmd (fuel : Nat) (ts : List Token) : Parse (Command × List Token) :=
  match fuel with
  | 0 => failAt "Syntax error: too long" []
  | fuel + 1 =>
    match ts with
    | .word [.text nameBytes false] _ :: rest =>
      if !isName nameBytes then failAt "Syntax error: Bad for loop variable" ts
      else do
        let rest := skipNewlines rest
        let (words, rest) := match rest with
          | t :: rest' =>
            if t.reservedWord? == some "in" then
              let (ws, after) := forWords rest' []
              (some ws, after)
            else (none, rest)
          | [] => (none, [])
        let rest := match rest with
          | t :: rest' => if t.isOp ";" then rest' else rest
          | [] => []
        let rest ← expect "do" (skipNewlines rest)
        let (body, rest) ← someList fuel ["done"] rest
        let rest ← expect "done" rest
        pure (.forEach (asText nameBytes) words body, rest)
    | _ => failAt "Syntax error: Bad for loop variable" ts

/-- Reads `word in arms esac` after `case`. -/
def caseCmd (fuel : Nat) (ts : List Token) : Parse (Command × List Token) :=
  match fuel with
  | 0 => failAt "Syntax error: too long" []
  | fuel + 1 =>
    match ts with
    | .word subject _ :: rest => do
      let rest ← expect "in" (skipNewlines rest)
      let (arms, rest) ← caseArms fuel [] rest
      pure (.caseOf subject arms, rest)
    | t :: _ => failAt (unexpectedFor t "word") ts
    | [] => failAt (endUnexpected "word") []

/-- Reads the arms of a `case` up to `esac`: each `[(] pattern [| pattern]… ) commands`, ended
by `;;` or by `esac`. -/
def caseArms (fuel : Nat) (acc : List (List Word × Command)) (ts : List Token) :
    Parse (List (List Word × Command) × List Token) :=
  match fuel with
  | 0 => failAt "Syntax error: too long" []
  | fuel + 1 =>
    let ts := skipNewlines ts
    match ts with
    | t :: rest =>
      if t.reservedWord? == some "esac" then pure (acc, rest)
      else do
        let ts := if t.isOp "(" then rest else ts
        let (patterns, rest) ← patternList fuel [] ts
        let (body, rest) ← list fuel ["esac"] [] rest
        match rest with
        | u :: rest' =>
          if u.isOp ";;" then caseArms fuel (acc ++ [(patterns, body)]) rest'
          else if u.reservedWord? == some "esac" then pure (acc ++ [(patterns, body)], rest')
          else failAt (unexpectedFor u (quoted ";;")) rest
        | [] => failAt (endUnexpected (quoted ";;")) []
    | [] => failAt (endUnexpected (quoted ")")) []

/-- Reads the patterns of a `case` arm up to its `)`. -/
def patternList (fuel : Nat) (acc : List Word) (ts : List Token) :
    Parse (List Word × List Token) :=
  match fuel with
  | 0 => failAt "Syntax error: too long" []
  | fuel + 1 =>
    match ts with
    | .word w _ :: rest =>
      match rest with
      | u :: rest' =>
        if u.isOp "|" then patternList fuel (acc ++ [w]) rest'
        else if u.isOp ")" then pure (acc ++ [w], rest')
        else failAt (unexpectedFor u (quoted ")")) rest
      | [] => failAt (endUnexpected (quoted ")")) []
    | t :: _ => failAt (unexpectedFor t (quoted ")")) ts
    | [] => failAt (endUnexpected (quoted ")")) []

/-- Adds the redirections that follow a compound command. -/
def withRedirects (fuel : Nat) (c : Command) (ts : List Token) :
    Parse (Command × List Token) := do
  let (rs, rest) ← redirects fuel ts
  pure (if rs.isEmpty then c else .redirected c rs, rest)

/-- The words of `for … in` up to `;` or a line end. -/
def forWords : List Token → List Word → List Word × List Token
  | .word w _ :: rest, acc => forWords rest (acc ++ [w])
  | ts, acc => (acc, ts)

/-- Drops the expected reserved word, or fails. -/
def expect (w : String) : List Token → Parse (List Token)
  | t :: rest => if t.reservedWord? == some w then pure rest else failAt (unexpectedFor t (quoted w)) (t :: rest)
  | [] => failAt (endUnexpected (quoted w)) []

end

/-- Reads the rest of a complete command after one of its and-or lists: further lists after `;`
or `&`, up to a line end or the end of the text. -/
def completeRest : Nat → List Command → List Token → Parse (Command × List Token)
  | 0, _, ts => failAt "Syntax error: too long" ts
  | _ + 1, acc, [] => pure (seqAll acc, [])
  | fuel + 1, acc, t :: rest =>
    let sep : Option Bool := if t.isOp ";" then some false else if t.isOp "&" then some true
      else none
    match sep with
    | some background =>
      let acc := if background then acc.dropLast ++ acc.getLast?.toList.map .background else acc
      match rest with
      | .newline :: rest' => pure (seqAll acc, rest')
      | [] => pure (seqAll acc, [])
      | _ => do
        let (c, rest') ← andOr (4 * rest.length + 16) rest
        completeRest fuel (acc ++ [c]) rest'
    | none =>
      match t with
      | .newline => pure (seqAll acc, rest)
      | .bad why _ => failAt why (t :: rest)
      | _ => failAt (unexpected t) (t :: rest)

/-- Reads the next complete command of a script, without looking inside its command
substitutions: `none` at the end. -/
def readCommand (ts : List Token) : Parse (Option (Command × List Token)) :=
  match skipNewlines ts with
  | [] => pure none
  | ts => do
    let (c, rest) ← andOr (4 * ts.length + 16) ts
    let (all, rest) ← completeRest (ts.length + 1) [c] rest
    pure (some (all, rest))

/-- The reserved words that end a list where a command would start. -/
def listEnds : List String := ["then", "else", "elif", "fi", "do", "done", "esac", "\x7d"]

/-- Reads the commands of a command substitution: one list, up to a reserved word that ends
lists, a `)`, a `;;` or a token that cannot follow a command. In a backquoted one the shell
ignores what is left. -/
def backquoteBody (ts : List Token) : Parse (Command × List Token) :=
  list (4 * ts.length + 16) listEnds [] ts

mutual

/-- The scripts of the command substitutions in a part, nested ones included, each with
whether it was backquoted. -/
def Part.scripts : Part → List (Bytes × Bool)
  | .text _ _ => []
  | .param _ _ w _ => wordScripts w
  | .arith e _ => wordScripts e
  | .command s _ b => [(s, b)]

/-- The scripts of the command substitutions in a word. -/
def wordScripts : List Part → List (Bytes × Bool)
  | [] => []
  | p :: ps => p.scripts ++ wordScripts ps

end

/-- The scripts of the command substitutions in a token. -/
def Token.scripts : Token → List (Bytes × Bool)
  | .word w _ => wordScripts w
  | .here w => wordScripts w
  | _ => []

/-- The first syntax error in the tokens of a command substitution, read as the shell reads it
when it reads the command the substitution is in: one list, which inside `$(…)` must reach the
closing `)`, while after the list of a backquoted one the rest is ignored. The substitutions
inside the list are read too. -/
def scriptError : Nat → Bool → List Token → Option String
  | 0, _, _ => none
  | fuel + 1, backquoted, ts =>
    let closed := if backquoted then ts else ts ++ [.op ")"]
    match backquoteBody closed with
    | .error e => some e.message
    | .ok (_, rest) =>
      let used := closed.take (closed.length - rest.length)
      match (used.flatMap Token.scripts).findSome? fun (s, b) => scriptError fuel b (lex s) with
      | some m => some m
      | none =>
        match rest with
        | t :: _ => if backquoted || t.isOp ")" then none else some (unexpectedFor t (quoted ")"))
        | [] => none

/-- The first token whose command substitutions hold a syntax error: the error, and the tokens
from that one on. -/
def substitutionError : List Token → Option (String × List Token)
  | [] => none
  | t :: rest =>
    match t.scripts.findSome? (fun (s, b) => scriptError (2 * s.length + 8) b (lex s)) with
    | some m => some (m, t :: rest)
    | none => substitutionError rest

/-- Reads the next complete command of a script: `none` at its end. The command substitutions
in it are read as well, as the shell reads them with the command, so that an error inside one
is a syntax error of the command before any of it runs. -/
def nextCommand (ts : List Token) : Parse (Option (Command × List Token)) := do
  match ← readCommand ts with
  | none => pure none
  | some (c, rest) =>
    let ts := skipNewlines ts
    match substitutionError (ts.take (ts.length - rest.length)) with
    | some (m, there) => failAt m (there ++ rest)
    | none => pure (some (c, rest))

end Shell

end PoolServer
