import PoolServer.Shell.Syntax
/-!
# Shell scripts: tokens

Cuts a script into tokens: words, operators, descriptor numbers of redirections, line ends and
the bodies of here-documents. Blanks separate tokens, `#` at the start of a token comments out the
rest of the line, and a backslash before a line end joins the lines. Inside a word, single quotes
keep everything, double quotes keep everything but expansions and the escapes `\$`, `\"`, `\\`
and `` \` ``, and a backslash outside quotes keeps the next byte.

An expansion runs to the bracket that closes it: `$(…)` and `${…}` are scanned with their quotes
and further expansions inside, `$((…))` to the `))` that balances it, and `` `…` `` to the next
backquote not escaped, its escapes `\$`, `` \` `` and `\\` undone.

A here-document `<<word` (or `<<-word`, which strips leading tabs) takes the lines after the line
of its operator up to one that is the word; several on one line take their lines in turn. Its body
is expanded like text in double quotes, unless some of the word was quoted.

When the text cannot be cut (an unclosed quote or expansion), the tokens read so far are followed
by one `bad` token with the message, so that the commands before the fault still run.
-/
namespace PoolServer

namespace Shell

/-- A token of a script. -/
inductive Token where
  /-- A word, with the line it starts on. -/
  | word (w : Word) (line : Nat)
  | op (text : String)
  /-- The digit of a descriptor written just before `<` or `>`. -/
  | ioNumber (fd : Nat)
  | newline
  /-- The bodies of the here-documents opened on the line just ended. -/
  | bodies (ws : List Word)
  /-- The body of a here-document, in place of its delimiter word. -/
  | here (body : Word)
  /-- The text cannot be read on from here: why, and the line the error is reported on. -/
  | bad (why : String) (line : Nat)

/-- The byte of an ASCII character. -/
def byte (c : Char) : UInt8 := c.toNat.toUInt8

/-- The bytes of an ASCII text. -/
def bytesOf (s : String) : Bytes := s.toList.map byte

/-- Whether a byte is a space or a tab. -/
def isBlank (b : UInt8) : Bool := b == byte ' ' || b == byte '\t'

/-- Whether a byte may start a name: a letter or an underscore. -/
def isNameStart (b : UInt8) : Bool :=
  (byte 'a' ≤ b && b ≤ byte 'z') || (byte 'A' ≤ b && b ≤ byte 'Z') || b == byte '_'

/-- Whether a byte is an ASCII digit. -/
def isDigit (b : UInt8) : Bool := byte '0' ≤ b && b ≤ byte '9'

/-- Whether a byte may continue a name. -/
def isNameByte (b : UInt8) : Bool := isNameStart b || isDigit b

/-- Whether a byte ends an unquoted word: a blank, a line end, or an operator byte. -/
def endsWord (b : UInt8) : Bool :=
  isBlank b || b == byte '\n' || b == byte ';' || b == byte '&' || b == byte '|' ||
    b == byte '(' || b == byte ')' || b == byte '<' || b == byte '>'

/-- The text of bytes that are ASCII. -/
def asText (bs : Bytes) : String := String.ofList (bs.map fun b => Char.ofNat b.toNat)

/-- The value of ASCII decimal digits. -/
def decimalValue (ds : Bytes) : Nat := ds.foldl (fun acc (b : UInt8) => acc * 10 + (b.toNat - 48)) 0

/-- Appends literal bytes to a word, joining them to a literal before them of the same kind. -/
def pushText (w : Word) (bs : Bytes) (quoted : Bool) : Word :=
  match w.getLast? with
  | some (.text prev q) =>
    if q == quoted then w.dropLast ++ [.text (prev ++ bs) q] else w ++ [.text bs quoted]
  | _ => w ++ [.text bs quoted]

/-- The longest name at the front of the bytes. -/
def takeName (bs : Bytes) : Bytes × Bytes :=
  match bs with
  | b :: _ => if isNameStart b then (bs.takeWhile isNameByte, bs.dropWhile isNameByte) else ([], bs)
  | [] => ([], [])

/-- Whether a byte names a special parameter. -/
def isSpecialParam (b : UInt8) : Bool :=
  b == byte '@' || b == byte '*' || b == byte '#' || b == byte '?' || b == byte '$' ||
    b == byte '!' || b == byte '-' || b == byte '0'

/-- The parameter name at the front of the inside of `${…}`: a name, a number, or one special
character; and what follows it. -/
def paramName (bs : Bytes) : Bytes × Bytes :=
  match bs with
  | b :: rest =>
    if isNameStart b then takeName bs
    else if isDigit b then (bs.takeWhile isDigit, bs.dropWhile isDigit)
    else if isSpecialParam b then ([b], rest)
    else ([], bs)
  | [] => ([], [])

/-- What a scan for the end of an expansion is inside of. -/
inductive Nest where
  /-- `$(…)`, with the parentheses opened inside it. -/
  | command (depth : Nat)
  /-- `${…}`: whether it stands inside double quotes, and whether single quotes quote inside
  it, as they do outside double quotes and in the pattern of `#` and `%`. A brace inside it is
  text. -/
  | brace (inDouble quotes : Bool)
  /-- Double quotes. -/
  | double
  /-- Backquotes. -/
  | back

/-- Whether the text in a nest is inside double quotes. -/
def Nest.inDouble : Nest → Bool
  | .double => true
  | .brace d _ => d
  | _ => false

/-- The error for a text that ends inside a nest. -/
def Nest.unclosed : Nest → String
  | .command _ => "Syntax error: end of file unexpected (expecting \")\")"
  | .brace true _ => "Syntax error: Unterminated quoted string"
  | .brace false _ => "Syntax error: Missing '\x7d'"
  | .double => "Syntax error: Unterminated quoted string"
  | .back => "Syntax error: EOF in backquote substitution"

/-- Whether a byte starts the operator of `${name…}`. -/
def isBraceOp (b : UInt8) : Bool :=
  b == byte '-' || b == byte '+' || b == byte '?' || b == byte '=' || b == byte '%' ||
    b == byte '#' || b == byte ':'

/-- The bytes at the front of the inside of `${…}` that are read as its name and operator, in
which quotes and expansions mean nothing: the name (or `#` and the name), the byte after a `:`,
and a byte after the name that starts no operator, which the shell reads and drops. -/
def braceHead (bs : Bytes) : Bytes :=
  match bs with
  | h :: more =>
    if h == byte '#' && (more.head?.map isNameByte).getD false then h :: (paramName more).1
    else
      let (name, after) := paramName bs
      if name.isEmpty then (if h == byte '\x7d' then [] else [h])
      else
        match after with
        | c :: d :: _ =>
          if c == byte ':' then name ++ [c, d]
          else if isBraceOp c || c == byte '\x7d' then name
          else name ++ [c]
        | [c] => if isBraceOp c || c == byte '\x7d' then name else name ++ [c]
        | [] => name
  | [] => []

/-- Whether the inside of `${…}` starting with these bytes has an operator that takes a
pattern (`#` or `%`). -/
def bracePattern (bs : Bytes) : Bool :=
  let (name, after) := paramName bs
  !name.isEmpty && (after.head? == some (byte '#') || after.head? == some (byte '%'))

/-- The nest an expansion opens, if these bytes after a `$` open one, inside the given nest;
and the bytes of its opening that are read as they stand. -/
def opening (top : Nest) (bs : Bytes) : Option (Nest × Bytes) :=
  match bs with
  | c :: more =>
    if c == byte '(' then some (.command 0, [c])
    else if c == byte '\x7b' then
      let d := top.inDouble
      some (.brace d (!d || bracePattern more), c :: braceHead more)
    else none
  | [] => none

/-- Whether a comment may start after these bytes: at the start, or after a blank or an
operator byte. -/
def commentMayStart (acc : Bytes) : Bool :=
  match acc.getLast? with
  | none => true
  | some b => isBlank b || b == byte '\n' || b == byte ';' || b == byte '(' || b == byte '|' ||
      b == byte '&'

/-- Finds the end of an expansion whose opening was just read: the text inside it and what
follows its closing byte, scanning quotes and nested expansions on the way; the error for the
innermost thing left open if it never closes. -/
def nestEnd : Nat → List Nest → Bytes → Bytes → Except String (Bytes × Bytes)
  | 0, _, _, _ => .error "Syntax error: too long"
  | _, [], acc, rest => .ok (acc, rest)
  | _, top :: _, _, [] => .error top.unclosed
  | fuel + 1, top :: outer, acc, b :: rest =>
    let pop (closing : Bytes) : Except String (Bytes × Bytes) :=
      if outer.isEmpty then .ok (acc, rest) else nestEnd fuel outer (acc ++ closing) rest
    let escaped (_ : Unit) : Except String (Bytes × Bytes) :=
      match rest with
      | c :: more => nestEnd fuel (top :: outer) (acc ++ [b, c]) more
      | [] => .error top.unclosed
    let single (_ : Unit) : Except String (Bytes × Bytes) :=
      let inner := rest.takeWhile (· != byte '\'')
      match rest.drop inner.length with
      | q :: more => nestEnd fuel (top :: outer) (acc ++ [b] ++ inner ++ [q]) more
      | [] => .error "Syntax error: Unterminated quoted string"
    let next (_ : Unit) : Except String (Bytes × Bytes) := nestEnd fuel (top :: outer) (acc ++ [b]) rest
    match (if b == byte '$' then opening top rest else none) with
    | some (n, head) => nestEnd fuel (n :: top :: outer) (acc ++ [b] ++ head) (rest.drop head.length)
    | none =>
      match top with
      | .command depth =>
        if b == byte ')' then
          if depth == 0 then pop [b] else nestEnd fuel (.command (depth - 1) :: outer) (acc ++ [b]) rest
        else if b == byte '(' then nestEnd fuel (.command (depth + 1) :: outer) (acc ++ [b]) rest
        else if b == byte '\'' then single ()
        else if b == byte '"' then nestEnd fuel (.double :: top :: outer) (acc ++ [b]) rest
        else if b == byte '`' then nestEnd fuel (.back :: top :: outer) (acc ++ [b]) rest
        else if b == byte '\\' then escaped ()
        else if b == byte '#' && commentMayStart acc then
          let comment := rest.takeWhile (· != byte '\n')
          nestEnd fuel (top :: outer) (acc ++ [b] ++ comment) (rest.drop comment.length)
        else next ()
      | .brace _ quotes =>
        if b == byte '\x7d' then pop [b]
        else if b == byte '\'' && quotes then single ()
        else if b == byte '"' then nestEnd fuel (.double :: top :: outer) (acc ++ [b]) rest
        else if b == byte '`' then nestEnd fuel (.back :: top :: outer) (acc ++ [b]) rest
        else if b == byte '\\' then escaped ()
        else next ()
      | .double =>
        if b == byte '"' then pop [b]
        else if b == byte '`' then nestEnd fuel (.back :: top :: outer) (acc ++ [b]) rest
        else if b == byte '\\' then escaped ()
        else next ()
      | .back =>
        if b == byte '`' then pop [b]
        else if b == byte '\\' then escaped ()
        else next ()

/-- The text of `$((…))` up to its closing `))`, nested parentheses included; a `)` that closes
nothing and has no `)` after it stays in the text. -/
def arithBody : Nat → Nat → Bytes → Bytes → Option (Bytes × Bytes)
  | 0, _, _, _ => none
  | _, _, _, [] => none
  | fuel + 1, depth, acc, b :: rest =>
    if b == byte ')' then
      if depth = 0 then
        match rest with
        | c :: rest' =>
          if c == byte ')' then some (acc, rest') else arithBody fuel depth (acc ++ [b]) rest
        | [] => none
      else arithBody fuel (depth - 1) (acc ++ [b]) rest
    else if b == byte '(' then arithBody fuel (depth + 1) (acc ++ [b]) rest
    else arithBody fuel depth (acc ++ [b]) rest

/-- The script of a backquoted command, read after the opening backquote: up to the next
backquote not escaped, with `\$`, `` \` ``, `\\` (and `\"` inside double quotes) undone and
escaped line ends dropped; and what follows the closing backquote. -/
def backquoted : Nat → Bool → Bytes → Bytes → Option (Bytes × Bytes)
  | 0, _, _, _ => none
  | _, _, _, [] => none
  | fuel + 1, inDouble, acc, b :: rest =>
    if b == byte '`' then some (acc, rest)
    else if b == byte '\\' then
      match rest with
      | c :: more =>
        if c == byte '$' || c == byte '`' || c == byte '\\' || (inDouble && c == byte '"') then
          backquoted fuel inDouble (acc ++ [c]) more
        else if c == byte '\n' then backquoted fuel inDouble acc more
        else backquoted fuel inDouble (acc ++ [b, c]) more
      | [] => none
    else backquoted fuel inDouble (acc ++ [b]) rest

/-- Reads the delimiter word of a here-document: its text with quotes removed, whether any of
it was quoted, and what follows it. -/
def delimiter : Nat → Bytes → Bool → Bytes → Bytes × Bool × Bytes
  | 0, acc, q, rest => (acc, q, rest)
  | _, acc, q, [] => (acc, q, [])
  | fuel + 1, acc, q, b :: rest =>
    if endsWord b then (acc, q, b :: rest)
    else if b == byte '\'' || b == byte '"' then
      let inner := rest.takeWhile (· != b)
      delimiter fuel (acc ++ inner) true ((rest.drop inner.length).drop 1)
    else if b == byte '\\' then
      match rest with
      | c :: more => delimiter fuel (acc ++ [c]) true more
      | [] => (acc, true, [])
    else delimiter fuel (acc ++ [b]) q rest

/-- A here-document waiting for its body. -/
structure Pending where
  /-- The line that ends the body. -/
  delimiter : Bytes
  /-- Whether some of the delimiter was quoted, so the body is not expanded. -/
  quoted : Bool
  /-- Whether leading tabs are stripped from the lines. -/
  stripTabs : Bool

/-- Reads the lines of a here-document's body from the bytes after the line of its operator,
up to the delimiter line or the end: the body, what follows, and the lines read. -/
def bodyLines (p : Pending) : Nat → Bytes → Bytes → Nat → Bytes × Bytes × Nat
  | 0, acc, rest, n => (acc, rest, n)
  | _, acc, [], n => (acc, [], n)
  | fuel + 1, acc, bs, n =>
    let line := bs.takeWhile (· != byte '\n')
    let rest := (bs.drop line.length).drop 1
    let line := if p.stripTabs then line.dropWhile (· == byte '\t') else line
    if line == p.delimiter then (acc, rest, n + 1)
    else bodyLines p fuel (acc ++ line ++ [byte '\n']) rest (n + 1)

/-- The operators, longest first. -/
def operators : List String :=
  ["<<-", "&&", "||", ";;", "<<", ">>", ">&", "<&", ">|", "<>", ";", "&", "|", "(", ")", "<", ">"]

/-- The operator at the front of the bytes, if any. -/
def operatorAt (bs : Bytes) : Option String :=
  operators.find? fun o => bs.take o.length == bytesOf o

/-- Where a `case` command open inside `$(…)` stands. -/
inductive CaseStage where
  /-- After `case`, before its word. -/
  | subject
  /-- After the word, before `in`. -/
  | beforeIn
  /-- Where the patterns of an arm are read, up to the `)` that ends them. -/
  | patterns
  /-- In the commands of an arm. -/
  | arm

/-- What the scan of the commands of `$(…)` is inside of. -/
inductive Frame where
  /-- Parentheses opened in the commands. -/
  | paren
  /-- A `case` command. -/
  | caseAt (stage : CaseStage)

/-- Where a scan of the commands of `$(…)` stands: the frames open in it, the here-documents
whose bodies follow the current line, and whether a command may start at the next word, so
that a reserved word counts there. -/
structure CommandScan where
  frames : List Frame
  pending : List Pending
  start : Bool

/-- The reserved words after which a command may still start. -/
def commandPrefixes : List String :=
  ["if", "then", "else", "elif", "fi", "while", "until", "do", "done", "\x7b", "\x7d", "!"]

/-- The scan after a word of the commands: `case` opens a `case` command where a command may
start, and `in` and `esac` move it on; any other word but a reserved one ends the place where a
command may start. -/
def CommandScan.afterWord (s : CommandScan) (w : Word) : CommandScan :=
  let plain : Option String := match w with
    | [.text bs false] => some (asText bs)
    | _ => none
  match s.frames with
  | .caseAt .subject :: outer => { s with frames := .caseAt .beforeIn :: outer, start := false }
  | .caseAt .beforeIn :: outer =>
    if plain == some "in" then { s with frames := .caseAt .patterns :: outer } else s
  | .caseAt .patterns :: outer =>
    if plain == some "esac" then { s with frames := outer, start := false } else s
  | frames =>
    if !s.start then s
    else if plain == some "case" then { s with frames := .caseAt .subject :: frames }
    else if plain == some "esac" then
      match frames with
      | .caseAt .arm :: outer => { s with frames := outer, start := false }
      | _ => { s with start := false }
    else if (plain.map commandPrefixes.contains).getD false then s
    else { s with start := false }

/-- The scan after an operator of the commands other than `(`, `)`, `;;` and redirections. -/
def CommandScan.afterOperator (s : CommandScan) : CommandScan := { s with start := true }

/-- The redirection operators that a target word follows. -/
def redirectionOperators : List String := [">", ">>", ">|", "<", "<>", ">&", "<&"]

/-- The bytes after the bodies of here-documents that start after a line end. -/
def skipBodies (ps : List Pending) (bs : Bytes) : Bytes :=
  ps.foldl (fun rest p => (bodyLines p (rest.length + 1) [] rest 0).2.1) bs

/-- The operator after a parameter's name inside `${…}`, and the bytes of its word. -/
def paramOp (bs : Bytes) : Option (ParamOp × Bytes) :=
  match bs with
  | c :: d :: rest =>
    if c == byte ':' then
      if d == byte '-' then some (.orElse true, rest)
      else if d == byte '=' then some (.assign true, rest)
      else if d == byte '?' then some (.orFail true, rest)
      else if d == byte '+' then some (.ifSet true, rest)
      else none
    else if c == byte '%' && d == byte '%' then some (.dropSuffix true, rest)
    else if c == byte '#' && d == byte '#' then some (.dropPrefix true, rest)
    else single c (d :: rest)
  | [c] => single c []
  | [] => none
where
  /-- An operator of one character. -/
  single (c : UInt8) (rest : Bytes) : Option (ParamOp × Bytes) :=
    if c == byte '-' then some (.orElse false, rest)
    else if c == byte '=' then some (.assign false, rest)
    else if c == byte '?' then some (.orFail false, rest)
    else if c == byte '+' then some (.ifSet false, rest)
    else if c == byte '%' then some (.dropSuffix false, rest)
    else if c == byte '#' then some (.dropPrefix false, rest)
    else none

/-- A parameter expansion that cannot be made; the error comes when it is expanded. -/
def badSubstitution (quoted : Bool) : Part := .param "" .bad [] quoted

/-- Whether an operator takes a pattern, whose quotes count even inside double quotes. -/
def ParamOp.takesPattern : ParamOp → Bool
  | .dropPrefix _ | .dropSuffix _ => true
  | _ => false

mutual

/-- Reads what follows a `$`: an expansion, or a lone `$` kept as text. -/
def dollar (fuel : Nat) (quoted : Bool) (bs : Bytes) : Except String (Part × Bytes) :=
  match fuel with
  | 0 => .error "Syntax error: too deep"
  | fuel + 1 =>
    match bs with
    | b :: rest =>
      if b == byte '(' && rest.head? == some (byte '(') then
        let inner := rest.drop 1
        match arithBody (inner.length + 1) 0 [] inner with
        | some (body, after) => do
          let expr ← insideArith fuel body []
          pure (.arith expr quoted, after)
        | none => .error "Syntax error: Missing '))'"
      else if b == byte '(' then do
        let after ← commandBody fuel ⟨[], [], true⟩ rest
        pure (.command (rest.take (rest.length - after.length - 1)) quoted false, after)
      else if b == byte '\x7b' then
        let head := braceHead rest
        match nestEnd (rest.length + 1) [.brace quoted (!quoted || bracePattern rest)] head
            (rest.drop head.length) with
        | .ok (inner, after) => do
          let p ← braced fuel quoted inner
          pure (p, after)
        | .error why => .error why
      else if isNameStart b then
        let (name, after) := takeName bs
        pure (.param (asText name) .plain [] quoted, after)
      else if isDigit b || isSpecialParam b then
        pure (.param (asText [b]) .plain [] quoted, rest)
      else pure (.text [byte '$'] quoted, bs)
    | [] => pure (.text [byte '$'] quoted, [])

/-- Reads the inside of `${…}`. -/
def braced (fuel : Nat) (quoted : Bool) (inner : Bytes) : Except String Part :=
  match fuel with
  | 0 => .error "Syntax error: too deep"
  | fuel + 1 =>
    match inner with
    | [] => pure (badSubstitution quoted)
    | h :: rest =>
      let (lengthName, lengthAfter) := paramName rest
      if h == byte '#' && !rest.isEmpty && !lengthName.isEmpty && lengthAfter.isEmpty then
        pure (.param (asText lengthName) .length [] quoted)
      else
        let (name, after) := paramName inner
        if name.isEmpty then pure (badSubstitution quoted)
        else if after.isEmpty then pure (.param (asText name) .plain [] quoted)
        else
          match paramOp after with
          | some (op, wordBytes) => do
            let w ← inWord fuel (quoted && !op.takesPattern) wordBytes []
            pure (.param (asText name) op w quoted)
          | none =>
            if after == [byte ':'] then .error "Syntax error: Missing '\x7d'"
            else pure (badSubstitution quoted)

/-- Reads the text of an arithmetic expansion: expansions inside it, the rest literal. -/
def insideArith (fuel : Nat) (bs : Bytes) (acc : Word) : Except String Word :=
  match fuel with
  | 0 => .error "Syntax error: too deep"
  | fuel + 1 =>
    match bs with
    | [] => pure acc
    | b :: rest =>
      if b == byte '$' then do
        let (p, after) ← dollar fuel true rest
        insideArith fuel after (acc ++ [p])
      else if b == byte '`' then
        match backquoted (rest.length + 1) false [] rest with
        | some (script, after) => insideArith fuel after (acc ++ [.command script true true])
        | none => .error "Syntax error: EOF in backquote substitution"
      else insideArith fuel rest (pushText acc [b] true)

/-- Reads a word from text that has no operators in it, such as the word of `${name:-word}`.
Inside double quotes (`quoted`), a double quote only marks where quoting was written: the text
stays quoted either way. -/
def inWord (fuel : Nat) (quoted : Bool) (bs : Bytes) (acc : Word) : Except String Word :=
  match fuel with
  | 0 => .error "Syntax error: too deep"
  | fuel + 1 =>
    match bs with
    | [] => pure acc
    | b :: rest =>
      if b == byte '$' then do
        let (p, after) ← dollar fuel quoted rest
        inWord fuel quoted after (acc ++ [p])
      else if b == byte '\'' && !quoted then
        let inner := rest.takeWhile (· != byte '\'')
        match rest.drop inner.length with
        | _ :: after => inWord fuel quoted after (pushText acc inner true)
        | [] => .error "Syntax error: Unterminated quoted string"
      else if b == byte '"' && !quoted then do
        let (w, after) ← inDouble fuel rest []
        inWord fuel quoted after (acc ++ w)
      else if b == byte '"' then inWord fuel quoted rest acc
      else if b == byte '`' then
        match backquoted (rest.length + 1) quoted [] rest with
        | some (script, after) => inWord fuel quoted after (acc ++ [.command script quoted true])
        | none => .error "Syntax error: EOF in backquote substitution"
      else if b == byte '\\' then
        match rest with
        | c :: after =>
          if quoted && !(c == byte '$' || c == byte '`' || c == byte '\\' || c == byte '"' ||
              c == byte '\x7d') then
            inWord fuel quoted after (pushText acc [b, c] true)
          else inWord fuel quoted after (pushText acc [c] true)
        | [] => pure (pushText acc [b] quoted)
      else inWord fuel quoted rest (pushText acc [b] quoted)

/-- Reads the inside of double quotes up to the closing quote. An empty pair makes an empty
quoted text, which keeps an empty field. -/
def inDouble (fuel : Nat) (bs : Bytes) (acc : Word) : Except String (Word × Bytes) :=
  match fuel with
  | 0 => .error "Syntax error: too deep"
  | fuel + 1 =>
    match bs with
    | [] => .error "Syntax error: Unterminated quoted string"
    | b :: rest =>
      if b == byte '"' then pure ((if acc.isEmpty then [.text [] true] else acc), rest)
      else if b == byte '$' then do
        let (p, after) ← dollar fuel true rest
        inDouble fuel after (acc ++ [p])
      else if b == byte '`' then
        match backquoted (rest.length + 1) true [] rest with
        | some (script, after) => inDouble fuel after (acc ++ [.command script true true])
        | none => .error "Syntax error: EOF in backquote substitution"
      else if b == byte '\\' then
        match rest with
        | c :: after =>
          if c == byte '\n' then inDouble fuel after acc
          else if c == byte '$' || c == byte '"' || c == byte '\\' || c == byte '`' then
            inDouble fuel after (pushText acc [c] true)
          else inDouble fuel after (pushText acc [b, c] true)
        | [] => .error "Syntax error: Unterminated quoted string"
      else inDouble fuel rest (pushText acc [b] true)

/-- Reads an unquoted word up to the byte that ends it. -/
def word (fuel : Nat) (bs : Bytes) (acc : Word) : Except String (Word × Bytes) :=
  match fuel with
  | 0 => .error "Syntax error: too deep"
  | fuel + 1 =>
    match bs with
    | [] => pure (acc, [])
    | b :: rest =>
      if endsWord b then pure (acc, bs)
      else if b == byte '$' then do
        let (p, after) ← dollar fuel false rest
        word fuel after (acc ++ [p])
      else if b == byte '\'' then
        let inner := rest.takeWhile (· != byte '\'')
        match rest.drop inner.length with
        | _ :: after => word fuel after (pushText acc inner true)
        | [] => .error "Syntax error: Unterminated quoted string"
      else if b == byte '"' then do
        let (w, after) ← inDouble fuel rest []
        word fuel after (acc ++ w)
      else if b == byte '`' then
        match backquoted (rest.length + 1) false [] rest with
        | some (script, after) => word fuel after (acc ++ [.command script false true])
        | none => .error "Syntax error: EOF in backquote substitution"
      else if b == byte '\\' then
        match rest with
        | c :: after =>
          if c == byte '\n' then word fuel after acc else word fuel after (pushText acc [c] true)
        | [] => pure (pushText acc [b] false, [])
      else word fuel rest (pushText acc [b] false)

/-- Reads the commands of `$(…)` up to the `)` that closes it, as the shell reads them: a `)`
that ends the patterns of a `case` arm, or closes parentheses opened inside, does not close it,
and neither does one in a word, a comment or a here-document. Gives what follows the `)`. -/
def commandBody (fuel : Nat) (s : CommandScan) (bs : Bytes) : Except String Bytes :=
  match fuel with
  | 0 => .error "Syntax error: too deep"
  | fuel + 1 =>
    match bs with
    | [] => .error "Syntax error: end of file unexpected (expecting \")\")"
    | b :: rest =>
      if isBlank b then commandBody fuel s rest
      else if b == byte '\n' then
        commandBody fuel { s with pending := [], start := true } (skipBodies s.pending rest)
      else if b == byte '#' then commandBody fuel s (rest.dropWhile (· != byte '\n'))
      else if b == byte '\\' && rest.head? == some (byte '\n') then commandBody fuel s rest.tail
      else
        match operatorAt bs with
        | some o =>
          let after := bs.drop o.length
          if o == ")" then
            match s.frames with
            | [] => .ok after
            | .paren :: outer => commandBody fuel { s with frames := outer, start := true } after
            | .caseAt .patterns :: outer =>
              commandBody fuel { s with frames := .caseAt .arm :: outer, start := true } after
            | _ => .ok after
          else if o == "(" then
            match s.frames with
            | .caseAt .patterns :: _ => commandBody fuel s after
            | frames => commandBody fuel { s with frames := .paren :: frames, start := true } after
          else if o == ";;" then
            match s.frames with
            | .caseAt .arm :: outer =>
              commandBody fuel { s with frames := .caseAt .patterns :: outer, start := true } after
            | _ => commandBody fuel s.afterOperator after
          else if o == "<<" || o == "<<-" then
            let start := after.dropWhile isBlank
            let (delim, quoted, more) := delimiter (start.length + 1) [] false start
            commandBody fuel { s with pending := s.pending ++ [⟨delim, quoted, o == "<<-"⟩] } more
          else if redirectionOperators.contains o then do
            let (_, more) ← word fuel (after.dropWhile isBlank) []
            commandBody fuel s more
          else commandBody fuel s.afterOperator after
        | none => do
          let (w, after) ← word fuel bs []
          commandBody fuel (s.afterWord w) after

end

/-- Reads the text of a here-document whose delimiter was not quoted: expansions and the
escapes `\$`, `` \` ``, `\\` and an escaped line end; everything else, quotes included, stands
for itself. -/
def hereText (fuel : Nat) (bs : Bytes) (acc : Word) : Except String Word :=
  match fuel with
  | 0 => .error "Syntax error: too deep"
  | fuel + 1 =>
    match bs with
    | [] => pure acc
    | b :: rest =>
      if b == byte '$' then do
        let (p, after) ← dollar fuel true rest
        hereText fuel after (acc ++ [p])
      else if b == byte '`' then
        match backquoted (rest.length + 1) false [] rest with
        | some (script, after) => hereText fuel after (acc ++ [.command script true true])
        | none => .error "Syntax error: EOF in backquote substitution"
      else if b == byte '\\' then
        match rest with
        | c :: after =>
          if c == byte '\n' then hereText fuel after acc
          else if c == byte '$' || c == byte '\\' || c == byte '`' then
            hereText fuel after (pushText acc [c] true)
          else hereText fuel after (pushText acc [b, c] true)
        | [] => pure (pushText acc [b] true)
      else hereText fuel rest (pushText acc [b] true)

/-- The body of a here-document as a word. -/
def Pending.body (p : Pending) (text : Bytes) : Except String Word :=
  if p.quoted then pure [.text text true]
  else hereText (2 * text.length + 8) text [.text [] true]

/-- Reads the bodies of pending here-documents in turn: the bodies, what follows, and the lines
read; or the first error. -/
def readBodies (ps : List Pending) (bs : Bytes) : Except String (List Word × Bytes × Nat) :=
  ps.foldlM (fun (ws, rest, n) p => do
    let (text, rest, m) := bodyLines p (rest.length + 1) [] rest 0
    let w ← p.body text
    pure (ws ++ [w], rest, n + m)) ([], bs, 0)

/-- Cuts the bytes into tokens, from line `line`, with the here-documents of the current line
waiting for their bodies. -/
def tokens : Nat → Nat → List Pending → Bytes → List Token
  | 0, line, _, _ => [.bad "Syntax error: too long" line]
  | _, _, _, [] => []
  | fuel + 1, line, pending, b :: rest =>
    if isBlank b then tokens fuel line pending rest
    else if b == byte '\n' then
      if pending.isEmpty then .newline :: tokens fuel (line + 1) [] rest
      else
        match readBodies pending rest with
        | .ok (ws, after, n) => .newline :: .bodies ws :: tokens fuel (line + 1 + n) [] after
        | .error why => [.newline, .bad why (line + 1 + rest.count (byte '\n'))]
    else if b == byte '#' then tokens fuel line pending (rest.dropWhile (· != byte '\n'))
    else if b == byte '\\' && rest.head? == some (byte '\n') then tokens fuel (line + 1) pending rest.tail
    else
      match operatorAt (b :: rest) with
      | some o =>
        let after := (b :: rest).drop o.length
        if o == "<<" || o == "<<-" then
          let start := after.dropWhile isBlank
          let (delim, quoted, more) := delimiter (start.length + 1) [] false start
          if start.isEmpty || (start.head?.map endsWord).getD false then
            [.op o, .bad "Syntax error: newline unexpected" (line + 1)]
          else
            .op o :: .word [.text delim quoted] line ::
              tokens fuel line (pending ++ [⟨delim, quoted, o == "<<-"⟩]) more
        else .op o :: tokens fuel line pending after
      | none =>
        if isDigit b && (rest.head? == some (byte '<') || rest.head? == some (byte '>')) then
          .ioNumber (b.toNat - 48) :: tokens fuel line pending rest
        else
          match word (2 * (b :: rest).length + 8) (b :: rest) [] with
          | .ok (w, after) =>
            let used := (b :: rest).take ((b :: rest).length - after.length)
            .word w line :: tokens fuel (line + (used.filter (· == byte '\n')).length) pending after
          | .error why => [.bad why (line + (b :: rest).count (byte '\n'))]

/-- Puts each body of a here-document in place of its delimiter word on the line before. -/
def fill : List Token → List Word → List Token
  | .op o :: .word w line :: rest, ws =>
    if o == "<<" || o == "<<-" then .op o :: .here (ws.headD []) :: fill rest ws.tail
    else .op o :: .word w line :: fill rest ws
  | t :: rest, ws => t :: fill rest ws
  | [], _ => []
termination_by ts => ts.length

/-- Matches the bodies of here-documents with their operators, line by line. -/
def attach : Nat → List Token → List Token → List Token
  | 0, line, rest => line ++ rest
  | fuel + 1, line, rest =>
    match rest with
    | [] => fill line []
    | .newline :: .bodies ws :: more => fill line ws ++ [.newline] ++ attach fuel [] more
    | .newline :: more => fill line [] ++ [.newline] ++ attach fuel [] more
    | t :: more => attach fuel (line ++ [t]) more

/-- The tokens of a script; NUL bytes are dropped first, as the shell's input does. -/
def lex (script : Bytes) : List Token :=
  let script := script.filter (· != 0)
  let ts := tokens (script.length + 1) 1 [] script
  attach (ts.length + 1) [] ts

end Shell

end PoolServer
