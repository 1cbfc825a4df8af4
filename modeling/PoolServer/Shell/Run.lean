import PoolServer.Shell.Host
import PoolServer.Shell.Parser
/-!
# Shell scripts: running them

The interpreter proper. A script is read one complete command at a time, and each command runs
before the next is read, so a syntax error further down stops the script only when it is
reached.

A simple command expands its words (parameters, arithmetic, command substitution, field
splitting, pathname expansion), then opens its redirections, then runs: a function, a built-in
command, or a program of the host. Assignments in front of a special built-in command stay;
in front of anything else they hold for that command only, and are exported to a program.
Redirections hold for the command only, except in front of `exec` without a program.

Parentheses, pipelines, command substitutions and background commands run in a child: a copy
of the shell, whose changes to variables, options and descriptors stay in it. Only the world is
shared (the collected output, the streams, the disk). A pipeline runs its commands in turn, each
one's output written into a stream that the next reads.

With the `-e` option, a command that fails outside a condition ends the shell. The condition of
`if`, `while` and `until`, the commands before `&&` and `||`, and a command after `!` are
conditions; `eval`, functions and the commands of a pipeline or of parentheses that stand in a
condition run their commands as conditions too, while a background command never does.

When the shell ends, by `exit`, by an error of the shell, or at the end of the script, it runs
its `EXIT` trap. A signal the shell sends itself ends it at once unless trapped; a trapped one
runs its action after the command that sent it.

Every function of the interpreter takes fuel that bounds how deep commands nest, and a simple
command or round of a loop costs one of the shell's steps, so that every run ends.
-/
namespace PoolServer

namespace Shell

/-- The descriptors redirections changed, each with what it led to before. -/
abbrev Saved := List (Nat × Option Channel)

/-- Remembers what a descriptor leads to, unless it is remembered already. -/
def saveFd (saved : Saved) (fd : Nat) : Sh Saved := do
  if saved.any (·.1 == fd) then pure saved
  else pure (saved ++ [(fd, (← proc).channel? fd)])

/-- Puts back the descriptors redirections changed. -/
def restoreFds (saved : Saved) : Sh Unit := do
  for (fd, c) in saved.reverse do update fun p => p.setFd fd c

/-- Puts back variables that assignments in front of a command changed. -/
def restoreVars (undo : List (String × Option Var)) : Sh Unit :=
  update fun p => undo.foldl (fun p (n, old) =>
    match old with
    | some v => p.putVar n v
    | none => p.dropVar n) p

/-- Hands on what an action ended with. -/
def finishWith {α : Type} (r : Except Interrupt α) : Sh α :=
  match r with
  | .ok a => pure a
  | .error e => throw e

/-- Ends the shell when the `-e` option is on and a command that is not a condition failed. -/
def checkExit (tested : Bool) : Sh Unit := do
  let p ← proc
  if p.opts.errexit && !tested && p.status != 0 then throw .exited

/-- What a loop does after `break` or `continue` cut its body or condition short: `true` to stop,
`false` to go on with the next round. An interrupt meant for an outer loop, or for no loop, is
handed on. -/
def loopControl (e : Interrupt) : Sh Bool :=
  match e with
  | .breakLoops n => if n > 1 then throw (.breakLoops (n - 1)) else pure true
  | .continueLoops n => if n > 1 then throw (.continueLoops (n - 1)) else pure false
  | e => throw e

/-- Runs an action one loop deeper. -/
def inLoop (act : Sh Unit) : Sh Unit := do
  let depth := (← proc).loopDepth
  update fun p => { p with loopDepth := depth + 1 }
  let r ← attempt act
  update fun p => { p with loopDepth := depth }
  finishWith r

/-- Runs an action in a child of the shell: a copy of it with a number of its own, with its traps
reset except those that ignore a signal. Only the world comes back, and the child's status; a
child that a signal ended has status `128` plus the signal's number. Signals sent to the shell
while it waited reach it then. The child's number is the result, with the signal that ended it, if one did. -/
def isolate (act : Sh Unit) : Sh (Nat × Option Nat) := do
  let parent ← proc
  let child := parent.world.nextPid
  set { parent with traps := parent.traps.filter (·.2.isEmpty), pending := [], self := child,
                    ancestors := parent.self :: parent.ancestors,
                    world := { parent.world with nextPid := child + 1 } }
  let r ← attempt act
  let after ← proc
  let status := match r with
    | .error (.killed s) => 128 + s
    | _ => after.status % 256
  set { parent with world := after.world, steps := after.steps, status }
  match r with
  | .error .exhausted => throw .exhausted
  | _ => receiveSignals
  pure (child, match r with
    | .error (.killed s) => some s
    | _ => none)

/-- Traces a command when the `-x` option is on, on the error output as it was before the
command's own redirections. -/
def traceLine (err : Option Channel) (vals : List (String × Bytes)) (argv : List Bytes) :
    Sh Unit := do
  let p ← proc
  if p.opts.xtrace then
    let items := vals.map (fun (n, v) => bytesOf n ++ [byte '='] ++ v) ++ argv
    match err with
    | some c =>
      let _ ← writeChannel c
        ((p.param? "PS4").getD (bytesOf "+ ") ++ List.intercalate [byte ' '] items ++ [10])
    | none => pure ()

/-- The line of each token: that of the last word before it, with the line ends since. -/
def tokenLines : List Token → Nat → List Nat
  | [], _ => []
  | t :: rest, line =>
    let here := match t with
      | .word _ l => l
      | .bad _ l => l
      | _ => line
    here :: tokenLines rest (if t matches .newline then here + 1 else here)

/-- The line a syntax error is reported on, given the tokens of the whole text: that of the
token it was found at, the next one for a line end, and `lastLine` at the end of the text. -/
def errorLine (all : List Token) (e : SyntaxError) (lastLine : Nat) : Nat :=
  let line := ((tokenLines all 1).drop (all.length - e.rest.length)).headD lastLine
  match e.rest with
  | [] => lastLine
  | .newline :: _ => line + 1
  | _ => line

/-- The words that are reserved in the grammar. -/
def keywords : List String :=
  ["!", "\x7b", "\x7d", "case", "do", "done", "elif", "else", "esac", "fi", "for", "if", "in", "then",
   "until", "while"]

/-- How `command -v` (or, `verbose`, `type`) describes a name: nothing when it is no command. -/
def describeCommand (p : Proc) (name : Bytes) (verbose : Bool) : Option Bytes :=
  let phrase (what : String) : Bytes := name ++ bytesOf (" is " ++ what)
  if keywords.contains (asText name) then some (if verbose then phrase "a shell keyword" else name)
  else
    match lookupCommand p name false with
    | .function _ => some (if verbose then phrase "a shell function" else name)
    | .builtin special =>
      some (if verbose then phrase (if special then "a special shell builtin" else "a shell builtin")
        else name)
    | .program path =>
      match p.world.disk.walk path true with
      | .ok (_, .file _ _) =>
        some (if verbose then name ++ bytesOf " is " ++ Utf8.encode path else Utf8.encode path)
      | _ => none
    | .missing _ => none

/-- `type name…`. -/
def typeBuiltin (args : List Bytes) : Sh Unit := do
  let p ← proc
  let mut out : Bytes := []
  let mut status := 0
  for a in args do
    match describeCommand p a true with
    | some d => out := out ++ d ++ [10]
    | none =>
      out := out ++ a ++ bytesOf ": not found\n"
      status := 127
  emitOut out status

/-- The built-in commands that run no other command. -/
def plainBuiltin (name : String) (args : List Bytes) : Sh Unit :=
  match name with
  | ":" | "true" => setStatus 0
  | "false" => setStatus 1
  | "echo" => echoBuiltin args
  | "printf" => printfBuiltin args
  | "test" => testBuiltin false args
  | "[" => testBuiltin true args
  | "read" => readBuiltin args
  | "set" => setBuiltin args
  | "shift" => shiftBuiltin args
  | "export" => markBuiltin false args
  | "readonly" => markBuiltin true args
  | "unset" => unsetBuiltin args
  | "local" => localBuiltin args
  | "exit" => exitBuiltin args
  | "return" => returnBuiltin args
  | "break" => loopBuiltin false args
  | "continue" => loopBuiltin true args
  | "trap" => trapBuiltin args
  | "kill" => killBuiltin args
  | "wait" => waitBuiltin args
  | "cd" | "chdir" => cdBuiltin args
  | "pwd" => pwdBuiltin args
  | "fg" | "bg" => fail (bytesOf "No current job")
  | "times" => timesBuiltin
  | "umask" => umaskBuiltin args
  | "type" => typeBuiltin args
  | "ulimit" => emitOut (bytesOf "unlimited\n") 0
  | "getopts" => getoptsBuiltin args
  | _ => setStatus 0

/-! ## Starting a shell -/

/-- Where a shell reads its commands from. -/
inductive Source where
  /-- `sh -c text`. -/
  | text (script : Bytes)
  /-- A script file. -/
  | file (path : Bytes)
  /-- The standard input. -/
  | input

/-- What a shell's arguments ask for: where the commands come from, `$0`, the positional
parameters, and the options. -/
structure Invocation where
  source : Source
  name : Bytes
  args : List Bytes
  opts : Options

/-- Reads the arguments a shell was started with: options first (`-c` for a command text, `-s`
for the standard input, and the letters of `set`), then the command text or the script's path,
then `$0` after a command text, then the positional parameters. -/
def invocation (argv : List Bytes) : Except Bytes Invocation :=
  go (argv.length + 1) (argv.drop 1) Options.none false false
where
  go : Nat → List Bytes → Options → Bool → Bool → Except Bytes Invocation
    | 0, ws, o, c, s => finish ws o c s
    | fuel + 1, ws, o, c, s =>
      match ws with
      | w :: rest =>
        if w == bytesOf "--" || w == bytesOf "-" then finish rest o c s
        else
          match w with
          | d :: letters@(_ :: _) =>
            if d == byte '-' || d == byte '+' then
              let on := d == byte '-'
              let step (acc : Except Bytes (Options × Bool × Bool)) (l : UInt8) :
                  Except Bytes (Options × Bool × Bool) := do
                let (o, c, s) ← acc
                let ch := Char.ofNat l.toNat
                if ch == 'c' then pure (o, on, s)
                else if ch == 's' then pure (o, c, on)
                else if ch == 'i' || ch == 'l' || ch == 'o' then pure (o, c, s)
                else if "efnxvCau".toList.contains ch then pure (o.turn ch on, c, s)
                else throw (bytesOf "Illegal option " ++ [d, l])
              match letters.foldl step (.ok (o, c, s)) with
              | .ok (o, c, s) => go fuel rest o c s
              | .error m => .error m
            else finish ws o c s
          | _ => finish ws o c s
      | [] => finish [] o c s
  finish (ws : List Bytes) (o : Options) (c s : Bool) : Except Bytes Invocation :=
    let name0 := argv.headD (bytesOf "sh")
    if c then
      match ws with
      | text :: more => .ok ⟨.text text, more.headD name0, more.drop 1, o⟩
      | [] => .error (bytesOf "-c requires an argument")
    else
      match ws with
      | file :: more => if s then .ok ⟨.input, name0, ws, o⟩ else .ok ⟨.file file, file, more, o⟩
      | [] => .ok ⟨.input, name0, [], o⟩

/-- The settings `env` is given: `-i` to start from nothing, `-u name` to remove one, and
`name=value` words; then the command and its arguments. The environment, the command, or the
message for a bad option. -/
def envSettings (env : List (String × Bytes)) : Nat → List Bytes →
    Except Bytes (List (String × Bytes) × List Bytes)
  | 0, ws => .ok (env, ws)
  | fuel + 1, ws =>
    match ws with
    | w :: rest =>
      if w == bytesOf "-i" || w == bytesOf "-" then envSettings [] fuel rest
      else if w == bytesOf "--" then envSettings env 0 rest
      else if w == bytesOf "-u" then
        match rest with
        | n :: more => envSettings (env.filter (·.1 != asText n)) fuel more
        | [] => .error (bytesOf "env: option requires an argument -- 'u'\n")
      else if w.head? == some (byte '-') && w.length > 1 then
        .error (bytesOf "env: invalid option -- '" ++ (w.drop 1).take 1 ++ bytesOf "'\n")
      else if w.contains (byte '=') && w.head? != some (byte '=') then
        let n := asText (w.takeWhile (· != byte '='))
        let v := (w.dropWhile (· != byte '=')).drop 1
        envSettings ((env.filter (·.1 != n)) ++ [(n, v)]) fuel rest
      else .ok (env, ws)
    | [] => .ok (env, [])

/-- How many rounds a loop may take at most. -/
def loopLimit : Nat := 1000000

mutual

/-- Expands a word to pieces. `fields` tells whether the word is then split into fields, which
makes quoted `$@` give one field per parameter. -/
def expandWord : Nat → Bool → Word → Sh (List Piece)
  | 0, _, _ => throw .exhausted
  | fuel + 1, fields, w => do
    let mut acc : List Piece := []
    for part in w do
      acc := acc ++ (← expandPart fuel fields part)
    pure acc

/-- Expands one part of a word. -/
def expandPart : Nat → Bool → Part → Sh (List Piece)
  | 0, _, _ => throw .exhausted
  | _ + 1, _, .text bs quoted => pure (textPieces bs quoted)
  | fuel + 1, fields, .param name op word quoted => expandParam fuel fields name op word quoted
  | fuel + 1, _, .arith expr quoted => do
    let text := pieceBytes (← expandWord fuel false expr)
    pure (valuePieces (decimalInt (← arithmetic text)) quoted)
  | fuel + 1, _, .command script quoted backquoted => do
    pure (valuePieces (← substitute fuel script backquoted) quoted)

/-- Expands a parameter with its operator. -/
def expandParam : Nat → Bool → String → ParamOp → Word → Bool → Sh (List Piece)
  | 0, _, _, _, _, _ => throw .exhausted
  | fuel + 1, fields, name, op, word, quoted => do
    let p ← proc
    let many := name == "@" || name == "*"
    let value := p.param? name
    let isSet := if many then !p.args.isEmpty else value.isSome
    let present (colon : Bool) : Bool := isSet && (!colon || !(value.getD []).isEmpty)
    let ifs := (p.var? "IFS").bind (·.value)
    let guard : Sh Unit := do
      if !isSet && p.opts.nounset && !many && !(["#", "?", "$", "-", "0"].contains name) then
        fail (bytesOf (name ++ ": parameter not set"))
    let plain : Sh (List Piece) := do
      guard
      if many then pure (paramsPieces p.args ifs quoted fields (name == "@"))
      else pure (valuePieces (value.getD []) quoted)
    let alternative : Sh (List Piece) := do
      let ps ← expandWord fuel fields word
      pure ((if quoted then [Piece.anchor] else []) ++ (if quoted then ps else loosen ps))
    match op with
    | .plain => plain
    | .length =>
      guard
      pure (valuePieces (decimal (value.getD []).length) quoted)
    | .orElse colon => if present colon then plain else alternative
    | .ifSet colon => if present colon then alternative else pure (if quoted then [.anchor] else [])
    | .assign colon =>
      if present colon then plain
      else do
        let v := pieceBytes (← expandWord fuel false word)
        if !isNameBytes (bytesOf name) then fail (bytesOf (name ++ ": bad variable name"))
        setVar name v
        pure (valuePieces v quoted)
    | .orFail colon =>
      if present colon then plain
      else do
        let msg := pieceBytes (← expandWord fuel false word)
        let text := if word.isEmpty then
            bytesOf ("parameter not set" ++ if colon then " or null" else "")
          else msg
        fail (bytesOf (name ++ ": ") ++ text)
    | .dropPrefix longest => do
      let pat := patternOf (← expandWord fuel false word)
      guard
      pure (valuePieces (dropMatch true longest pat (value.getD [])) quoted)
    | .dropSuffix longest => do
      let pat := patternOf (← expandWord fuel false word)
      guard
      pure (valuePieces (dropMatch false longest pat (value.getD [])) quoted)
    | .bad => fail (bytesOf "Bad substitution")

/-- Runs a script in a child and gives its output, trailing line feeds and NUL bytes removed. -/
def substitute : Nat → Bytes → Bool → Sh Bytes
  | 0, _, _ => throw .exhausted
  | fuel + 1, script, backquoted => do
    let (p, id) := (← proc).newStream []
    set p
    let _ ← isolate (shellBody fuel (do
      update fun q => q.setFd 1 (some (.stream id false true))
      if backquoted then
        match backquoteBody (lex script) with
        | .ok (c, _) => runCommand fuel false c
        | .error e => fail (bytesOf e.message)
      else runScript fuel false script))
    let q ← proc
    let out := q.stream id
    set { q.dropStream id with substituted := some q.status }
    pure (dropTrailingNewlines (out.filter (· != 0)))

/-- Expands the words of a simple command to its fields. After `export`, `readonly` or `local`,
a word that is an assignment is taken whole, without splitting. -/
def expandArgs : Nat → List Word → Sh (List Bytes)
  | 0, _ => throw .exhausted
  | fuel + 1, words => do
    let mut out : List Bytes := []
    let mut declaring := false
    for w in words do
      if declaring && isAssignmentWord w then
        out := out ++ [pieceBytes (← expandWord fuel false w)]
      else
        let ps ← expandWord fuel true w
        let fs := fieldsOf (← proc) ps
        if out.isEmpty then
          declaring := match fs.head? with
            | some f => f == bytesOf "export" || f == bytesOf "readonly" || f == bytesOf "local"
            | none => false
        out := out ++ fs
    pure out

/-- Expands and makes assignments that stay, one after the other. -/
def assignValues : Nat → List (String × Word) → Sh (List (String × Bytes))
  | 0, _ => throw .exhausted
  | fuel + 1, assigns => do
    let mut out : List (String × Bytes) := []
    for (n, w) in assigns do
      let v := pieceBytes (← expandWord fuel false w)
      setVar n v
      out := out ++ [(n, v)]
    pure out

/-- Expands and makes assignments for one command, exported; the variables they change, with
what they were before. -/
def assignTemp : Nat → List (String × Word) →
    Sh (List (String × Bytes) × List (String × Option Var))
  | 0, _ => throw .exhausted
  | fuel + 1, assigns => do
    let mut out : List (String × Bytes) := []
    let mut undo : List (String × Option Var) := []
    for (n, w) in assigns do
      let v := pieceBytes (← expandWord fuel false w)
      let p ← proc
      if !undo.any (·.1 == n) then undo := undo ++ [(n, p.var? n)]
      match p.var? n with
      | some old =>
        if old.readonly then fail (bytesOf (n ++ ": is read only"))
        set (p.putVar n { old with value := some v, exported := true })
      | none => set (p.putVar n ⟨some v, true, false⟩)
      out := out ++ [(n, v)]
    pure (out, undo)

/-- Opens redirections in turn: the descriptors changed, and the message of the first that
failed. -/
def redirectAll : Nat → Saved → List Redirect → Sh (Saved × Option Bytes)
  | 0, _, _ => throw .exhausted
  | _ + 1, saved, [] => pure (saved, none)
  | fuel + 1, saved, r :: rs => do
    let (saved, err) ← redirectOne fuel saved r
    match err with
    | some m => pure (saved, some m)
    | none => redirectAll fuel saved rs

/-- Opens one redirection. -/
def redirectOne : Nat → Saved → Redirect → Sh (Saved × Option Bytes)
  | 0, _, _ => throw .exhausted
  | fuel + 1, saved, r => do
    let attach (fd : Nat) (c : Option Channel) : Sh (Saved × Option Bytes) := do
      let saved ← saveFd saved fd
      update fun p => p.setFd fd c
      pure (saved, none)
    match r with
    | .output fd path append force =>
      let target := pieceBytes (← expandWord fuel false path)
      match ← openPath target false true append force with
      | .ok c => attach fd (some c)
      | .error e => pure (saved, some (openError true target e))
    | .input fd path =>
      let target := pieceBytes (← expandWord fuel false path)
      match ← openPath target true false false false with
      | .ok c => attach fd (some c)
      | .error e => pure (saved, some (openError false target e))
    | .both fd path =>
      let target := pieceBytes (← expandWord fuel false path)
      match ← openPath target true true true false with
      | .ok c => attach fd (some c)
      | .error e => pure (saved, some (openError true target e))
    | .dup fd target _ =>
      let t := pieceBytes (← expandWord fuel false target)
      if t == [byte '-'] then attach fd none
      else if !t.isEmpty && t.all isDigit then
        match (← proc).channel? (decimalValue t) with
        | some c => attach fd (some c)
        | none => pure (saved, some (t ++ bytesOf ": Bad file descriptor"))
      else pure (saved, some (bytesOf "Bad fd number"))
    | .here fd body =>
      let text := pieceBytes (← expandWord fuel false body)
      let (p, id) := (← proc).newStream text
      set p
      attach fd (some (.stream id true false))

/-- Runs a command. `tested` tells whether it is a condition, which the `-e` option spares. -/
def runCommand : Nat → Bool → Command → Sh Unit
  | 0, _, _ => throw .exhausted
  | fuel + 1, tested, c => do
    if (← proc).opts.noexec then return
    match c with
    | .simple assigns words rs line => runSimple fuel tested assigns words rs line
    | .seq a b =>
      runCommand fuel tested a
      runCommand fuel tested b
    | .background c =>
      let (pid, signal) ← isolate (shellBody fuel (do
        update fun p => p.setFd 0 (some (.device .null))
        runCommand fuel false c))
      let st := (← proc).status
      update fun p => { p with jobs := p.jobs ++ [⟨pid, st, signal⟩], lastBackground := some pid,
                               status := 0 }
    | .andThen a b =>
      runCommand fuel true a
      if (← proc).status == 0 then runCommand fuel tested b
    | .orElse a b =>
      runCommand fuel true a
      if (← proc).status != 0 then runCommand fuel tested b
    | .negate c =>
      runCommand fuel true c
      setStatus (if (← proc).status == 0 then 1 else 0)
    | .pipe a b =>
      let (p, id) := (← proc).newStream []
      set p
      let _ ← isolate (shellBody fuel (do
        update fun q => q.setFd 1 (some (.stream id false true))
        runCommand fuel tested a))
      let _ ← isolate (shellBody fuel (do
        update fun q => q.setFd 0 (some (.stream id true false))
        runCommand fuel tested b))
      update fun q => q.dropStream id
      runTraps fuel
      checkExit tested
    | .loop whileTrue cond body => inLoop (loopRounds fuel tested whileTrue cond body)
    | .cond t yes no =>
      runCommand fuel true t
      if (← proc).status == 0 then runCommand fuel tested yes else runCommand fuel tested no
    | .forEach name ws body =>
      let values ← match ws with
        | some ws => do
          let mut out : List Bytes := []
          for w in ws do
            out := out ++ fieldsOf (← proc) (← expandWord fuel true w)
          pure out
        | none => pure (← proc).args
      inLoop (forRounds fuel tested name values body)
    | .caseOf subject arms =>
      let s := pieceBytes (← expandWord fuel false subject)
      let mut chosen : Option Command := none
      for (pats, body) in arms do
        if chosen.isSome then break
        for pw in pats do
          if chosen.isNone then
            let pat := patternOf (← expandWord fuel false pw)
            if patternMatches pat s then chosen := some body
      match chosen with
      | some body => runCommand fuel tested body
      | none => setStatus 0
    | .subshell c =>
      let _ ← isolate (shellBody fuel (runCommand fuel tested c))
      runTraps fuel
      checkExit tested
    | .redirected c rs =>
      let (saved, err) ← redirectAll fuel [] rs
      match err with
      | some msg =>
        restoreFds saved
        complain msg
        setStatus 2
        checkExit tested
      | none =>
        let r ← attempt (runCommand fuel tested c)
        restoreFds saved
        finishWith r
    | .function name body =>
      update fun p => { p with funcs := (name, body) :: p.funcs.filter (·.1 != name) }
      setStatus 0
    | .skip => setStatus 0

/-- The rounds of `while` (or `until`): the condition, then the body while it holds. The status
is that of the last body run, zero when none ran. -/
def loopRounds : Nat → Bool → Bool → Command → Command → Sh Unit
  | 0, _, _, _, _ => throw .exhausted
  | fuel + 1, tested, whileTrue, cond, body => do
    let mut status := 0
    for _ in [0:loopLimit] do
      tick
      let r ← attempt (runCommand fuel true cond)
      match r with
      | .error e => if ← loopControl e then break else continue
      | .ok _ => pure ()
      if ((← proc).status == 0) != whileTrue then break
      let r ← attempt (runCommand fuel tested body)
      status := (← proc).status
      match r with
      | .error e => if ← loopControl e then break else continue
      | .ok _ => pure ()
    setStatus status

/-- The rounds of `for`: the body once for each value. -/
def forRounds : Nat → Bool → String → List Bytes → Command → Sh Unit
  | 0, _, _, _, _ => throw .exhausted
  | fuel + 1, tested, name, values, body => do
    let mut status := 0
    for v in values do
      tick
      setVar name v
      let r ← attempt (runCommand fuel tested body)
      status := (← proc).status
      match r with
      | .error e => if ← loopControl e then break else continue
      | .ok _ => pure ()
    setStatus status

/-- Runs a simple command. -/
def runSimple : Nat → Bool → List (String × Word) → List Word → List Redirect → Nat → Sh Unit
  | 0, _, _, _, _, _ => throw .exhausted
  | fuel + 1, tested, assigns, words, rs, line => do
    tick
    update fun p => { p with line, substituted := none }
    let argv ← expandArgs fuel words
    let errBefore := (← proc).channel? 2
    let (saved, err) ← redirectAll fuel [] rs
    match err with
    | some msg =>
      restoreFds saved
      complain msg
      setStatus 2
      let p ← proc
      let special := match argv.head? with
        | some n => match lookupCommand p n false with
          | .builtin true => true
          | _ => false
        | none => false
      if special then throw .failed
      checkExit tested
    | none =>
      match argv with
      | [] =>
        let r ← attempt (do
          let vals ← assignValues fuel assigns
          traceLine errBefore vals [])
        restoreFds saved
        finishWith r
        setStatus ((← proc).substituted.getD 0)
        checkExit tested
      | name :: args =>
        let target := lookupCommand (← proc) name false
        let special := match target with
          | .builtin true => true
          | _ => false
        let r ← attempt (do
          if special then
            let vals ← assignValues fuel assigns
            traceLine errBefore vals argv
            runTarget fuel tested target name args
          else
            let (vals, undo) ← assignTemp fuel assigns
            traceLine errBefore vals argv
            let r ← attempt (runTarget fuel tested target name args)
            restoreVars undo
            match r with
            | .error .failed =>
              match target with
              | .builtin false => pure ()
              | _ => throw .failed
            | r => finishWith r)
        let keep := special && name == bytesOf "exec" && args.isEmpty
        if !keep then restoreFds saved
        finishWith r
        checkExit tested
        runTraps fuel

/-- Runs what a command name led to. -/
def runTarget : Nat → Bool → Target → Bytes → List Bytes → Sh Unit
  | 0, _, _, _, _ => throw .exhausted
  | fuel + 1, tested, target, name, args =>
    match target with
    | .function body => callFunction fuel tested body args
    | .builtin _ => runBuiltin fuel tested name args
    | .program path => do runProgram fuel false path (name :: args) (← proc).environment
    | .missing e => do
      complain (name ++ bytesOf (": " ++ execMessage e))
      setStatus (execStatus e)

/-- Calls a function with positional parameters; its `local` variables are put back after. -/
def callFunction : Nat → Bool → Command → List Bytes → Sh Unit
  | 0, _, _, _ => throw .exhausted
  | fuel + 1, tested, body, args => do
    let p ← proc
    set { p with args, loopDepth := 0, funcDepth := p.funcDepth + 1, frames := [] :: p.frames,
                 optind := 1, optoff := none }
    let r ← attempt (runCommand fuel tested body)
    let q ← proc
    let frame := q.frames.headD []
    let q := frame.foldl (fun q (n, old) =>
      match old with
      | some v => q.putVar n v
      | none => q.dropVar n) q
    set { q with args := p.args, loopDepth := p.loopDepth, funcDepth := p.funcDepth,
                 frames := q.frames.drop 1, optind := p.optind, optoff := p.optoff }
    match r with
    | .error .returned => pure ()
    | r => finishWith r

/-- Runs a built-in command, which the shell's messages name while it runs. -/
def runBuiltin : Nat → Bool → Bytes → List Bytes → Sh Unit
  | 0, _, _, _ => throw .exhausted
  | fuel + 1, tested, name, args => do
    let saved := (← proc).command
    update fun p => { p with command := some name }
    let r ← attempt (builtinBody fuel tested name args)
    update fun p => { p with command := saved }
    finishWith r

/-- The built-in commands, those that run other commands among them. -/
def builtinBody : Nat → Bool → Bytes → List Bytes → Sh Unit
  | 0, _, _, _ => throw .exhausted
  | fuel + 1, tested, name, args =>
    match asText name with
    | "eval" => do
      setStatus 0
      if !args.isEmpty then
        runScript fuel tested (List.intercalate [byte ' '] args)
    | "." => do
      match args with
      | [] => setStatus 0
      | file :: _ =>
        let p ← proc
        let found : Option String :=
          if file.contains (byte '/') then pathOf? file
          else match searchPath p.world.disk ((p.param? "PATH").getD defaultPath) file with
            | .program s => some s
            | _ => none
        match found with
        | none => fail (file ++ bytesOf ": not found")
        | some s =>
          match p.world.disk.read s with
          | .error e =>
            let why := match e with
              | .os .noEntry | .os .notDir => "No such file"
              | .os e => e.description
              | e => e.message
            fail (bytesOf ("cannot open " ++ s ++ ": " ++ why))
          | .ok text =>
            setStatus 0
            update fun p => { p with command := some (Utf8.encode s) }
            let r ← attempt (runScript fuel tested text)
            match r with
            | .error .returned => pure ()
            | r => finishWith r
    | "exec" => do
      match args with
      | [] => setStatus 0
      | prog :: _ =>
        let p ← proc
        let target : Target :=
          if prog.contains (byte '/') then
            match pathOf? prog with
            | some s => .program s
            | none => .missing .noEntry
          else searchPath p.world.disk ((p.param? "PATH").getD defaultPath) prog
        match target with
        | .program path =>
          update fun p => { p with traps := [] }
          runProgram fuel true path args p.environment
          throw .exited
        | .missing e =>
          complain (prog ++ bytesOf (": " ++ execMessage e))
          setStatus (execStatus e)
          throw .exited
        | _ => setStatus 0
    | "command" => do
      let (opts, rest) ← options "pvV" args
      if opts.any (fun o => o.1 == 'v' || o.1 == 'V') then
        let verbose := opts.any (·.1 == 'V')
        match rest with
        | [] => setStatus 0
        | n :: _ =>
          match describeCommand (← proc) n verbose with
          | some d => emitOut (d ++ [10]) 0
          | none =>
            if verbose then emitOut (n ++ bytesOf ": not found\n") 127 else setStatus 127
      else
        match rest with
        | [] => setStatus 0
        | n :: more =>
          let target := lookupCommand (← proc) n true
          let r ← attempt (runTarget fuel tested target n more)
          match r with
          | .error .failed => pure ()
          | r => finishWith r
    | n => plainBuiltin n args

/-- Starts the program at a path with its arguments and environment, and waits for it. A file in
no format the system runs is run by the shell as a script. The failure to start is reported with
the program's name. When `propagate`, a signal that ends the program ends this process too, as
when `exec` replaced it. -/
def runProgram : Nat → Bool → String → List Bytes → List (String × Bytes) → Sh Unit
  | 0, _, _, _, _ => throw .exhausted
  | fuel + 1, propagate, path, argv, env => do
    let p ← proc
    match resolveExec p.world.disk interpreterDepth path argv with
    | .ok (prog, argv) => hostProgram fuel propagate prog argv env
    | .error .execFormat =>
      hostProgram fuel propagate .shell ([bytesOf "/bin/sh", Utf8.encode path] ++ argv.drop 1) env
    | .error e =>
      complain (argv.headD [] ++ bytesOf (": " ++ execMessage e))
      setStatus (execStatus e)

/-- Runs one of the host's programs. -/
def hostProgram : Nat → Bool → Program → List Bytes → List (String × Bytes) → Sh Unit
  | 0, _, _, _, _ => throw .exhausted
  | fuel + 1, propagate, prog, argv, env =>
    match prog with
    | .shell => runShell fuel propagate argv env
    | .succeed => setStatus 0
    | .fail => setStatus 1
    | .echo => gnuEcho (argv.drop 1)
    | .cat => gnuCat (argv.drop 1)
    | .sleep => gnuSleep (argv.drop 1)
    | .env => envProgram fuel propagate (argv.drop 1) env

/-- The host's `env`: runs a command with a changed environment, or lists the environment. -/
def envProgram : Nat → Bool → List Bytes → List (String × Bytes) → Sh Unit
  | 0, _, _, _ => throw .exhausted
  | fuel + 1, propagate, args, env => do
    match envSettings env (args.length + 1) args with
    | .error msg =>
      let _ ← writeFd 2 (msg ++ bytesOf "Try 'env --help' for more information.\n")
      setStatus 125
    | .ok (env, []) =>
      programOut "env" (env.flatMap fun (n, v) => bytesOf n ++ [byte '='] ++ v ++ [10]) 0
    | .ok (env, cmd :: more) =>
      let p ← proc
      let searched : Target :=
        if cmd.contains (byte '/') then
          match pathOf? cmd with
          | some s => .program s
          | none => .missing .noEntry
        else
          let path := ((env.find? (·.1 == "PATH")).map (·.2)).getD (bytesOf "/bin:/usr/bin")
          searchPath p.world.disk path cmd
      let failed (e : Errno) : Sh Unit := do
        let _ ← writeFd 2 (bytesOf "env: '" ++ cmd ++ bytesOf ("': " ++ e.description ++ "\n"))
        setStatus (if e == .noEntry || e == .notDir then 127 else 126)
      match searched with
      | .program path =>
        match resolveExec p.world.disk interpreterDepth path (cmd :: more) with
        | .error .execFormat => runProgram fuel propagate path (cmd :: more) env
        | .error e => failed e
        | .ok _ => runProgram fuel propagate path (cmd :: more) env
      | .missing e => failed e
      | _ => failed .noEntry

/-- Runs a new shell process with the given arguments and environment. It shares the
descriptors it is given and the world; its status comes back, `128` plus the signal's number
when a signal ended it. -/
def runShell : Nat → Bool → List Bytes → List (String × Bytes) → Sh Unit
  | 0, _, _, _ => throw .exhausted
  | fuel + 1, propagate, argv, env => do
    let parent ← proc
    let pid := parent.world.nextPid
    let world := { parent.world with nextPid := pid + 1 }
    let name0 := argv.headD (bytesOf "sh")
    match invocation argv with
    | .error msg =>
      let _ ← writeFd 2 (name0 ++ bytesOf ": 0: " ++ msg ++ [10])
      setStatus 2
    | .ok inv =>
      let child := Proc.fresh world env inv.name inv.args parent.fds pid
      set { child with steps := parent.steps, opts := inv.opts,
                       ancestors := parent.self :: parent.ancestors }
      let r ← attempt (do
        let script ← match inv.source with
          | .text t => pure t
          | .file f =>
            let q ← proc
            match (pathOf? f).map (q.world.disk.read ·) with
            | some (.ok bs) => pure bs
            | other =>
              let why := match other with
                | some (.error (.os .noEntry)) | some (.error (.os .notDir)) | none => "No such file"
                | some (.error (.os e)) => e.description
                | _ => "No such file"
              let _ ← writeFd 2 (name0 ++ bytesOf ": 0: cannot open " ++ f ++ bytesOf (": " ++ why) ++ [10])
              setStatus 2
              throw .exited
          | .input =>
            match (← proc).channel? 0 with
            | some c =>
              match ← drainChannel c with
              | .ok bs => pure bs
              | .error _ => pure []
            | none => pure []
        shellBody fuel (runScript fuel false script))
      let after ← proc
      let status := match r with
        | .error (.killed s) => 128 + s
        | _ => after.status % 256
      set { parent with world := after.world, steps := after.steps, status }
      match r with
      | .error (.killed s) =>
        if propagate then throw (.killed s)
        else
          if s != 2 && s != 13 then
            let _ ← writeFd 2 (bytesOf (signalDescription s ++ "\n"))
          receiveSignals
      | .error .exhausted => throw .exhausted
      | _ => receiveSignals

/-- Runs the commands of a text in the shell, one complete command at a time. -/
def runScript : Nat → Bool → Bytes → Sh Unit
  | 0, _, _ => throw .exhausted
  | fuel + 1, tested, text => runTokens fuel tested (1 + text.count 10) (lex text)

/-- Runs commands from tokens, reading each complete command before running it. A syntax error
is reported on its line; `lastLine` is the line the text ends on. -/
def runTokens : Nat → Bool → Nat → List Token → Sh Unit
  | 0, _, _, _ => throw .exhausted
  | fuel + 1, tested, lastLine, ts => do
    let mut rest := ts
    for _ in [0:ts.length + 1] do
      match nextCommand rest with
      | .error e =>
        update fun p => { p with line := errorLine ts e lastLine, command := none }
        fail (bytesOf e.message)
      | .ok none => break
      | .ok (some (c, more)) =>
        rest := more
        runCommand fuel tested c

/-- Runs the body of a shell process, then its `EXIT` trap. -/
def shellBody : Nat → Sh Unit → Sh Unit
  | 0, _ => throw .exhausted
  | fuel + 1, act => do
    let r ← attempt act
    match r with
    | .error (.killed s) => throw (.killed s)
    | .error .exhausted => throw .exhausted
    | _ => exitTrap fuel

/-- Runs the `EXIT` trap once. The status stays that of the shell, unless the trap exits. -/
def exitTrap : Nat → Sh Unit
  | 0 => throw .exhausted
  | fuel + 1 => do
    let p ← proc
    match p.traps.find? (·.1 == 0) with
    | some (_, act) =>
      set { p with traps := p.traps.filter (·.1 != 0) }
      if !act.isEmpty then
        let r ← attempt (runScript fuel false act)
        match r with
        | .error (.killed s) => throw (.killed s)
        | .error .exhausted => throw .exhausted
        | .error .exited | .error .failed => pure ()
        | _ => setStatus p.status
    | none => pure ()

/-- Runs the actions of trapped signals that came, with the status put back after each; a
signal whose trap was reset since ends the shell. -/
def runTraps : Nat → Sh Unit
  | 0 => throw .exhausted
  | fuel + 1 => do
    let p ← proc
    if !p.pending.isEmpty then
      set { p with pending := [] }
      for s in p.pending do
        let q ← proc
        match q.traps.find? (·.1 == s) with
        | some (_, act) =>
          if !act.isEmpty then
            runScript fuel false act
            setStatus q.status
        | none =>
          if !(ignoredByDefault s || stopsByDefault s) then throw (.killed s)

end

/-- What a program the server started left behind: the world after it, its exit status, and the
signal that ended it, if one did. -/
structure Ending where
  world : World
  status : Nat
  signal : Option Nat

/-- How deep commands may nest. -/
def launchFuel : Nat := 10000

/-- How many simple commands and rounds of loops a program may run. -/
def stepLimit : Nat := 2000000

/-- Starts the program at a path, as the server does, with the given environment; its standard
input reads nothing. The error when the system cannot start it. -/
def launch (disk : Disk) (path : String) (env : List (String × Bytes)) : Except Errno Ending :=
  let disk := { disk with privileged := true }
  match resolveExec disk interpreterDepth path [Utf8.encode path] with
  | .error e => .error e
  | .ok (prog, argv) =>
    let world : World := ⟨[], [], [], 0, disk, 2, []⟩
    let fds : List (Nat × Channel) := [(0, .device .null), (1, .stdout), (2, .stderr)]
    let start := { Proc.fresh world env (argv.headD []) [] fds 1 with steps := stepLimit }
    let (r, p) := Id.run ((hostProgram launchFuel true prog argv env).run.run start)
    match r with
    | .error (.killed s) => .ok ⟨p.world, 0, some s⟩
    | _ => .ok ⟨p.world, p.status % 256, none⟩

end Shell

end PoolServer
