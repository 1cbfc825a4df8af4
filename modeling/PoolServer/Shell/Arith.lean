import PoolServer.Shell.Lexer
import PoolServer.Text.Whole
/-!
# Shell scripts: arithmetic

Evaluates the expression of an arithmetic expansion `$((…))` on signed 64-bit integers. The
operators and precedence are those of C:

* unary `+ - ! ~`, then `* / %`, `+ -`, `<< >>`, `< <= > >=`, `== !=`, `&`, `^` and `|`;
* `&&` and `||`, the conditional `?:`, and the assignments `=`, `+=`, … .

Numbers are read as C's `strtoimax` reads them: decimal, octal after a leading `0`, hexadecimal
after `0x`, and clamped to the 64-bit range. A name stands for its variable's value read the same
way. The value may have blanks around it, and is zero when unset or empty. A value that is not
wholly a number, or out of range, is an error.

Shift counts are taken modulo 64 and `>>` keeps the sign, as the processor does. The branch that
`&&`, `||` or `?:` skips is read but not evaluated: it reads no variable, assigns nothing and
does not fail on a division by zero. Dividing the least 64-bit value by `-1` faults the processor.
-/
namespace PoolServer

namespace Shell

/-- A token of an arithmetic expression. -/
inductive ArithToken where
  | num (value : Int)
  | name (n : String)
  | op (text : String)
  /-- A byte that starts no token. -/
  | bad
  deriving DecidableEq

/-- Wraps an integer to a signed 64-bit word. -/
def wrap64 (x : Int) : Int := Int.bmod x (Nat.pow 2 64)

/-- The 64-bit two's complement word of an integer, as a natural number. -/
def word64 (x : Int) : Nat := (x % Int.pow 2 64).toNat

/-- Applies a bitwise operation to two integers as 64-bit words. -/
def bitwise (f : Nat → Nat → Nat) (a b : Int) : Int := wrap64 (f (word64 a) (word64 b))

/-- The operators, longest first. -/
def arithOperators : List String :=
  ["<<=", ">>=", "<<", ">>", "<=", ">=", "==", "!=", "&&", "||", "+=", "-=", "*=", "/=", "%=",
   "&=", "^=", "|=", "+", "-", "*", "/", "%", "<", ">", "&", "^", "|", "!", "~", "?", ":", "=",
   "(", ")"]

/-- Cuts an expression into tokens; a byte that starts no token ends the list with `bad`. -/
def arithTokens : Nat → Bytes → List ArithToken
  | 0, _ => [.bad]
  | _, [] => []
  | fuel + 1, b :: rest =>
    if b == byte ' ' || b == byte '\t' || b == byte '\n' then arithTokens fuel rest
    else if isDigit b then
      let r := Whole.read 0 (b :: rest)
      .num r.signed.1 :: arithTokens fuel ((b :: rest).drop r.used)
    else if isNameStart b then
      let text := (b :: rest).takeWhile isNameByte
      .name (asText text) :: arithTokens fuel ((b :: rest).drop text.length)
    else
      match arithOperators.find? fun o => (b :: rest).take o.length == o.toList.map byte with
      | some o => .op o :: arithTokens fuel ((b :: rest).drop o.length)
      | none => [.bad]

/-- Why an expression failed. -/
inductive ArithFailure where
  /-- An error, with the shell's message, which names the expression. -/
  | message (text : String)
  /-- An error whose message stands alone. -/
  | bare (text : String)
  /-- The processor faulted on a division. -/
  | fault

/-- The binding strength of a binary operator; stronger binds tighter. -/
def binaryPrecedence : String → Option Nat
  | "*" | "/" | "%" => some 10
  | "+" | "-" => some 9
  | "<<" | ">>" => some 8
  | "<" | "<=" | ">" | ">=" => some 7
  | "==" | "!=" => some 6
  | "&" => some 5
  | "^" => some 4
  | "|" => some 3
  | "&&" => some 2
  | "||" => some 1
  | _ => none

/-- Applies a binary operator. -/
def applyBinary (o : String) (a b : Int) : Except ArithFailure Int :=
  let bool (p : Bool) : Int := if p then 1 else 0
  let least : Int := -(Int.pow 2 63)
  match o with
  | "*" => pure (wrap64 (a * b))
  | "/" => if b = 0 then .error (.message "division by zero")
           else if a == least && b == -1 then .error .fault
           else pure (wrap64 (Int.tdiv a b))
  | "%" => if b = 0 then .error (.message "division by zero")
           else if a == least && b == -1 then .error .fault
           else pure (wrap64 (Int.tmod a b))
  | "+" => pure (wrap64 (a + b))
  | "-" => pure (wrap64 (a - b))
  | "<<" => pure (wrap64 (a * Int.pow 2 (Int.emod b 64).toNat))
  | ">>" => pure (Int.fdiv a (Int.pow 2 (Int.emod b 64).toNat))
  | "<" => pure (bool (a < b))
  | "<=" => pure (bool (a ≤ b))
  | ">" => pure (bool (a > b))
  | ">=" => pure (bool (a ≥ b))
  | "==" => pure (bool (a == b))
  | "!=" => pure (bool (a != b))
  | "&" => pure (bitwise (· &&& ·) a b)
  | "^" => pure (bitwise (· ^^^ ·) a b)
  | "|" => pure (bitwise (· ||| ·) a b)
  | "&&" => pure (bool (a != 0 && b != 0))
  | "||" => pure (bool (a != 0 || b != 0))
  | _ => .error (.message "syntax error")

/-- Variables as an expression sees them: a value by name, and the assignments made. -/
structure ArithEnv where
  get : String → Option Bytes
  set : List (String × Int) := []

/-- Reads a variable's value as a number: blanks may stand around it, and an empty value is
zero. -/
def numberValue (bs : Bytes) : Option Int :=
  let r := Whole.read 0 bs
  let (v, overflow) := r.signed
  if overflow || !(bs.drop r.used).all Whole.isSpace then none else some v

/-- The number a variable holds. -/
def ArithEnv.value (env : ArithEnv) (n : String) : Except ArithFailure Int :=
  match env.set.find? (·.1 == n) with
  | some (_, v) => pure v
  | none =>
    match env.get n with
    | none => pure 0
    | some bs =>
      match numberValue bs with
      | some v => pure v
      | none => .error (.bare ("Illegal number: " ++ asText bs))

/-- Records an assignment. -/
def ArithEnv.assign (env : ArithEnv) (n : String) (v : Int) : ArithEnv :=
  { env with set := (n, v) :: env.set.filter (·.1 != n) }

mutual

/-- Reads and evaluates an assignment expression (the loosest level). -/
def assignExpr (fuel : Nat) (live : Bool) (env : ArithEnv) (ts : List ArithToken) :
    Except ArithFailure (Int × ArithEnv × List ArithToken) :=
  match fuel with
  | 0 => .error (.message "expression too deep")
  | fuel + 1 =>
    match ts with
    | .name n :: .op o :: rest =>
      if ["=", "+=", "-=", "*=", "/=", "%=", "<<=", ">>=", "&=", "^=", "|="].contains o then do
        let (rhs, env, rest) ← assignExpr fuel live env rest
        if !live then pure (rhs, env, rest)
        else
          let v ← if o == "=" then pure rhs
            else do applyBinary (String.ofList o.toList.dropLast) (← env.value n) rhs
          pure (v, env.assign n v, rest)
      else conditional fuel live env ts
    | _ => conditional fuel live env ts

/-- Reads and evaluates `a ? b : c`, or a binary expression. -/
def conditional (fuel : Nat) (live : Bool) (env : ArithEnv) (ts : List ArithToken) :
    Except ArithFailure (Int × ArithEnv × List ArithToken) :=
  match fuel with
  | 0 => .error (.message "expression too deep")
  | fuel + 1 => do
    let (c, env, rest) ← binary fuel 1 live env ts
    match rest with
    | .op "?" :: rest => do
      let (a, env, rest) ← assignExpr fuel (live && c != 0) env rest
      match rest with
      | .op ":" :: rest => do
        let (b, env, rest) ← conditional fuel (live && c == 0) env rest
        pure (if c != 0 then a else b, env, rest)
      | _ => .error (.message "expecting ':'")
    | _ => pure (c, env, rest)

/-- Reads and evaluates binary operators that bind at least as strongly as `minPrec`. -/
def binary (fuel : Nat) (minPrec : Nat) (live : Bool) (env : ArithEnv) (ts : List ArithToken) :
    Except ArithFailure (Int × ArithEnv × List ArithToken) :=
  match fuel with
  | 0 => .error (.message "expression too deep")
  | fuel + 1 => do
    let (lhs, env, rest) ← unary fuel live env ts
    binaryRest fuel minPrec live env lhs rest

/-- Continues a binary expression after its left operand. -/
def binaryRest (fuel : Nat) (minPrec : Nat) (live : Bool) (env : ArithEnv) (lhs : Int)
    (ts : List ArithToken) : Except ArithFailure (Int × ArithEnv × List ArithToken) :=
  match fuel with
  | 0 => .error (.message "expression too deep")
  | fuel + 1 =>
    match ts with
    | .op o :: rest =>
      match binaryPrecedence o with
      | some p =>
        if p < minPrec then pure (lhs, env, ts)
        else do
          let rhsLive := if o == "&&" then live && lhs != 0
            else if o == "||" then live && lhs == 0 else live
          let (rhs, env, rest) ← binary fuel (p + 1) rhsLive env rest
          let v ← if rhsLive then applyBinary o lhs rhs
            else if o == "&&" || o == "||" then applyBinary o lhs rhs else pure rhs
          binaryRest fuel minPrec live env v rest
      | none => pure (lhs, env, ts)
    | _ => pure (lhs, env, ts)

/-- Reads and evaluates a unary expression or an operand. -/
def unary (fuel : Nat) (live : Bool) (env : ArithEnv) (ts : List ArithToken) :
    Except ArithFailure (Int × ArithEnv × List ArithToken) :=
  match fuel with
  | 0 => .error (.message "expression too deep")
  | fuel + 1 =>
    match ts with
    | .op "-" :: rest => do
      let (v, env, rest) ← unary fuel live env rest
      pure (wrap64 (-v), env, rest)
    | .op "+" :: rest => unary fuel live env rest
    | .op "!" :: rest => do
      let (v, env, rest) ← unary fuel live env rest
      pure (if v == 0 then 1 else 0, env, rest)
    | .op "~" :: rest => do
      let (v, env, rest) ← unary fuel live env rest
      pure (-v - 1, env, rest)
    | .op "(" :: rest => do
      let (v, env, rest) ← assignExpr fuel live env rest
      match rest with
      | .op ")" :: rest => pure (v, env, rest)
      | _ => .error (.message "expecting ')'")
    | .num v :: rest => pure (wrap64 v, env, rest)
    | .name n :: rest => if live then do pure (← env.value n, env, rest) else pure (0, env, rest)
    | _ => .error (.message "expecting primary")

end

/-- Evaluates an arithmetic expression: its value and the assignments it made, latest first.
A message names the expression, as the shell writes it. -/
def evalArith (get : String → Option Bytes) (expr : Bytes) :
    Except ArithFailure (Int × List (String × Int)) :=
  let ts := arithTokens (expr.length + 1) expr
  let named : ArithFailure → ArithFailure
    | .message m => .message ("arithmetic expression: " ++ m ++ ": \"" ++ asText expr ++ "\"")
    | e => e
  if ts.isEmpty then pure (0, [])
  else
    match assignExpr (4 * ts.length + 8) true { get } ts with
    | .error e => .error (named e)
    | .ok (v, env, rest) =>
      if rest.isEmpty then pure (v, env.set) else .error (named (.message "expecting EOF"))

example : (match evalArith (fun _ => some ("41".toList.map byte)) ("i+1".toList.map byte) with
    | .ok (v, _) => v
    | .error _ => 0) = 42 := by decide

end Shell

end PoolServer
