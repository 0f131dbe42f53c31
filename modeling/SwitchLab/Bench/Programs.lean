import SwitchLab.Bench.Script
import SwitchLab.Command
import SwitchLab.Text.Utf8
/-!
The programs of a small host: a shell and a few others. They read no files and know nothing of
each other but what goes through a pipe.
-/
namespace SwitchLab.Programs

abbrev Bytes := List UInt8

/-- How a program ended, and what it wrote. A program that was killed has no exit code. -/
structure Ended where
  code : Option Nat
  out : Bytes
  err : Bytes

def Ended.ok (out : Bytes) : Ended := ⟨some 0, out, []⟩

def Ended.failed (code : Nat) (message : String) : Ended :=
  ⟨some code, [], Text.bytesOfText message⟩

def Ended.toOutput (e : Ended) : Output :=
  ⟨e.code.elim (-1) Int.ofNat, Text.textOfBytes e.out, Text.textOfBytes e.err⟩

def bytesOf (cs : List Char) : Bytes := Text.bytesOfText (String.ofList cs)

/-- The value of up to three octal digits, and what follows them. -/
def octal (limit : Nat) (cs : List Char) : UInt8 × List Char :=
  let digits := (cs.take limit).takeWhile fun c => '0' ≤ c && c ≤ '7'
  (UInt8.ofNat (digits.foldl (fun n c => 8 * n + Text.digitValue c) 0), cs.drop digits.length)

/-- The byte that one or two hexadecimal digits stand for. -/
def hexByte? (cs : List Char) : Option (UInt8 × List Char) :=
  let digits := (cs.take 2).takeWhile fun c => (Text.hexValue? c).isSome
  (Text.hexNumber? digits).map fun n => (UInt8.ofNat n, cs.drop digits.length)

/-- The byte of an escape, after the backslash. -/
def escape? : List Char → Option (UInt8 × List Char)
  | 'n' :: cs => some (10, cs)
  | 't' :: cs => some (9, cs)
  | 'r' :: cs => some (13, cs)
  | 'a' :: cs => some (7, cs)
  | 'b' :: cs => some (8, cs)
  | 'f' :: cs => some (12, cs)
  | 'v' :: cs => some (11, cs)
  | '\\' :: cs => some (92, cs)
  | _ => none

/-- Text with escapes. `zeroFirst`: an octal number is written with a zero in front. -/
def unescape (zeroFirst : Bool) : (fuel : Nat) → List Char → Bytes
  | 0, _ => []
  | _ + 1, [] => []
  | fuel + 1, '\\' :: cs =>
    match escape? cs with
    | some (b, cs) => b :: unescape zeroFirst fuel cs
    | none =>
      match cs with
      | c :: rest =>
        if '0' ≤ c && c ≤ '7' && (!zeroFirst || c = '0') then
          let (b, rest) := octal 3 (if zeroFirst then rest else cs)
          b :: unescape zeroFirst fuel rest
        else 92 :: bytesOf [c] ++ unescape zeroFirst fuel rest
      | [] => [92]
  | fuel + 1, c :: cs => bytesOf [c] ++ unescape zeroFirst fuel cs

/-- The byte of an escape in a format. `hex`: bytes may be written in hexadecimal digits. -/
def formatEscape? (hex : Bool) (cs : List Char) : Option (UInt8 × List Char) :=
  match escape? cs, cs with
  | some found, _ => some found
  | none, 'x' :: cs => if hex then hexByte? cs else none
  | none, c :: _ => if '0' ≤ c && c ≤ '7' then some (octal 3 cs) else none
  | none, [] => none

/-- One pass over the format of `printf`; the arguments that are left. -/
def format (hex : Bool) : (fuel : Nat) → List Char → List String → Bytes × List String
  | 0, _, args => ([], args)
  | _ + 1, [], args => ([], args)
  | fuel + 1, '%' :: '%' :: cs, args =>
    let (rest, args) := format hex fuel cs args
    (37 :: rest, args)
  | fuel + 1, '%' :: c :: cs, args =>
    let arg := args.head?.getD (if c = 'd' || c = 'i' then "0" else "")
    let shown :=
      if c = 'b' then unescape true (arg.length + 1) arg.toList else Text.bytesOfText arg
    let (rest, args) := format hex fuel cs args.tail
    (shown ++ rest, args)
  | fuel + 1, '\\' :: cs, args =>
    let (b, cs) := (formatEscape? hex cs).getD (92, cs)
    let (rest, args) := format hex fuel cs args
    (b :: rest, args)
  | fuel + 1, c :: cs, args =>
    let (rest, args) := format hex fuel cs args
    (bytesOf [c] ++ rest, args)

/-- The format is used again as long as arguments are left that it uses. -/
def formatAll (hex : Bool) : (fuel : Nat) → List Char → List String → Bytes
  | 0, _, _ => []
  | fuel + 1, cs, args =>
    let (out, rest) := format hex (cs.length + 1) cs args
    if rest.isEmpty || rest.length = args.length then out else out ++ formatAll hex fuel cs rest

def printf (hex : Bool) : List String → Ended
  | [] => .failed 1 "printf: missing operand\nTry 'printf --help' for more information.\n"
  | cs :: args => .ok (formatAll hex (args.length + 1) cs.toList args)

def echo : List String → Bytes
  | "-n" :: args => words args
  | args => words args ++ [10]
where
  words (args : List String) : Bytes :=
    let line := " ".intercalate args
    unescape true (line.length + 1) line.toList

/-- Puts all bytes from one to the other in the place of two bytes with a hyphen between them. -/
def expandRanges : Bytes → Bytes
  | a :: 45 :: b :: rest =>
    (List.range (b.toNat + 1 - a.toNat)).map (a + UInt8.ofNat ·) ++ expandRanges rest
  | a :: rest => a :: expandRanges rest
  | [] => []

/-- The bytes of a set of `tr`. -/
def letters (set : String) : Bytes :=
  expandRanges (unescape false (set.length + 1) set.toList)

def swap (source target : Bytes) (b : UInt8) : UInt8 :=
  match source.idxOf? b with
  | none => b
  | some i => (target[min i (target.length - 1)]?).getD b

def head (args : List String) (input : Bytes) : Ended :=
  match args with
  | "-c" :: count :: files =>
    match count.toNat? with
    | none => .failed 1 s!"head: invalid number of bytes: '{count}'\n"
    | some n =>
      if files = ["/dev/zero"] then .ok (List.replicate n 0) else .ok (input.take n)
  | ["-n", count] => .ok (takeLines (count.toNat?.getD 10) input)
  | _ => .ok (takeLines 10 input)
where
  takeLines : Nat → Bytes → Bytes
    | 0, _ => []
    | _ + 1, [] => []
    | n + 1, b :: bs => b :: takeLines (if b = 10 then n else n + 1) bs

def countLines (input : Bytes) : Nat := (input.filter (· = 10)).length

/-- Programs that only turn input to output. -/
def filter? (program : String) (args : List String) (input : Bytes) : Option Ended :=
  match program, args with
  | "true", _ | ":", _ => some (.ok [])
  | "false", _ => some ⟨some 1, [], []⟩
  | "sleep", _ => some (.ok [])
  | "cat", [] | "cat", ["-"] => some (.ok input)
  | "cat", ["/dev/null"] => some (.ok [])
  | "cat", file :: _ => some (.failed 1 s!"cat: {file}: No such file or directory\n")
  | "printf", args => some (printf false args)
  | "echo", args => some (.ok (echo args))
  | "head", args => some (head args input)
  | "wc", ["-c"] => some (.ok (Text.bytesOfText s!"{input.length}\n"))
  | "wc", ["-l"] => some (.ok (Text.bytesOfText s!"{countLines input}\n"))
  | "tr", ["-d", set] => some (.ok (input.filter fun b => !(letters set).contains b))
  | "tr", [source, target] =>
    some (.ok (input.map (swap (letters source) (letters target))))
  | _, _ => none

/-! The shell. -/

structure Shell where
  name : String
  args : List String
  vars : List (String × String)
  status : Nat
  out : Bytes
  err : Bytes

/-- The text of the shell's own process number. -/
def ownPid : String := "1000"

def Shell.parameter (s : Shell) (name : String) : String :=
  if name = "?" then toString s.status
  else if name = "#" then toString s.args.length
  else if name = "$" then ownPid
  else if name = "0" then s.name
  else if name = "@" || name = "*" then " ".intercalate s.args
  else
    match name.toNat? with
    | some n => (s.args[n - 1]?).getD ""
    | none => (s.vars.lookup name).getD ""

/-- The fields that a word becomes. -/
structure Fields where
  done : List String
  /-- The field that is being made. -/
  current : Option (List Char)

namespace Fields

def append (f : Fields) (cs : List Char) : Fields :=
  { f with current := some (f.current.getD [] ++ cs) }

def close (f : Fields) : Fields :=
  match f.current with
  | some cs => ⟨f.done ++ [String.ofList cs], none⟩
  | none => f

/-- The words of a text as fields of their own; the first and the last join what is around. -/
def splice (f : Fields) (text : List Char) : Fields :=
  text.foldl (fun f c => if c = ' ' || c = '\t' || c = '\n' then f.close else f.append [c]) f

/-- Every argument as a field of its own. -/
def arguments (f : Fields) : List String → Fields
  | [] => f
  | [last] => f.append last.toList
  | arg :: args => arguments (f.append arg.toList).close args

end Fields

def Shell.expandPiece (s : Shell) (f : Fields) : Script.Piece → Fields
  | .text cs => f.append cs
  | .parameter "@" true => f.arguments s.args
  | .parameter name true => f.append (s.parameter name).toList
  | .parameter name false => f.splice (s.parameter name).toList

def Shell.expand (s : Shell) (w : Script.Word) : List String :=
  (w.foldl s.expandPiece ⟨[], none⟩).close.done

/-- How far a script has come. -/
inductive Progress where
  | going (s : Shell)
  /-- The shell itself ended, or was killed. -/
  | ended (s : Shell) (code : Option Nat)

def assignment? (word : String) : Option (String × String) :=
  match word.toList.span (· ≠ '=') with
  | (name, _ :: value) =>
    if !name.isEmpty && name.all Script.isNameChar && !(name.head?.any Char.isDigit) then
      some (String.ofList name, String.ofList value)
    else none
  | _ => none

/-- A simple command: what it wrote, its status, and whether it ended the shell. -/
inductive Effect where
  | wrote (e : Ended)
  | exit (code : Nat)
  | killed
  | assigned (name value : String)

def Shell.simple (s : Shell) (input : Bytes) : List String → Effect
  | [] => .wrote (.ok [])
  | "exit" :: args => .exit (((args.head?.bind String.toNat?).getD s.status) % 256)
  | "read" :: _ => .wrote ⟨some (if input.contains 10 then 0 else 1), [], []⟩
  | "kill" :: args =>
    if args.getLast? = some ownPid then .killed
    else .wrote (.failed 1 s!"{s.name}: 1: kill: No such process\n\n")
  | program :: args =>
    match assignment? program, args with
    | some (name, value), [] => .assigned name value
    | _, _ =>
      match filter? program args input with
      | some e => .wrote e
      | none => .wrote (.failed 127 s!"{s.name}: 1: {program}: not found\n")

/-- Where what a command writes goes to: its output, its errors, or nowhere. -/
structure Targets where
  out : Option Bool
  err : Option Bool

def Targets.get (t : Targets) (n : Nat) : Option Bool := if n = 2 then t.err else t.out

def Targets.set (t : Targets) (n : Nat) (place : Option Bool) : Targets :=
  if n = 2 then { t with err := place } else { t with out := place }

def redirect (t : Targets) : Script.Token → Targets
  | .duplicate source target => t.set source (t.get target)
  | .discard source => t.set source none
  | _ => t

/-- What arrives at the output (`true`) or at the errors. -/
def arriving (t : Targets) (e : Ended) (place : Bool) : Bytes :=
  (if t.out = some place then e.out else []) ++ (if t.err = some place then e.err else [])

def wordsOf (s : Shell) (ts : List Script.Token) : List String :=
  ts.flatMap fun
    | .word w => s.expand w
    | _ => []

/-- Runs the commands of a pipe. Only a command that stands alone can change or end the shell. -/
def runPipe (alone : Bool) : Shell → Bytes → List (List Script.Token) → Progress
  | s, input, [] => .going { s with out := s.out ++ input }
  | s, input, ts :: rest =>
    let targets := ts.foldl redirect ⟨some true, some false⟩
    let input := if ts.contains .noInput then [] else input
    match s.simple input (wordsOf s ts) with
    | .killed => .ended s none
    | .exit code =>
      if alone then .ended s (some code) else runPipe false { s with status := code } [] rest
    | .assigned name value =>
      let s := { s with status := 0 }
      runPipe alone
        (if alone then { s with vars := (name, value) :: s.vars } else s) [] rest
    | .wrote e =>
      let s := { s with status := e.code.getD 0, err := s.err ++ arriving targets e false }
      runPipe alone s (arriving targets e true) rest

def runPipes : Shell → List (Script.Joint × List (List Script.Token)) → Progress
  | s, [] => .going s
  | s, (joint, pipe) :: rest =>
    if (joint = .ifDone && s.status ≠ 0) || (joint = .ifFailed && s.status = 0) then
      runPipes s rest
    else
      match runPipe (pipe.length = 1) s [] pipe with
      | .ended s code => .ended s code
      | .going s => runPipes s rest

def shell : List String → Ended
  | "-c" :: script :: args =>
    let s : Shell := ⟨args.head?.getD "sh", args.tail, [], 0, [], []⟩
    match Script.tokens (script.length + 1) script.toList with
    | none => .failed 2 s!"{s.name}: 1: Syntax error\n"
    | some ts =>
      match runPipes s (Script.pipes ts) with
      | .going s => ⟨some s.status, s.out, s.err⟩
      | .ended s code => ⟨code, s.out, s.err⟩
  | _ => .ok []

def missingProgram : Fault := .io "No such file or directory (os error 2)"

/-- A command line is made of texts that end at their first NUL. -/
def nulInCommand : Fault := .io "nul byte found in provided data"

/-- Runs a program that the host has, without input. -/
def run (c : Command) : Except Fault Output :=
  if (c.program :: c.args).any (·.toList.contains '\x00') then .error nulInCommand
  else if c.program = "sh" then .ok (shell c.args).toOutput
  else if c.program = "printf" then .ok (printf true c.args).toOutput
  else if ["cat", "true", "false", "sleep"].contains c.program then
    match filter? c.program c.args [] with
    | some e => .ok e.toOutput
    | none => .error missingProgram
  else .error missingProgram

/-- Runs a program that has to succeed. -/
def check (c : Command) : Except Fault Output := do (← run c).orFault c.render

/-- Starts a program and kills it. -/
def spawnAndKill (c : Command) : Except Fault Unit := (run c).map fun _ => ()

end SwitchLab.Programs
