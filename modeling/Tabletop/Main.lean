/-
This file is the program: it reads the command line, the input and files, and prints.
-/

import Std.Time.DateTime.Timestamp
import Tabletop.CommandLine

namespace Tabletop.Main

/-- What an error of the system means for a file. -/
def faultOf : IO.Error → FileFault
  | .noFileOrDirectory _ _ _ => .missing
  | .permissionDenied _ _ _ => .denied
  | .inappropriateType _ code _ => if code = 20 then .notFolder else .isFolder
  | .invalidArgument _ 36 _ => .longName
  | error => .other (toString error)

def readFile (path : String) : IO (Except FileFault String) := do
  try
    let bytes ← IO.FS.readBinFile path
    match String.fromUTF8? bytes with
    | some text => return .ok text
    | none => return .error .notText
  catch error => return .error (faultOf error)

def writeFile (path text : String) : IO (Except FileFault Unit) := do
  try
    IO.FS.writeFile path text
    return .ok ()
  catch error => return .error (faultOf error)

/-- A file that cannot be opened for want of permission is there too. -/
def fileHolds (path : String) : IO Bool := do
  try
    let _ ← IO.FS.Handle.mk path .read
    return true
  catch error => return faultOf error == .denied

/-- The files of the system. -/
def files : Files IO :=
  ⟨readFile, fileHolds, writeFile⟩

def now : IO Instant := do
  let time ← Std.Time.Timestamp.now
  let nanos := time.toNanosecondsSinceUnixEpoch.val
  return ⟨nanos.fdiv 1000000000, (nanos.fmod 1000000000).toNat⟩

/-- Faces from the randomness of the system. -/
def random : IO Faces := do
  let bytes ← IO.getRandomBytes 8
  return .seeded (bytes.foldl (fun number byte => 256 * number + byte.toNat) 0)

/-- Shows an outcome, and gives its exit code. -/
def finish (outcome : Outcome) : IO UInt32 := do
  IO.print outcome.output
  if let some line := outcome.errorLine then IO.eprintln line
  return UInt32.ofNat outcome.code

/-- Answers each line as soon as it is there. -/
partial def converse (input output : IO.FS.Stream) (session : Session) : IO UInt32 := do
  output.putStr Session.prompt
  output.flush
  let line ← input.getLine
  if line.isEmpty then return 0
  match ← session.answer files (← now) line with
  | .next session shown =>
    output.putStr shown
    converse input output session
  | .quit => return 0
  | .failed shown fault => finish ⟨shown, some (.fault fault)⟩

def repl (options : SessionOptions) : IO UInt32 := do
  match ← (Session.start files (← now) (← random) options).run with
  | .error failure => finish ⟨"", some failure⟩
  | .ok session =>
    IO.print session.greeting
    converse (← IO.getStdin) (← IO.getStdout) session

def runCommand (words : List String) : IO UInt32 := do
  match CommandLine.invocation words with
  | .error halt =>
    let (text, code) := CommandLine.haltText halt
    if code = 0 then IO.print text else IO.eprint text
    return UInt32.ofNat code
  | .ok (.repl options) => repl options
  | .ok invocation =>
    finish (← CommandLine.run files (← now) (← random) "" invocation)

end Tabletop.Main

def main (words : List String) : IO UInt32 :=
  Tabletop.Main.runCommand words
