import MailIngest.Console.Commands
import Std.Time

/-!
# The command line

Runs one command line of the archive on this computer. The settings file the command names is
read from disk; the environment gives the variables that settings and the password are read
from; the files the command writes, message files and a settings file written with the
defaults, go to disk. JSON output goes to standard output and every other line to standard
error, and the command's exit status is the process's.

The databases, the keychain, the mail server and the token endpoint live in memory for the one
command; the random stream is seeded from the system's random bytes, and both clocks read the
time the command starts.
-/

open MailIngest

def commandVariables : List String :=
  Console.passwordVariable :: Settings.envOverrides.map fun (_, _, v, _) => v

def readBytes (path : String) : IO (Option (List UInt8)) := do
  try pure (some (← IO.FS.readBinFile path).toList) catch _ => pure none

def parentOf (path : String) : String :=
  match (path.splitOn "/").dropLast with
  | [] => "."
  | parts => "/".intercalate parts

def writeBytes (path : String) (content : List UInt8) : IO Unit := do
  IO.FS.createDirAll (parentOf path)
  IO.FS.writeBinFile path (ByteArray.mk content.toArray)

def main (args : List String) : IO UInt32 := do
  let env ← commandVariables.filterMapM fun v => do pure ((← IO.getEnv v).map (v, ·))
  let home := (← IO.getEnv "HOME").getD "."
  let workdir := (← IO.currentDir).toString
  let seconds := (← Std.Time.Timestamp.now).toSecondsSinceUnixEpoch.val
  let now : Time.DateTime := { wall := seconds * Time.usSecond, offset := some 0 }
  let seed := Text.Hex.hex (← IO.getRandomBytes 16).toList
  let m : Console.Machine :=
    { home, workdir, env, entropy := { seed }, storeClock := now, clock := now }
  let m ← match Console.invocation home env args with
    | .run c => do
      let path := m.resolve c.config
      match ← readBytes path with
      | some bs => pure { m with files := [(path, bs)] }
      | none => pure m
    | _ => pure m
  let (t, after) := m.run args
  for (p, c) in after.files do
    if !m.files.contains (p, c) then writeBytes p c
  if let some j := t.printed then IO.println (Json.render j)
  for l in t.lines do IO.eprintln l
  pure t.exit.toUInt32
