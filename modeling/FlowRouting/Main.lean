import FlowRouting.CommandLine.Basic
import Std.Time.Zoned

/-!
# The program

Hands the arguments, the files, fresh identifiers and the present instant to a command, and prints
its transcript.
-/

namespace FlowRouting.CommandLine

/-- What is told of a file that could not be read or written. -/
def fileFault : IO.Error → String
  | .noFileOrDirectory .. => "No such file or directory (os error 2)"
  | .permissionDenied .. => "Permission denied (os error 13)"
  | .inappropriateType .. => "Is a directory (os error 21)"
  | .userError _ => "stream did not contain valid UTF-8"
  | e => toString e

/-- The files of the machine. -/
def machineFiles : Files IO where
  read name := try .ok <$> IO.FS.readFile name catch e => return .error (fileFault e)
  write name text := try .ok <$> IO.FS.writeFile name text catch e => return .error (fileFault e)

/-- An identifier that was not there before. -/
def freshUuid : IO Uuid := do
  let bytes ← IO.getRandomBytes 16
  return .random (bytes.toList.foldl (fun bits byte ↦ bits * 256 + byte.toNat) 0)

def presentInstant : IO Instant := do
  let now := (Std.Time.DateTime.ofTimestamp (← Std.Time.Timestamp.now) .UTC).toPlainDateTime
  let date? := Date.of? now.date.year.toInt now.date.month.toNat now.date.day.toNat
  let time? := TimeOfDay.of? now.time.hour.toNat now.time.minute.toNat now.time.second.toNat
    now.time.nanosecond.toNat
  match date?, time? with
  | some date, some time => return ⟨date, time⟩
  | _, _ => throw (.userError "the present instant is no instant of the calendar")

/-- Prints a transcript once its time is over, and gives the exit code. -/
def Transcript.print (t : Transcript) : IO UInt32 := do
  IO.sleep (min t.elapsed (Nat.pow 2 32 - 1)).toUInt32
  t.lines.forM IO.println
  t.errorLines.forM IO.eprintln
  return t.exitCode.toUInt32

end FlowRouting.CommandLine

open FlowRouting.CommandLine in
/-- Carries out the command that the arguments name. -/
def main (args : List String) : IO UInt32 := do
  match Command.ofArguments args with
  | .error .help => return 0
  | .error .usage => return 2
  | .ok command =>
    let surroundings := ⟨← freshUuid, ← freshUuid, ← presentInstant⟩
    (← command.perform machineFiles surroundings).print
