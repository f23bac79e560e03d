import Orchestration.CommandLine.Command

namespace Orchestration.Command

-- Names that differ from each other and, all but surely, from those of other calls.
def supply : IO Supply := do
  let start ← IO.rand 0 0xFFFFFFFF
  return ⟨fun n => String.ofList (Json.hex 8 ((start + n) % 0x100000000)), 0⟩

def textOf (path : String) : IO (Option String) := do
  try
    return some (← IO.FS.readFile path)
  catch _ =>
    return none

end Orchestration.Command

open Orchestration in
def main (args : List String) : IO UInt32 := do
  let file ← match Arguments.parse args with
    | .ok request => Command.textOf request.file
    | .error _ => pure none
  let noted := Command.run args (fun _ => file) (← Command.supply)
  for notice in noted.notices do
    IO.eprintln notice.line
  match noted.value with
  | .stopped .help => return 0
  | .stopped .refused => return 2
  | .broken _ => return 1
  | .finished output =>
      IO.print output.stdout
      IO.eprint output.stderr
      return output.exitCode.toUInt32
