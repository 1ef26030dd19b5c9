/-
The program over the real surroundings. It has no way to the network, so it
works with forced tokens and with tokens from the shared cache.
-/
import CloudSession.Program.Run
import Std.Time.DateTime.Timestamp

open CloudSession

/-- What is found at a path of the file system. -/
def look (path : String) : IO Found := do
  try
    return .bytes (← IO.FS.readBinFile path)
  catch
    | .noFileOrDirectory .. => return .missing
    | .inappropriateType _ code _ => return if code == 20 then .beneathFile else .unreadable
    | _ => return .unreadable

def main (args : List String) : IO UInt32 := do
  let ⟨directory⟩ ← IO.currentDir
  let time ← Std.Time.Timestamp.now
  let surroundings : Surroundings IO :=
    { environment := fun name => do return ← IO.getEnv name
      look := look
      directory := directory }
  let now : Instant := ⟨time.val.second.val, time.val.nano.val.toNat⟩
  let network : Network := ⟨[.error "the network is out of reach"], []⟩
  let outcome ← Program.run surroundings now network args
  IO.print outcome.stdout
  IO.eprint outcome.stderr
  return outcome.status.toUInt32
