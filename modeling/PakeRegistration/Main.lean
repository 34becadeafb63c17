import PakeRegistration.CommandLine

namespace PakeRegistration.Main

def chunkSource (chunks : List Bytes) : RandomSource := fun call _ =>
  match chunks[call - 1]? with
  | some octets => .octets octets
  | none => .raised "no octets left"

def crash (e : Error) : CommandLine.Outcome :=
  CommandLine.complaint (e.category.name ++ ": " ++ e.message)

end PakeRegistration.Main

open PakeRegistration

def main (arguments : List String) : IO UInt32 := do
  let chunks ← (List.range Oprf.maxAttempts).mapM fun _ => do
    return (← IO.getRandomBytes Scalar.uniformSize.toUSize).toList
  let stdin ← (← IO.getStdin).readToEnd
  let source := Main.chunkSource chunks
  let outcome :=
    match CommandLine.run CipherSuite.standard source (arguments.map Text.ofString) (Text.ofString stdin) with
    | .ok outcome => outcome
    | .error e => Main.crash e
  (← IO.getStdout).putStr outcome.stdout.toString
  (← IO.getStderr).putStr outcome.stderr.toString
  return UInt32.ofNat outcome.exit
