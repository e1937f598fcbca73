import Metamodel.CommandLine.Program

/-!
# The executable

Reads the arguments and the environment, and prints the outcome.
-/

open Metamodel.CommandLine

def main (arguments : List String) : IO UInt32 := do
  let environment : Environment :=
    { capacity := ← IO.getEnv "ORB_HEAP_CAPACITY"
      threshold := ← IO.getEnv "ORB_GC_THRESHOLD"
      verbosity := ← IO.getEnv "ORB_LOG" }
  let outcome := run arguments environment
  for line in outcome.errors do
    IO.eprintln line
  try
    let stdout ← IO.getStdout
    stdout.putStr outcome.output
    stdout.flush
    return outcome.code.toUInt32
  catch fault =>
    match fault with
    | .resourceVanished .. => return 0
    | _ =>
        IO.eprintln ("stdout error: " ++ toString fault)
        return 2
