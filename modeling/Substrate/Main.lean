import Substrate.Session.Program

/-!
# Substrate.Main

The command line: runs the program's session and writes its log to the error stream. The
environment variable `RUST_LOG` sets what is shown of the log.
-/

open Substrate in
/-- Runs the session; the exit code tells whether it failed. -/
def main : IO UInt32 := do
  let ending := Session.program (.ofSetting (← IO.getEnv "RUST_LOG"))
  for line in ending.log do
    IO.eprintln ("[" ++ line.level.name ++ "] " ++ line.message)
  return ending.code.toUInt32
