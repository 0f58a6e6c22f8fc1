import Blake2b.KnownAnswer.Check
/-!
# The command

Replays the known answers and reports whether all of them were met. The
environment variable `RUST_LOG` chooses how much is shown.
-/

open Blake2b

/-- Prints the report and gives its exit code. -/
def main : IO UInt32 := do
  let setting ← IO.getEnv "RUST_LOG"
  let (code, lines) := KnownAnswer.report (.ofSetting setting)
  for line in lines do
    IO.println line
  return code
