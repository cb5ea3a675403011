import GlyphAlgebra.CommandLine

open GlyphAlgebra

/-- The program itself knows no fonts: it checks and prints expressions. -/
def main (arguments : List String) : IO UInt32 := do
  let outcome := runCommand .empty arguments
  outcome.stdout.forM IO.println
  outcome.stderr.forM IO.eprintln
  match outcome.exit with
  | .ok status => return UInt32.ofNat status
  | .error e =>
    IO.eprintln e.message
    return 1
