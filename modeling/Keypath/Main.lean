import Keypath.Report
import Keypath.Snapshot

/-!
The command line: a snapshot of the workspace on standard input, a root and a file as arguments, the
report on standard output.
-/

def main (arguments : List String) : IO UInt32 := do
  let snapshot := Keypath.Snapshot.ofText (← (← IO.getStdin).readToEnd)
  let report :=
    Keypath.Report.ofArguments snapshot.parser snapshot.disk "dump_schema" arguments
  IO.print report.output
  IO.eprint report.errors
  return report.code.toUInt32
