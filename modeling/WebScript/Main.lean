import WebScript.Command.Execute

namespace WebScript.Command

/-- The accessor of a place without a connection. -/
def offline : Accessor Unit where
  send := fun _ s => (.error (.breakdown (.remote "ConnectionError" "There is no connection.")), s)

def readFiles (paths : List String) : IO Files := do
  let found ← paths.mapM fun (path : String) =>
    try return [(path, ← IO.FS.readFile path)]
    catch _ => return []
  return found.flatten

/-- Prints the report on one stream and the results on the other; the exit code follows. -/
def Printed.print (p : Printed) : IO UInt32 := do
  p.err.forM IO.eprintln
  p.out.forM IO.println
  match p.document with
  | some d => IO.println d.text
  | none => pure ()
  match p.exit with
  | .ok code => return code.toUInt32
  | .error b =>
    IO.eprintln b.report
    return 1

/-- Carries out the command that arguments ask for. -/
def carryOutArguments (args : List String) : IO UInt32 := do
  let files ← readFiles ((Request.ofArguments? args).elim [] Request.paths)
  match execute args files false { accessor := offline } () with
  | some done => done.printed.print
  | none => return 1

end WebScript.Command

def main (args : List String) : IO UInt32 :=
  WebScript.Command.carryOutArguments args
