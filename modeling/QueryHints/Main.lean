import QueryHints.CommandLine.Completing

open QueryHints

def entryOnDisk (path : String) : IO Files.Entry := do
  try
    return .file (← IO.FS.readBinFile path).toList
  catch
    | .noFileOrDirectory .. => return .missing
    | _ => return .directory

def main (arguments : List String) : IO UInt32 := do
  let paths := CommandLine.Completing.paths arguments
  let entries ← paths.mapM entryOnDisk
  let files : Files.Lookup := fun path => ((paths.zip entries).lookup path).getD .missing
  let ending := CommandLine.Completing.run (.ofDepth 1000) (.utf8 80) "query-hints" files arguments
  match ending.result with
  | .ok exit =>
    (← IO.getStdout).putStr exit.printed.toString
    match exit.complaint with
    | some line => (← IO.getStderr).putStrLn line
    | none => pure ()
    return exit.status.toUInt32
  | .error escape =>
    (← IO.getStdout).putStr escape.printed.toString
    (← IO.getStderr).putStrLn escape.message
    return 1
