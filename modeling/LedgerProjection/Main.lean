import LedgerProjection.Replay

/-!
# The replay command

`replay --records FILE [--max-logs N] [--kind KIND] [--validate]` projects a file of record
items with the default settings and prints a summary.
-/

namespace LedgerProjection.Command

/-- The command line, read into the record file's path and the replay's settings. -/
def parseArgs : List String → Replay.Options → Option String →
    Except String (String × Replay.Options)
  | [], opts, some path => .ok (path, opts)
  | [], _, none => .error "the argument --records <RECORDS> is required"
  | "--records" :: path :: rest, opts, _ => parseArgs rest opts (some path)
  | "--max-logs" :: n :: rest, opts, path =>
    match n.toNat? with
    | some m => parseArgs rest { opts with maxLogs := m } path
    | none => .error ("invalid value '" ++ n ++ "' for '--max-logs <MAX_LOGS>'")
  | "--kind" :: k :: rest, opts, path => parseArgs rest { opts with kind := some k } path
  | "--validate" :: rest, opts, path => parseArgs rest { opts with validate := true } path
  | arg :: _, _, _ => .error ("unexpected argument '" ++ arg ++ "'")

end LedgerProjection.Command

/-- Runs the replay command. -/
def main (args : List String) : IO UInt32 := do
  match LedgerProjection.Command.parseArgs args {} none with
  | .error message =>
    IO.eprintln ("error: " ++ message)
    return 2
  | .ok (path, opts) =>
    let contents : Option String ← try pure (some (← IO.FS.readFile path)) catch _ => pure none
    let some text := contents
      | IO.eprintln ("Error: Failed to read file: " ++ path); return 1
    match LedgerProjection.Replay.loadRecords text >>= LedgerProjection.Replay.run {} opts with
    | .error message =>
      IO.eprintln ("Error: " ++ message)
      return 1
    | .ok lines =>
      lines.forM IO.println
      return 0
