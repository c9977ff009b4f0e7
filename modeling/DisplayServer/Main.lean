import DisplayServer.CommandLine.Report

/-! # The program

Reads the command line, starts the server behind its frontend, and says what it started with. The
log goes to the error output.
-/

open DisplayServer

/-- Starts from the command line; the answer is the exit status. -/
def main (arguments : List String) : IO UInt32 := do
  match CommandLine.parse arguments with
  | .ok settings =>
    let started := Frontend.start settings.config
    for message in started.log do
      IO.eprintln message.line
    for line in CommandLine.summary started.state.server do
      IO.println line
    return 0
  | .error cause =>
    if cause.isRequest then
      IO.println cause.text
      return 0
    else
      IO.eprintln ("error: " ++ cause.text)
      return 2
