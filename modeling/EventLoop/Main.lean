import EventLoop.Session.Echoing

/-!
The demonstration: a client talks to the echo server, and what is printed goes to the standard
output.
-/

open EventLoop.Session in
/-- Runs the demonstration. -/
def main : IO UInt32 := do
  let (lines, result) := Echoing.demonstrate .loopback
  lines.forM fun line => IO.println line
  match result with
  | .ok () => return 0
  | .error e =>
    IO.eprintln e.render
    return 1
