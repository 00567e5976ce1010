import KeyDepot.Deployment.Line

namespace KeyDepot

/-- Lines in the order they were opened. -/
abbrev Lines := List (String × Line)

namespace Lines

variable {σ : Type} [Engine σ]

/-- The lines the server serves now. -/
def active (lines : Lines) : Nat :=
  lines.countP fun entry => !entry.2.far.phase.isClosed

/-- The line of this name, opened on first use. -/
def obtain (name : String) (server : Server σ) (lines : Lines) : Line :=
  (lines.lookup name).getD (Line.connect lines.active server)

/-- Replaces the line of this name, or appends it. -/
def set (name : String) (line : Line) : Lines → Lines
  | [] => [(name, line)]
  | entry :: rest => if entry.1 = name then (name, line) :: rest else entry :: set name line rest

/-- The server may have been told to stop since. -/
def notice (server : Server σ) (lines : Lines) : Lines :=
  lines.map fun (name, line) => (name, line.notice server)

/-- Writes to a line in one piece, and ends its stream when that is asked for. -/
def write (name : String) (bytes : Bytes) (finish : Bool) (lines : Lines) (server : Server σ) :
    Line × Server σ :=
  let (line, server) := (lines.obtain name server).send bytes server
  if finish then line.finish server else (line, server)

end Lines

namespace Line

/-- What a reader gets from a line. -/
inductive Arrival where
  | frame (frame : Frame)
  /-- The server has closed the line, with this result. -/
  | closed (ending : Except Error Unit)
  /-- The server's end has panicked. -/
  | panicked (cause : Panic)
  deriving Inhabited

/-- How the server's end of a line that is over has ended. -/
def ending (line : Line) : Arrival :=
  match line.far.phase with
  | .closed ending => .closed ending
  | .panicked cause => .panicked cause
  | _ => .closed (.ok ())

/-- Reads from a line, waiting for as long as it takes; none when nothing ever comes. With a time
limit the server gives up a line on which it waits. -/
def await? (limit : Nat) (line : Line) : Option (Arrival × Line) :=
  let line := if line.next?.isNone && limit != 0 then line.expire else line
  line.next?.map fun (reading, rest) =>
    match reading with
    | .ok frame => (.frame frame, rest)
    | .error _ => (line.ending, rest)

/-- Reads `count` times. -/
def awaitMany? (limit : Nat) : Nat → Line → Option (List Arrival × Line)
  | 0, line => some ([], line)
  | count + 1, line => do
    let (arrival, line) ← line.await? limit
    let (others, line) ← awaitMany? limit count line
    return (arrival :: others, line)

private def drainAtMost : Nat → Line → List Arrival
  | 0, _ => []
  | count + 1, line =>
    match line.await? 0 with
    | none => []
    | some (.frame frame, line) => .frame frame :: drainAtMost count line
    | some (arrival, _) => [arrival]

/-- What is left to read on a line, up to its end. A frame is never empty, so the unread bytes bound
their number. -/
def drain (line : Line) : List Arrival :=
  line.drainAtMost (line.unread.length + 1)

end Line

end KeyDepot
