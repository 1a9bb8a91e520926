import DraftBoard.CommandLine.Parser
import DraftBoard.Http.Wire
import DraftBoard.Log.Filter
import DraftBoard.Log.Stamp
import DraftBoard.Outcome
import DraftBoard.Text.Utf8
import Std.Async.DNS
import Std.Async.TCP
import Std.Time

/-!
# The program

Connects runs to the file system, the clock, the network and the terminal of the
machine that the program is started on.
-/

namespace DraftBoard.Program

open Std.Async

/-- The refusal that an error of the system stands for. -/
def refusalOf (error : IO.Error) : FileError :=
  match error with
  | .alreadyExists .. => .alreadyExists
  | .noFileOrDirectory .. => .notFound
  | .inappropriateType _ code _ => if code = 21 then .isADirectory else .notADirectory
  | .invalidArgument _ code _ => if code = 36 then .nameTooLong else .other (toString error)
  | _ => .other (toString error)

/-- Performs a step of the file system on a path. -/
def onPath (path : Path) (step : String → IO Unit) : IO (Except FileError Unit) := do
  if path.chars.contains '\x00' then return .error .nulInName
  try
    step path.text
    return .ok ()
  catch error => return .error (refusalOf error)

/-- The text of the regular file at a path. -/
def readText (path : Path) : IO (Option String) := do
  if path.chars.contains '\x00' then return none
  try
    let bytes ← IO.FS.readBinFile path.text
    return some (String.ofList (Text.decodeUtf8 bytes.toList))
  catch _ => return none

/-- Whether there is a directory at a path: it can be opened, but not read. -/
def isDirectory (path : Path) : IO Bool := do
  try
    let handle ← IO.FS.Handle.mk path.text .read
    let _ ← handle.read 1
    return false
  catch error =>
    match refusalOf error with
    | .isADirectory => return true
    | _ => return false

/-- Making directories on the machine. -/
def directories : Directories IO where
  make path := onPath path fun text => IO.FS.createDir text
  isThere := isDirectory

/-- Microseconds since the first of January 1970. -/
def microseconds : IO Nat := do
  let now ← Std.Time.Timestamp.now
  return (now.toNanosecondsSinceUnixEpoch.val / 1000).toNat

/-- Writes an event to the terminal if the filter shows it. -/
def note (filter : LogFilter) (event : Event) : IO Unit := do
  if filter.shows event then
    let shown := event.shown
    let blanks := if shown.level.name.length < 5 then "  " else " "
    IO.eprint (Log.stamp (← microseconds) ++ blanks ++ shown.line ++ "\n")

/-- The machine that the program is started on. -/
def machine (filter : LogFilter) : Machine IO where
  note := note filter
  now := return (← microseconds) / 1000000
  workingDirectory := return .ofString (← IO.currentDir).toString
  readFile := readText
  makeDirectories := directories.makeAll
  writeFile path content := onPath path fun text => IO.FS.writeFile text content

/-- All bytes that arrive until the connection is closed. -/
partial def receiveAll (socket : TCP.Socket.Client) (received : ByteArray) : Async ByteArray := do
  match ← socket.recv? 65536 with
  | some bytes => receiveAll socket (received ++ bytes)
  | none => return received

/-- The addresses of a host. -/
def addresses (host : Url.Host) : Async (Array Std.Net.IPAddr) :=
  match host with
  | .name labels => DNS.getAddrInfo (String.ofList labels) ""
  | .ipv4 value =>
      let byte (shift : Nat) := UInt8.ofNat (value >>> shift % 256)
      return #[.v4 (.ofParts (byte 24) (byte 16) (byte 8) (byte 0))]
  | .ipv6 pieces =>
      let piece (index : Nat) := UInt16.ofNat (pieces.getD index 0)
      return #[.v6 (.ofParts (piece 0) (piece 1) (piece 2) (piece 3) (piece 4) (piece 5)
        (piece 6) (piece 7))]

/-- The address of a port. -/
def withPort (port : UInt16) : Std.Net.IPAddr → Std.Net.SocketAddress
  | .v4 address => .v4 ⟨address, port⟩
  | .v6 address => .v6 ⟨address, port⟩

/-- Connects to the first address that accepts. -/
def connect (port : UInt16) : List Std.Net.IPAddr → Async (Option TCP.Socket.Client)
  | [] => return none
  | address :: rest => do
      let socket ← TCP.Socket.Client.mk
      try
        socket.connect (withPort port address)
        return some socket
      catch _ => connect port rest

/-- Sends a request to the server of an authority and waits for the answer. -/
def exchange (authority : Url.Authority) (request : Http.Request) :
    Async (Except Http.SendFailure Http.Response) := do
  let port := UInt16.ofNat (authority.port.getD 80)
  let found ← try addresses authority.host catch _ => pure #[]
  match ← connect port found.toList with
  | none => return .error .unreachable
  | some socket =>
      try
        socket.send (request.wire (String.ofList authority.server)).toUTF8
        let bytes ← receiveAll socket .empty
        match Http.Response.ofBytes? bytes.toList with
        | some response => return .ok response
        | none => return .error .closed
      catch _ => return .error .closed

/-- The network, as far as it goes without encryption. -/
def transport : Http.Transport IO where
  send request := do
    match request.url.authority with
    | some authority =>
        if request.url.scheme = "http".toList then Async.block (exchange authority request)
        else return .error .unreachable
    | none => return .error .unreachable

/-- Saved dashboards go next to the program, unless they are sent elsewhere. -/
def defaultOutDir : IO Path := do
  let program := Path.ofString (← IO.appPath).toString
  return (program.parent?.getD (.ofString ".")).join (.ofString "dashboards")

/-- What a command line comes to. -/
def outcome (arguments : List String) : IO Outcome := do
  match CommandLine.parse arguments with
  | .error stop => return .ofStop stop
  | .ok invocation =>
      let filter := LogFilter.ofRequest (← IO.getEnv "RUST_LOG")
      return .ofRun (← (run (machine filter) transport (← defaultOutDir) invocation).run)

end DraftBoard.Program

/-- Runs the program. -/
def main (arguments : List String) : IO UInt32 := do
  let outcome ← DraftBoard.Program.outcome arguments
  IO.print outcome.output
  IO.eprint outcome.errors
  return UInt32.ofNat outcome.exitCode
