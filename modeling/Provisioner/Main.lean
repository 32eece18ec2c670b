import Provisioner.Command.Run
import Provisioner.Http.Wire
import Std.Async.DNS
import Std.Async.System
import Std.Async.TCP
import Std.Time.DateTime.Timestamp

/-!
# The program

Answers what the program asks of its host: files, the clock, chance, the terminal and the network. Addresses
are reached over plain connections; where an address wants an encrypted one, the host is out of reach.
-/
namespace Provisioner.Machine

open Command Std.Async Std.Net

/-- The most bytes that are received at once. -/
def received : UInt64 := 65536

/-- Why a file cannot be used. -/
def fileError : IO.Error → FileError
  | .noFileOrDirectory .. => .missing
  | .permissionDenied .. => .denied
  | .alreadyExists .. => .taken
  | .inappropriateType _ 20 _ => .notDirectory
  | .inappropriateType _ 21 _ => .isDirectory
  | .userError _ => .notText
  | error => .other (toString error)

/-- The result of an action on files. -/
def onFiles {α : Type} (action : IO α) : IO (Except FileError α) := do
  try return .ok (← action)
  catch error => return .error (fileError error)

/-- The present. -/
def clock : IO Instant := do
  let time := (← Std.Time.Timestamp.now).toNanosecondsSinceUnixEpoch.val
  let seconds := time / 1_000_000_000
  return { day := seconds / 86400
           second := ⟨(seconds % 86400).toNat, by omega⟩
           nanos := ⟨(time % 1_000_000_000).toNat, by omega⟩ }

/-- An id drawn by chance, marked as such. -/
def drawId : IO OperationId := do
  let bytes := (← IO.getRandomBytes 16).toList
  let digits := (bytes.flatMap fun byte => [byte.toNat / 16, byte.toNat % 16]).map Text.hexDigit
  let marked := digits.take 12 ++ ['4'] ++ (digits.drop 13).take 3 ++
    [Text.hexDigit (8 + ((digits[16]?.bind Text.hexValue?).getD 0) % 4)] ++ digits.drop 17
  match OperationId.parse? marked with
  | some id => return id
  | none => throw (IO.userError "no operation id could be drawn")

/-- Waits for some time, in parts that the system can count. -/
partial def pause (milliseconds : Nat) : IO Unit := do
  let part := min milliseconds 1_000_000_000
  IO.sleep part.toUInt32
  if part < milliseconds then pause (milliseconds - part)

/-- Everything that a connection still brings. -/
partial def receiveAll (socket : TCP.Socket.Client) (bytes : ByteArray) : Async ByteArray := do
  match ← socket.recv? received with
  | some more => receiveAll socket (bytes ++ more)
  | none => return bytes

/-- The name and the port of a host. -/
def hostParts (host : List Char) : String × UInt16 :=
  let (name, port) := Url.splitPort host
  (String.ofList name, if port.isEmpty then 80 else UInt16.ofNat (Text.digitsValue (port.drop 1)))

/-- The address of a host at a port. -/
def socketAddress (port : UInt16) : IPAddr → SocketAddress
  | .v4 addr => .v4 { addr, port }
  | .v6 addr => .v6 { addr, port }

/-- Sends a request over a connection of its own. -/
def exchange (request : Http.Request) (address : SocketAddress) : IO Http.Reply := do
  let socket ← TCP.Socket.Client.mk
  try (socket.connect address).block
  catch error => return .unreachable s!"tcp connect error: {error}"
  try
    let bytes ← (do
      socket.send ⟨request.bytes.toArray⟩
      receiveAll socket .empty : Async ByteArray).block
    return .ofBytes bytes.toList
  catch _ => return .dropped

/-- Sends a request. -/
def send (request : Http.Request) : IO Http.Reply := do
  if request.url.scheme ≠ "http".toList then
    return .unreachable "encrypted connections are not available"
  let (name, port) := hostParts (request.url.host.getD [])
  try
    let addresses ← (DNS.getAddrInfo name "").block
    match addresses[0]? with
    | some address => exchange request (socketAddress port address)
    | none => return .unreachable "dns error: no address"
  catch error => return .unreachable s!"dns error: {error}"

/-- Where the log goes beside the terminal. -/
abbrev Log := IO.Ref (Option IO.FS.Handle)

/-- Begins a log for the day in a directory. -/
def openLog (log : Log) (directory : String) : IO Unit := do
  if directory ≠ "" then IO.FS.createDirAll directory
  let day := String.ofList (Date.ofDays (← clock).day).text
  let file := if directory = "" then s!"cloudstep.log.{day}" else s!"{directory}/cloudstep.log.{day}"
  log.set (some (← IO.FS.Handle.mk file .append))

/-- Reports an event. -/
def watch (log : Log) (event : Event) : IO Unit := do
  let line := s!"{String.ofList (← clock).text} {event.level.name} {event.message}"
  (← IO.getStderr).putStrLn line
  if let some handle ← log.get then handle.putStrLn line

/-- The text of a file in the current directory or the nearest one above it. -/
partial def findAbove (directory name : String) : IO (Option String) := do
  let file := if directory = "/" then s!"/{name}" else s!"{directory}/{name}"
  match ← onFiles (IO.FS.readFile file) with
  | .ok text => return some text
  | .error _ =>
    if directory = "/" then return none
    else
      let above := String.intercalate "/" ((directory.splitOn "/").dropLast)
      findAbove (if above = "" then "/" else above) name

/-- Answers what the program asks for. -/
def serve (log : Log) : (c : HostCall) → IO c.Answer
  | .send request => send request
  | .environmentFile => do findAbove (← IO.currentDir).toString ".env"
  | .fileText path => onFiles (IO.FS.readFile path)
  | .openLog directory => onFiles (openLog log directory)
  | .now => clock
  | .freshId => drawId
  | .pause time => pause (time.nanoseconds / 1_000_000)
  | .print text => do
    (← IO.getStdout).putStr text
    (← IO.getStdout).flush

/-- The variables that the program was started with. -/
def environment : IO Environment := do
  return (← System.getEnv).get?

end Provisioner.Machine

open Provisioner in
/-- Does what the command line asks for. -/
def main (words : List String) : IO UInt32 := do
  let log ← IO.mkRef none
  let program := Command.run words (← Provisioner.Machine.environment)
  match ← program.run (Provisioner.Machine.serve log) (Provisioner.Machine.watch log) with
  | .ok () => return 0
  | .error (.usage error) =>
    (← IO.getStderr).putStr (Command.manual.complaint error)
    return (Command.Failure.usage error).exitCode.toUInt32
  | .error failure =>
    (← IO.getStderr).putStrLn failure.report
    return failure.exitCode.toUInt32
