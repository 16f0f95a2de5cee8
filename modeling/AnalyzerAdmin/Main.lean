import AnalyzerAdmin.Http.Wire
import AnalyzerAdmin.Program
import Std.Async.DNS
import Std.Async.TCP
import Std.Async.Timer
import Std.Time

/-!
# The executable

Plays the dialogue of a command line against a cluster that is reached over TCP. Output goes to
the standard output as it is told, and the log and the report of an early end to the standard
error. Only plain HTTP is spoken.
-/

open AnalyzerAdmin AnalyzerAdmin.CommandLine
open Std.Async Std.Net

namespace AnalyzerAdmin.Main

def filterVariable : String := "RUST_LOG"

def resolve (url : Url) : Async (Option IPAddr) := do
  match url.host? with
  | some (.ipv4 address) =>
    return (IPv4Addr.ofString address.render).map .v4
  | some (.ipv6 address) => return some (.v6 ⟨address.groups⟩)
  | some host => try return (← DNS.getAddrInfo host.render "" none)[0]? catch _ => return none
  | none => return none

def socketAddress (url : Url) (address : IPAddr) : SocketAddress :=
  let port := UInt16.ofNat (url.portNumber?.getD 80)
  match address with
  | .v4 a => .v4 ⟨a, port⟩
  | .v6 a => .v6 ⟨a, port⟩

partial def receiveAll (socket : TCP.Socket.Client) (octets : List UInt8) : Async Reply := do
  let chunk ← try socket.recv? 65536 catch _ => pure none
  let octets := match chunk with
    | some bytes => octets ++ bytes.toList
    | none => octets
  match Wire.receive octets chunk.isNone with
  | some reply => return reply
  | none => receiveAll socket octets

def connectFault : IO.Error → SendFault
  | .resourceVanished _ _ => .refused
  | e => if ((toString e).splitOn "refused").length > 1 then .refused else .unreachable

def connect (url : Url) : Async (Except SendFault TCP.Socket.Client) := do
  try
    match ← resolve url with
    | none => return .error .unresolved
    | some address => do
      let socket ← TCP.Socket.Client.mk
      socket.connect (socketAddress url address)
      return .ok socket
  catch e => return .error (connectFault e)

def attempt (r : Request) : Async Reply := do
  if r.url.scheme ≠ "http" then return .failed .unreachable
  match ← connect r.url with
  | .error fault => return .failed fault
  | .ok socket =>
    try
      socket.send (Wire.encode r)
      receiveAll socket []
    catch _ => return .failed .closed

def expire (timeout : Nat) : Async Reply := do
  let sleep ← Sleep.mk (Std.Time.Millisecond.Offset.ofInt timeout)
  sleep.wait
  return .failed .timedOut

instance : Inhabited Reply := ⟨.failed .unreachable⟩

def exchange (timeout : Nat) (r : Request) : IO Reply :=
  (Async.race (attempt r) (expire timeout)).block

/-- Sleeps for any number of milliseconds. A single sleep takes no more than 32 bits. -/
def rest (time : Nat) : IO Unit := do
  let longest := 2 ^ 32 - 1
  for _ in [0 : time / longest] do
    IO.sleep (UInt32.ofNat longest)
  IO.sleep (UInt32.ofNat (time % longest))

def play {α : Type} (timeout : Nat) (filter : Log.Filter) :
    Dialogue Request Reply α → IO α
  | .done a => return a
  | .ask r next => do
    let reply ← exchange timeout r
    play timeout filter (next reply)
  | .pause time next => do
    rest time
    play timeout filter next
  | .readClock next => do
    let now ← IO.monoMsNow
    play timeout filter (next now)
  | .tell (.line text) next => do
    IO.println text
    play timeout filter next
  | .tell (.entry e) next => do
    if filter.allows e.level then IO.eprintln e.render
    play timeout filter next

def readFilter : IO Log.Filter := do
  match ← IO.getEnv filterVariable with
  | some text => return Log.Filter.read text
  | none => return Log.Filter.standard

def wallClock : IO Int := do
  return (← Std.Time.Timestamp.now).toNanosecondsSinceUnixEpoch.val

end AnalyzerAdmin.Main

open AnalyzerAdmin.Main

def main (args : List String) : IO UInt32 := do
  match Invocation.read args with
  | .error stop =>
    let outcome := Program.Outcome.early stop
    IO.print outcome.stdout
    IO.eprint outcome.stderr
    return UInt32.ofNat outcome.exit
  | .ok invocation =>
    let timeout := invocation.settings.address.timeout.toNat
    match ← play timeout (← readFilter) (Program.action invocation (← wallClock)).run with
    | .ok _ => return 0
    | .error abort => do
      IO.eprint (Abort.report abort.chain)
      return 1
