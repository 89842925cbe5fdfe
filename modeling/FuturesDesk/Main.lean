import FuturesDesk.Brokerage.Gateway
import FuturesDesk.Desk.Session
import FuturesDesk.Service.Startup
import FuturesDesk.Text.Uuid
import Std.Time.Zoned.Database

/-!
# The program

Loads a configuration and serves one client on the standard streams, a frame a
line, until its input ends. The brokerage is not reached from here, so orders
fail, and the client is told.
-/

namespace FuturesDesk

open Service

def sourceAt (path : String) : IO Source := do
  try
    return .file (← IO.FS.readBinFile path)
  catch
    | .noFileOrDirectory .. => return .absent
    | _ => return .directory

def now : IO UInt64 := do
  return UInt64.ofNat (← Std.Time.Timestamp.now).toMillisecondsSinceUnixEpoch.val.toNat

/-- The zone of this machine, or universal time if it has none. -/
def localZone : IO Zone := do
  try
    let rules ← Std.Time.Database.defaultGetLocalZoneRules
    return ⟨fun now => (rules.timezoneAt (.ofMillisecondsSinceUnixEpoch ⟨now.toNat⟩)).offset.second.val⟩
  catch _ => return .utc

def freshId : IO String := do
  return Uuid.ofBytes (← IO.getRandomBytes 16).toList

/-- One frame of the client, with an id for every unit that can be admitted. -/
def onLine (g : Gateway) (s : Session) (now : UInt64) (line : String) : IO Session := do
  match Command.ofText line with
  | .ok c =>
    let units := min (Session.unitCount c) s.settings.maxOrderQuantity.toInt.toNat
    let groups ← (List.range units).mapM fun _ => freshId
    return s.text now line fun k =>
      let group := groups.getD k ""
      ⟨group, g.answer .unreachable now (.submit (Session.unitOrder c group))⟩
  | .error _ => return s.text now line fun _ => ⟨"", .failure ""⟩

partial def serveClient (g : Gateway) (input output : IO.FS.Stream) (s : Session) : IO Unit := do
  let line ← input.getLine
  if line.isEmpty then return
  let s ← onLine g s (← now) (String.ofList (line.toList.filter (· ≠ '\n')))
  for f in s.out do
    output.putStrLn f.text
  output.flush
  serveClient g input output { s with out := [] }

def complain (f : Failure) : IO Unit := do
  let err ← IO.getStderr
  match f.causes with
  | [] => return
  | first :: rest =>
    err.putStrLn ("Error: " ++ first)
    unless rest.isEmpty do
      err.putStrLn "\nCaused by:"
      for cause in rest do
        err.putStrLn ("    " ++ cause)

def runDesk (d : Desk) : IO UInt32 := do
  let err ← IO.getStderr
  let log (line : String) : IO Unit := if d.logs then err.putStrLn line else return
  match Hours.ofWindows d.config.trade.tradingHours with
  | .error fault =>
    err.putStrLn ("Error: " ++ fault.message)
    return 1
  | .ok hours =>
    log d.startingLine
    let c := d.config.gateway
    let g : Gateway := { apiKey := c.apiKey, secretKey := c.secretKey }
    serveClient g (← IO.getStdin) (← IO.getStdout) (.start (← freshId) d.config.trade hours (← localZone))
    for line in Desk.closingLines do
      log line
    return 0

end FuturesDesk

open FuturesDesk FuturesDesk.Service

def main (args : List String) : IO UInt32 := do
  match Invocation.ofArgs args with
  | .help =>
    (← IO.getStdout).putStr usage
    return 0
  | .misuse =>
    (← IO.getStderr).putStr usage
    return UInt32.ofNat misuseCode
  | .run options =>
    match (← sourceAt options.config).read options.config with
    | .error failure =>
      complain failure
      return 1
    | .ok config => runDesk ⟨options, config⟩
