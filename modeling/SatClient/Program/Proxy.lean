import SatClient.Program.Course

/-! The command that runs the forwarder until it is interrupted. -/

namespace SatClient.Program

/-- What browsers ask while the forwarder runs, and the address it really listens at. -/
structure Visit where
  requests : List Http.Request
  address : String
  deriving DecidableEq, Repr

/-- The failure to listen at an address that is none of the machine's. -/
def bindFailure (address : String) : Explanation :=
  ⟨"Failed to bind " ++ address, ["Cannot assign requested address (os error 99)"]⟩

def forwardingLine (settings : Settings) (endpoint : Endpoint) : String :=
  "🔀 Forwarding http://" ++ settings.bindAddress ++ Forwarder.servicePath ++ " to "
    ++ endpoint.text

def canListen (settings : Settings) : Bool :=
  (SocketAddress.parse? settings.bindAddress).any (·.isLocal)

/-- What the forwarder answers, unless a request does not get there. -/
abbrev Served := Except Forwarder.Unreached (Course × List Forwarder.Answer)

/-- Forward requests. -/
def serve (course : Course) (around : Surroundings) (endpoint : Endpoint) (visit : Visit) :
    Served := do
  let served ←
    Forwarder.serve around.link visit.address endpoint around.solver visit.requests
  return (course.trace served, served.value)

def proxy (around : Surroundings) (config : Files.Path) (overrides : Overrides)
    (visit : Visit) : Served :=
  let course := (Course.start around.files).log (Settings.readTrail around.files config)
  let ended (course : Course) : Served := .ok (course, [])
  match Settings.gather around config overrides with
  | .error explanation => ended (course.fail explanation)
  | .ok settings =>
      match settings.endpoint with
      | .error explanation => ended (course.fail explanation)
      | .ok endpoint =>
          if canListen settings then
            serve (course.print (around.paint.info (forwardingLine settings endpoint))) around
              endpoint visit
          else ended (course.fail (bindFailure settings.bindAddress))

end SatClient.Program
