import ScoreDeploy.Node.Http
import ScoreDeploy.Node.Response

/-!
# Redirections

A machine may answer that what a message asks for is elsewhere. Then the message is sent there, or
one that only asks. Where a response tells no place to go to, it is the answer. A client does not
follow for ever.
-/

namespace ScoreDeploy.Node

/-- How often a message is sent on. -/
def maxRedirects : Nat := 10

/-- Whether a response with that status may lead on, and the message is the same there. -/
def Response.redirects : List (Nat × Bool) :=
  [(301, false), (302, false), (303, false), (307, true), (308, true)]

/-- The body of the next message after a response that leads on. -/
def Response.repeated (response : Response) (body : Option String) : Option String :=
  if Response.redirects.lookup response.status = some true then body else none

namespace Http

/-- Whether a text can name a machine in a message. Who asks may stand before it. -/
def canBeAsked (machine : List Char) : Bool :=
  let host := (machine.reverse.takeWhile (· != '@')).reverse
  let service := (host.reverse.takeWhile (· != ']')).reverse
  !host.isEmpty && !service.contains '%' && service.count ':' ≤ 1

/-- The address to which a response leads from a target, without what stands behind a `#`. -/
def Target.onward? (target : Target) (response : Response) : Option Url.Reference := do
  guard (Response.redirects.lookup response.status).isSome
  let next := { ← Url.Reference.resolve? target.base (← response.location) with fragment := none }
  guard (next.machine.any canBeAsked)
  return next

/-- Where the message for an address goes that a response led to. `goal` is the address that was
meant at first. The user is told only to the machine that was meant. -/
def Target.ofRedirect (goal : String) (before : Target) (next : Url.Reference) :
    Except NetworkError Target :=
  let text := String.ofList next.text
  match Url.read? text with
  | none => .error (.unsupported goal)
  | some url =>
    match url.host, Url.webServices.lookup url.scheme with
    | some host, some usual =>
      let service := url.service.getD usual
      let path := String.ofList next.request
      if url.scheme == "http" || url.scheme == "https" then .ok {
        isSecure := url.scheme == "https", host, service
        path := if next.path.isEmpty then "/" ++ path else path
        user := if host = before.host ∧ service = before.service then before.user else none
        address := url.text, base := text }
      else .error (.unsupported url.text)
    | _, _ => .error (.unsupported url.text)

end Http

end ScoreDeploy.Node
