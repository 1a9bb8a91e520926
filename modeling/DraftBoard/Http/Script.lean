import DraftBoard.Http.Message

/-!
# Scripted servers

A scripted server answers each request by the first of its routes that fits and
is not used up, and keeps account of what it has been sent.  One that does not
listen answers nothing.
-/

namespace DraftBoard.Http

/-- How a route answers. -/
inductive Reply where
  | respond (status : Nat) (body : ByteArray)
  | hangUp

/-- An answer for the requests of a method and a target.  A target that ends in a
star stands for all that begin with what precedes the star. -/
structure Route where
  method : String
  target : List Char
  reply : Reply
  /-- How often the route may still be used; without a number always. -/
  uses : Option Nat

namespace Route

/-- Whether a route covers a target. -/
def covers (route : Route) (target : List Char) : Bool :=
  if route.target.getLast? = some '*' then route.target.dropLast.isPrefixOf target
  else route.target == target

/-- Whether a route answers a request. -/
def fits (route : Route) (request : Request) : Bool :=
  route.uses != some 0 && route.method == request.method.name &&
    route.covers request.url.target

/-- The route after one more use. -/
def use (route : Route) : Route :=
  { route with uses := route.uses.map (· - 1) }

end Route

/-- A server that follows a script. -/
structure Script where
  /-- Host and port that it listens at; without one it cannot be reached. -/
  address : Option (List Char)
  routes : List Route
  /-- The requests received, oldest first. -/
  received : List Request := []

namespace Script

/-- The answer of the first route that fits, and the routes after it has been used. -/
def answer (request : Request) : List Route → Reply × List Route
  | [] => (.respond 404 .empty, [])
  | route :: rest =>
      if route.fits request then (route.reply, route.use :: rest)
      else
        let (reply, rest) := answer request rest
        (reply, route :: rest)

/-- Some answers never have a body. -/
def bodyless (status : Nat) : Bool := status == 204 || status == 304

/-- The transport to a scripted server. -/
def transport : Transport (StateM Script) where
  send request := fun script =>
    if script.address = request.url.authority.map (·.server) ∧ script.address.isSome then
      let (reply, routes) := answer request script.routes
      let script := { script with routes := routes, received := script.received ++ [request] }
      match reply with
      | .hangUp => (.error .closed, script)
      | .respond status body =>
          let body := if bodyless status then .empty else body
          (.ok ⟨status, reasonPhrase status, body⟩, script)
    else (.error .unreachable, script)

end Script

end DraftBoard.Http
