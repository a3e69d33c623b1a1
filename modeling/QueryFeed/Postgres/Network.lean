import QueryFeed.Configuration.Opening
import QueryFeed.Postgres.Session
import QueryFeed.Postgres.Target

/-!
**Opening sessions.**

A network has places where the server can be reached.  The settings of a connection are read as a target,
in which their application name goes before the one of the locator; a query timeout of zero is none.
The places of the target are tried one after the other, until a session is opened at one of them.  The
server neither encrypts the line nor binds a login to it, so a target that asks for that finds none.

Main definitions:

* `Network`, `Network.attempt` — a network, and one try to open a session at a place;
* `Network.connect` — opening a session.
-/

set_option autoImplicit false

namespace QueryFeed.Postgres

/-- A network with one server. -/
structure Network where
  /-- The reason why a host is not reached at a port; none where it is. -/
  obstacle : Host → Nat → Option String
  /-- The user of the machine. -/
  account : String
  server : Server

/-- Why no session was opened: a chain of causes, the nearest one first. -/
abbrev Refusal := List String

namespace Network

/-- The target of settings. -/
def target? (settings : Database.Settings) : Option Target :=
  (Target.ofText? settings.url).map fun target =>
    { target with applicationName := settings.applicationName.or target.applicationName }

/-- Why a line to a host cannot be encrypted as a target asks. -/
def encryptionFault? (target : Target) : Option Refusal :=
  let fault (reason : String) : Option Refusal := some ["error performing TLS handshake", reason]
  match target.encryption with
  | .none => none
  | .negotiated => fault "server does not support TLS"
  | .direct => fault "no hostname provided for TLS handshake"

/-- Asks whether a session is allowed to do what a target wants.  The server has no answer that would
say so. -/
def askAccess (target : Target) (server : Server) : Option Refusal × Server :=
  if target.access = .any then (none, server)
  else
    let (response, server) := server.askPlain "SHOW transaction_read_only"
    (some (match response with
      | .answered => ["unexpected message from server"]
      | .failed => ["db error"]
      | _ => ["connection closed"]), server)

/-- Introduces a client to a server that was reached. -/
def greet (target : Target) (account : String) (server : Server) : Option Refusal × Server :=
  let settings := target.startup account
  if settings.any fun entry => !Session.isSendable entry.2 then
    (some ["error encoding message to server", "string contains embedded null"], server)
  else
    let server := { server with log := server.log ++ [.startup settings] }
    if target.boundToChannel then
      (some ["authentication error", "server did not use channel binding"], server)
    else askAccess target server

/-- Tries to open a session at a place. -/
def attempt (network : Network) (target : Target) (place : Host × Nat) :
    Option Refusal × Server :=
  match network.obstacle place.1 place.2 with
  | some reason => (some ["error connecting to server", reason], network.server)
  | none =>
      match encryptionFault? target with
      | some refusal => (some refusal, network.server)
      | none => greet target network.account { network.server with line := .up }

/-- Tries the places one after the other, and gives the reason why the last one failed. -/
def attempts (network : Network) (target : Target) : List (Host × Nat) → Option Refusal × Server
  | [] => (none, network.server)
  | [place] => network.attempt target place
  | place :: rest =>
      match network.attempt target place with
      | (none, server) => (none, server)
      | (some _, server) => attempts { network with server := server } target rest

/-- Looks for the server where a target says. -/
def reach (network : Network) (target : Target) : Option Refusal × Server :=
  match target.contradiction? with
  | some reason => (some ["invalid configuration", reason], network.server)
  | none => network.attempts target target.places

/-- Opens a session with the server. -/
def connect : Connect Network (Session × Reply) := fun network settings =>
  match target? settings with
  | none =>
      (.error (.configuration "invalid connection url: invalid connection string"), network)
  | some target =>
      match network.reach target with
      | (some refusal, server) =>
          (.error (.connection "failed to connect" refusal), { network with server := server })
      | (none, server) =>
          let timeout := if settings.queryTimeoutMs = 0 then none else some settings.queryTimeoutMs
          (.ok (Session.start server timeout, .silent), { network with server := server })

end Network

end QueryFeed.Postgres
