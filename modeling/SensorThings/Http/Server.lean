import SensorThings.Change.Basic

/-!
What answering a request needs besides the store.
-/
namespace SensorThings

structure Server where
  /-- The address that all links start with. -/
  base : String
  environment : Environment

def Server.config (server : Server) : Config :=
  server.environment.config

def Server.now (server : Server) : Instant :=
  server.environment.now

end SensorThings
