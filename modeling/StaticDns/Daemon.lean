import StaticDns.Metrics.Exposition
import StaticDns.Server
import StaticDns.Startup

/-!
# StaticDns.Daemon — a running server and its record file

A daemon joins a source and a server: whatever the source publishes, the server answers from. Its
steps are the events of the outside world, each with what has been observed with it.

* `Daemon.start`: a daemon that has just come up.
* `Daemon.hangup`, `Daemon.poll`: the two triggers by which a running daemon loads its record file.
-/

namespace StaticDns

structure Daemon where
  options : Options
  bound : Endpoint
  source : Source
  server : Server

namespace Daemon

/-- A daemon that has just come up. -/
def start (options : Options) (bound : Endpoint) (source : Source) : Daemon :=
  { options, bound, source, server := { settings := options.settings, table := source.table } }

def metrics (daemon : Daemon) : Metrics :=
  { build := some programVersion
    traffic := daemon.server.traffic
    tables := daemon.source.gauges }

def adopt (daemon : Daemon) (source : Source) : Daemon :=
  { daemon with source, server := (daemon.server.step (.publication source.table)).1 }

variable (digest : Octets → String)

/-- A hangup signal, with the record file as it is then. -/
def hangup (daemon : Daemon) (file : Except SystemError Octets) : Daemon × List Notice :=
  let (source, notices) := daemon.source.hangup digest file
  (daemon.adopt source, notices)

/-- A poll, with the record file as it is then. -/
def poll (daemon : Daemon) (file : Except SystemError Octets) : Daemon × List Notice :=
  let (source, notices) := daemon.source.poll digest file
  (daemon.adopt source, notices)

/-- What is reported when a daemon is asked to end. -/
def closing (daemon : Daemon) : List Notice := [.interrupted, .stopping daemon.bound]

end Daemon

end StaticDns
