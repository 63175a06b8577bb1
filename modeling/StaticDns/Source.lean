import StaticDns.Host.FileTree
import StaticDns.Interval
import StaticDns.Metrics.Traffic
import StaticDns.RecordFile

/-!
# StaticDns.Source — the record file behind the served table

A source loads a record file and publishes its table. Three things make it load: a direct reload, a
hangup signal, and a poll that finds a content whose digest is not the one last loaded. A load that
fails counts as a failure and changes nothing else.

The digest is a parameter: all that is used of it is that it is some function of the content. The
record file enters as the outcome of reading it, its content or the cause for which it has none.

* `Source.reload`, `Source.hangup`, `Source.poll`: the three that make a source load.
* `World.step`: what happens to a record file, its source and a server, one event after the other.
-/

namespace StaticDns

/-- A record file together with what has been published of it. -/
structure Source where
  path : String
  settings : Settings
  table : Table := {}
  /-- The digest of the content behind the table, empty before the first load. -/
  loaded : String := ""
  gauges : TableGauges := {}
  /-- How many tables have been published. -/
  publications : Nat := 0

structure Loading where
  source : Source
  result : Except LoadError Nat
  notices : List Notice

namespace Source

/-- The content of a record file and the text that it spells. -/
def load (path : String) (file : Except SystemError Octets) :
    Except LoadError (Octets × String) :=
  match file with
  | .error cause => .error (.unreadable path cause)
  | .ok content =>
    match Utf8.read content with
    | .error fault => .error (.notText path fault)
    | .ok cs => .ok (content, String.ofList cs)

def fail (source : Source) : Source :=
  { source with gauges := { source.gauges with failures := source.gauges.failures + 1 } }

/-- The versions when a digest takes over from the one loaded before. -/
def succeed (loaded digest : String) (versions : List (String × Bool)) : List (String × Bool) :=
  setVersion digest true
    (if loaded ≠ "" ∧ loaded ≠ digest then setVersion loaded false versions else versions)

def publish (source : Source) (table : Table) (digest : String) : Source :=
  { source with
    table
    loaded := digest
    gauges :=
      { source.gauges with
        records := table.size
        versions := succeed source.loaded digest source.gauges.versions }
    publications := source.publications + 1 }

variable (digest : Octets → String)

/-- Loads the file and publishes its table. -/
def reload (source : Source) (file : Except SystemError Octets) : Loading :=
  match load source.path file with
  | .error error => ⟨source.fail, .error error, []⟩
  | .ok (content, text) =>
    let table := RecordFile.table text
    ⟨source.publish table (digest content), .ok table.size,
      RecordFile.notices source.settings text⟩

end Source

/-- What is reported of a load that nobody waits for. -/
def Loading.report (loading : Loading) : List Notice :=
  loading.notices ++
    match loading.result with
    | .ok records => [.serving records]
    | .error error => [.keeping error]

namespace Source

variable (digest : Octets → String)

/-- Loads the file on a hangup signal. -/
def hangup (source : Source) (file : Except SystemError Octets) : Source × List Notice :=
  let loading := source.reload digest file
  (loading.source, .hangup source.path :: loading.report)

/-- Looks at the file and loads it if its content is not the one last loaded. -/
def poll (source : Source) (file : Except SystemError Octets) : Source × List Notice :=
  match file with
  | .error cause => (source.fail, [.unreadable source.path cause])
  | .ok content =>
    if digest content = source.loaded then (source, [])
    else
      let loading := source.reload digest file
      (loading.source, .changed (digest content) :: loading.report)

/-- How far a poll may be moved from its time. -/
def jitter (interval : Duration) : Duration := interval.half.min (.ofSeconds 15)

/-- The time to the next poll: the interval moved by at most the jitter, as `chance` decides. -/
def pollDelay (interval : Duration) (chance : Nat) : Duration :=
  let most := (jitter interval).milliseconds
  ⟨interval.nanoseconds + (Duration.ofMilliseconds (chance % (2 * most + 1))).nanoseconds
    - (Duration.ofMilliseconds most).nanoseconds⟩

/-- What is reported when a watch over a record file begins. A longer interval than the longest
one counts as that. -/
def watchBegun (path : String) (interval : Duration) : Notice :=
  let interval := interval.min Interval.longest
  .watching path interval (jitter interval)

end Source

/-! ## Whole runs -/

structure World where
  files : FileTree
  source : Source
  traffic : Traffic := {}

/-- Something that happens to a record file, to its source, or to the server. -/
inductive World.Event where
  | write (content : Octets)
  | remove
  | makeDirectory
  | reload
  | hangup
  | poll
  | packet (octets : Octets)

/-- What an event shows. -/
structure World.View where
  notices : List Notice := []
  /-- The outcome of a direct reload. -/
  loaded : Option (Except LoadError Nat) := none
  /-- What came of a datagram. -/
  outcome : Option Outcome := none

namespace World

/-- The record file as it can be read now. -/
def file (world : World) : Except SystemError Octets := world.files.read world.source.path

/-- The state after an attempt to change the record file, the same if the host refuses it. -/
def touch (world : World) (change : FileTree → String → Except SystemError FileTree) : World :=
  { world with files := (change world.files world.source.path).toOption.getD world.files }

def step (digest : Octets → String) (world : World) : Event → World × View
  | .write content => (world.touch fun files path => files.write path content, {})
  | .remove => (world.touch FileTree.remove, {})
  | .makeDirectory => (world.touch FileTree.createDirectory, {})
  | .reload =>
    let loading := world.source.reload digest world.file
    ({ world with source := loading.source },
      { notices := loading.notices, loaded := some loading.result })
  | .hangup =>
    let (source, notices) := world.source.hangup digest world.file
    ({ world with source }, { notices })
  | .poll =>
    let (source, notices) := world.source.poll digest world.file
    ({ world with source }, { notices })
  | .packet octets =>
    let response := respond world.source.table world.source.settings octets
    ({ world with traffic := world.traffic.observe octets.length ⟨0⟩ response.outcome },
      { notices := response.notices, outcome := some response.outcome })

def run (digest : Octets → String) (world : World) (events : List Event) : World :=
  events.foldl (fun state event => (state.step digest event).1) world

end World

end StaticDns
