import StaticDns.Metrics.Exposition

/-!
# StaticDns.Metrics.Http — metrics over a stream

A client that begins with `GET ` is sent the exposition, whatever it asks for; any other client is
left without an answer.

* `HttpAnswer.text`: an answer as it goes over the stream.
* `Metrics.answer?`: the answer to what a client sends first.
-/

namespace StaticDns

structure HttpAnswer where
  body : List String
  deriving DecidableEq, Repr

namespace HttpAnswer

/-- The body as text, every line ended. -/
def bodyText (answer : HttpAnswer) : String :=
  String.join (answer.body.map fun line => line ++ "\n")

def head (answer : HttpAnswer) : List String :=
  ["HTTP/1.1 200 OK", "Content-Type: text/plain; version=0.0.4",
    s!"Content-Length: {answer.bodyText.utf8ByteSize}", "Connection: close"]

def text (answer : HttpAnswer) : String :=
  String.join (answer.head.map fun line => line ++ "\r\n") ++ "\r\n" ++ answer.bodyText

/-- The octets that a request begins with. -/
def method : Octets := [0x47, 0x45, 0x54, 0x20]

end HttpAnswer

/-- The answer to what a client sends first. -/
def Metrics.answer? (metrics : Metrics) (request : Octets) : Option HttpAnswer :=
  if HttpAnswer.method.isPrefixOf request then some ⟨metrics.exposition⟩ else none

end StaticDns
