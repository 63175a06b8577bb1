/-!
# StaticDns.Settings — what an operator chooses

The values that loading and answering are given from outside.
-/

namespace StaticDns

/-- The lifetime of answers when none is chosen, in seconds. -/
def defaultTtl : UInt32 := 120

/-- The choices that loading and answering depend on. -/
structure Settings where
  /-- The lifetime written into every answer, in seconds. -/
  ttl : UInt32 := defaultTtl
  /-- Whether every loaded record, received datagram and matched query is reported. -/
  verbose : Bool := false
  deriving DecidableEq, Repr

end StaticDns
