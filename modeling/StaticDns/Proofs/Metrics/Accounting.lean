import Mathlib.Algebra.Ring.Nat
import Mathlib.Data.List.Induction
import StaticDns.Metrics.Traffic
import StaticDns.Proofs.Respond.Sending

/-!
# StaticDns.Proofs.Metrics.Accounting — the counts add up

Counters and histograms are bumped one by one, at different points on the way of a packet: a dropped
packet bumps one counter, a question that is ruled upon another, and a reply that is framed a third.
After any run they still give an account of the packets: nothing is counted twice, nothing is left
out, and what a reply is counted under is what stands in it.

* `Histogram.Holds`: a histogram holds the values that it was given.
* `counted_cases`: what one packet is counted under.
* `Traffic.Received`, `Traffic.Replied`: the counts are an account of the packets that have been
  received, and of the replies that have been sent.
* `handle_accounts`: one more packet keeps both.
* `counts_add_up`: the counts of every run.
-/

namespace StaticDns

open Message

/-! ## Histograms -/

namespace Histogram

/-- A histogram that has been given these values and no others. -/
structure Holds (bounds values : List Nat) (histogram : Histogram) : Prop where
  count : histogram.count = values.length
  sum : histogram.sum = values.sum
  buckets : histogram.buckets = bounds.map fun bound => (bound, values.countP (· ≤ bound))

theorem holds_ofBounds (bounds : List Nat) : Holds bounds [] (ofBounds bounds) := ⟨rfl, rfl, rfl⟩

theorem Holds.observe {bounds values : List Nat} {histogram : Histogram}
    (h : Holds bounds values histogram) (value : Nat) :
    Holds bounds (values ++ [value]) (histogram.observe value) := by
  refine ⟨?_, ?_, ?_⟩
  · rw [count_observe, h.count, List.length_append, List.length_singleton]
  · rw [sum_observe, h.sum, List.sum_append, List.sum_singleton]
  · show histogram.buckets.map (observeBucket value) = _
    rw [h.buckets, List.map_map]
    refine List.map_congr_left fun bound _ => ?_
    simp only [Function.comp_apply, observeBucket, List.countP_append, List.countP_singleton]
    by_cases within : value ≤ bound <;> simp [within]

end Histogram

/-! ## One packet -/

/-- What a datagram is counted under among the requests: an accepted query under its type, a
rejected question under none of the types, and what is dropped not at all. -/
def Decoded.asked? : Decoded → Option (Option RecordType)
  | .drop _ => none
  | .reject _ _ => some none
  | .query accepted => some (some accepted.type)

theorem asked?_eq_none_iff {decoded : Decoded} :
    decoded.asked? = none ↔ ∃ reason, decoded = .drop reason := by
  cases decoded <;> simp [Decoded.asked?]

theorem Rcode.toNat_code_inj {one other : Rcode} :
    one.code.toNat = other.code.toNat ↔ one = other := by
  cases one <;> cases other <;> decide

/-- A settled question is counted under what was asked, and its reply under the code that stands
in it. -/
theorem settle_cases (settings : Settings) (packet : Octets) (asked : Option RecordType)
    (questionEnd : Nat) (ruling : Ruling) (before : List Notice) :
    (∃ error, (settle settings packet asked questionEnd ruling before).outcome =
      .unframed asked error) ∨
    ∃ rcode reply, (settle settings packet asked questionEnd ruling before).outcome =
      .answered asked rcode reply ∧ rcodeBits reply = rcode.code.toNat := by
  rw [outcome_settle]
  cases frameFault? packet.length questionEnd ruling with
  | some error => exact .inl ⟨error, rfl⟩
  | none => exact .inr ⟨_, _, rfl, rcodeBits_framed _ _ _ _⟩

/-- **What one packet is counted under**: the reason for which it is dropped, or what it asks and,
if a reply is sent, the code of the reply. -/
theorem counted_cases (table : Table) (settings : Settings) (packet : Octets) :
    (∃ reason, decode packet = .drop reason ∧
      (respond table settings packet).outcome = .dropped reason) ∨
    ∃ asked, (decode packet).asked? = some asked ∧
      ((∃ error, (respond table settings packet).outcome = .unframed asked error) ∨
        ∃ rcode reply, (respond table settings packet).outcome = .answered asked rcode reply ∧
          rcodeBits reply = rcode.code.toNat) := by
  cases verdict : decode packet with
  | drop reason => exact .inl ⟨reason, rfl, by rw [respond_drop verdict]⟩
  | reject refusal questionEnd =>
    rw [respond_reject verdict]
    exact .inr ⟨none, rfl, settle_cases _ _ _ _ _ _⟩
  | query query =>
    obtain ⟨before, settled⟩ := respond_query verdict table settings
    rw [settled]
    exact .inr ⟨query.type, rfl, settle_cases _ _ _ _ _ _⟩

/-! ## Accounts -/

namespace Traffic

/-- The packets that are not dropped. -/
def asking (packets : List Octets) : List Octets :=
  packets.filter fun packet => (decode packet).asked?.isSome

/-- The counts are an account of the packets that have been received. -/
structure Received (packets : List Octets) (traffic : Traffic) : Prop where
  all : traffic.dropped.total + traffic.requests.total = packets.length
  dropped : ∀ reason, traffic.dropped.get (.undecoded reason) =
    packets.countP fun packet => decode packet = .drop reason
  requests : ∀ asked, traffic.requests.get asked =
    packets.countP fun packet => (decode packet).asked? = some asked
  total : traffic.requests.total = (asking packets).length
  sizes : traffic.requestSizes.Holds requestBounds ((asking packets).map List.length)

/-- The counts are an account of the replies that have been sent. -/
structure Replied (replies : List Octets) (traffic : Traffic) : Prop where
  responses : ∀ rcode, traffic.responses.get rcode =
    replies.countP fun reply => rcodeBits reply = rcode.code.toNat
  total : traffic.responses.total = replies.length
  sizes : traffic.responseSizes.Holds responseBounds (replies.map List.length)

theorem received_fresh : Received [] {} :=
  ⟨rfl, fun _ => rfl, fun _ => rfl, rfl, Histogram.holds_ofBounds requestBounds⟩

theorem replied_fresh : Replied [] {} :=
  ⟨fun _ => rfl, rfl, Histogram.holds_ofBounds responseBounds⟩

variable {packets replies : List Octets} {traffic : Traffic}

theorem asking_concat_of_none {packet : Octets} (silent : (decode packet).asked? = none) :
    asking (packets ++ [packet]) = asking packets := by
  simp [asking, silent]

theorem asking_concat_of_some {packet : Octets} {asked : Option RecordType}
    (asks : (decode packet).asked? = some asked) :
    asking (packets ++ [packet]) = asking packets ++ [packet] := by
  simp [asking, asks]

theorem Received.drop (h : Received packets traffic) {packet : Octets} {reason : DropReason}
    (verdict : decode packet = .drop reason) :
    Received (packets ++ [packet]) (traffic.drop (.undecoded reason)) := by
  have silent : (decode packet).asked? = none := by rw [verdict]; rfl
  refine ⟨?_, ?_, ?_, ?_, ?_⟩
  · have all := h.all
    simp only [Traffic.drop, Counter.total_increment, List.length_append, List.length_singleton]
    omega
  · intro other
    rw [Traffic.drop, Counter.get_increment, h.dropped, List.countP_append, List.countP_singleton,
      verdict]
    simp
  · intro asked
    rw [List.countP_append, List.countP_singleton, silent]
    exact h.requests asked
  · rw [asking_concat_of_none silent]
    exact h.total
  · rw [asking_concat_of_none silent]
    exact h.sizes

theorem Received.ask (h : Received packets traffic) {packet : Octets} {asked : Option RecordType}
    (asks : (decode packet).asked? = some asked) :
    Received (packets ++ [packet]) (traffic.ask asked packet.length) := by
  have kept (reason : DropReason) : decode packet ≠ .drop reason := by
    intro verdict
    rw [verdict] at asks
    cases asks
  refine ⟨?_, ?_, ?_, ?_, ?_⟩
  · have all := h.all
    simp only [Traffic.ask, Counter.total_increment, List.length_append, List.length_singleton]
    omega
  · intro reason
    rw [List.countP_append, List.countP_singleton, if_neg (by simpa using kept reason)]
    exact h.dropped reason
  · intro other
    rw [Traffic.ask, Counter.get_increment, h.requests, List.countP_append, List.countP_singleton,
      asks]
    simp
  · rw [Traffic.ask, Counter.total_increment, h.total, asking_concat_of_some asks,
      List.length_append, List.length_singleton]
  · rw [asking_concat_of_some asks, List.map_append]
    exact h.sizes.observe packet.length

/-- Replies are counted apart from the packets that they answer. -/
theorem Received.answer (h : Received packets traffic) (rcode : Rcode) (size : Nat)
    (elapsed : Duration) : Received packets (traffic.answer rcode size elapsed) :=
  ⟨h.all, h.dropped, h.requests, h.total, h.sizes⟩

theorem Replied.drop (h : Replied replies traffic) (cause : DropCause) :
    Replied replies (traffic.drop cause) :=
  ⟨h.responses, h.total, h.sizes⟩

theorem Replied.ask (h : Replied replies traffic) (asked : Option RecordType) (size : Nat) :
    Replied replies (traffic.ask asked size) :=
  ⟨h.responses, h.total, h.sizes⟩

theorem Replied.answer (h : Replied replies traffic) {reply : Octets} {rcode : Rcode}
    (code : rcodeBits reply = rcode.code.toNat) (elapsed : Duration) :
    Replied (replies ++ [reply]) (traffic.answer rcode reply.length elapsed) := by
  refine ⟨?_, ?_, ?_⟩
  · intro other
    rw [Traffic.answer, Counter.get_increment, h.responses, List.countP_append,
      List.countP_singleton, code]
    simp [Rcode.toNat_code_inj]
  · rw [Traffic.answer, Counter.total_increment, h.total, List.length_append,
      List.length_singleton]
  · rw [List.map_append]
    exact h.sizes.observe reply.length

/-- **One more packet keeps the account** of the packets received, and of the replies sent. -/
theorem handle_accounts {table : Table} {settings : Settings} (received : Received packets traffic)
    (replied : Replied replies traffic) (packet : Octets) :
    Received (packets ++ [packet]) (traffic.handle table settings packet) ∧
      Replied (replies ++ (respond table settings packet).outcome.reply?.toList)
        (traffic.handle table settings packet) := by
  have unsent {after : Traffic} (h : Replied replies after) : Replied (replies ++ []) after := by
    rw [List.append_nil]
    exact h
  unfold handle
  rcases counted_cases table settings packet with ⟨reason, verdict, outcome⟩ |
    ⟨asked, asks, ⟨error, outcome⟩ | ⟨rcode, reply, outcome, code⟩⟩
  · rw [outcome]
    exact ⟨received.drop verdict, unsent (replied.drop (.undecoded reason))⟩
  · -- a request whose reply cannot be framed stays counted, though nothing is sent for it
    rw [outcome]
    exact ⟨received.ask asks, unsent (replied.ask asked packet.length)⟩
  · have still := replied.ask asked packet.length
    rw [outcome]
    exact ⟨(received.ask asks).answer rcode reply.length _, still.answer code _⟩

/-- The replies that are sent to packets. -/
def repliesTo (table : Table) (settings : Settings) (packets : List Octets) : List Octets :=
  packets.filterMap fun packet => (respond table settings packet).outcome.reply?

theorem repliesTo_concat (table : Table) (settings : Settings) (packets : List Octets)
    (packet : Octets) :
    repliesTo table settings (packets ++ [packet]) = repliesTo table settings packets ++
      (respond table settings packet).outcome.reply?.toList := by
  unfold repliesTo
  rw [List.filterMap_append]
  cases sent : (respond table settings packet).outcome.reply? <;> simp [sent]

theorem ofPackets_accounts (table : Table) (settings : Settings) (packets : List Octets) :
    Received packets (ofPackets table settings packets) ∧
      Replied (repliesTo table settings packets) (ofPackets table settings packets) := by
  induction packets using List.reverseRecOn with
  | nil => exact ⟨received_fresh, replied_fresh⟩
  | append_singleton packets packet ih =>
    obtain ⟨received, replied⟩ := ih
    rw [ofPackets_concat, repliesTo_concat]
    exact handle_accounts received replied packet

/-- Every packet of the size that the server reads is answered unless it is dropped. -/
theorem length_repliesTo {table : Table} {settings : Settings} {packets : List Octets}
    (small : ∀ packet ∈ packets, packet.length ≤ maxPacket) :
    (repliesTo table settings packets).length = (asking packets).length := by
  rw [repliesTo, asking, List.length_filterMap_eq_countP, ← List.countP_eq_length_filter]
  refine List.countP_congr fun packet mem => ?_
  obtain ⟨silent, -, -⟩ := respond_unless_dropped (small packet mem) table settings
  rw [Option.isSome_iff_ne_none, Option.isSome_iff_ne_none, ne_eq, ne_eq, silent,
    asked?_eq_none_iff]

end Traffic

/-- **The counts add up.**  After any run of packets every packet has been counted once, as dropped
or as a request.  Dropped packets are counted by their reason, accepted queries by their type, all
rejected questions together, and replies by the code that stands in them.  The sizes are those of
the packets that are not dropped and of the replies.  When no packet is larger than the server reads,
there are as many responses as requests. -/
theorem counts_add_up (table : Table) (settings : Settings) (packets : List Octets) :
    let traffic := Traffic.ofPackets table settings packets
    let replies := packets.filterMap fun packet => (respond table settings packet).outcome.reply?
    let asking := packets.filter fun packet => (decode packet).asked?.isSome
    traffic.dropped.total + traffic.requests.total = packets.length ∧
    (∀ reason, traffic.dropped.get (.undecoded reason) =
      packets.countP fun packet => decode packet = .drop reason) ∧
    (∀ asked, traffic.requests.get asked =
      packets.countP fun packet => (decode packet).asked? = some asked) ∧
    (∀ rcode, traffic.responses.get rcode =
      replies.countP fun reply => rcodeBits reply = rcode.code.toNat) ∧
    traffic.requestSizes.count = asking.length ∧
    traffic.requestSizes.sum = (asking.map List.length).sum ∧
    traffic.responseSizes.count = replies.length ∧
    traffic.responseSizes.sum = (replies.map List.length).sum ∧
    traffic.responseSizes.buckets =
      responseBounds.map (fun bound => (bound, replies.countP fun reply => reply.length ≤ bound)) ∧
    ((∀ packet ∈ packets, packet.length ≤ 512) →
      traffic.requests.total = traffic.responses.total) := by
  intro traffic replies asking
  obtain ⟨received, replied⟩ := Traffic.ofPackets_accounts table settings packets
  have buckets := replied.sizes.buckets
  simp only [List.countP_map] at buckets
  refine ⟨received.all, received.dropped, received.requests, replied.responses, ?_,
    received.sizes.sum, ?_, replied.sizes.sum, buckets, ?_⟩
  · exact received.sizes.count.trans (List.length_map _)
  · exact replied.sizes.count.trans (List.length_map _)
  · intro small
    rw [received.total, replied.total]
    exact (Traffic.length_repliesTo small).symm

/-- A query that is accepted, an octet string that is no message, and a query for an operation that
is not served. -/
def mixedPackets : List Octets :=
  [rootPacket, [0x2A], [0, 2, 0x20, 0, 0, 1, 0, 0, 0, 0, 0, 0, 0, 0, 1, 0, 1]]

theorem mixedPackets_counts :
    (∀ packet ∈ mixedPackets, packet.length ≤ 512) ∧
      let traffic := Traffic.ofPackets {} {} mixedPackets
      traffic.dropped.total + traffic.requests.total = 3 ∧
        traffic.requests.get (some .a) = 1 ∧ traffic.requests.get none = 1 ∧
        traffic.responses.get .nxDomain = 1 ∧ traffic.responses.get .notImp = 1 ∧
        traffic.requests.total = traffic.responses.total := by
  have small : ∀ packet ∈ mixedPackets, packet.length ≤ 512 := by decide
  obtain ⟨all, -, requests, responses, -, -, -, -, -, answered⟩ := counts_add_up {} {} mixedPackets
  refine ⟨small, all, ?_, ?_, ?_, ?_, answered small⟩
  · rw [requests]
    decide +kernel
  · rw [requests]
    decide +kernel
  · rw [responses]
    decide +kernel
  · rw [responses]
    decide +kernel

end StaticDns
