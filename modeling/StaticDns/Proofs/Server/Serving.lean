import Mathlib.Data.List.Induction
import Mathlib.Tactic.Common
import StaticDns.Server

/-!
# StaticDns.Proofs.Server.Serving — a server has no memory of datagrams

A server reads every datagram into one buffer, where the octets of longer ones stay behind, and
counts as it goes.  What it sends depends on none of this.  The buffer never changes its length,
which is one octet more than the longest packet, so what is read from it is the datagram itself or
too long to be looked at, and each datagram is answered as if it were the only one, from the table
published last.

* `arrivals`: the datagrams of a run, each with the table that it finds.
* `replyTo`: what is sent for one datagram.
* `arrive_eq`: a datagram is concluded with its own payload, or refused by its length.
* `run_replies`: the datagrams sent in a run, and the number of those refused.
-/

namespace StaticDns

/-! ## Datagrams one by one -/

/-- The datagrams that arrive, each with the table published last before it. -/
def arrivals (table : Table) : List Server.Event → List (Table × Datagram)
  | [] => []
  | .arrival datagram :: events => (table, datagram) :: arrivals table events
  | .publication newer :: events => arrivals newer events

/-- Whether the length of a datagram is that of a packet. -/
def Datagram.Fits (datagram : Datagram) : Prop :=
  12 ≤ datagram.payload.length ∧ datagram.payload.length ≤ 512

instance (datagram : Datagram) : Decidable datagram.Fits := inferInstanceAs (Decidable (_ ∧ _))

/-- The known destination of a datagram, unless it is unspecified, broadcast or multicast. -/
def Datagram.ownAddress (datagram : Datagram) : Option Ipv4 :=
  datagram.destination.filter fun address =>
    address ≠ ⟨0, 0, 0, 0⟩ ∧ address ≠ ⟨255, 255, 255, 255⟩ ∧ ¬ (224 ≤ address.a ∧ address.a ≤ 239)

/-- What is sent for a datagram, which depends on a table and the settings and on nothing else. -/
def Datagram.replyTo (settings : Settings) (table : Table) (datagram : Datagram) :
    Option Outgoing :=
  if datagram.Fits then
    (respond table settings datagram.payload).outcome.reply?.map fun payload =>
      { payload, recipient := datagram.sender, source := datagram.ownAddress }
  else none

theorem Ipv4.octets_eq_iff {address : Ipv4} {a b c d : UInt8} :
    address.octets = [a, b, c, d] ↔ address = ⟨a, b, c, d⟩ := by
  obtain ⟨a', b', c', d'⟩ := address
  simp [octets]

theorem Ipv4.isSource_iff {address : Ipv4} :
    address.isSource = true ↔ address ≠ ⟨0, 0, 0, 0⟩ ∧ address ≠ ⟨255, 255, 255, 255⟩ ∧
      ¬ (224 ≤ address.a ∧ address.a ≤ 239) := by
  rw [isSource, Bool.not_eq_true', Bool.eq_false_iff, ne_eq, Bool.or_eq_true, Bool.or_eq_true,
    isUnspecified, isBroadcast, beq_iff_eq, beq_iff_eq, octets_eq_iff, octets_eq_iff, isMulticast,
    Bool.and_eq_true, decide_eq_true_iff, decide_eq_true_iff, not_or, not_or, and_assoc]

theorem Server.replySource_eq (datagram : Datagram) :
    replySource datagram = datagram.ownAddress := by
  unfold replySource Datagram.ownAddress
  congr 1
  funext address
  rw [Bool.eq_iff_iff, Ipv4.isSource_iff, decide_eq_true_iff]

namespace Traffic

/-- Nothing that comes of a packet counts as a bad size. -/
theorem badSize_observe (traffic : Traffic) (size : Nat) (elapsed : Duration) (outcome : Outcome) :
    (traffic.observe size elapsed outcome).dropped.get .badSize = traffic.dropped.get .badSize := by
  cases outcome with
  | dropped reason =>
    rw [observe_dropped, Counter.get_increment, if_neg nofun]
    rfl
  | unframed | answered => rfl

theorem badSize_drop (traffic : Traffic) :
    (traffic.drop .badSize).dropped.get .badSize = traffic.dropped.get .badSize + 1 := by
  rw [drop, Counter.get_increment, if_pos rfl]

end Traffic

/-! ## One event -/

namespace Server

variable {server : Server} (sized : server.buffer.length = maxPacket + 1)
include sized

/-- **What is read of a datagram is the datagram**, whatever the buffer has held, or its length
shows that it is none to be looked at. -/
theorem arrive_eq (datagram : Datagram) (elapsed : Duration) :
    server.arrive datagram elapsed =
      let filled := { server with buffer := (fill server.buffer datagram.payload).1 }
      if datagram.Fits then
        filled.conclude datagram datagram.payload
          (respond server.table server.settings datagram.payload) elapsed
      else filled.refuse datagram (min datagram.payload.length 513) := by
  -- the spare octet of the buffer is what a datagram that is too long fills
  have size : (fill server.buffer datagram.payload).2 = min datagram.payload.length 513 := by
    simp only [fill, List.length_take, sized, maxPacket]
    omega
  have admitted : admits (min datagram.payload.length 513) ↔ datagram.Fits := by
    unfold admits Datagram.Fits
    simp only [headerLength, maxPacket]
    omega
  unfold arrive
  simp only [size, admitted]
  by_cases fits : datagram.Fits
  · have whole : (fill server.buffer datagram.payload).1.take
        (min datagram.payload.length 513) = datagram.payload := by
      have short : datagram.payload.length ≤ server.buffer.length := by
        rw [sized, maxPacket]
        exact Nat.le_succ_of_le fits.2
      rw [← size, fill_take, List.take_of_length_le short]
    simp only [if_pos fits, whole]
  · simp only [if_neg fits]

theorem sent_arrive (datagram : Datagram) (elapsed : Duration) :
    (server.arrive datagram elapsed).2.sent =
      datagram.replyTo server.settings server.table := by
  rw [arrive_eq sized, Datagram.replyTo]
  by_cases fits : datagram.Fits
  · simp only [if_pos fits, conclude, replySource_eq]
  · simp only [if_neg fits, refuse]

/-- Nothing comes of a datagram that is refused but that it is counted, and reported by its length. -/
theorem arrive_of_not_fits {datagram : Datagram} (unfit : ¬ datagram.Fits) (elapsed : Duration) :
    server.arrive datagram elapsed =
      ({ server with
          buffer := (fill server.buffer datagram.payload).1
          traffic := server.traffic.drop .badSize },
        { notices := [.sizeRefused (min datagram.payload.length 513) datagram.sender] }) := by
  rw [arrive_eq sized]
  simp only [if_neg unfit, refuse]

/-- What an arrival leaves as it was. -/
theorem kept_arrive (datagram : Datagram) (elapsed : Duration) :
    (server.arrive datagram elapsed).1.settings = server.settings ∧
      (server.arrive datagram elapsed).1.table = server.table ∧
      (server.arrive datagram elapsed).1.buffer.length = maxPacket + 1 := by
  have length : (fill server.buffer datagram.payload).1.length = maxPacket + 1 :=
    (length_fill _ _).trans sized
  rw [arrive_eq sized]
  by_cases fits : datagram.Fits
  · simp only [if_pos fits]
    exact ⟨rfl, rfl, length⟩
  · simp only [if_neg fits]
    exact ⟨rfl, rfl, length⟩

theorem badSize_arrive (datagram : Datagram) (elapsed : Duration) :
    (server.arrive datagram elapsed).1.traffic.dropped.get .badSize =
      server.traffic.dropped.get .badSize + if datagram.Fits then 0 else 1 := by
  rw [arrive_eq sized]
  by_cases fits : datagram.Fits
  · simp only [if_pos fits, conclude, Traffic.badSize_observe, Nat.add_zero]
  · simp only [if_neg fits, refuse, Traffic.badSize_drop]

omit sized in
theorem step_arrival (server : Server) (datagram : Datagram) :
    server.step (.arrival datagram) = server.arrive datagram ⟨0⟩ := rfl

omit sized in
theorem run_cons (server : Server) (event : Event) (events : List Event) :
    server.run (event :: events) =
      (((server.step event).1.run events).1,
        (server.step event).2.sent.toList ++ ((server.step event).1.run events).2) := by
  induction events using List.reverseRecOn with
  | nil => simp [run]
  | append_singleton events last ih =>
    rw [← List.cons_append, run_concat, ih, run_concat, List.append_assoc]

/-- **Each datagram is answered as if it were the only one**, or counted for its length. -/
theorem run_eq_replies (events : List Event) :
    (server.run events).2 =
        (arrivals server.table events).filterMap
          (fun arrival => arrival.2.replyTo server.settings arrival.1) ∧
      (server.run events).1.traffic.dropped.get .badSize =
        server.traffic.dropped.get .badSize +
          (arrivals server.table events).countP (fun arrival => ¬ arrival.2.Fits) ∧
      (server.run events).1.settings = server.settings ∧
      (server.run events).1.buffer.length = maxPacket + 1 := by
  induction events generalizing server with
  | nil => exact ⟨rfl, rfl, rfl, sized⟩
  | cons event events ih =>
    rw [run_cons]
    cases event with
    | publication newer =>
      have still : ({ server with table := newer } : Server).buffer.length = maxPacket + 1 := sized
      exact ih still
    | arrival datagram =>
      obtain ⟨settings, table, length⟩ := kept_arrive sized datagram ⟨0⟩
      obtain ⟨replies, refused, kept, still⟩ := ih length
      have sent := sent_arrive sized datagram ⟨0⟩
      have counted := badSize_arrive sized datagram ⟨0⟩
      rw [settings, table] at replies
      rw [table, counted] at refused
      rw [step_arrival]
      refine ⟨?_, ?_, kept.trans settings, still⟩
      · rw [replies, sent, arrivals, List.filterMap_cons]
        cases datagram.replyTo server.settings server.table <;> rfl
      · rw [refused, arrivals, List.countP_cons]
        by_cases fits : datagram.Fits
        · simp only [fits, if_true, not_true_eq_false, decide_false, Bool.false_eq_true, if_false]
          omega
        · simp only [fits, if_false, not_false_eq_true, decide_true, if_true]
          omega

end Server

/-- A server before its first datagram. -/
def Server.fresh (settings : Settings) (table : Table) : Server := { settings, table }

/-- **A server has no memory of datagrams.**  What it sends in a run is, in order, what is sent for
each datagram by itself, with the table published last before it.  The datagrams outside the length
of a packet are counted, and in every reached state one more of them is reported by its length
alone: it gets no reply, and whatever else has been counted stays as it is. -/
theorem run_replies (settings : Settings) (table : Table) (events : List Server.Event) :
    let start := Server.fresh settings table
    let reached := (start.run events).1
    (start.run events).2 =
        (arrivals table events).filterMap (fun arrival => arrival.2.replyTo settings arrival.1) ∧
      reached.traffic.dropped.get .badSize =
        (arrivals table events).countP (fun arrival => ¬ arrival.2.Fits) ∧
      ∀ datagram : Datagram, ¬ datagram.Fits →
        (reached.step (.arrival datagram)).1.traffic = reached.traffic.drop .badSize ∧
        (reached.step (.arrival datagram)).1.table = reached.table ∧
        (reached.step (.arrival datagram)).2 =
          { sent := none
            notices := [.sizeRefused (min datagram.payload.length 513) datagram.sender] } := by
  intro start reached
  have sized : start.buffer.length = maxPacket + 1 := List.length_replicate
  obtain ⟨replies, refused, -, still⟩ := Server.run_eq_replies sized events
  refine ⟨replies, refused.trans (Nat.zero_add _), ?_⟩
  intro datagram unfit
  rw [Server.step_arrival, Server.arrive_of_not_fits still unfit]
  exact ⟨rfl, rfl, rfl⟩

end StaticDns
