import Mathlib.Data.List.Forall2
import StaticDns.Metrics.Traffic
import StaticDns.Proofs.Respond.Influence
import StaticDns.RecordFile

/-!
# StaticDns.Proofs.Respond.Lockstep — what the settings reach

Two servers are given the same record file and then the same packets, but other settings.  They go
through the same steps: line by line the same records are taken in, packet by packet the same is
looked up, sent or left unanswered, and counted.  What differs is the lifetime in replies that have
an answer, and the details that only a verbose server reports.

* `Session`: a server that reads a record file and then answers packets.
* `Session.run_eq`: what it has in the end, step by step and as a whole.
* `SameLog`, `SameReplies`: what settings may change of a log and of a reply.
* `respond_alike`: one packet under two settings.
* `InStep`: two servers have gone through the same steps.
* `InStep.read`, `InStep.answer`: one more line, or packet, keeps them in step.
* `run_under_other_settings`: two whole runs.
-/

namespace StaticDns

open Message

/-! ## Sessions -/

/-- A packet, the reply that it got, and what was reported about it. -/
structure Turn where
  packet : Octets
  reply : Option Octets
  notices : List Notice

/-- What a server has made of a record file and of the packets that came after it. -/
structure Session where
  table : Table := {}
  /-- What was reported about the record file. -/
  loading : List Notice := []
  traffic : Traffic := {}
  turns : List Turn := []

namespace Session

/-- Takes in a line of a record file, which is given with its number. -/
def read (settings : Settings) (session : Session) (line : List Char × Nat) : Session :=
  let reading := RecordFile.readLine line.1
  { session with
    table := session.table ++ ⟨reading.record?.toList⟩
    loading := session.loading ++ RecordFile.noticesOf settings (reading, line.2) }

/-- Reads a record file line by line. -/
def load (settings : Settings) (text : String) : Session :=
  ((RecordFile.lines text).zipIdx 1).foldl (read settings) {}

/-- Answers a packet from the table. -/
def answer (settings : Settings) (session : Session) (packet : Octets) : Session :=
  let response := respond session.table settings packet
  { session with
    traffic := session.traffic.handle session.table settings packet
    turns := session.turns ++ [⟨packet, response.outcome.reply?, response.notices⟩] }

/-- Reads a record file and then answers packets, one after the other. -/
def run (settings : Settings) (text : String) (packets : List Octets) : Session :=
  packets.foldl (answer settings) (load settings text)

/-- What is made of a record file and of packets, each taken as a whole. -/
def after (settings : Settings) (text : String) (packets : List Octets) : Session where
  table := RecordFile.table text
  loading := RecordFile.notices settings text
  traffic := Traffic.ofPackets (RecordFile.table text) settings packets
  turns := packets.map fun packet =>
    let response := respond (RecordFile.table text) settings packet
    ⟨packet, response.outcome.reply?, response.notices⟩

theorem foldl_read (settings : Settings) (session : Session) (lines : List (List Char × Nat)) :
    lines.foldl (read settings) session =
      { session with
        table := session.table ++
          ⟨lines.filterMap fun line => (RecordFile.readLine line.1).record?⟩
        loading := session.loading ++
          lines.flatMap fun line =>
            RecordFile.noticesOf settings (RecordFile.readLine line.1, line.2) } := by
  induction lines generalizing session with
  | nil =>
    have table : session.table ++ ⟨[]⟩ = session.table := Table.ext (List.append_nil _)
    simp only [List.foldl_nil, List.filterMap_nil, List.flatMap_nil, List.append_nil, table]
  | cons line lines ih =>
    have table : session.table ++ ⟨(RecordFile.readLine line.1).record?.toList⟩ ++
          ⟨lines.filterMap fun line => (RecordFile.readLine line.1).record?⟩ =
        session.table ++
          ⟨(line :: lines).filterMap fun line => (RecordFile.readLine line.1).record?⟩ := by
      refine Table.ext ?_
      simp only [Table.records_append, List.filterMap_cons, List.append_assoc]
      cases (RecordFile.readLine line.1).record? <;> rfl
    rw [List.foldl_cons, ih]
    simp only [read, table, List.flatMap_cons, List.append_assoc]

/-- A file that is read line by line gives its table and its reports. -/
theorem load_eq (settings : Settings) (text : String) :
    load settings text =
      { table := RecordFile.table text, loading := RecordFile.notices settings text } := by
  have table : ({} : Table) ++ ⟨((RecordFile.lines text).zipIdx 1).filterMap
      fun line => (RecordFile.readLine line.1).record?⟩ = RecordFile.table text := by
    refine Table.ext ?_
    simp only [Table.records_append, List.nil_append, RecordFile.table, RecordFile.readings,
      List.zipIdx_map, List.filterMap_map]
    rfl
  have loading : ((RecordFile.lines text).zipIdx 1).flatMap
      (fun line => RecordFile.noticesOf settings (RecordFile.readLine line.1, line.2)) =
        RecordFile.notices settings text := by
    simp only [RecordFile.notices, RecordFile.readings, List.zipIdx_map, List.flatMap_map]
    rfl
  rw [load, foldl_read]
  simp only [table, List.nil_append, loading]

theorem foldl_answer (settings : Settings) (session : Session) (packets : List Octets) :
    packets.foldl (answer settings) session =
      { session with
        traffic := packets.foldl (Traffic.handle session.table settings) session.traffic
        turns := session.turns ++ packets.map fun packet =>
          let response := respond session.table settings packet
          ⟨packet, response.outcome.reply?, response.notices⟩ } := by
  induction packets generalizing session with
  | nil => simp only [List.foldl_nil, List.map_nil, List.append_nil]
  | cons packet packets ih =>
    rw [List.foldl_cons, ih]
    simp only [answer, List.foldl_cons, List.map_cons, List.append_assoc, List.singleton_append]

/-- A server step by step has the table and the reports of the file, and for every packet what the
table makes of it. -/
theorem run_eq (settings : Settings) (text : String) (packets : List Octets) :
    run settings text packets = after settings text packets := by
  rw [run, load_eq, foldl_answer]
  rfl

end Session

/-! ## What settings may change -/

/-- A record that has been read from a line. -/
def Notice.isRecordRead : Notice → Bool
  | .recordRead _ _ => true
  | _ => false

/-- A record that has been found for a query. -/
def Notice.isMatched : Notice → Bool
  | .matched _ _ => true
  | _ => false

/-- Two logs are the same but for details: they are equal if one server is as verbose as the other,
and a quiet server has the log of a verbose one without the details. -/
structure SameLog (isDetail : Notice → Bool) (settings other : Settings) (log log' : List Notice) :
    Prop where
  equal : other.verbose = settings.verbose → log' = log
  quiet : settings.verbose = true → other.verbose = false →
    log' = log.filter fun notice => !isDetail notice

/-- Two replies have lifetimes of their own at a position and are the same in front of them and
behind. -/
structure SameButLifetime (position : Nat) (ttl ttl' : UInt32) (reply reply' : Octets) : Prop where
  front : reply'.take position = reply.take position
  lifetime : (reply.drop position).take 4 = Octets.ofWord32 ttl
  lifetime' : (reply'.drop position).take 4 = Octets.ofWord32 ttl'
  behind : reply'.drop (position + 4) = reply.drop (position + 4)

/-- A packet is left without a reply under both settings, or it gets replies of the same length under
both: the same reply, or, where the name has an answer, replies that have the lifetimes of their
settings behind the question, which stands in them twice, and are otherwise the same. -/
def SameReplies (settings other : Settings) (packet : Octets) (reply reply' : Option Octets) :
    Prop :=
  (reply = none ∧ reply' = none) ∨
    ∃ questionEnd octets octets', (decode packet).questionEnd? = some questionEnd ∧
      reply = some octets ∧ reply' = some octets' ∧ octets'.length = octets.length ∧
      (rcodeBits octets ≠ 0 → octets' = octets) ∧
      (rcodeBits octets = 0 →
        SameButLifetime (2 * questionEnd - 12) settings.ttl other.ttl octets octets')

section Logs

variable {isDetail : Notice → Bool} {settings other : Settings}

/-- What is reported to everyone is no detail. -/
theorem sameLog_of_plain {log : List Notice} (plain : ∀ notice ∈ log, isDetail notice = false) :
    SameLog isDetail settings other log log where
  equal _ := rfl
  quiet _ _ := by
    refine (List.filter_eq_self.mpr fun notice mem => ?_).symm
    rw [plain notice mem]
    rfl

/-- What only a verbose server reports is a detail. -/
theorem sameLog_of_detail {notice : Notice} (detail : isDetail notice = true) :
    SameLog isDetail settings other (if settings.verbose then [notice] else [])
      (if other.verbose then [notice] else []) where
  equal same := by rw [same]
  quiet verbose quiet := by simp [verbose, quiet, detail]

theorem SameLog.append {front back front' back' : List Notice}
    (one : SameLog isDetail settings other front front')
    (two : SameLog isDetail settings other back back') :
    SameLog isDetail settings other (front ++ back) (front' ++ back') where
  equal same := by rw [one.equal same, two.equal same]
  quiet verbose quiet := by
    rw [one.quiet verbose quiet, two.quiet verbose quiet, List.filter_append]

/-- What a line is reported with: the record that is read from it is a detail, its fault is not. -/
theorem sameLog_noticesOf (reading : RecordFile.LineReading) (number : Nat) :
    SameLog Notice.isRecordRead settings other (RecordFile.noticesOf settings (reading, number))
      (RecordFile.noticesOf other (reading, number)) := by
  cases reading with
  | silent =>
    show SameLog _ settings other [] []
    exact sameLog_of_plain (by simp)
  | entry field record => exact sameLog_of_detail rfl
  | fault fault =>
    show SameLog _ settings other [.lineSkipped number fault] [.lineSkipped number fault]
    exact sameLog_of_plain (by simp [Notice.isRecordRead])

end Logs

/-! ## One packet -/

/-- Two servers have made the same of a packet. -/
structure SameResponse (settings other : Settings) (packet : Octets) (response response' : Response) :
    Prop where
  replies : SameReplies settings other packet response.outcome.reply? response'.outcome.reply?
  notices : SameLog Notice.isMatched settings other response.notices response'.notices
  counted : ∀ traffic : Traffic, traffic.observe packet.length ⟨0⟩ response'.outcome =
    traffic.observe packet.length ⟨0⟩ response.outcome

theorem sameButLifetime_framed {packet : Octets} {questionEnd : Nat}
    (long : headerLength ≤ questionEnd) (inside : questionEnd ≤ packet.length) (answer : Answer)
    (ttl ttl' : UInt32) :
    SameButLifetime (2 * questionEnd - 12) ttl ttl'
      (framed packet questionEnd (.success answer) ttl)
      (framed packet questionEnd (.success answer) ttl') := by
  have front : (answerFront packet questionEnd answer).length = 2 * questionEnd - 12 :=
    length_answerFront long inside answer
  rw [framed_success, framed_success]
  refine ⟨?_, ?_, ?_, ?_⟩
  · rw [List.take_left' front, List.take_left' front]
  · rw [List.drop_left' front, List.take_left' (Octets.length_ofWord32 ttl)]
  · rw [List.drop_left' front, List.take_left' (Octets.length_ofWord32 ttl')]
  · rw [← List.drop_drop, ← List.drop_drop, List.drop_left' front, List.drop_left' front,
      List.drop_left' (Octets.length_ofWord32 ttl), List.drop_left' (Octets.length_ofWord32 ttl')]

section

variable (settings other : Settings) {packet : Octets}

/-- A ruling on a question is settled alike, with what has been reported in front of it. -/
theorem settle_alike {questionEnd : Nat} (judged : (decode packet).questionEnd? = some questionEnd)
    (asked : Option RecordType) (ruling : Ruling) {before before' : List Notice}
    (reported : SameLog Notice.isMatched settings other before before') :
    SameResponse settings other packet (settle settings packet asked questionEnd ruling before)
      (settle other packet asked questionEnd ruling before') := by
  simp only [settle, frame_eq]
  -- the lifetime takes no part in whether a reply fits
  cases fault : frameFault? packet.length questionEnd ruling with
  | some error =>
    have unframed : SameLog Notice.isMatched settings other [.unframed error] [.unframed error] :=
      sameLog_of_plain (by simp [Notice.isMatched])
    exact ⟨.inl ⟨rfl, rfl⟩, reported.append unframed, fun _ => rfl⟩
  | none =>
    obtain ⟨long, inside⟩ := bounds_of_frameFault?_eq_none fault
    have length : (framed packet questionEnd ruling other.ttl).length =
        (framed packet questionEnd ruling settings.ttl).length := by
      rw [length_framed long inside, length_framed long inside]
    refine ⟨.inr ⟨questionEnd, _, _, judged, rfl, rfl, length, fun denied => ?_, fun granted => ?_⟩,
      reported, fun traffic => ?_⟩
    · rw [rcodeBits_framed] at denied
      cases ruling with
      | success answer => exact absurd rfl denied
      | formatError | notImplemented | nameError => rfl
    · rw [rcodeBits_framed] at granted
      cases ruling with
      | success answer => exact sameButLifetime_framed long inside answer _ _
      | formatError | notImplemented | nameError => cases granted
    · simp only [Traffic.observe, length]

/-- **One packet under two settings.** -/
theorem respond_alike (table : Table) (packet : Octets) :
    SameResponse settings other packet (respond table settings packet)
      (respond table other packet) := by
  cases verdict : decode packet with
  | drop reason =>
    rw [respond_drop verdict, respond_drop verdict]
    exact ⟨.inl ⟨rfl, rfl⟩, sameLog_of_plain (by simp [Notice.isMatched]), fun _ => rfl⟩
  | reject refusal questionEnd =>
    have judged : (decode packet).questionEnd? = some questionEnd := by rw [verdict]; rfl
    rw [respond_reject verdict, respond_reject verdict]
    refine settle_alike settings other judged none refusal.ruling (sameLog_of_plain ?_)
    cases refusal <;> simp [Refusal.notices, Notice.isMatched]
  | query query =>
    have judged : (decode packet).questionEnd? = some query.questionEnd := by rw [verdict]; rfl
    have queried : SameLog Notice.isMatched settings other
        [.queried query.type (Name.toDotted query.name)]
        [.queried query.type (Name.toDotted query.name)] :=
      sameLog_of_plain (by simp [Notice.isMatched])
    simp only [respond, verdict, answerQuery]
    cases table.lookup query.type query.name with
    | some answer =>
      exact settle_alike settings other judged _ _ (queried.append (sameLog_of_detail rfl))
    | none => exact settle_alike settings other judged _ _ queried

end

/-! ## Whole runs -/

/-- The same packet has been received, and the same has been made of it. -/
structure SameTurn (settings other : Settings) (turn turn' : Turn) : Prop where
  packet : turn'.packet = turn.packet
  replies : SameReplies settings other turn.packet turn.reply turn'.reply
  notices : SameLog Notice.isMatched settings other turn.notices turn'.notices

/-- Two servers have gone through the same steps, each under its own settings. -/
structure InStep (settings other : Settings) (session session' : Session) : Prop where
  table : session'.table = session.table
  loading : SameLog Notice.isRecordRead settings other session.loading session'.loading
  traffic : session'.traffic = session.traffic
  turns : List.Forall₂ (SameTurn settings other) session.turns session'.turns

namespace InStep

variable {settings other : Settings} {session session' : Session}

/-- **One more line of the file.** -/
theorem read (same : InStep settings other session session') (line : List Char × Nat) :
    InStep settings other (session.read settings line) (session'.read other line) where
  table := by simp only [Session.read, same.table]
  loading := same.loading.append (sameLog_noticesOf _ _)
  traffic := same.traffic
  turns := same.turns

/-- **One more packet.** -/
theorem answer (same : InStep settings other session session') (packet : Octets) :
    InStep settings other (session.answer settings packet) (session'.answer other packet) := by
  have response : SameResponse settings other packet (respond session.table settings packet)
      (respond session'.table other packet) := by
    rw [same.table]
    exact respond_alike settings other session.table packet
  refine ⟨same.table, same.loading, ?_, ?_⟩
  · show session'.traffic.handle session'.table other packet =
      session.traffic.handle session.table settings packet
    rw [same.traffic]
    exact response.counted session.traffic
  · exact List.rel_append same.turns
      (.cons ⟨rfl, response.replies, response.notices⟩ .nil)

end InStep

/-- **What the settings reach.**  Two servers that are given the same record file and then the same
packets, under any two settings, have the same table, count the same, and leave the same packets
without a reply.  Their replies have the same length and are the same, except for the lifetime in a
reply that has an answer, where each has its own.  Of the same verbosity they report the same, and a
quiet one reports what a verbose one does, without the records read and the records matched. -/
theorem run_under_other_settings (settings other : Settings) (text : String)
    (packets : List Octets) :
    InStep settings other (Session.after settings text packets)
      (Session.after other text packets) := by
  rw [← Session.run_eq, ← Session.run_eq]
  have fresh : InStep settings other {} {} :=
    ⟨rfl, sameLog_of_plain (by simp), rfl, .nil⟩
  have loaded : InStep settings other (Session.load settings text) (Session.load other text) :=
    List.foldl_rel fresh fun line _ _ _ same => same.read line
  exact List.foldl_rel loaded fun packet _ _ _ same => same.answer packet

end StaticDns
