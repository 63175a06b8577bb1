import StaticDns.Proofs.Source.Loading

/-!
# StaticDns.Proofs.Source.Polling — after a trigger nothing is stale

A poll is the one trigger that may decide not to load, and it decides by a digest.  So the table is
as new as the file after every trigger only if a source never records the digest of a content
without serving its table.  It does not, in any order of failed and successful loads; and once the
digest on record is that of the file, further polls find nothing to do.

* `World.Reached`: the states of runs, with the texts that have been loaded.
* `step_catches_up`: after any trigger the table is that of the file.
* `run_idle`, `run_failing`: what polls do while the file stays as it is.
* `triggers_catch_up`: all of it, in every reached state.
-/

namespace StaticDns

/-! ## Reached states -/

namespace World

/-- A state that a run from a fresh source comes to, with the texts loaded on the way, the latest
first. -/
def Reached (digest : Octets → String) (world : World) (loads : List String) : Prop :=
  ∃ files path settings events,
    world = (fresh files path settings).run digest events ∧
      loads = (fresh files path settings).loads digest [] events

/-- The digest tells the content of the record file from all contents that have been loaded. -/
def Distinguishes (digest : Octets → String) (world : World) (loads : List String) : Prop :=
  ∀ content, world.file = .ok content → ∀ text ∈ loads,
    textDigest digest text = digest content → Utf8.encode text.toList = content

/-- The triggers that make a source look at its file. -/
def triggers : List Event := [.reload, .hangup, .poll]

/-- Polls and datagrams, which leave the file as it is. -/
def Event.Quiet : Event → Prop
  | .poll | .packet _ => True
  | .write _ | .remove | .makeDirectory | .reload | .hangup => False

/-- Whether an event is a poll. -/
def Event.isPoll : Event → Bool
  | .poll => true
  | _ => false

variable {digest : Octets → String} {world : World} {loads : List String}

theorem Reached.shows (nonempty : ∀ content, digest content ≠ "")
    (h : world.Reached digest loads) : world.source.Shows digest loads := by
  obtain ⟨files, path, settings, events, rfl, rfl⟩ := h
  exact shows_run nonempty (Source.Shows.fresh digest path settings) events

/-- Where no digest is empty, the digest on record is that of the last load. -/
theorem last_load (nonempty : ∀ content, digest content ≠ "") (h : world.source.Shows digest loads)
    (distinct : world.Distinguishes digest loads) {content : Octets}
    (read : world.file = .ok content) (same : digest content = world.source.loaded) :
    ∃ text earlier, loads = text :: earlier ∧ content = Utf8.encode text.toList := by
  rw [h.loaded] at same
  cases loads with
  | nil => exact absurd same (nonempty content)
  | cons text earlier =>
    exact ⟨text, earlier, rfl, (distinct content read text List.mem_cons_self same.symm).symm⟩

/-! ## One trigger -/

/-- A poll compares the digest of what it reads with the one on record. -/
theorem attempts_poll {content : Octets} (read : world.file = .ok content) (loaded : String) :
    Event.poll.attempts digest loaded world.file = (digest content != loaded) := by
  rw [read]
  rfl

theorem file_step {event : Event} (kept : (world.step digest event).1.files = world.files) :
    (world.step digest event).1.file = world.file := by
  rw [file, file, kept, (path_settings_step digest world event).1]

theorem files_step_of_trigger {trigger : Event} (mem : trigger ∈ triggers) :
    (world.step digest trigger).1.files = world.files := by
  simp only [triggers, List.mem_cons, List.not_mem_nil, or_false] at mem
  rcases mem with rfl | rfl | rfl <;> rfl

/-- **After any trigger the table is that of the file**, and its digest is on record. -/
theorem step_catches_up (nonempty : ∀ content, digest content ≠ "")
    (h : world.source.Shows digest loads) (distinct : world.Distinguishes digest loads)
    {text : String} (read : world.file = .ok (Utf8.encode text.toList)) {trigger : Event}
    (mem : trigger ∈ triggers) :
    (world.step digest trigger).1.source.table = RecordFile.table text ∧
      (world.step digest trigger).1.source.loaded = textDigest digest text := by
  rw [source_step]
  by_cases attempted : trigger.attempts digest world.source.loaded world.file = true
  · rw [if_pos attempted, fileText?_eq_some_iff.mpr read]
    exact ⟨rfl, rfl⟩
  · -- only a poll does not attempt a load, when the digest on record is that of the file
    have same : digest (Utf8.encode text.toList) = world.source.loaded := by
      simp only [triggers, List.mem_cons, List.not_mem_nil, or_false] at mem
      rcases mem with rfl | rfl | rfl
      · exact absurd rfl attempted
      · exact absurd rfl attempted
      · rw [attempts_poll read] at attempted
        simpa using attempted
    obtain ⟨last, earlier, rfl, content⟩ := last_load nonempty h distinct read same
    obtain rfl : text = last := String.toList_inj.mp (Utf8.encode_inj content)
    rw [if_neg attempted]
    exact ⟨h.table, h.loaded⟩

/-! ## Polls while the file stays as it is -/

theorem file_step_of_quiet {event : Event} (quiet : event.Quiet) :
    (world.step digest event).1.file = world.file := by
  refine file_step ?_
  cases event with
  | poll | packet => rfl
  | write | remove | makeDirectory | reload | hangup => exact quiet.elim

theorem step_idle {content : Octets} (read : world.file = .ok content)
    (same : digest content = world.source.loaded) {event : Event} (quiet : event.Quiet) :
    (world.step digest event).1.source = world.source := by
  rw [source_step, if_neg]
  cases event with
  | poll => simp [attempts_poll read, same]
  | packet => exact Bool.false_ne_true
  | write | remove | makeDirectory | reload | hangup => exact quiet.elim

/-- **Polls do nothing** where the digest on record is that of the file. -/
theorem run_idle {content : Octets} (read : world.file = .ok content)
    (same : digest content = world.source.loaded) {events : List Event}
    (quiet : ∀ event ∈ events, event.Quiet) :
    (world.run digest events).source = world.source := by
  induction events generalizing world with
  | nil => rfl
  | cons event events ih =>
    obtain ⟨first, quiet⟩ := List.forall_mem_cons.mp quiet
    have idle : (world.step digest event).1.source = world.source := step_idle read same first
    have read' : (world.step digest event).1.file = .ok content :=
      (file_step_of_quiet first).trans read
    have same' : digest content = (world.step digest event).1.source.loaded := by
      rw [idle]
      exact same
    exact (ih read' same' quiet).trans idle

section Failing

variable (silent : fileText? world.file = none)
  (other : ∀ content, world.file = .ok content → digest content ≠ world.source.loaded)
include silent other

theorem step_failing {event : Event} (quiet : event.Quiet) :
    (world.step digest event).1.source =
      if event.isPoll then world.source.fail else world.source := by
  rw [source_step]
  cases event with
  | poll =>
    have attempted : Event.poll.attempts digest world.source.loaded world.file = true := by
      cases read : world.file with
      | error cause => rfl
      | ok content => exact bne_iff_ne.mpr (other content read)
    rw [if_pos attempted, silent]
    rfl
  | packet => rfl
  | write | remove | makeDirectory | reload | hangup => exact quiet.elim

/-- **Polls only fail** where the file has no text and its digest is not the one on record. -/
theorem run_failing {events : List Event} (quiet : ∀ event ∈ events, event.Quiet) :
    (world.run digest events).source =
      { world.source with
        gauges :=
          { world.source.gauges with
            failures := world.source.gauges.failures + events.countP Event.isPoll } } := by
  induction events generalizing world with
  | nil => rfl
  | cons event events ih =>
    obtain ⟨first, quiet⟩ := List.forall_mem_cons.mp quiet
    have file : (world.step digest event).1.file = world.file := file_step_of_quiet first
    have step := step_failing silent other first
    have loaded : (world.step digest event).1.source.loaded = world.source.loaded := by
      rw [step]
      split_ifs <;> rfl
    have rest := ih (by rw [file]; exact silent) (by rw [file, loaded]; exact other) quiet
    rw [step] at rest
    refine Eq.trans rest ?_
    rw [List.countP_cons]
    by_cases poll : event.isPoll = true
    · simp only [poll, if_true, Source.fail]
      congr 2
      omega
    · simp only [poll]
      rfl

end Failing

/-! ## The file and the table -/

/-- **A poll publishes exactly when the digest of the file is not the one on record.** -/
theorem publications_poll {text : String} (read : world.file = .ok (Utf8.encode text.toList)) :
    (world.step digest .poll).1.source.publications = world.source.publications + 1 ↔
      textDigest digest text ≠ world.source.loaded := by
  rw [source_step, attempts_poll read, fileText?_eq_some_iff.mpr read, textDigest]
  by_cases same : digest (Utf8.encode text.toList) = world.source.loaded
  · simp [same]
  · rw [if_pos (bne_iff_ne.mpr same)]
    exact ⟨fun _ => same, fun _ => rfl⟩

/-- **After a trigger nothing is stale, and polls find nothing more to do.**  In every reached state
in which the file has a text, any trigger makes its table the one that is served and puts its digest
on record, and while the file stays as it is polls change nothing.  A poll publishes exactly when
the digest of the file is not the one on record.  Where the file has no text, every poll counts one
failure and changes nothing else. -/
theorem triggers_catch_up (nonempty : ∀ content, digest content ≠ "")
    (reached : world.Reached digest loads) (distinct : world.Distinguishes digest loads) :
    (∀ text : String, world.file = .ok (Utf8.encode text.toList) →
      (∀ trigger ∈ triggers,
        let after := (world.step digest trigger).1
        after.source.table = RecordFile.table text ∧
          after.source.loaded = textDigest digest text ∧
          ∀ events, (∀ event ∈ events, event.Quiet) →
            (after.run digest events).source = after.source) ∧
      ((world.step digest .poll).1.source.publications = world.source.publications + 1 ↔
        textDigest digest text ≠ world.source.loaded) ∧
      (textDigest digest text = world.source.loaded →
        (world.step digest .poll).1.source = world.source)) ∧
    ((∀ text : String, world.file ≠ .ok (Utf8.encode text.toList)) →
      ∀ events, (∀ event ∈ events, event.Quiet) →
        (world.run digest events).source =
          { world.source with
            gauges :=
              { world.source.gauges with
                failures := world.source.gauges.failures + events.countP Event.isPoll } }) := by
  have shows_ := reached.shows nonempty
  refine ⟨?_, ?_⟩
  · intro text read
    refine ⟨?_, publications_poll read, ?_⟩
    · intro trigger mem after
      obtain ⟨table, loaded⟩ := step_catches_up nonempty shows_ distinct read mem
      refine ⟨table, loaded, ?_⟩
      intro events quiet
      have kept : after.file = world.file := file_step (files_step_of_trigger mem)
      exact run_idle (kept.trans read) loaded.symm quiet
    · intro same
      have quiet : ∀ event ∈ [Event.poll], event.Quiet := List.forall_mem_singleton.mpr trivial
      exact run_idle read same quiet
  · intro unreadable events quiet
    refine run_failing (fileText?_eq_none_iff.mpr unreadable) ?_ quiet
    intro content read same
    obtain ⟨text, earlier, -, spelled⟩ := last_load nonempty shows_ distinct read same
    exact unreadable text (spelled ▸ read)

/-- A run in which a record file is loaded, damaged, found damaged, and written as it was. -/
def revertedRun : List Event := hostRun ++ [.write (Utf8.encode "a 192.0.2.1\n".toList)]

theorem poll_catches_up_after_revert :
    let world := (fresh {} "dnsd.conf" {}).run Sha512.hex revertedRun
    (∀ content, Sha512.hex content ≠ "") ∧ world.Reached Sha512.hex ["a 192.0.2.1\n"] ∧
      world.Distinguishes Sha512.hex ["a 192.0.2.1\n"] ∧
      (world.step Sha512.hex .poll).1.source.table = RecordFile.table "a 192.0.2.1\n" := by
  intro world
  have read : world.file = .ok (Utf8.encode "a 192.0.2.1\n".toList) := by
    decide +kernel
  have loads : (fresh {} "dnsd.conf" {}).loads Sha512.hex [] revertedRun = ["a 192.0.2.1\n"] := by
    decide +kernel
  have reached : world.Reached Sha512.hex ["a 192.0.2.1\n"] :=
    ⟨{}, "dnsd.conf", {}, revertedRun, rfl, loads.symm⟩
  have distinct : world.Distinguishes Sha512.hex ["a 192.0.2.1\n"] := by
    intro content holds text mem _
    obtain rfl := List.mem_singleton.mp mem
    exact Except.ok.inj (read.symm.trans holds)
  obtain ⟨caught, -⟩ := triggers_catch_up Sha512.hex_ne_empty reached distinct
  obtain ⟨table, -⟩ := (caught _ read).1 .poll (by simp [triggers])
  exact ⟨Sha512.hex_ne_empty, reached, distinct, table⟩

end World

end StaticDns
