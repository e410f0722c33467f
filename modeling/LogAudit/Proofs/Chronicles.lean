import LogAudit.CommandLine.Run
import LogAudit.Proofs.Accounting

/-! # The chronicle of a scan

A scan notes events and plain lines. The events tell the same story as the result: one at the start with
the number of files, then for each file in order either that it was left out or that it was scanned,
followed by its detections, and one at the end with the counts.

A log lets lines through from a level on and may leave out events altogether. The result does not depend
on either.

* `scanLog`, `structured`: what is logged of the notes of a scan, and the events among it.
* `Narrates`: the events, detections and warnings of files, one file after another.
* `Chronicles`: notes that log certain events, at every level and with one id.
* `scan_chronicles`: the notes of a scan chronicle its result. -/

namespace LogAudit
set_option autoImplicit false

open Files Encoding

/-! ## What is logged -/

/-- The lines of notes that a log lets through. -/
def scanLog (on : Bool) (render : Log.Renderer) (context : Log.Context) (threshold : Nat)
    (notes : List Note) : List Log.Line :=
  Log.filtered threshold (notes.filterMap (Note.line? on render context))

/-- The lines of events, which have a source of their own. -/
def structured (lines : List Log.Line) : List Log.Line :=
  lines.filter (·.source == "logleak")

def Note.event? : Note → Option Log.Event
  | .event entry => some entry
  | .line _ => none

/-- A note whose line, if it is no event, has another source than events have. -/
def Note.Plain : Note → Prop
  | .event _ => True
  | .line entry => entry.source ≠ "logleak"

section Notes

variable {notes : List Note} {render : Log.Renderer} {context : Log.Context}

theorem plain_plainLine (level : Log.Level) (source message : String) :
    Note.Plain (.line (Log.plainLine level source message)) := by
  intro heq
  have hlength := congrArg String.length heq
  simp only [Log.plainLine, String.length_append] at hlength
  change 8 + source.length = 7 at hlength
  omega

theorem structured_filtered (threshold : Nat) (lines : List Log.Line) :
    structured (Log.filtered threshold lines) = Log.filtered threshold (structured lines) := by
  unfold structured Log.filtered
  rw [List.filter_comm]

theorem structured_lines (hplain : ∀ note ∈ notes, note.Plain) :
    structured (notes.filterMap (Note.line? true render context)) =
      (notes.filterMap Note.event?).map (·.line render context) := by
  induction notes with
  | nil => rfl
  | cons note notes ih =>
    obtain ⟨hnote, hmore⟩ := List.forall_mem_cons.mp hplain
    cases note with
    | event entry =>
      show structured (entry.line render context :: notes.filterMap (Note.line? true render context)) = _
      rw [structured, List.filter_cons_of_pos (by rfl)]
      exact congrArg _ (ih hmore)
    | line entry =>
      show structured (entry :: notes.filterMap (Note.line? true render context)) = _
      have hsource : ¬ (entry.source == "logleak") = true := fun heq => hnote (beq_iff_eq.mp heq)
      rw [structured, List.filter_cons_of_neg (by exact hsource)]
      exact ih hmore

theorem structured_scanLog (hplain : ∀ note ∈ notes, note.Plain) (threshold : Nat) :
    structured (scanLog true render context threshold notes) =
      Log.filtered threshold ((notes.filterMap Note.event?).map (·.line render context)) := by
  rw [scanLog, structured_filtered, structured_lines hplain]

theorem structured_scanLog_off (hplain : ∀ note ∈ notes, note.Plain) (threshold : Nat) :
    structured (scanLog false render context threshold notes) = [] := by
  rw [scanLog, structured_filtered]
  have hnone : structured (notes.filterMap (Note.line? false render context)) = [] := by
    apply List.filter_eq_nil_iff.mpr
    intro entry hentry
    obtain ⟨note, hnote, hline⟩ := List.mem_filterMap.mp hentry
    cases note with
    | event _ => cases hline
    | line other =>
      obtain rfl : other = entry := Option.some.inj hline
      exact fun heq => hplain _ hnote (beq_iff_eq.mp heq)
  rw [hnone]
  rfl

/-- From the lowest level on, every line is let through. -/
theorem filtered_debug (lines : List Log.Line) : Log.filtered Log.Level.debug.rank lines = lines := by
  apply List.filter_eq_self.mpr
  intro line _
  rw [Log.Line.passes, decide_eq_true_eq]
  cases line.level <;> decide

theorem filtered_cons (threshold : Nat) (line : Log.Line) (lines : List Log.Line) :
    Log.filtered threshold (line :: lines) =
      Log.filtered threshold [line] ++ Log.filtered threshold lines :=
  List.filter_append [line] lines

open CommandLine in
/-- A run of the program logs the notes of its scan as its session says. -/
theorem noteLines_eq (world : World) (session : Log.Session) (notes : List Note) :
    noteLines world session notes =
      scanLog (decide (session.logger = some true)) session.render ⟨world.time, some world.scanId⟩
        session.threshold notes := by
  induction notes with
  | nil => rfl
  | cons note notes ih =>
    rw [noteLines, List.flatMap_cons, ← noteLines, ih]
    cases note with
    | event entry =>
      by_cases hon : session.logger = some true
      · have hemit : (session.enter world.scanId none).1.emit world.time entry =
            Log.filtered session.threshold
              [entry.line session.render ⟨world.time, some world.scanId⟩] := if_pos hon
        rw [decide_eq_true hon]
        exact (congrArg (· ++ _) hemit).trans (filtered_cons _ _ _).symm
      · have hemit : (session.enter world.scanId none).1.emit world.time entry = [] := if_neg hon
        rw [decide_eq_false hon]
        exact congrArg (· ++ _) hemit
    | line entry => exact (filtered_cons _ _ _).symm

end Notes

/-! ## The scan of an event -/

theorem lookup_insertMember_of_ne {members : List (String × Json)} {name key : String} {value : Json}
    (h : name ≠ key) : (Json.insertMember members name value).lookup key = members.lookup key := by
  have hother : (key == name) = false := beq_eq_false_iff_ne.mpr h.symm
  have hmap : (members.map fun old => if old.1 == name then (name, value) else old).lookup key =
      members.lookup key := by
    induction members with
    | nil => rfl
    | cons member members ih =>
      rw [List.map_cons]
      split
      · next hsame => rw [List.lookup_cons, hother, ih, List.lookup_cons, beq_iff_eq.mp hsame, hother]
      · rw [List.lookup_cons, List.lookup_cons, ih]
  unfold Json.insertMember
  split
  · exact hmap
  · rw [List.lookup_append, List.lookup_cons, hother, List.lookup_nil, Option.or_none]

/-- No field of an event takes the place of the id of its scan. -/
theorem lookup_allFields {event : Log.Event} (context : Log.Context)
    (h : ∀ field ∈ event.fields, field.1 ≠ "scan_id") :
    (event.allFields context).lookup "scan_id" = context.fields.lookup "scan_id" := by
  unfold Log.Event.allFields
  generalize context.fields = known
  generalize event.fields = fields at h
  induction fields generalizing known with
  | nil => rfl
  | cons field fields ih =>
    obtain ⟨hfield, hmore⟩ := List.forall_mem_cons.mp h
    rw [List.foldl_cons, ih _ hmore, lookup_insertMember_of_ne hfield]

theorem lookup_contextFields (time : String) {id : String} (h : id ≠ "") :
    (Log.Context.fields ⟨time, some id⟩).lookup "scan_id" = some (.string id) := by
  simp [Log.Context.fields, h, List.lookup]

/-! ## Events of files -/

variable {machine : Machine} {codecs : Codecs} {tree : Tree} {rules : RuleSet} {settings : Settings}
variable {clock : Clock} {start : Nat} {roots : List (Option String)} {found : Discovery}

def startedEvent (settings : Settings) (roots : List (Option String)) (files : Nat) : Log.Event :=
  .scanStarted (.array (roots.map fun root => .string (root.getD "None"))) (.int files)
    (.int settings.workers)

def detectedEvent (detection : Detection) : Log.Event :=
  .detected (.string detection.file) (.int detection.line) (.string detection.label)

def completedEvent (result : ScanResult) : Log.Event :=
  .scanCompleted (.int result.statistics.filesScanned) (.int result.statistics.totalDetections)
    (.int result.statistics.milliseconds) (.int result.warnings.length)

/-- The events, detections and warnings of files. A file that is left out has one event, with the path
and the reason of its warning. Any other file has one that tells how many detections it has, and then
one for each of them. -/
inductive Narrates (codecs : Codecs) (tree : Tree) (rules : RuleSet) (settings : Settings) :
    List Path → List Log.Event → List Detection → List FileWarning → Prop
  | done : Narrates codecs tree rules settings [] [] [] []
  | skipped {path : Path} {outcome : FileOutcome} {warning : FileWarning} {paths : List Path}
      {events : List Log.Event} {detections : List Detection} {warnings : List FileWarning} :
      Fate codecs tree rules settings path outcome → outcome.warning = some warning →
      Narrates codecs tree rules settings paths events detections warnings →
      Narrates codecs tree rules settings (path :: paths)
        (.fileSkipped (.string warning.path) (.string warning.reason) :: events) detections
        (warning :: warnings)
  | scanned {path : Path} {outcome : FileOutcome} {paths : List Path} {events : List Log.Event}
      {detections : List Detection} {warnings : List FileWarning} :
      Fate codecs tree rules settings path outcome → outcome.warning = none →
      Narrates codecs tree rules settings paths events detections warnings →
      Narrates codecs tree rules settings (path :: paths)
        (.fileScanned (.string path.text) (.int outcome.statements) (.int outcome.detections.length) ::
          (outcome.detections.map detectedEvent ++ events))
        (outcome.detections ++ detections) warnings

theorem filterMap_notes_skipped {outcome : FileOutcome} {warning : FileWarning}
    (h : outcome.warning = some warning) :
    outcome.notes.filterMap Note.event? =
      [.fileSkipped (.string warning.path) (.string warning.reason)] := by
  unfold FileOutcome.notes
  rw [h]
  rfl

theorem filterMap_notes_scanned {outcome : FileOutcome} (h : outcome.warning = none) :
    outcome.notes.filterMap Note.event? =
      .fileScanned (.string outcome.path) (.int outcome.statements) (.int outcome.detections.length) ::
        outcome.detections.map detectedEvent := by
  unfold FileOutcome.notes
  rw [h]
  refine congrArg (Log.Event.fileScanned _ _ _ :: ·) ?_
  rw [List.filterMap_map, ← List.filterMap_eq_map]
  rfl

theorem Fate.path_eq {path : Path} {outcome : FileOutcome}
    (h : Fate codecs tree rules settings path outcome) : outcome.path = path.text := by
  cases h <;> rfl

/-- The events that files are noted with narrate their detections and warnings. -/
theorem narrates_of_fates {paths : List Path} {outcomes : List FileOutcome}
    (h : List.Forall₂ (Fate codecs tree rules settings) paths outcomes) :
    Narrates codecs tree rules settings paths
      ((outcomes.flatMap FileOutcome.notes).filterMap Note.event?) (outcomes.flatMap (·.detections))
      (outcomes.filterMap (·.warning)) := by
  induction h with
  | nil => exact .done
  | @cons path outcome paths outcomes hfate _ ih =>
    rw [List.flatMap_cons, List.flatMap_cons, List.filterMap_append]
    cases hwarning : outcome.warning with
    | some warning =>
      rw [filterMap_notes_skipped hwarning, hfate.detections_eq_nil (by rw [hwarning]; rfl),
        List.filterMap_cons_some hwarning]
      exact .skipped hfate hwarning ih
    | none =>
      rw [filterMap_notes_scanned hwarning, hfate.path_eq, List.filterMap_cons_none hwarning]
      exact .scanned hfate hwarning ih

theorem Narrates.unscoped {paths : List Path} {events : List Log.Event} {detections : List Detection}
    {warnings : List FileWarning}
    (h : Narrates codecs tree rules settings paths events detections warnings) :
    ∀ event ∈ events, ∀ field ∈ event.fields, field.1 ≠ "scan_id" := by
  induction h with
  | done => simp
  | skipped _ _ _ ih =>
    refine List.forall_mem_cons.mpr ⟨?_, ih⟩
    simp [Log.Event.fileSkipped]
  | scanned _ _ _ ih =>
    refine List.forall_mem_cons.mpr ⟨by simp [Log.Event.fileScanned], ?_⟩
    refine List.forall_mem_append.mpr ⟨List.forall_mem_map.mpr fun detection _ => ?_, ih⟩
    simp [detectedEvent, Log.Event.detected]

/-! ## Notes of a scan -/

/-- Workers that note nothing but what comes up when a file is read. -/
def Pool.KeepsNotes (pool : Pool) : Prop :=
  ∀ parts, ∀ note ∈ pool.gather parts, ∃ part ∈ parts, note ∈ part

/-- What files are noted with when they are read comes from these files. -/
theorem mem_scanAll_notes (horder : machine.pool.KeepsOrder) (hnotes : machine.pool.KeepsNotes)
    {paths : List Path} {note : Note} (h : note ∈ (scanAll machine tree rules settings paths).2) :
    ∃ outcome : FileOutcome, note ∈ outcome.readNotes := by
  unfold scanAll at h
  split at h
  · obtain ⟨part, hpart, hnote⟩ := hnotes _ note h
    rw [horder, List.map_map] at hpart
    obtain ⟨path, _, rfl⟩ := List.mem_map.mp hpart
    rw [Function.comp_apply] at hnote
    cases hscan : scanFile machine.codecs tree rules settings path with
    | error failure =>
      rw [hscan] at hnote
      cases hnote
    | ok outcome =>
      rw [hscan] at hnote
      exact ⟨outcome, hnote⟩
  · obtain ⟨outcome, _, hnote⟩ := List.mem_flatMap.mp h
    exact ⟨outcome, hnote⟩

/-- The notes of a scan that has a result. -/
theorem scan_notes (hpool : machine.pool.KeepsOrder) {result : ScanResult}
    (hdiscover : discover tree (settings.search rules machine.deepest) clock (start + 1) roots =
      .ok found)
    (h : (scan machine tree rules settings clock start roots).outcome = .ok result) :
    (scanFiles machine.codecs tree rules settings found.files).2 = none ∧
    (scan machine tree rules settings clock start roots).notes =
      found.notes.map DiscoveryNote.note ++ [.event (startedEvent settings roots found.files.length)] ++
        (scanAll machine tree rules settings found.files).2 ++
        (scanFiles machine.codecs tree rules settings found.files).1.flatMap FileOutcome.notes ++
        [.event (completedEvent result)] := by
  have hall := scanAll_eq_scanFiles hpool tree rules settings found.files
  cases hfiles : (scanFiles machine.codecs tree rules settings found.files).2 with
  | some failure =>
    simp only [scan, hdiscover, hall, hfiles] at h
    cases h
  | none =>
    simp only [scan, hdiscover, hall, hfiles] at h ⊢
    obtain rfl := Except.ok.inj h
    refine ⟨trivial, ?_⟩
    rw [startedEvent, completedEvent, List.map_map]
    rfl

theorem filterMap_discoveryNotes (notes : List DiscoveryNote) :
    (notes.map DiscoveryNote.note).filterMap Note.event? = [] := by
  rw [List.filterMap_map]
  apply List.filterMap_eq_nil_iff.mpr
  intro note _
  rfl

theorem mem_readNotes {outcome : FileOutcome} {note : Note} (h : note ∈ outcome.readNotes) :
    ∃ message, note = .line (Log.plainLine .debug "scanner.pipeline" message) := by
  unfold FileOutcome.readNotes at h
  split at h
  · exact ⟨_, List.mem_singleton.mp h⟩
  · cases h

theorem filterMap_scanAll_notes (horder : machine.pool.KeepsOrder) (hnotes : machine.pool.KeepsNotes)
    (paths : List Path) :
    (scanAll machine tree rules settings paths).2.filterMap Note.event? = [] := by
  apply List.filterMap_eq_nil_iff.mpr
  intro note hnote
  obtain ⟨outcome, hread⟩ := mem_scanAll_notes horder hnotes hnote
  obtain ⟨message, rfl⟩ := mem_readNotes hread
  rfl

theorem plain_scanAll_notes (horder : machine.pool.KeepsOrder) (hnotes : machine.pool.KeepsNotes)
    (paths : List Path) : ∀ note ∈ (scanAll machine tree rules settings paths).2, note.Plain := by
  intro note hnote
  obtain ⟨outcome, hread⟩ := mem_scanAll_notes horder hnotes hnote
  obtain ⟨message, rfl⟩ := mem_readNotes hread
  exact plain_plainLine _ _ _

theorem plain_notes {outcome : FileOutcome} : ∀ note ∈ outcome.notes, note.Plain := by
  intro note hnote
  unfold FileOutcome.notes at hnote
  split at hnote
  · rw [List.mem_singleton.mp hnote]
    trivial
  · rcases List.mem_cons.mp hnote with rfl | hdetection
    · trivial
    · obtain ⟨detection, _, rfl⟩ := List.mem_map.mp hdetection
      trivial

/-- Neither the level of a log nor whether it is on changes anything of a scan. -/
theorem scan_logging (level : String) (on : Bool) :
    scan machine tree rules { settings with logLevel := level, logsEvents := on } clock start roots =
      scan machine tree rules settings clock start roots := by
  have hsearch : Settings.search { settings with logLevel := level, logsEvents := on } rules
      machine.deepest = settings.search rules machine.deepest := rfl
  have hfile : scanFile machine.codecs tree rules { settings with logLevel := level, logsEvents := on } =
      scanFile machine.codecs tree rules settings := rfl
  have hfiles : ∀ paths, scanFiles machine.codecs tree rules
      { settings with logLevel := level, logsEvents := on } paths =
        scanFiles machine.codecs tree rules settings paths := by
    intro paths
    induction paths with
    | nil => rfl
    | cons path paths ih => simp only [scanFiles, hfile, ih]
  have hshares : Settings.sharesWork { settings with logLevel := level, logsEvents := on } =
      settings.sharesWork := rfl
  simp only [scan, scanAll, hsearch, hfile, hfiles, hshares]

/-! ## Chronicles -/

/-- Notes that log certain events, and no others: all of them from the lowest level on, from a higher
level on those at or above it, and none if events are off. They have the id of the scan, and a run of
the program logs them as its session says. -/
structure Chronicles (notes : List Note) (events : List Log.Event) : Prop where
  complete : ∀ render context,
    structured (scanLog true render context Log.Level.debug.rank notes) =
      events.map (·.line render context)
  levels : ∀ render context threshold,
    structured (scanLog true render context threshold notes) =
      Log.filtered threshold (structured (scanLog true render context Log.Level.debug.rank notes))
  off : ∀ render context threshold, structured (scanLog false render context threshold notes) = []
  scanIds : ∀ time id, id ≠ "" → ∀ event ∈ events,
    (event.allFields ⟨time, some id⟩).lookup "scan_id" = some (.string id)
  sessions : ∀ (world : CommandLine.World) (session : Log.Session),
    CommandLine.noteLines world session notes =
      scanLog (decide (session.logger = some true)) session.render ⟨world.time, some world.scanId⟩
        session.threshold notes

theorem chronicles_of_plain {notes : List Note} {events : List Log.Event}
    (hevents : notes.filterMap Note.event? = events) (hplain : ∀ note ∈ notes, note.Plain)
    (hunscoped : ∀ event ∈ events, ∀ field ∈ event.fields, field.1 ≠ "scan_id") :
    Chronicles notes events where
  complete := by
    intro render context
    rw [structured_scanLog hplain, hevents, filtered_debug]
  levels := by
    intro render context threshold
    rw [structured_scanLog hplain, structured_scanLog hplain, filtered_debug]
  off := fun render context => structured_scanLog_off hplain
  scanIds := by
    intro time id hid event hevent
    rw [lookup_allFields _ (hunscoped event hevent), lookup_contextFields time hid]
  sessions := fun world session => noteLines_eq world session notes

/-- The events of a scan that has a result agree with it. The first one tells how many files were
discovered. Then each file is told of in order, with the detections and the warnings of the result; a
warning that discovery ran out of time has no event. The last one has the counts of the result. Neither
the level of the log nor whether it is on changes the result. The workers of the machine are taken to
keep their outcomes in the order of the files and to make no notes of their own. -/
theorem scan_chronicles (horder : machine.pool.KeepsOrder) (hnotes : machine.pool.KeepsNotes)
    {result : ScanResult}
    (h : (scan machine tree rules settings clock start roots).outcome = .ok result) :
    ∃ found events warnings,
      discover tree (settings.search rules machine.deepest) clock (start + 1) roots = .ok found ∧
      Narrates machine.codecs tree rules settings found.files events result.detections warnings ∧
      result.warnings = stoppedWarnings roots found ++ warnings ∧
      Chronicles (scan machine tree rules settings clock start roots).notes
        (startedEvent settings roots found.files.length :: (events ++ [completedEvent result])) ∧
      ∀ level on,
        scan machine tree rules { settings with logLevel := level, logsEvents := on } clock start roots =
          scan machine tree rules settings clock start roots := by
  obtain ⟨found, outcomes, hdiscover, haccounts⟩ := exists_accounts horder h
  obtain ⟨hfiles, hscan⟩ := scan_notes horder hdiscover h
  obtain rfl : (scanFiles machine.codecs tree rules settings found.files).1 = outcomes :=
    map_ok_injective ((map_scanFile hfiles).symm.trans haccounts.scanned)
  have hnarrates := narrates_of_fates haccounts.fates
  refine ⟨found, _, _, hdiscover, haccounts.detections ▸ hnarrates, haccounts.warnings, ?_,
    scan_logging⟩
  rw [hscan]
  apply chronicles_of_plain
  · simp only [List.filterMap_append, filterMap_discoveryNotes, filterMap_scanAll_notes horder hnotes,
      List.nil_append, List.append_nil]
    rfl
  · simp only [List.forall_mem_append, List.forall_mem_singleton, List.forall_mem_map,
      List.forall_mem_flatMap]
    exact ⟨⟨⟨⟨fun note _ => plain_plainLine _ _ _, trivial⟩, plain_scanAll_notes horder hnotes _⟩,
      fun outcome _ => plain_notes⟩, trivial⟩
  · refine List.forall_mem_cons.mpr ⟨by simp [startedEvent, Log.Event.scanStarted], ?_⟩
    refine List.forall_mem_append.mpr ⟨hnarrates.unscoped, ?_⟩
    simp only [completedEvent, Log.Event.scanCompleted, List.forall_mem_singleton, List.forall_mem_cons]
    simp

/-- A scan with four workers that leaves out its first file and has a detection in the second one. -/
theorem scan_chronicles_leaky :
    ∃ result events warnings,
      (scan { pool := lastFirst } leakyFiles .builtIn { workers := 4 } (fun _ => .whole 0) 0
        [some "a"]).outcome = .ok result ∧
      Narrates asciiCodecs leakyFiles .builtIn { workers := 4 } twoFilesFound.files events
        result.detections warnings ∧
      Chronicles (scan { pool := lastFirst } leakyFiles .builtIn { workers := 4 } (fun _ => .whole 0) 0
          [some "a"]).notes
        (startedEvent { workers := 4 } [some "a"] 2 :: (events ++ [completedEvent result])) := by
  have horder : ({ pool := lastFirst } : Machine).pool.KeepsOrder := fun _ _ => rfl
  have hnotes : ({ pool := lastFirst } : Machine).pool.KeepsNotes := by
    intro parts note hnote
    obtain ⟨part, hpart, hmem⟩ := List.mem_flatten.mp hnote
    exact ⟨part, List.mem_reverse.mp hpart, hmem⟩
  have hdiscover : discover leakyFiles (Settings.search { workers := 4 } .builtIn 900) (fun _ => .whole 0)
      (0 + 1) [some "a"] = .ok twoFilesFound := discover_twoFiles _ _ _ _
  have hfiles : (scanFiles asciiCodecs leakyFiles .builtIn { workers := 4 } twoFilesFound.files).2 = none :=
    congrArg Prod.snd (scanFiles_leakyFiles 4)
  obtain ⟨result, hscan⟩ := (scan_ok_iff horder).mpr ⟨twoFilesFound, hdiscover, hfiles⟩
  obtain ⟨found, events, warnings, hfound, hnarrates, _, hchronicles, _⟩ :=
    scan_chronicles horder hnotes hscan
  obtain rfl : twoFilesFound = found := Except.ok.inj (hdiscover.symm.trans hfound)
  exact ⟨result, events, warnings, hscan, hnarrates, hchronicles⟩

end LogAudit
