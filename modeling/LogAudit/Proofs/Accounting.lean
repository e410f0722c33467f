import LogAudit.Proofs.Discovering
import LogAudit.Proofs.Isolation
import LogAudit.Proofs.Rewriting

/-! # What a scan reports of its files

The detections and the warnings of a scan are those of its files, in the order in which the files were
discovered. Every file is counted or has one warning. Other bytes in one file change nothing of what is
reported of the others.

* `Accounts`: a result, made up of the outcomes of the files.
* `map_scanFile_rewrites`: the outcomes of the files in which two trees do not differ.
* `scan_accounts`: every result of a scan is accounted for, and how it depends on one file. -/

namespace LogAudit
set_option autoImplicit false

open Files Encoding

variable {machine : Machine} {codecs : Codecs} {tree changed : Tree} {rules : RuleSet}
variable {settings : Settings} {clock : Clock} {start : Nat} {roots : List (Option String)} {found : Discovery}

/-- A result made up of the outcomes of the files that were discovered. -/
structure Accounts (codecs : Codecs) (tree : Tree) (rules : RuleSet) (settings : Settings)
    (roots : List (Option String)) (found : Discovery) (result : ScanResult)
    (outcomes : List FileOutcome) : Prop where
  scanned : found.files.map (scanFile codecs tree rules settings) = outcomes.map .ok
  fates : List.Forall₂ (Fate codecs tree rules settings) found.files outcomes
  detections : result.detections = outcomes.flatMap (·.detections)
  warnings : result.warnings = stoppedWarnings roots found ++ outcomes.filterMap (·.warning)
  filesScanned : result.statistics.filesScanned = outcomes.countP (·.warning.isNone)
  everyFile : result.statistics.filesScanned + (outcomes.filterMap (·.warning)).length =
    found.files.length
  totalDetections : result.statistics.totalDetections = result.detections.length
  hasDetections : result.hasDetections = true ↔ 0 < result.statistics.totalDetections

/-! ## Outcomes -/

theorem map_scanFile {paths : List Path}
    (h : (scanFiles codecs tree rules settings paths).2 = none) :
    paths.map (scanFile codecs tree rules settings) =
      (scanFiles codecs tree rules settings paths).1.map .ok := by
  induction paths with
  | nil => rfl
  | cons path paths ih =>
    cases hscan : scanFile codecs tree rules settings path with
    | error failure =>
      rw [scanFiles_cons_error hscan] at h
      cases h
    | ok outcome =>
      rw [scanFiles_cons_ok hscan] at h ⊢
      rw [List.map_cons, List.map_cons, hscan, ih h]

/-- A file with a warning has no detections. -/
theorem Fate.detections_eq_nil {path : Path} {outcome : FileOutcome}
    (h : Fate codecs tree rules settings path outcome) (hwarning : outcome.warning.isNone = false) :
    outcome.detections = [] := by
  cases h with
  | skipped => rfl
  | scanned => cases hwarning

theorem flatMap_scannedOnly {paths : List Path} {outcomes : List FileOutcome}
    (h : List.Forall₂ (Fate codecs tree rules settings) paths outcomes) :
    (scannedOnly outcomes).flatMap (·.detections) = outcomes.flatMap (·.detections) := by
  induction h with
  | nil => rfl
  | @cons path outcome paths outcomes hfate _ ih =>
    cases hwarning : outcome.warning.isNone with
    | true => simpa [scannedOnly, hwarning] using ih
    | false =>
      have hnone := hfate.detections_eq_nil hwarning
      simpa [scannedOnly, hwarning, hnone] using ih

theorem countP_add_warnings (outcomes : List FileOutcome) :
    outcomes.countP (·.warning.isNone) + (outcomes.filterMap (·.warning)).length =
      outcomes.length := by
  induction outcomes with
  | nil => rfl
  | cons outcome outcomes ih =>
    cases hwarning : outcome.warning with
    | none =>
      simp [hwarning]
      omega
    | some warning =>
      simp [hwarning]
      omega

theorem accounts_of_isolates {result : ScanResult}
    (hfiles : (scanFiles codecs tree rules settings found.files).2 = none)
    (h : Isolates codecs tree rules settings roots found result
      (scanFiles codecs tree rules settings found.files).1) :
    Accounts codecs tree rules settings roots found result
      (scanFiles codecs tree rules settings found.files).1 := by
  obtain ⟨hfates, hwarnings, hdetections, hscanned, htotal⟩ := h
  have hcount : (scannedOnly (scanFiles codecs tree rules settings found.files).1).length =
      (scanFiles codecs tree rules settings found.files).1.countP (·.warning.isNone) :=
    List.countP_eq_length_filter.symm
  have hall := countP_add_warnings (scanFiles codecs tree rules settings found.files).1
  have hlength := hfates.length_eq
  refine ⟨map_scanFile hfiles, hfates, ?_, hwarnings, ?_, ?_, htotal, ?_⟩
  · rw [hdetections, flatMap_scannedOnly hfates]
  · rw [hscanned, hcount]
  · rw [hscanned, hcount]
    omega
  · rw [htotal, ScanResult.hasDetections]
    cases result.detections <;> simp

/-- Every result of a scan is made up of the outcomes of the files that were discovered. -/
theorem exists_accounts (hpool : machine.pool.KeepsOrder) {result : ScanResult}
    (h : (scan machine tree rules settings clock start roots).outcome = .ok result) :
    ∃ found outcomes,
      discover tree (settings.search rules machine.deepest) clock (start + 1) roots = .ok found ∧
      Accounts machine.codecs tree rules settings roots found result outcomes := by
  cases hdiscover : discover tree (settings.search rules machine.deepest) clock (start + 1) roots with
  | error halt =>
    rw [scan_of_halt hdiscover] at h
    cases h
  | ok found =>
    rcases scan_of_found hpool hdiscover with
      ⟨failure, hscan, _⟩ | ⟨other, hscan, hfiles, hisolates⟩
    · rw [hscan] at h
      cases h
    · obtain rfl := Except.ok.inj (hscan.symm.trans h)
      exact ⟨found, _, rfl, accounts_of_isolates hfiles hisolates⟩

/-! ## One file -/

theorem scanFile_of_locate_eq {path : Path} (h : changed.locate path true = tree.locate path true)
    (hbars : changed.bars = tree.bars) :
    scanFile codecs changed rules settings path = scanFile codecs tree rules settings path := by
  simp only [scanFile, readLines, readLines.readText, sizeAt, Tree.read, Tree.bar?, h, hbars]

/-- Files that are not rewritten have the same outcomes in both trees. -/
theorem map_scanFile_rewrites {path : Path} {place : Place} {front back : List Path}
    (h : Rewrites tree changed place) (hfound : Consistent tree found)
    (hfiles : found.files = front ++ path :: back) (hpath : tree.placeOf? path = some place) :
    front.map (scanFile codecs changed rules settings) =
        front.map (scanFile codecs tree rules settings) ∧
      back.map (scanFile codecs changed rules settings) =
        back.map (scanFile codecs tree rules settings) := by
  have hdistinct := hfound.distinct
  rw [hfiles, List.map_append, List.map_cons, hpath, List.nodup_middle, List.nodup_cons,
    List.mem_append, not_or] at hdistinct
  obtain ⟨⟨hfront, hback⟩, _⟩ := hdistinct
  constructor
  · refine List.map_congr_left fun other hother => scanFile_of_locate_eq (h.locate_elsewhere ?_) h.bars
    exact fun hplace => hfront (List.mem_map.mpr ⟨other, hother, hplace⟩)
  · refine List.map_congr_left fun other hother => scanFile_of_locate_eq (h.locate_elsewhere ?_) h.bars
    exact fun hplace => hback (List.mem_map.mpr ⟨other, hother, hplace⟩)

theorem map_ok_injective {α ε : Type} : Function.Injective (List.map (Except.ok : α → Except ε α)) :=
  List.map_injective_iff.mpr fun _ _ => Except.ok.inj

/-- Outcomes of files, around that of one of them. -/
theorem outcomes_around {front back : List Path} {path : Path} {outcomes : List FileOutcome}
    (h : (front ++ path :: back).map (scanFile codecs tree rules settings) = outcomes.map .ok) :
    ∃ before own after, outcomes = before ++ own :: after ∧
      front.map (scanFile codecs tree rules settings) = before.map .ok ∧
      scanFile codecs tree rules settings path = .ok own ∧
      back.map (scanFile codecs tree rules settings) = after.map .ok := by
  rw [List.map_append, List.map_cons] at h
  obtain ⟨before, rest, rfl, hbefore, hrest⟩ := List.map_eq_append_iff.mp h.symm
  obtain ⟨own, after, rfl, hown, hafter⟩ := List.map_eq_cons_iff.mp hrest
  exact ⟨before, own, after, rfl, hbefore.symm, hown.symm, hafter.symm⟩

/-! ## Scans -/

theorem scanFiles_workers (workers : Int) (paths : List Path) :
    scanFiles codecs tree rules { settings with workers := workers } paths =
      scanFiles codecs tree rules settings paths := by
  induction paths with
  | nil => rfl
  | cons path paths ih =>
    have hsame : scanFile codecs tree rules { settings with workers := workers } path =
        scanFile codecs tree rules settings path := rfl
    simp only [scanFiles, hsame, ih]

/-- How many workers there are does not matter, as long as their outcomes come in order. -/
theorem scan_workers (hpool : machine.pool.KeepsOrder) (workers : Int) :
    (scan machine tree rules { settings with workers := workers } clock start roots).outcome =
      (scan machine tree rules settings clock start roots).outcome := by
  have hsearch : Settings.search { settings with workers := workers } rules machine.deepest =
      settings.search rules machine.deepest := rfl
  have hfiles : ∀ paths, (scanAll machine tree rules { settings with workers := workers } paths).1 =
      (scanAll machine tree rules settings paths).1 := by
    intro paths
    rw [scanAll_eq_scanFiles hpool, scanAll_eq_scanFiles hpool, scanFiles_workers]
  simp only [scan, hsearch]
  cases discover tree (settings.search rules machine.deepest) clock (start + 1) roots with
  | error halt => rfl
  | ok found =>
    simp only [hfiles]
    cases hfailure : (scanAll machine tree rules settings found.files).1.2 <;> simp

/-- Other bytes in any one of the files that were discovered: the same files are discovered, and if the
scan has a result, then the outcomes of all other files are what they were. Wherever the file can be
written, this is what writing the bytes makes of the tree. -/
def OthersUnmoved (machine : Machine) (tree : Tree) (rules : RuleSet) (settings : Settings)
    (clock : Clock) (start : Nat) (roots : List (Option String)) (found : Discovery)
    (outcomes : List FileOutcome) : Prop :=
  ∀ front path back, found.files = front ++ path :: back →
    ∃ place, tree.placeOf? path = some place ∧ ∀ bytes,
      ((tree.write path bytes).1 = none → (tree.write path bytes).2 = tree.put place (.file bytes)) ∧
      discover (tree.put place (.file bytes)) (settings.search rules machine.deepest) clock (start + 1)
        roots = .ok found ∧
      ∀ result, (scan machine (tree.put place (.file bytes)) rules settings clock start roots).outcome =
          .ok result →
        ∃ before old new after, outcomes = before ++ old :: after ∧ before.length = front.length ∧
          Accounts machine.codecs (tree.put place (.file bytes)) rules settings roots found result
            (before ++ new :: after)

theorem othersUnmoved (hpool : machine.pool.KeepsOrder) {result : ScanResult}
    {outcomes : List FileOutcome}
    (hdiscover : discover tree (settings.search rules machine.deepest) clock (start + 1) roots = .ok found)
    (h : Accounts machine.codecs tree rules settings roots found result outcomes) :
    OthersUnmoved machine tree rules settings clock start roots found outcomes := by
  intro front path back hfiles
  have hconsistent := consistent_discover hdiscover
  obtain ⟨place, old, hlocate⟩ := hconsistent.resolved path (by simp [hfiles])
  have hplace : tree.placeOf? path = some place := by simp [Tree.placeOf?, hlocate, Except.toOption]
  refine ⟨place, hplace, fun bytes => ⟨write_eq_put hlocate, ?_⟩⟩
  have hrewrites := rewrites_put (node?_of_locate_file hlocate) bytes
  have hsame : discover (tree.put place (.file bytes)) (settings.search rules machine.deepest) clock
      (start + 1) roots = .ok found := by
    rw [discover_rewrites hrewrites, hdiscover]
  refine ⟨hsame, fun result' hscan => ?_⟩
  obtain ⟨found', outcomes', hdiscover', haccounts⟩ := exists_accounts hpool hscan
  obtain rfl := Except.ok.inj (hsame.symm.trans hdiscover')
  obtain ⟨hfront, hback⟩ := map_scanFile_rewrites hrewrites hconsistent hfiles hplace
  obtain ⟨before, own, after, rfl, hbefore, _, hafter⟩ := outcomes_around (hfiles ▸ h.scanned)
  obtain ⟨before', own', after', rfl, hbefore', _, hafter'⟩ :=
    outcomes_around (hfiles ▸ haccounts.scanned)
  obtain rfl : before' = before :=
    map_ok_injective (hbefore'.symm.trans (hfront.trans hbefore))
  obtain rfl : after' = after := map_ok_injective (hafter'.symm.trans (hback.trans hafter))
  refine ⟨before', own, own', after', rfl, ?_, haccounts⟩
  simpa using (congrArg List.length hbefore).symm

/-- Every result of a scan, for any number of workers whose outcomes come in order, is made up of the
outcomes of the files that were discovered, and other bytes in one of them leave those of the others. -/
theorem scan_accounts (hpool : machine.pool.KeepsOrder) {result : ScanResult}
    (h : (scan machine tree rules settings clock start roots).outcome = .ok result) :
    ∃ found outcomes,
      discover tree (settings.search rules machine.deepest) clock (start + 1) roots = .ok found ∧
      Accounts machine.codecs tree rules settings roots found result outcomes ∧
      (∀ workers, (scan machine tree rules { settings with workers := workers } clock start
        roots).outcome = .ok result) ∧
      OthersUnmoved machine tree rules settings clock start roots found outcomes := by
  obtain ⟨found, outcomes, hdiscover, haccounts⟩ := exists_accounts hpool h
  exact ⟨found, outcomes, hdiscover, haccounts, fun workers => (scan_workers hpool workers).trans h,
    othersUnmoved hpool hdiscover haccounts⟩

/-! ## A tree of two files -/

/-- A directory with two source files. -/
def twoFiles (first second : List UInt8) : Tree where
  entries := [(["a"], .directory), (["a", "A.java"], .file first), (["a", "B.java"], .file second)]

/-- What discovery finds there. -/
def twoFilesFound : Discovery where
  files := [⟨"", ["a", "A.java"]⟩, ⟨"", ["a", "B.java"]⟩]
  places := [some ["a", "A.java"], some ["a", "B.java"]]
  readings := 1

theorem discover_twoFiles (first second : List UInt8) (clock : Clock) (start : Nat) :
    discover (twoFiles first second) (Settings.search {} {} 900) clock start [some "a"] =
      .ok twoFilesFound := by
  have hroot : checkRoot (twoFiles first second) (some "a") = .ok ⟨"", ["a"]⟩ :=
    checkRoot_of_locate (by decide) (by cbv) (by cbv) rfl
  have hvisits : visits (twoFiles first second) (Settings.search {} {} 900) ⟨"", ["a"]⟩ =
      [.listed ⟨"", ["a"]⟩ ["A.java", "B.java"]] := by cbv
  have hfirst : isWanted (twoFiles first second) (Settings.search {} {} 900) ⟨"", ["a"]⟩
      (Path.child ⟨"", ["a"]⟩ "A.java") = true := by cbv
  have hsecond : isWanted (twoFiles first second) (Settings.search {} {} 900) ⟨"", ["a"]⟩
      (Path.child ⟨"", ["a"]⟩ "B.java") = true := by cbv
  have hplace : (twoFiles first second).placeOf? (Path.child ⟨"", ["a"]⟩ "A.java") =
      some ["a", "A.java"] := by cbv
  have hplace' : (twoFiles first second).placeOf? (Path.child ⟨"", ["a"]⟩ "B.java") =
      some ["a", "B.java"] := by cbv
  have henter : Discovery.enter (twoFiles first second) (Settings.search {} {} 900) clock start
      ⟨"", ["a"]⟩
      { readings := 1 } (.listed ⟨"", ["a"]⟩ ["A.java", "B.java"]) = .ok twoFilesFound := by
    change Discovery.look _ _ _ _ _ _ = _
    simp only [Discovery.look, List.foldlM_cons, List.foldlM_nil, bind, Except.bind,
      accept_of_isWanted hfirst, accept_of_isWanted hsecond, hplace, hplace']
    rfl
  rw [discover, List.mapM_cons, hroot]
  simp only [Except.mapError, List.mapM_nil, List.foldlM_cons, List.foldlM_nil, bind, Except.bind, pure,
    Except.pure, hvisits, henter]

/-- One file that is no text, and one that logs a password. -/
def leakyFiles : Tree := twoFiles [0xFF] "log.info(password);".toUTF8.toList

/-- The warning of the first file, and the detection in the second one. -/
def leakyOutcomes : List FileOutcome :=
  [{ path := "a/A.java"
     warning := some ⟨"a/A.java", "Cannot decode file as utf-8: invalid start byte"⟩ },
   { path := "a/B.java"
     detections := [⟨"a/B.java", 1, "password", "log.info(password);"⟩]
     statements := 1 }]

theorem scanFiles_leakyFiles (workers : Int) :
    scanFiles asciiCodecs leakyFiles .builtIn { workers := workers } twoFilesFound.files =
      (leakyOutcomes, none) := by
  have hfirst : Admitted leakyFiles { workers := workers } ⟨"", ["a", "A.java"]⟩ [0xFF] :=
    ⟨⟨1, by cbv, (by decide : (1 : Int) ≤ ({} : Settings).largestFile)⟩, by cbv⟩
  have hflaw : decode asciiCodecs "utf-8" [0xFF] = .error (.flawed .invalidStart) := by decide +kernel
  have hsecond : Admitted leakyFiles { workers := workers } ⟨"", ["a", "B.java"]⟩
      "log.info(password);".toUTF8.toList :=
    ⟨⟨19, by cbv, (by decide : (19 : Int) ≤ ({} : Settings).largestFile)⟩, by cbv⟩
  have htext : decode asciiCodecs "utf-8" "log.info(password);".toUTF8.toList =
      .ok "log.info(password);".toList := by decide +kernel
  have hskip : scanFile asciiCodecs leakyFiles .builtIn { workers := workers } ⟨"", ["a", "A.java"]⟩ =
      .ok { path := "a/A.java"
            warning := some ⟨"a/A.java", "Cannot decode file as utf-8: invalid start byte"⟩ } := by
    simp only [scanFile, readLines_of_admitted hfirst, hflaw]
    decide +kernel
  have hscan : scanFile asciiCodecs leakyFiles .builtIn { workers := workers } ⟨"", ["a", "B.java"]⟩ =
      .ok { path := "a/B.java"
            detections := [⟨"a/B.java", 1, "password", "log.info(password);"⟩]
            statements := 1 } := by
    simp only [scanFile, readLines_of_admitted hsecond, htext]
    decide +kernel
  rw [twoFilesFound, scanFiles_cons_ok hskip, scanFiles_cons_ok hscan]
  rfl

/-- Workers that come to the last file first. -/
def lastFirst : Pool := { Pool.inTurn with gather := fun parts => parts.reverse.flatten }

/-- A scan with four workers, a warning for its first file and a detection in the second one. -/
theorem scan_accounts_mixed :
    ∃ result,
      (scan { pool := lastFirst } leakyFiles .builtIn { workers := 4 } (fun _ => .whole 0) 0
        [some "a"]).outcome = .ok result ∧
      Accounts asciiCodecs leakyFiles .builtIn { workers := 4 } [some "a"] twoFilesFound result
        leakyOutcomes ∧
      OthersUnmoved { pool := lastFirst } leakyFiles .builtIn { workers := 4 } (fun _ => .whole 0) 0
        [some "a"] twoFilesFound leakyOutcomes ∧
      result.detections = [⟨"a/B.java", 1, "password", "log.info(password);"⟩] ∧
      result.warnings = [⟨"a/A.java", "Cannot decode file as utf-8: invalid start byte"⟩] ∧
      result.statistics.filesScanned = 1 := by
  have hpool : ({ pool := lastFirst } : Machine).pool.KeepsOrder := fun _ _ => rfl
  have hfiles := scanFiles_leakyFiles 4
  have hdiscover : discover leakyFiles (Settings.search { workers := 4 } .builtIn 900) (fun _ => .whole 0)
      (0 + 1) [some "a"] = .ok twoFilesFound := discover_twoFiles _ _ _ _
  obtain ⟨result, hscan⟩ := (scan_ok_iff hpool).mpr
    ⟨twoFilesFound, hdiscover, (congrArg Prod.snd hfiles : _ = none)⟩
  obtain ⟨found, outcomes, hfound, haccounts, _, hothers⟩ := scan_accounts hpool hscan
  obtain rfl := Except.ok.inj (hdiscover.symm.trans hfound)
  obtain rfl : leakyOutcomes = outcomes := by
    have hall := map_scanFile (congrArg Prod.snd hfiles : _ = none)
    rw [hfiles] at hall
    exact map_ok_injective (hall.symm.trans haccounts.scanned)
  exact ⟨result, hscan, haccounts, hothers, haccounts.detections, haccounts.warnings,
    haccounts.filesScanned⟩

end LogAudit
