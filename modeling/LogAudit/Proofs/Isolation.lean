import LogAudit.Proofs.Decoding
import LogAudit.Proofs.Halting
import LogAudit.Scan

/-! # What one file can do to a scan

A file that is too big, cannot be read or has a flaw becomes a warning, and the scan goes on. Two things
end a scan: a decoder that refuses the bytes of a file as a whole, and a walk that is obstructed.

* `Fate`: what becomes of a file that does not end the scan.
* `scanFile_cases`: a file has a fate, or its bytes are refused.
* `scanAll_eq_scanFiles`: several workers come to the same as one.
* `foldl_add`: what the outcomes of files come to.
* `scan_isolates_files`: when a scan has a result, and what the result is. -/

namespace LogAudit
set_option autoImplicit false

open Files Encoding

/-! ## Fates of files -/

variable {codecs : Codecs} {tree : Tree} {rules : RuleSet} {settings : Settings} {path : Path}

/-- A file within the limit of size, with the bytes that are read from it. -/
def Admitted (tree : Tree) (settings : Settings) (path : Path) (bytes : List UInt8) : Prop :=
  (∃ size, sizeAt tree path = .ok size ∧ size ≤ settings.largestFile) ∧ tree.read path = .ok bytes

/-- The reasons for leaving out a file. -/
inductive Skipped (codecs : Codecs) (tree : Tree) (settings : Settings) (path : Path) :
    ReadFailure → Prop
  | unsized {fault : Fault} : sizeAt tree path = .error fault →
      Skipped codecs tree settings path (.unreadable fault)
  | tooBig {size : Nat} : sizeAt tree path = .ok size → settings.largestFile < size →
      Skipped codecs tree settings path (.tooBig settings.largestFile size)
  | unreadable {size : Nat} {fault : Fault} : sizeAt tree path = .ok size →
      size ≤ settings.largestFile → tree.read path = .error fault →
      Skipped codecs tree settings path (.unreadable fault)
  | undecodable {bytes : List UInt8} {flaw : Flaw} : Admitted tree settings path bytes →
      decode codecs settings.encoding bytes = .error (.flawed flaw) →
      Skipped codecs tree settings path (.undecodable settings.encoding flaw)

/-- What becomes of a file: one warning, or the detections in its lines. -/
inductive Fate (codecs : Codecs) (tree : Tree) (rules : RuleSet) (settings : Settings) (path : Path) :
    FileOutcome → Prop
  | skipped {failure : ReadFailure} : Skipped codecs tree settings path failure →
      Fate codecs tree rules settings path
        { path := path.text, warning := some ⟨path.text, failure.message⟩ }
  | scanned {bytes : List UInt8} {text : List Char} : Admitted tree settings path bytes →
      decode codecs settings.encoding bytes = .ok text →
      Fate codecs tree rules settings path
        { path := path.text
          detections := detectLines rules path.text (splitLines (unifyNewlines text))
          statements := (fileStatements path.text (splitLines (unifyNewlines text))).length }

/-- A file that ends the scan: its bytes are read, and the decoder refuses them as a whole. -/
def EndsScan (codecs : Codecs) (tree : Tree) (settings : Settings) (path : Path)
    (failure : Failure) : Prop :=
  failure.IsRefusal ∧ ∃ bytes, Admitted tree settings path bytes ∧
    decode codecs settings.encoding bytes = .error failure

/-- A file that is admitted is left to the decoder. -/
theorem readLines_of_admitted {bytes : List UInt8} (h : Admitted tree settings path bytes) :
    readLines codecs tree path settings.encoding (some settings.largestFile) =
      match decode codecs settings.encoding bytes with
      | .ok text => .ok (.ok (splitLines (unifyNewlines text)))
      | .error (.flawed flaw) => .ok (.error (.undecodable settings.encoding flaw))
      | .error failure => .error failure := by
  obtain ⟨⟨size, hsize, hsmall⟩, hread⟩ := h
  have hcode : readLines codecs tree path settings.encoding (some settings.largestFile) =
      readLines.readText codecs tree path settings.encoding := by
    simp only [readLines, hsize, Int.not_lt.mpr hsmall, if_false]
  cases hdecode : decode codecs settings.encoding bytes with
  | ok text => simp only [hcode, readLines.readText, hread, hdecode]
  | error failure => cases failure <;> simp only [hcode, readLines.readText, hread, hdecode]

/-- A file has a fate, or it ends the scan. -/
theorem scanFile_cases (codecs : Codecs) (tree : Tree) (rules : RuleSet) (settings : Settings)
    (path : Path) :
    (∃ outcome, scanFile codecs tree rules settings path = .ok outcome ∧
      Fate codecs tree rules settings path outcome) ∨
    ∃ failure, scanFile codecs tree rules settings path = .error failure ∧
      EndsScan codecs tree settings path failure := by
  cases hsize : sizeAt tree path with
  | error fault =>
    exact Or.inl ⟨_, by simp only [scanFile, readLines, hsize], .skipped (.unsized hsize)⟩
  | ok size =>
    by_cases hlimit : settings.largestFile < size
    · exact Or.inl ⟨_, by simp only [scanFile, readLines, hsize, hlimit, if_true],
        .skipped (.tooBig hsize hlimit)⟩
    · have hsmall : (size : Int) ≤ settings.largestFile := Int.not_lt.mp hlimit
      cases hread : tree.read path with
      | error fault =>
        exact Or.inl ⟨_, by
          simp only [scanFile, readLines, readLines.readText, hsize, hlimit, if_false, hread],
          .skipped (.unreadable hsize hsmall hread)⟩
      | ok bytes =>
        have hadmitted : Admitted tree settings path bytes := ⟨⟨size, hsize, hsmall⟩, hread⟩
        cases hdecode : decode codecs settings.encoding bytes with
        | ok text =>
          exact Or.inl ⟨_, by simp only [scanFile, readLines_of_admitted hadmitted, hdecode]; rfl,
            .scanned hadmitted hdecode⟩
        | error failure =>
          cases failure with
          | flawed flaw =>
            exact Or.inl ⟨_, by simp only [scanFile, readLines_of_admitted hadmitted, hdecode],
              .skipped (.undecodable hadmitted hdecode)⟩
          | _ =>
            refine Or.inr ⟨_, ?_, ?_, bytes, hadmitted, hdecode⟩
            · simp only [scanFile, readLines_of_admitted hadmitted, hdecode]
            · nofun

theorem scanFile_of_endsScan {failure : Failure} (h : EndsScan codecs tree settings path failure) :
    scanFile codecs tree rules settings path = .error failure := by
  obtain ⟨hrefusal, bytes, hadmitted, hdecode⟩ := h
  cases failure with
  | flawed flaw => exact absurd rfl (hrefusal flaw)
  | _ => simp only [scanFile, readLines_of_admitted hadmitted, hdecode]

/-! ## Many files -/

theorem scanFiles_cons_ok {paths : List Path} {outcome : FileOutcome}
    (h : scanFile codecs tree rules settings path = .ok outcome) :
    scanFiles codecs tree rules settings (path :: paths) =
      (outcome :: (scanFiles codecs tree rules settings paths).1,
        (scanFiles codecs tree rules settings paths).2) := by
  simp only [scanFiles, h]

theorem scanFiles_cons_error {paths : List Path} {failure : Failure}
    (h : scanFile codecs tree rules settings path = .error failure) :
    scanFiles codecs tree rules settings (path :: paths) = ([], some failure) := by
  simp only [scanFiles, h]

/-- All files are scanned if none of them ends the scan, and only then. -/
theorem scanFiles_none_iff {paths : List Path} :
    (scanFiles codecs tree rules settings paths).2 = none ↔
      ∀ path ∈ paths, ∀ failure, ¬ EndsScan codecs tree settings path failure := by
  induction paths with
  | nil => simp [scanFiles]
  | cons path paths ih =>
    rw [List.forall_mem_cons]
    rcases scanFile_cases codecs tree rules settings path with
      ⟨outcome, hscan, _⟩ | ⟨failure, hscan, hends⟩
    · have hgoes : ∀ failure, ¬ EndsScan codecs tree settings path failure := by
        intro failure hends
        rw [scanFile_of_endsScan hends] at hscan
        cases hscan
      rw [scanFiles_cons_ok hscan, ih]
      exact (and_iff_right hgoes).symm
    · rw [scanFiles_cons_error hscan]
      exact iff_of_false nofun fun hgoes => hgoes.1 failure hends

/-- If all files are scanned, each has its fate. -/
theorem scanFiles_fates {paths : List Path}
    (h : (scanFiles codecs tree rules settings paths).2 = none) :
    List.Forall₂ (Fate codecs tree rules settings) paths
      (scanFiles codecs tree rules settings paths).1 := by
  induction paths with
  | nil => exact .nil
  | cons path paths ih =>
    rcases scanFile_cases codecs tree rules settings path with
      ⟨outcome, hscan, hfate⟩ | ⟨failure, hscan, _⟩
    · rw [scanFiles_cons_ok hscan] at h ⊢
      exact .cons hfate (ih h)
    · rw [scanFiles_cons_error hscan] at h
      cases h

/-! ## Several workers -/

/-- Workers whose outcomes come in the order of the files. -/
def Pool.KeepsOrder (pool : Pool) : Prop :=
  ∀ scanOne files, pool.map scanOne files = files.map scanOne

theorem Pool.inTurn_keepsOrder : Pool.inTurn.KeepsOrder := fun _ _ => rfl

theorem upToFailure_map (paths : List Path) :
    upToFailure (paths.map (scanFile codecs tree rules settings)) =
      scanFiles codecs tree rules settings paths := by
  induction paths with
  | nil => rfl
  | cons path paths ih =>
    rw [List.map_cons]
    cases hscan : scanFile codecs tree rules settings path with
    | error failure => rw [scanFiles_cons_error hscan, upToFailure]
    | ok outcome => rw [scanFiles_cons_ok hscan, upToFailure, ih]

theorem scanAll_eq_scanFiles {machine : Machine} (hpool : machine.pool.KeepsOrder) (tree : Tree)
    (rules : RuleSet) (settings : Settings) (paths : List Path) :
    (scanAll machine tree rules settings paths).1 =
      scanFiles machine.codecs tree rules settings paths := by
  unfold scanAll
  split
  · rw [hpool]
    exact upToFailure_map paths
  · rfl

/-! ## Results -/

/-- The outcomes of files that were scanned. -/
def scannedOnly (outcomes : List FileOutcome) : List FileOutcome :=
  outcomes.filter (·.warning.isNone)

/-- Taking outcomes into a result collects their warnings, and the detections of the other files. -/
theorem foldl_add (result : ScanResult) (outcomes : List FileOutcome) :
    outcomes.foldl ScanResult.add result =
      { detections := result.detections ++ (scannedOnly outcomes).flatMap (·.detections)
        warnings := result.warnings ++ outcomes.filterMap (·.warning)
        statistics :=
          { filesScanned := result.statistics.filesScanned + (scannedOnly outcomes).length
            totalDetections := result.statistics.totalDetections +
              ((scannedOnly outcomes).flatMap (·.detections)).length
            milliseconds := result.statistics.milliseconds } } := by
  induction outcomes generalizing result with
  | nil => simp [scannedOnly]
  | cons outcome outcomes ih =>
    rw [List.foldl_cons, ih]
    cases hwarning : outcome.warning with
    | some warning => simp [ScanResult.add, scannedOnly, hwarning]
    | none =>
      simp [ScanResult.add, scannedOnly, hwarning]
      omega

/-! ## Scans -/

variable {clock : Clock} {start : Nat} {roots : List (Option String)}

/-- The warning that discovery ran out of time. -/
def stoppedWarnings (roots : List (Option String)) (found : Discovery) : List FileWarning :=
  if found.stopped then
    [⟨String.intercalate ", " (roots.map fun root => root.getD "None"),
      "discovery stopped: max_seconds"⟩]
  else []

/-- What a scan that has a result reports about the files that were discovered. -/
structure Isolates (codecs : Codecs) (tree : Tree) (rules : RuleSet) (settings : Settings)
    (roots : List (Option String)) (found : Discovery) (result : ScanResult)
    (outcomes : List FileOutcome) : Prop where
  fates : List.Forall₂ (Fate codecs tree rules settings) found.files outcomes
  warnings : result.warnings = stoppedWarnings roots found ++ outcomes.filterMap (·.warning)
  detections : result.detections = (scannedOnly outcomes).flatMap (·.detections)
  filesScanned : result.statistics.filesScanned = (scannedOnly outcomes).length
  totalDetections : result.statistics.totalDetections = result.detections.length

section

variable {machine : Machine}

theorem scan_of_halt {halt : DiscoveryHalt}
    (h : discover tree (settings.search rules machine.deepest) clock (start + 1) roots = .error halt) :
    (scan machine tree rules settings clock start roots).outcome = .error (.root halt.failure) := by
  simp only [scan, h]

theorem scan_of_found (hpool : machine.pool.KeepsOrder) {found : Discovery}
    (h : discover tree (settings.search rules machine.deepest) clock (start + 1) roots = .ok found) :
    (∃ failure, (scan machine tree rules settings clock start roots).outcome =
        .error (.encoding failure) ∧
      (scanFiles machine.codecs tree rules settings found.files).2 = some failure) ∨
    ∃ result, (scan machine tree rules settings clock start roots).outcome = .ok result ∧
      (scanFiles machine.codecs tree rules settings found.files).2 = none ∧
      Isolates machine.codecs tree rules settings roots found result
        (scanFiles machine.codecs tree rules settings found.files).1 := by
  have hall := scanAll_eq_scanFiles hpool tree rules settings found.files
  cases hfiles : (scanFiles machine.codecs tree rules settings found.files).2 with
  | some failure => exact Or.inl ⟨failure, by simp only [scan, h, hall, hfiles], rfl⟩
  | none =>
    refine Or.inr ⟨_, by simp only [scan, h, hall, hfiles]; rfl, rfl, scanFiles_fates hfiles, ?_, ?_, ?_, ?_⟩
    all_goals simp [foldl_add, stoppedWarnings]

theorem scan_ok_iff (hpool : machine.pool.KeepsOrder) :
    (∃ result, (scan machine tree rules settings clock start roots).outcome = .ok result) ↔
      ∃ found,
        discover tree (settings.search rules machine.deepest) clock (start + 1) roots = .ok found ∧
        (scanFiles machine.codecs tree rules settings found.files).2 = none := by
  cases hdiscover : discover tree (settings.search rules machine.deepest) clock (start + 1) roots with
  | error halt => simp [scan_of_halt hdiscover]
  | ok found =>
    rcases scan_of_found hpool hdiscover with
      ⟨failure, hscan, hfiles⟩ | ⟨result, hscan, hfiles, _⟩
    · simp [hscan, hfiles]
    · simp [hscan, hfiles]

end

theorem exists_endsScan_iff {charset : Charset}
    (hname : Charset.named? settings.encoding = some charset) :
    (∃ failure, EndsScan codecs tree settings path failure) ↔
      ∃ bytes, Admitted tree settings path bytes ∧ Refused codecs settings.encoding bytes charset := by
  simp only [← refuses_decode_iff hname, Refuses]
  constructor
  · rintro ⟨failure, hrefusal, bytes, hadmitted, hdecode⟩
    exact ⟨bytes, hadmitted, failure, hdecode, hrefusal⟩
  · rintro ⟨bytes, hadmitted, failure, hdecode, hrefusal⟩
    exact ⟨failure, hrefusal, bytes, hadmitted, hdecode⟩

theorem scanFiles_none_iff_not_refused {charset : Charset} {paths : List Path}
    (hname : Charset.named? settings.encoding = some charset) :
    (scanFiles codecs tree rules settings paths).2 = none ↔
      ∀ path ∈ paths, ∀ bytes, Admitted tree settings path bytes →
        ¬ Refused codecs settings.encoding bytes charset := by
  rw [scanFiles_none_iff]
  refine forall₂_congr fun path _ => ?_
  rw [← not_exists, exists_endsScan_iff hname]
  simp only [not_exists, not_and]

/-! ## A tree of one file -/

/-- A directory with one source file. -/
def oneFile (bytes : List UInt8) : Tree where
  entries := [(["a"], .directory), (["a", "A.java"], .file bytes)]

/-- What discovery finds there. -/
def oneFileFound : Discovery where
  files := [⟨"", ["a", "A.java"]⟩]
  places := [some ["a", "A.java"]]
  readings := 1

theorem checkRoot_oneFile (bytes : List UInt8) :
    checkRoot (oneFile bytes) (some "a") = .ok ⟨"", ["a"]⟩ :=
  checkRoot_of_locate (by decide) (by cbv) (by cbv) rfl

theorem accept_oneFile (bytes : List UInt8) :
    Discovery.accept (oneFile bytes) (Settings.search {} {} 900) ⟨"", ["a"]⟩ { readings := 1 }
      ⟨"", ["a", "A.java"]⟩ = .ok oneFileFound := by
  have hlink : (oneFile bytes).isLink? ⟨"", ["a", "A.java"]⟩ = .ok false := by cbv
  have hfile : (oneFile bytes).isFile? ⟨"", ["a", "A.java"]⟩ = .ok true := by cbv
  have hplace : (oneFile bytes).placeOf? ⟨"", ["a", "A.java"]⟩ = some ["a", "A.java"] := by cbv
  simp only [Discovery.accept, hlink, hfile, hplace]
  rfl

theorem discover_oneFile (bytes : List UInt8) (clock : Clock) :
    discover (oneFile bytes) (Settings.search {} {} 900) clock 1 [some "a"] = .ok oneFileFound := by
  have hroots : [some "a"].mapM (checkRoot (oneFile bytes)) = .ok [⟨"", ["a"]⟩] := by
    rw [List.mapM_cons, checkRoot_oneFile]
    rfl
  have hvisits : visits (oneFile bytes) (Settings.search {} {} 900) ⟨"", ["a"]⟩ =
      [.listed ⟨"", ["a"]⟩ ["A.java"]] := by
    cbv
  have henter : Discovery.enter (oneFile bytes) (Settings.search {} {} 900) clock 1 ⟨"", ["a"]⟩
      { readings := 1 } (.listed ⟨"", ["a"]⟩ ["A.java"]) = .ok oneFileFound := by
    change (Discovery.accept _ _ _ _ ⟨"", ["a", "A.java"]⟩ >>= pure) = _
    rw [accept_oneFile]
    rfl
  rw [discover, hroots]
  simp only [Except.mapError, List.foldlM_cons, List.foldlM_nil, hvisits, bind, Except.bind, henter]
  rfl

/-! ## Isolation -/

/-- A scan under settings that were accepted and below roots that can be searched has a result unless
discovery is obstructed or a decoder refuses the bytes of a file. Every file that was discovered then has
its fate: one warning, or its detections. -/
theorem scan_isolates_files {machine : Machine} (hpool : machine.pool.KeepsOrder) (tree : Tree)
    (rules : RuleSet) (clock : Clock) (start : Nat) {limits : Json.Limits}
    {given : List (String × Json)} {environment : List (String × String)}
    (hsettings : Settings.read limits given environment = .ok settings)
    (hroots : ∀ root ∈ roots, ∃ top, checkRoot tree root = .ok top) :
    let found? := discover tree (settings.search rules machine.deepest) clock (start + 1) roots
    ∃ charset, Charset.named? settings.encoding = some charset ∧
      ((∃ result, (scan machine tree rules settings clock start roots).outcome = .ok result) ↔
        ∃ found, found? = .ok found ∧
          ∀ path ∈ found.files, ∀ bytes, Admitted tree settings path bytes →
            ¬ Refused machine.codecs settings.encoding bytes charset) ∧
      ((∃ found, found? = .ok found) ∨ Obstructed tree (settings.search rules machine.deepest) roots) ∧
      ∀ found result, found? = .ok found →
        (scan machine tree rules settings clock start roots).outcome = .ok result →
        ∃ outcomes, Isolates machine.codecs tree rules settings roots found result outcomes := by
  intro found?
  obtain ⟨charset, hname⟩ := read_encoding_known hsettings
  refine ⟨charset, hname, ?_, ?_, ?_⟩
  · simp only [scan_ok_iff hpool, scanFiles_none_iff_not_refused hname, found?]
  · cases hdiscover : found? with
    | ok found => exact Or.inl ⟨found, rfl⟩
    | error halt => exact Or.inr (obstructed_of_halt hroots hdiscover)
  · intro found result hdiscover hresult
    rcases scan_of_found hpool hdiscover with ⟨failure, hscan, _⟩ | ⟨other, hscan, _, hisolates⟩
    · rw [hscan] at hresult
      cases hresult
    · obtain rfl := Except.ok.inj (hscan.symm.trans hresult)
      exact ⟨_, hisolates⟩

/-- A file that is no text in the usual encoding does not end a scan. -/
theorem scan_isolates_files_flawed :
    ∃ result outcomes,
      (scan {} (oneFile [0xFF]) {} {} (fun _ => .whole 0) 0 [some "a"]).outcome = .ok result ∧
        Isolates asciiCodecs (oneFile [0xFF]) {} {} [some "a"] oneFileFound result outcomes := by
  have hsettings : Settings.read {} [] [] = .ok {} := rfl
  have hroots : ∀ root ∈ [some "a"], ∃ top, checkRoot (oneFile [0xFF]) root = .ok top := by
    simpa using ⟨_, checkRoot_oneFile [0xFF]⟩
  have hdiscover := discover_oneFile [0xFF] fun _ => .whole 0
  have hpool : ({} : Machine).pool.KeepsOrder := Pool.inTurn_keepsOrder
  obtain ⟨charset, hname, hresult, _, hisolates⟩ :=
    scan_isolates_files hpool (oneFile [0xFF]) {} (fun _ => .whole 0) 0 hsettings hroots
  have hutf8 : Charset.named? "utf-8" = some .utf8 := by decide +kernel
  obtain rfl : charset = .utf8 := Option.some.inj (hname.symm.trans hutf8)
  obtain ⟨result, hscan⟩ := hresult.mpr ⟨oneFileFound, hdiscover, fun _ _ _ _ hrefused => hrefused⟩
  obtain ⟨outcomes, houtcomes⟩ := hisolates oneFileFound result hdiscover hscan
  exact ⟨result, outcomes, hscan, houtcomes⟩

/-- A file of six plain bytes ends a scan under UTF-16, which is an accepted encoding. -/
theorem scan_ends_unmarked :
    Settings.read {} [("file_encoding", .string "utf-16")] [] = .ok { encoding := "utf-16" } ∧
      checkRoot (oneFile "log();".toUTF8.toList) (some "a") = .ok ⟨"", ["a"]⟩ ∧
      (scan {} (oneFile "log();".toUTF8.toList) {} { encoding := "utf-16" }
        (fun _ => .whole 0) 0 [some "a"]).outcome = .error (.encoding (.missingMark 16)) := by
  refine ⟨rfl, checkRoot_oneFile _, ?_⟩
  have hdiscover : discover (oneFile "log();".toUTF8.toList)
      (Settings.search { encoding := "utf-16" } {} 900) (fun _ => .whole 0) (0 + 1) [some "a"] =
        .ok oneFileFound := discover_oneFile _ _
  have hends : EndsScan asciiCodecs (oneFile "log();".toUTF8.toList) { encoding := "utf-16" }
      ⟨"", ["a", "A.java"]⟩ (.missingMark 16) := by
    refine ⟨nofun, "log();".toUTF8.toList, ⟨⟨6, ?_, by decide⟩, ?_⟩, ?_⟩
    · cbv
    · cbv
    · decide +kernel
  have hfiles : (scanAll {} (oneFile "log();".toUTF8.toList) {} { encoding := "utf-16" }
      oneFileFound.files).1 = ([], some (.missingMark 16)) := by
    rw [scanAll_eq_scanFiles Pool.inTurn_keepsOrder]
    exact scanFiles_cons_error (scanFile_of_endsScan hends)
  simp only [scan, hdiscover, hfiles]

end LogAudit
