import LogAudit.Proofs.Discovering
import LogAudit.Proofs.Isolation
import LogAudit.Proofs.Segments
import LogAudit.Proofs.Utf8

/-! # Lines under every convention

A text is cut into lines at line feeds once every other end of a line has become one. Nothing is lost:
the lines can be put together again, and all that is no end of a line stays where it was. So lines that
are written with one and the same end behind each of them are read back as they were, whatever that end
is, and a scan sees nothing of it.

* `replaceAll`, `unified`: the text that is cut, told by two replacements.
* `exists_terminated`: every text is made up of terminated lines and a rest.
* `SplitExactly`: how lines make up a text.
* `LineEnd.written`: lines with an end behind each of them.
* `readLines_exact`: what is read from a file. -/

namespace LogAudit
set_option autoImplicit false

open Files Encoding Source

/-! ## Replacements -/

/-- The text from a place on, with a word replaced wherever it occurs; the number counts characters
still inside the last occurrence. -/
def replaceAllFrom (word other : List Char) : Nat → List Char → List Char
  | _, [] => []
  | inside + 1, _ :: rest => replaceAllFrom word other inside rest
  | 0, c :: rest =>
    if word.isPrefixOf (c :: rest) then other ++ replaceAllFrom word other (word.length - 1) rest
    else c :: replaceAllFrom word other 0 rest

/-- A text with a word replaced wherever it occurs, from left to right. -/
def replaceAll (word other text : List Char) : List Char := replaceAllFrom word other 0 text

/-- A text with a line feed for every pair of a carriage return and a line feed, and then one for every
carriage return that is left. -/
def unified (text : List Char) : List Char :=
  replaceAll ['\r'] ['\n'] (replaceAll ['\r', '\n'] ['\n'] text)

theorem replaceAll_cons_of_ne {first c : Char} (h : c ≠ first) (word other rest : List Char) :
    replaceAll (first :: word) other (c :: rest) = c :: replaceAll (first :: word) other rest := by
  have hfront : (first :: word).isPrefixOf (c :: rest) = false := by
    simp [List.isPrefixOf, h.symm]
  simp only [replaceAll, replaceAllFrom, hfront, Bool.false_eq_true, if_false]

theorem replaceAll_return (rest : List Char) :
    replaceAll ['\r'] ['\n'] ('\r' :: rest) = '\n' :: replaceAll ['\r'] ['\n'] rest := by
  simp [replaceAll, replaceAllFrom]

theorem replaceAll_pair (rest : List Char) :
    replaceAll ['\r', '\n'] ['\n'] ('\r' :: '\n' :: rest) =
      '\n' :: replaceAll ['\r', '\n'] ['\n'] rest := by
  simp [replaceAll, replaceAllFrom]

theorem replaceAll_lone {rest : List Char} (h : rest.head? ≠ some '\n') :
    replaceAll ['\r', '\n'] ['\n'] ('\r' :: rest) = '\r' :: replaceAll ['\r', '\n'] ['\n'] rest := by
  cases rest with
  | nil => rfl
  | cons c rest =>
    have hc : '\n' ≠ c := fun heq => h (by rw [heq]; rfl)
    simp [replaceAll, replaceAllFrom, List.isPrefixOf, hc]

/-- The one pass over a text does what the two replacements do. -/
theorem unifyNewlines_eq_unified (text : List Char) : unifyNewlines text = unified text := by
  fun_induction unifyNewlines text with
  | case1 => rfl
  | case2 rest ih =>
    rw [ih, unified, unified, replaceAll_pair, replaceAll_cons_of_ne (by decide)]
  | case3 rest hlone ih =>
    have hhead : rest.head? ≠ some '\n' := by
      intro heq
      cases rest with
      | nil => cases heq
      | cons c rest => exact hlone rest (by rw [Option.some.inj heq])
    rw [ih, unified, unified, replaceAll_lone hhead, replaceAll_return]
  | case4 c rest _ hc ih =>
    have hne : c ≠ '\r' := fun heq => hc heq
    rw [ih, unified, unified, replaceAll_cons_of_ne hne, replaceAll_cons_of_ne hne]

/-! ## One kind of end -/

theorem return_not_mem_unifyNewlines (text : List Char) : '\r' ∉ unifyNewlines text := by
  fun_induction unifyNewlines text with
  | case1 => simp
  | case2 rest ih => simpa using ih
  | case3 rest _ ih => simpa using ih
  | case4 c rest _ hc ih => exact List.not_mem_cons_of_ne_of_not_mem (fun heq => hc heq.symm) ih

theorem unifyNewlines_eq_nil_iff {text : List Char} : unifyNewlines text = [] ↔ text = [] := by
  fun_cases unifyNewlines text <;> simp

/-- Whether a character is part of an end of a line. -/
def isLineEnd (c : Char) : Bool := c == '\n' || c == '\r'

/-- What is no end of a line stays in place. -/
theorem filter_unifyNewlines (text : List Char) :
    (unifyNewlines text).filter (!isLineEnd ·) = text.filter (!isLineEnd ·) := by
  fun_induction unifyNewlines text with
  | case1 => rfl
  | case2 rest ih => simpa [isLineEnd] using ih
  | case3 rest _ ih => simpa [isLineEnd] using ih
  | case4 c rest _ hc ih => rw [List.filter_cons, List.filter_cons, ih]

theorem unifyNewlines_append {piece : List Char} (h : '\r' ∉ piece) (rest : List Char) :
    unifyNewlines (piece ++ rest) = piece ++ unifyNewlines rest := by
  induction piece with
  | nil => rfl
  | cons c piece ih =>
    obtain ⟨hc, hmore⟩ := List.ne_and_not_mem_of_not_mem_cons h
    rw [List.cons_append, unifyNewlines, ih hmore, List.cons_append]
    · exact fun _ heq _ => hc heq.symm
    · exact fun heq => hc heq.symm

/-! ## Terminated lines -/

section Terminated

variable {mark : Char} {lines : List (List Char)} {tail : List Char}

/-- Every text is made up of pieces with a mark behind each of them, and a rest without a mark. -/
theorem exists_terminated (mark : Char) (text : List Char) :
    ∃ (lines : List (List Char)) (tail : List Char), (∀ line ∈ lines, mark ∉ line) ∧ mark ∉ tail ∧
      text = lines.flatMap (· ++ [mark]) ++ tail := by
  induction text with
  | nil => exact ⟨[], [], nofun, by simp, rfl⟩
  | cons c text ih =>
    obtain ⟨lines, tail, hlines, htail, rfl⟩ := ih
    by_cases hc : c = mark
    · refine ⟨[] :: lines, tail, List.forall_mem_cons.mpr ⟨by simp, hlines⟩, htail, ?_⟩
      rw [hc, List.flatMap_cons]
      rfl
    · cases lines with
      | nil => exact ⟨[], c :: tail, nofun, List.not_mem_cons_of_ne_of_not_mem (Ne.symm hc) htail, rfl⟩
      | cons line lines =>
        obtain ⟨hline, hmore⟩ := List.forall_mem_cons.mp hlines
        exact ⟨(c :: line) :: lines, tail, List.forall_mem_cons.mpr
          ⟨List.not_mem_cons_of_ne_of_not_mem (Ne.symm hc) hline, hmore⟩, htail, rfl⟩

/-- Pieces with marks behind them and a rest are the same as pieces and a rest with marks between. -/
theorem flatMap_append_eq_intercalate (lines : List (List Char)) (tail : List Char) :
    lines.flatMap (· ++ [mark]) ++ tail = [mark].intercalate (lines ++ [tail]) := by
  induction lines with
  | nil => simp
  | cons line lines ih =>
    rw [List.flatMap_cons, List.append_assoc, ih]
    cases lines with
    | nil => simp [List.intercalate_cons_cons]
    | cons next lines => simp [List.intercalate_cons_cons]

theorem splitAtMark_terminated (hlines : ∀ line ∈ lines, mark ∉ line) (htail : mark ∉ tail) :
    Text.splitAtMark mark (lines.flatMap (· ++ [mark]) ++ tail) = lines ++ [tail] := by
  rw [flatMap_append_eq_intercalate]
  apply Text.splitAtMark_intercalate (by simp)
  simpa [or_imp, forall_and] using ⟨hlines, htail⟩

/-- A rest without a mark is a line of its own unless it is empty. -/
def restLines (tail : List Char) : List (List Char) := if tail = [] then [] else [tail]

theorem splitLines_terminated (hlines : ∀ line ∈ lines, '\n' ∉ line) (htail : '\n' ∉ tail) :
    splitLines (lines.flatMap (· ++ ['\n']) ++ tail) = (lines ++ restLines tail).map String.ofList := by
  rw [splitLines, splitAtMark_terminated hlines htail, restLines]
  by_cases hempty : tail = []
  · simp [hempty]
  · simp [hempty]

/-- The lines of a text make it up, with one mark more if it ends with a mark. -/
theorem terminated_eq_intercalate (htail : mark ∉ tail) :
    lines.flatMap (· ++ [mark]) ++ tail = [mark].intercalate (lines ++ restLines tail) ++
      if (lines.flatMap (· ++ [mark]) ++ tail).getLast? = some mark then [mark] else [] := by
  rw [restLines]
  by_cases hempty : tail = []
  · subst hempty
    rcases List.eq_nil_or_concat lines with rfl | ⟨front, last, rfl⟩
    · simp
    · have hends : ((front ++ [last]).flatMap (· ++ [mark]) ++ []).getLast? = some mark := by
        simp [List.flatMap_append, List.getLast?_append]
      rw [List.concat_eq_append, if_pos hends, if_pos rfl, List.append_nil, List.append_nil,
        List.flatMap_append, List.flatMap_singleton, ← List.append_assoc, flatMap_append_eq_intercalate]
  · have hends : (lines.flatMap (· ++ [mark]) ++ tail).getLast? ≠ some mark := by
      rw [List.getLast?_append_of_ne_nil _ hempty]
      exact fun heq => htail (List.mem_of_getLast? heq)
    rw [if_neg hends, if_neg hempty, List.append_nil, flatMap_append_eq_intercalate]

theorem terminated_eq_nil_iff :
    lines.flatMap (· ++ [mark]) ++ tail = [] ↔ lines ++ restLines tail = [] := by
  rw [restLines]
  cases lines with
  | nil => by_cases hempty : tail = [] <;> simp [hempty]
  | cons line lines => simp

end Terminated

/-! ## Lines of a text -/

/-- Lines without any part of an end of a line. -/
def Unbroken (lines : List String) : Prop :=
  ∀ line ∈ lines, '\n' ∉ line.toList ∧ '\r' ∉ line.toList

instance (lines : List String) : Decidable (Unbroken lines) :=
  inferInstanceAs (Decidable (∀ line ∈ lines, '\n' ∉ line.toList ∧ '\r' ∉ line.toList))

/-- Lines that make up a text: they have no ends of lines in them, put together they are the text with
line feeds for ends, there is none only if the text is empty, and all else of the text is in them. -/
structure SplitExactly (text : List Char) (lines : List String) : Prop where
  unbroken : Unbroken lines
  joined : unified text = ['\n'].intercalate (lines.map String.toList) ++
    if (unified text).getLast? = some '\n' then ['\n'] else []
  empty : lines = [] ↔ text = []
  kept : lines.flatMap String.toList = text.filter (!isLineEnd ·)

theorem filter_terminated {lines : List (List Char)} {tail : List Char}
    (h : ∀ line ∈ lines ++ [tail], '\n' ∉ line ∧ '\r' ∉ line) :
    (lines.flatMap (· ++ ['\n']) ++ tail).filter (!isLineEnd ·) = (lines ++ restLines tail).flatten := by
  have hplain : ∀ line : List Char, '\n' ∉ line ∧ '\r' ∉ line → line.filter (!isLineEnd ·) = line := by
    rintro line ⟨hfeed, hreturn⟩
    refine List.filter_eq_self.mpr fun c hc => ?_
    simp [isLineEnd, ne_of_mem_of_not_mem hc hfeed, ne_of_mem_of_not_mem hc hreturn]
  have hrest : (restLines tail).flatten = tail := by
    rw [restLines]
    by_cases hempty : tail = [] <;> simp [hempty]
  rw [List.filter_append, List.flatten_append, hrest, hplain tail (h tail (by simp))]
  congr 1
  induction lines with
  | nil => rfl
  | cons line lines ih =>
    rw [List.cons_append, List.forall_mem_cons] at h
    rw [List.flatMap_cons, List.filter_append, List.filter_append, hplain line h.1, ih h.2]
    simp [isLineEnd]

theorem splitExactly_splitLines (text : List Char) :
    SplitExactly text (splitLines (unifyNewlines text)) := by
  obtain ⟨lines, tail, hlines, htail, htext⟩ := exists_terminated '\n' (unifyNewlines text)
  have hreturn := return_not_mem_unifyNewlines text
  have hall : ∀ line ∈ lines ++ [tail], '\n' ∉ line ∧ '\r' ∉ line := by
    intro line hline
    rcases List.mem_append.mp hline with hmem | hmem
    · refine ⟨hlines line hmem, fun hc => hreturn ?_⟩
      rw [htext, List.mem_append, List.mem_flatMap]
      exact Or.inl ⟨line, hmem, List.mem_append_left _ hc⟩
    · rw [List.mem_singleton.mp hmem]
      refine ⟨htail, fun hc => hreturn ?_⟩
      rw [htext]
      exact List.mem_append_right _ hc
  have hsplit : splitLines (unifyNewlines text) = (lines ++ restLines tail).map String.ofList := by
    rw [htext, splitLines_terminated hlines htail]
  have hchars : (splitLines (unifyNewlines text)).map String.toList = lines ++ restLines tail := by
    simp [hsplit, Function.comp_def]
  constructor
  · intro line hline
    have hmem : line.toList ∈ lines ++ restLines tail := by
      rw [← hchars]
      exact List.mem_map_of_mem hline
    have hrest : (restLines tail).Sublist [tail] := by
      rw [restLines]
      split <;> simp
    exact hall _ ((hrest.append_left lines).subset hmem)
  · rw [hchars, ← unifyNewlines_eq_unified, htext]
    exact terminated_eq_intercalate htail
  · rw [← unifyNewlines_eq_nil_iff, htext, terminated_eq_nil_iff, ← htext, hsplit, List.map_eq_nil_iff]
  · rw [← filter_unifyNewlines, List.flatMap_def, hchars, htext, filter_terminated hall]

/-! ## Lines that are written -/

/-- The ends that lines can have. -/
inductive LineEnd
  | lineFeed
  | carriageReturn
  | both
deriving Repr, DecidableEq

/-- The characters of an end. -/
def LineEnd.chars : LineEnd → List Char
  | lineFeed => ['\n']
  | carriageReturn => ['\r']
  | both => ['\r', '\n']

/-- Lines with one and the same end behind each of them. -/
def LineEnd.written (ending : LineEnd) (lines : List String) : List Char :=
  lines.flatMap fun line => line.toList ++ ending.chars

/-- Behind the last end, or before the next line, no line feed can be taken for part of the end. -/
theorem unifyNewlines_ending (ending : LineEnd) {rest : List Char}
    (h : ending = .carriageReturn → rest.head? ≠ some '\n') :
    unifyNewlines (ending.chars ++ rest) = '\n' :: unifyNewlines rest := by
  cases ending with
  | lineFeed => simp [LineEnd.chars, unifyNewlines]
  | both => simp [LineEnd.chars, unifyNewlines]
  | carriageReturn =>
    have hhead := h rfl
    rw [LineEnd.chars, List.singleton_append, unifyNewlines]
    rintro more rfl
    exact hhead rfl

theorem head_written_carriageReturn {lines : List String} (h : Unbroken lines) :
    (LineEnd.carriageReturn.written lines).head? ≠ some '\n' := by
  cases lines with
  | nil => nofun
  | cons line lines =>
    have hfeed := (h line List.mem_cons_self).1
    rw [LineEnd.written, List.flatMap_cons]
    cases hchars : line.toList with
    | nil => simp [LineEnd.chars]
    | cons c chars =>
      rw [hchars] at hfeed
      simpa using (List.ne_of_not_mem_cons hfeed).symm

theorem unifyNewlines_written (ending : LineEnd) {lines : List String} (h : Unbroken lines) :
    unifyNewlines (ending.written lines) = (lines.map String.toList).flatMap (· ++ ['\n']) := by
  induction lines with
  | nil => rfl
  | cons line lines ih =>
    obtain ⟨⟨_, hreturn⟩, hmore⟩ := List.forall_mem_cons.mp h
    have hrest : ending = .carriageReturn → (ending.written lines).head? ≠ some '\n' := by
      rintro rfl
      exact head_written_carriageReturn hmore
    have hwritten : ending.written (line :: lines) =
        line.toList ++ (ending.chars ++ ending.written lines) := by
      rw [LineEnd.written, List.flatMap_cons, List.append_assoc, LineEnd.written]
    rw [hwritten, unifyNewlines_append hreturn, unifyNewlines_ending ending hrest, ih hmore]
    simp

/-- Lines that are written with one end are read back, whatever that end is. -/
theorem splitLines_written (ending : LineEnd) {lines : List String} (h : Unbroken lines) :
    splitLines (unifyNewlines (ending.written lines)) = lines := by
  have hlines : ∀ line ∈ lines.map String.toList, '\n' ∉ line := by
    rw [List.forall_mem_map]
    exact fun line hline => (h line hline).1
  have hsplit := splitLines_terminated hlines (List.not_mem_nil)
  rw [List.append_nil, ← unifyNewlines_written ending h] at hsplit
  simpa [restLines, Function.comp_def] using hsplit

/-! ## Files -/

/-- A file within a limit of size whose bytes are a text. -/
structure HoldsText (codecs : Codecs) (tree : Tree) (path : Path) (encoding : String)
    (limit : Option Int) (text : List Char) : Prop where
  exists_bytes : ∃ bytes, tree.read path = .ok bytes ∧
    (∀ most, limit = some most → (bytes.length : Int) ≤ most) ∧ decode codecs encoding bytes = .ok text

variable {codecs : Codecs} {tree : Tree} {path : Path} {encoding : String} {limit : Option Int}
  {text : List Char}

theorem sizeAt_of_read {bytes : List UInt8} (h : tree.read path = .ok bytes) :
    sizeAt tree path = .ok bytes.length := by
  obtain ⟨place, node, hlocate, rfl | ⟨rfl, rfl⟩⟩ := locate_of_read h
  · simp only [sizeAt, hlocate]
  · simp only [sizeAt, hlocate, List.length_nil]

theorem HoldsText.readLines_eq (h : HoldsText codecs tree path encoding limit text) :
    readLines codecs tree path encoding limit = .ok (.ok (splitLines (unifyNewlines text))) := by
  obtain ⟨bytes, hread, hsmall, hdecode⟩ := h.exists_bytes
  have htext : readLines.readText codecs tree path encoding =
      .ok (.ok (splitLines (unifyNewlines text))) := by
    simp only [readLines.readText, hread, hdecode]
  cases limit with
  | none => simp only [readLines, sizeAt_of_read hread, htext]
  | some most =>
    simp only [readLines, sizeAt_of_read hread, Int.not_lt.mpr (hsmall most rfl), if_false, htext]

/-! ## Names of files -/

theorem statementsFrom_file (file other : String) (buffers : Buffers) (number inside : Nat)
    (lines : List String) :
    statementsFrom file buffers number inside lines =
      (statementsFrom other buffers number inside lines).map fun statement =>
        { statement with file := file } := by
  induction lines generalizing number inside with
  | nil => simp [statementsFrom]
  | cons line rest ih =>
    cases inside with
    | succ inside => exact ih (number + 1) inside
    | zero =>
      by_cases hopens : opensStatement line = true
      · rw [statementsFrom_of_opens hopens, statementsFrom_of_opens hopens, List.map_cons, ih]
        rfl
      · rw [Bool.not_eq_true] at hopens
        rw [statementsFrom_of_not_opens hopens, statementsFrom_of_not_opens hopens, ih]

/-- Where a detection is, and what it is called. -/
def Detection.spot (detection : Detection) : Int × String := (detection.line, detection.label)

/-- What is detected in lines, and where, does not depend on the name of the file. -/
theorem spots_detectLines (rules : RuleSet) (file other : String) (lines : List String) :
    (detectLines rules file lines).map Detection.spot =
      (detectLines rules other lines).map Detection.spot := by
  have hstatements : fileStatements file lines =
      (fileStatements other lines).map fun statement => { statement with file := file } :=
    statementsFrom_file file other (trackBuffers lines) 1 0 lines
  have hspots : ∀ statement : Statement,
      (detect rules.keywords rules.objectTypes { statement with file := file }).map Detection.spot =
        (detect rules.keywords rules.objectTypes statement).map Detection.spot := by
    intro statement
    rw [detect, detect, detectWith, detectWith, List.map_map, List.map_map]
    rfl
  simp only [detectLines, hstatements, List.flatMap_map, List.map_flatMap, hspots]

/-- Two outcomes of files without warnings that report the same labels on the same lines. -/
def SameSpots (outcome other : FileOutcome) : Prop :=
  outcome.warning = none ∧ other.warning = none ∧
    outcome.detections.map Detection.spot = other.detections.map Detection.spot

/-- The lines of a file make up its text exactly. Lines that were written with one end behind each of
them are read back, and a scan reports the same labels on the same lines, whatever that end is. -/
theorem readLines_exact (h : HoldsText codecs tree path encoding limit text) :
    (∃ lines, readLines codecs tree path encoding limit = .ok (.ok lines) ∧ SplitExactly text lines) ∧
    ∀ lines (ending : LineEnd), Unbroken lines → text = ending.written lines →
      readLines codecs tree path encoding limit = .ok (.ok lines) ∧
      ∀ (rules : RuleSet) (settings : Settings) (tree' : Tree) (path' : Path) (ending' : LineEnd),
        settings.encoding = encoding → some settings.largestFile = limit →
        HoldsText codecs tree' path' encoding limit (ending'.written lines) →
        ∃ outcome other, scanFile codecs tree rules settings path = .ok outcome ∧
          scanFile codecs tree' rules settings path' = .ok other ∧
          outcome.detections = detectLines rules path.text lines ∧ SameSpots outcome other := by
  refine ⟨⟨_, h.readLines_eq, splitExactly_splitLines text⟩, ?_⟩
  rintro lines ending hlines rfl
  refine ⟨by rw [h.readLines_eq, splitLines_written ending hlines], ?_⟩
  rintro rules settings tree' path' ending' rfl rfl h'
  have hscan : ∀ {tree : Tree} {path : Path} {ending : LineEnd},
      HoldsText codecs tree path settings.encoding (some settings.largestFile) (ending.written lines) →
      scanFile codecs tree rules settings path = .ok
        { path := path.text
          detections := detectLines rules path.text lines
          statements := (fileStatements path.text lines).length } := by
    intro tree path ending hfile
    rw [scanFile, hfile.readLines_eq, splitLines_written ending hlines]
    rfl
  exact ⟨_, _, hscan h, hscan h', rfl, rfl, rfl, spots_detectLines rules _ _ lines⟩

/-! ## A file under two conventions -/

/-- Lines with a form feed and a separator of lines in them, and an empty one between. -/
def foldedLines : List String := ["log.info(password);\x0c", "", "log.warn(\u2028password);"]

theorem holdsText_oneFile {text : List Char} {most : Int} (h : (Xml.utf8Bytes text).length ≤ most) :
    HoldsText asciiCodecs (oneFile (Xml.utf8Bytes text)) ⟨"", ["a", "A.java"]⟩ "utf-8" (some most)
      text := by
  have hread : (oneFile (Xml.utf8Bytes text)).read ⟨"", ["a", "A.java"]⟩ = .ok (Xml.utf8Bytes text) := by
    cbv
  have hname : Charset.named? "utf-8" = some .utf8 := by decide +kernel
  refine ⟨_, hread, ?_, ?_⟩
  · intro other hother
    rwa [← Option.some.inj hother]
  · simp only [decode, hname, Xml.decodeUtf8_utf8Bytes]
    rfl

/-- A password on the first and on the last line, whether lines end with both characters or with a
carriage return. -/
theorem readLines_exact_folded :
    SplitExactly (LineEnd.both.written foldedLines) foldedLines ∧
      ∃ outcome other,
        scanFile asciiCodecs (oneFile (Xml.utf8Bytes (LineEnd.both.written foldedLines)))
          { keywords := [.literal "password"] } {} ⟨"", ["a", "A.java"]⟩ = .ok outcome ∧
        scanFile asciiCodecs (oneFile (Xml.utf8Bytes (LineEnd.carriageReturn.written foldedLines)))
          { keywords := [.literal "password"] } {} ⟨"", ["a", "A.java"]⟩ = .ok other ∧
        outcome.detections.map Detection.spot = [(1, "password"), (3, "password")] ∧
        SameSpots outcome other := by
  have hfile : HoldsText asciiCodecs (oneFile (Xml.utf8Bytes (LineEnd.both.written foldedLines)))
      ⟨"", ["a", "A.java"]⟩ "utf-8" (some ({} : Settings).largestFile)
      (LineEnd.both.written foldedLines) := holdsText_oneFile (by decide)
  have hother : HoldsText asciiCodecs
      (oneFile (Xml.utf8Bytes (LineEnd.carriageReturn.written foldedLines)))
      ⟨"", ["a", "A.java"]⟩ "utf-8" (some ({} : Settings).largestFile)
      (LineEnd.carriageReturn.written foldedLines) := holdsText_oneFile (by decide)
  have hunbroken : Unbroken foldedLines := by decide
  obtain ⟨⟨lines, hlines, hsplit⟩, hwritten⟩ := readLines_exact hfile
  obtain ⟨hread, hscans⟩ := hwritten foldedLines .both hunbroken rfl
  obtain ⟨outcome, other, hscan, hscan', hdetections, hsame⟩ :=
    hscans { keywords := [.literal "password"] } {} _ _ .carriageReturn rfl rfl hother
  have hspots : (detectLines { keywords := [.literal "password"] } "a/A.java" foldedLines).map
      Detection.spot = [(1, "password"), (3, "password")] := by decide +kernel
  obtain rfl : lines = foldedLines := Except.ok.inj (Except.ok.inj (hlines.symm.trans hread))
  refine ⟨hsplit, outcome, other, hscan, hscan', ?_, hsame⟩
  rw [hdetections]
  exact hspots

end LogAudit
