import LogAudit.Proofs.Documents
import LogAudit.Report.Page

/-! # What a page shows

A page is read the way a browser reads it: from `<` to `>` a tag, and text between tags. Whatever a result
holds, the tags are those of the page, and the cells of its table, with entities decoded, are the texts of
the detections.

* `tokens`: tags and the characters between them.
* `tags`, `tableRows`: what is read from them.
* `unescaped_escaped`: decoding gives back what was escaped.
* `tags_page`, `tableRows_page`: pages.
* `page_faithful`: both together, and two results with one page. -/

namespace LogAudit.Report
set_option autoImplicit false

/-! ## Reading a page -/

/-- A tag, without its brackets, or a character of a text. -/
inductive Token
  | tag (text : String)
  | char (c : Char)

/-- The tag begun before a text and not ended behind it, if there is one. -/
def openAfter : Option (List Char) → List Char → Option (List Char)
  | inside, [] => inside
  | none, c :: rest => openAfter (if c == '<' then some [] else none) rest
  | some tag, c :: rest => openAfter (if c == '>' then none else some (tag ++ [c])) rest

/-- The tokens of a text, some of the first tag of which may already have been read. -/
def tokensFrom : Option (List Char) → List Char → List Token
  | _, [] => []
  | none, c :: rest =>
    if c == '<' then tokensFrom (some []) rest else .char c :: tokensFrom none rest
  | some tag, c :: rest =>
    if c == '>' then .tag (String.ofList tag) :: tokensFrom none rest
    else tokensFrom (some (tag ++ [c])) rest

def tokens (text : List Char) : List Token := tokensFrom none text

/-- The tags of a text in their order. -/
def tags (text : List Char) : List String :=
  (tokens text).filterMap fun
    | .tag text => some text
    | .char _ => none

/-- A text in which five entities are decoded. -/
def unescaped : List Char → List Char
  | '&' :: 'a' :: 'm' :: 'p' :: ';' :: rest => '&' :: unescaped rest
  | '&' :: 'l' :: 't' :: ';' :: rest => '<' :: unescaped rest
  | '&' :: 'g' :: 't' :: ';' :: rest => '>' :: unescaped rest
  | '&' :: 'q' :: 'u' :: 'o' :: 't' :: ';' :: rest => '"' :: unescaped rest
  | '&' :: '#' :: 'x' :: '2' :: '7' :: ';' :: rest => '\'' :: unescaped rest
  | c :: rest => c :: unescaped rest
  | [] => []

/-- What is read from the end of a page: the text behind the last tag, the cells of the row that is not
yet begun, and the rows. -/
structure RowReading where
  text : List Char := []
  cells : List String := []
  rows : List (List String) := []

/-- The name of the element that a tag begins or ends. -/
def elementOf (tag : String) : String :=
  String.ofList (tag.toList.takeWhile (· != ' '))

def rowStep (token : Token) (read : RowReading) : RowReading :=
  match token with
  | .char c => { read with text := c :: read.text }
  | .tag tag =>
    if elementOf tag == "tr" then { rows := read.cells :: read.rows }
    else if elementOf tag == "td" || elementOf tag == "th" then
      { cells := String.ofList (unescaped read.text) :: read.cells, rows := read.rows }
    else { cells := read.cells, rows := read.rows }

/-- What is read from a text and from all that stands behind it. -/
def readRows (text : List Char) (behind : RowReading) : RowReading :=
  (tokens text).foldr rowStep behind

/-- The decoded cells of the rows of all tables. -/
def tableRows (text : List Char) : List (List String) :=
  (readRows text {}).rows

/-! ## Texts behind one another -/

theorem openAfter_append (inside : Option (List Char)) (text more : List Char) :
    openAfter inside (text ++ more) = openAfter (openAfter inside text) more := by
  fun_induction openAfter inside text with
  | case1 inside => rfl
  | case2 c rest ih => rw [List.cons_append, openAfter, ih]
  | case3 tag c rest ih => rw [List.cons_append, openAfter, ih]

theorem tokensFrom_append (inside : Option (List Char)) (text more : List Char) :
    tokensFrom inside (text ++ more) =
      tokensFrom inside text ++ tokensFrom (openAfter inside text) more := by
  fun_induction tokensFrom inside text with
  | case1 inside => rfl
  | case2 c rest hopens ih => rw [List.cons_append, tokensFrom, if_pos hopens, ih, openAfter, if_pos hopens]
  | case3 c rest hopens ih =>
    rw [List.cons_append, tokensFrom, if_neg hopens, ih, openAfter, if_neg hopens, List.cons_append]
  | case4 tag c rest hcloses ih =>
    rw [List.cons_append, tokensFrom, if_pos hcloses, ih, openAfter, if_pos hcloses, List.cons_append]
  | case5 tag c rest hcloses ih =>
    rw [List.cons_append, tokensFrom, if_neg hcloses, ih, openAfter, if_neg hcloses]

/-- Every tag of a text ends in it. -/
def Closed (text : List Char) : Prop := openAfter none text = none

instance (text : List Char) : Decidable (Closed text) := inferInstanceAs (Decidable (_ = _))

theorem Closed.append {text more : List Char} (h : Closed text) (h' : Closed more) :
    Closed (text ++ more) := by
  rw [Closed, openAfter_append, h, h']

theorem tokens_append {text : List Char} (h : Closed text) (more : List Char) :
    tokens (text ++ more) = tokens text ++ tokens more := by
  rw [tokens, tokensFrom_append, h]
  rfl

theorem closed_of_not_mem {text : List Char} (h : '<' ∉ text) : Closed text := by
  induction text with
  | nil => rfl
  | cons c text ih =>
    rw [List.mem_cons, not_or] at h
    rw [Closed, openAfter, if_neg (by simpa using Ne.symm h.1)]
    exact ih h.2

theorem tokens_of_not_mem {text : List Char} (h : '<' ∉ text) : tokens text = text.map .char := by
  induction text with
  | nil => rfl
  | cons c text ih =>
    rw [List.mem_cons, not_or] at h
    rw [tokens, tokensFrom, if_neg (by simpa using Ne.symm h.1), List.map_cons, ← ih h.2]
    rfl

/-! ## Lines -/

/-- Lines with a break behind each of them. -/
def broken (lines : List String) : List Char :=
  lines.flatMap fun line => line.toList ++ ['\n']

theorem toList_intercalate_append (lines : List String) :
    ("\n".intercalate (lines ++ [""])).toList = broken lines := by
  induction lines with
  | nil => rfl
  | cons line lines ih =>
    obtain ⟨next, others, hlines⟩ := List.exists_cons_of_ne_nil
      (List.append_ne_nil_of_right_ne_nil lines (List.cons_ne_nil "" []))
    rw [List.cons_append, hlines, String.intercalate_cons_cons, ← hlines, String.toList_append,
      String.toList_append, ih]
    rw [broken, broken, List.flatMap_cons]
    rfl

theorem broken_append (lines more : List String) : broken (lines ++ more) = broken lines ++ broken more :=
  List.flatMap_append

/-! ## Escaped texts -/

/-- No tag begins in a text. -/
def Bare (text : String) : Prop := '<' ∉ text.toList

instance (text : String) : Decidable (Bare text) := inferInstanceAs (Decidable (¬_))

theorem Bare.append {text more : String} (h : Bare text) (h' : Bare more) : Bare (text ++ more) := by
  rw [Bare, String.toList_append, List.mem_append, not_or]
  exact ⟨h, h'⟩

theorem not_mem_escapedChar (c : Char) : '<' ∉ escapedChar c := by
  unfold escapedChar
  split_ifs with hamp hless hgreater hquote hsingle
  case neg =>
    rw [List.mem_singleton]
    rintro rfl
    exact hless rfl
  all_goals decide

theorem bare_escaped (text : String) : Bare (escaped text) := by
  rw [Bare, escaped, String.toList_ofList, List.mem_flatMap]
  rintro ⟨c, -, hc⟩
  exact not_mem_escapedChar c hc

theorem unescaped_cons {c : Char} (h : c ≠ '&') (rest : List Char) :
    unescaped (c :: rest) = c :: unescaped rest := by
  conv_lhs => unfold unescaped
  split
  case h_6 heq =>
    obtain ⟨rfl, rfl⟩ := List.cons.inj heq
    rfl
  case h_7 heq => cases heq
  all_goals
    next heq => exact absurd (List.cons.inj heq).1 h

/-- An entity is decoded before anything that follows it is looked at, so that a text that looks like one
is left as it is. -/
theorem unescaped_escapedChar (c : Char) (rest : List Char) :
    unescaped (escapedChar c ++ rest) = c :: unescaped rest := by
  unfold escapedChar
  split_ifs with hamp hless hgreater hquote hsingle
  case neg =>
    rw [List.singleton_append, unescaped_cons (by simpa using hamp)]
  · rw [beq_iff_eq.mp hamp]
    rfl
  · rw [beq_iff_eq.mp hless]
    rfl
  · rw [beq_iff_eq.mp hgreater]
    rfl
  · rw [beq_iff_eq.mp hquote]
    rfl
  · rw [beq_iff_eq.mp hsingle]
    rfl

theorem unescaped_escaped (text : String) : unescaped (escaped text).toList = text.toList := by
  rw [escaped, String.toList_ofList]
  induction text.toList with
  | nil => rfl
  | cons c rest ih => rw [List.flatMap_cons, unescaped_escapedChar, ih]

theorem unescaped_of_not_mem {text : List Char} (h : '&' ∉ text) : unescaped text = text := by
  induction text with
  | nil => rfl
  | cons c text ih =>
    rw [List.mem_cons, not_or] at h
    rw [unescaped_cons (Ne.symm h.1), ih h.2]

/-! ## Numbers, durations and dates -/

theorem not_mem_of_isPlain {text : List Char} {c : Char} (h : ∀ c ∈ text, Json.isPlain c = true)
    (hc : Json.isPlain c = false) : c ∉ text := by
  intro hmem
  rw [h c hmem] at hc
  cases hc

theorem unescaped_int (value : Int) : unescaped (toString value).toList = (toString value).toList :=
  unescaped_of_not_mem (not_mem_of_isPlain (Json.plainText_int value).2 (by decide))

theorem bare_int (value : Int) : Bare (toString value) :=
  not_mem_of_isPlain (Json.plainText_int value).2 (by decide)

theorem bare_nat (value : Nat) : Bare (toString value) := bare_int value

theorem isPlain_fixedDigits (places value : Nat) :
    ∀ c ∈ Decimal.fixedDigits places value, Json.isPlain c = true := by
  have hpadded : ∀ c ∈ List.replicate (places + 1 - (Decimal.digitsOf value).length) '0' ++
      Decimal.digitsOf value, Json.isPlain c = true := by
    rw [List.forall_mem_append]
    exact ⟨Json.isPlain_of_mem_zeros, (Json.plainText_digitsOf value).2⟩
  unfold Decimal.fixedDigits
  split
  · exact hpadded
  · simp only [List.forall_mem_append, List.forall_mem_cons]
    exact ⟨fun c hc => hpadded c (List.mem_of_mem_take hc), by decide,
      fun c hc => hpadded c (List.mem_of_mem_drop hc)⟩

theorem bare_fixed (places : Nat) (value : Decimal.Double) : Bare (value.fixed places) := by
  cases value with
  | nan =>
    rw [Decimal.Double.fixed]
    decide
  | infinite negative =>
    rw [Decimal.Double.fixed]
    cases negative <;> decide
  | finite negative mantissa exponent =>
    rw [Bare, Decimal.Double.fixed, String.toList_ofList, List.mem_append, not_or]
    refine ⟨?_, not_mem_of_isPlain (isPlain_fixedDigits places _) (by decide)⟩
    cases negative <;> decide

theorem bare_durationText (milliseconds : Int) : Bare (durationText milliseconds) := by
  unfold durationText
  split_ifs
  · exact (bare_int _).append (by decide)
  · exact (bare_fixed 2 _).append (by decide)
  · exact (((bare_int _).append (by decide)).append (bare_int _)).append (by decide)

theorem bare_twoDigits (number : Nat) : Bare (Moment.twoDigits number) := by
  unfold Moment.twoDigits
  split_ifs
  · exact Bare.append (by decide) (bare_nat number)
  · exact bare_nat number

theorem bare_dateText (made : Moment) : Bare made.dateText :=
  ((((bare_nat made.year).append (by decide)).append (bare_twoDigits made.month)).append
    (by decide)).append (bare_twoDigits made.day)

theorem bare_timeText (made : Moment) : Bare (made.timeText ":") := by
  rw [Moment.timeText, String.intercalate_cons_cons, String.intercalate_cons_cons,
    String.intercalate_singleton]
  exact ((bare_twoDigits _).append (by decide)).append
    (((bare_twoDigits _).append (by decide)).append (bare_twoDigits _))

/-! ## The tags of a page -/

/-- A text has given tags, and the last one of them ends in it. -/
def Marks (text : List Char) (shown : List String) : Prop :=
  Closed text ∧ tags text = shown

instance (text : List Char) (shown : List String) : Decidable (Marks text shown) :=
  inferInstanceAs (Decidable (_ ∧ _))

theorem Marks.append {text more : List Char} {shown shown' : List String} (h : Marks text shown)
    (h' : Marks more shown') : Marks (text ++ more) (shown ++ shown') := by
  refine ⟨h.1.append h'.1, ?_⟩
  rw [tags, tokens_append h.1, List.filterMap_append]
  exact congrArg₂ (· ++ ·) h.2 h'.2

theorem Bare.marks {text : String} (h : Bare text) : Marks text.toList [] := by
  refine ⟨closed_of_not_mem h, ?_⟩
  rw [tags, tokens_of_not_mem h, List.filterMap_map]
  simp

theorem Marks.append_text {text more : String} {shown shown' : List String}
    (h : Marks text.toList shown) (h' : Marks more.toList shown') :
    Marks (text ++ more).toList (shown ++ shown') := by
  rw [String.toList_append]
  exact h.append h'

/-- A literal is `String.ofList` of its characters, so that its tags are those of a list. -/
theorem marks_ofList {text : List Char} {shown : List String} (h : Marks text shown) :
    Marks (String.ofList text).toList shown := by
  rwa [String.toList_ofList]

theorem Marks.line {line : String} {shown : List String} (h : Marks line.toList shown) :
    Marks (line.toList ++ ['\n']) shown := by
  have hbreak : Marks ['\n'] [] := by decide
  simpa using h.append hbreak

theorem marks_nil : Marks (broken []) [] := ⟨rfl, rfl⟩

theorem Marks.cons {line : String} {lines : List String} {shown shown' : List String}
    (h : Marks line.toList shown) (h' : Marks (broken lines) shown') :
    Marks (broken (line :: lines)) (shown ++ shown') :=
  h.line.append h'

theorem marks_lines {α : Type} {line : α → String} {shown : List String} {items : List α}
    (h : ∀ item ∈ items, Marks (line item).toList shown) :
    Marks (broken (items.map line)) (List.replicate items.length shown).flatten := by
  induction items with
  | nil => exact marks_nil
  | cons item items ih =>
    rw [List.forall_mem_cons] at h
    exact h.1.cons (ih h.2)

theorem marks_summaryLine {title value : String} (htitle : Bare title) (hvalue : Bare value) :
    Marks (summaryLine title value).toList ["p", "strong", "/strong", "/p"] := by
  have hfront : Marks "        <p><strong>".toList ["p", "strong"] := marks_ofList (by decide)
  have hmiddle : Marks ":</strong> ".toList ["/strong"] := marks_ofList (by decide)
  have hback : Marks "</p>".toList ["/p"] := marks_ofList (by decide)
  exact (((hfront.append_text htitle.marks).append_text hmiddle).append_text
    hvalue.marks).append_text hback

def rowTags : List String :=
  ["tr", "td", "/td", "td class=\"line-number\"", "/td", "td class=\"keyword\"", "/td",
    "td class=\"log-statement\"", "/td", "/tr"]

theorem marks_rowLine (detection : Detection) : Marks (rowLine detection).toList rowTags := by
  have hfile : Marks "            <tr><td>".toList ["tr", "td"] := marks_ofList (by decide)
  have hline : Marks "</td><td class=\"line-number\">".toList ["/td", "td class=\"line-number\""] :=
    marks_ofList (by decide)
  have hlabel : Marks "</td><td class=\"keyword\">".toList ["/td", "td class=\"keyword\""] :=
    marks_ofList (by decide)
  have hstatement : Marks "</td><td class=\"log-statement\">".toList
      ["/td", "td class=\"log-statement\""] := marks_ofList (by decide)
  have hend : Marks "</td></tr>".toList ["/td", "/tr"] := marks_ofList (by decide)
  exact (((((((hfile.append_text (bare_escaped _).marks).append_text hline).append_text
    (bare_int _).marks).append_text hlabel).append_text (bare_escaped _).marks).append_text
      hstatement).append_text (bare_escaped _).marks).append_text hend

theorem marks_warningLine (warning : FileWarning) : Marks (warningLine warning).toList ["li", "/li"] := by
  have hfront : Marks "        <li>".toList ["li"] := marks_ofList (by decide)
  have hmiddle : Marks ": ".toList [] := marks_ofList (by decide)
  have hend : Marks "</li>".toList ["/li"] := marks_ofList (by decide)
  exact (((hfront.append_text (bare_escaped _).marks).append_text hmiddle).append_text
    (bare_escaped _).marks).append_text hend

theorem bare_ofList {text : List Char} (h : '<' ∉ text) : Bare (String.ofList text) := by
  rwa [Bare, String.toList_ofList]

theorem bare_styleLines : ∀ line ∈ styleLines, Bare line := by
  simp only [styleLines, List.forall_mem_cons]
  and_intros
  rotate_right
  · exact nofun
  all_goals exact bare_ofList (by decide)

def headTags : List String :=
  ["!DOCTYPE html", "html", "head", "meta charset=\"UTF-8\"", "title", "/title", "style", "/style",
    "/head", "body", "h1", "/h1"]

theorem marks_headLines : Marks (broken headLines) headTags := by
  have hdoctype : Marks "<!DOCTYPE html>".toList ["!DOCTYPE html"] := marks_ofList (by decide)
  have hhtml : Marks "<html>".toList ["html"] := marks_ofList (by decide)
  have hhead : Marks "<head>".toList ["head"] := marks_ofList (by decide)
  have hmeta : Marks "    <meta charset=\"UTF-8\">".toList ["meta charset=\"UTF-8\""] :=
    marks_ofList (by decide)
  have htitle : Marks "    <title>Sensitive Data Scan Report</title>".toList ["title", "/title"] :=
    marks_ofList (by decide)
  have hopens : Marks "    <style>".toList ["style"] := marks_ofList (by decide)
  have hstyle : Marks (broken (styleLines.map id)) (List.replicate styleLines.length []).flatten :=
    marks_lines fun line hline => (bare_styleLines line hline).marks
  have hcloses : Marks "    </style>".toList ["/style"] := marks_ofList (by decide)
  have hend : Marks "</head>".toList ["/head"] := marks_ofList (by decide)
  have hbody : Marks "<body>".toList ["body"] := marks_ofList (by decide)
  have hheading : Marks "    <h1>Sensitive Data Scan Report</h1>".toList ["h1", "/h1"] :=
    marks_ofList (by decide)
  have hfront := hdoctype.cons
    (hhtml.cons (hhead.cons (hmeta.cons (htitle.cons (hopens.cons marks_nil)))))
  have hback := hcloses.cons (hend.cons (hbody.cons (hheading.cons marks_nil)))
  rw [List.map_id] at hstyle
  rw [headLines, broken_append, broken_append]
  exact (hfront.append hstyle).append hback

def summaryTags : List String :=
  ["div class=\"summary\""] ++ (List.replicate 4 ["p", "strong", "/strong", "/p"]).flatten ++ ["/div"]

/-- Titles and values of the summary. -/
def summaryEntries (made : Moment) (statistics : Statistics) : List (String × String) :=
  [("Scan Date", made.dateText ++ " " ++ made.timeText ":"),
    ("Total Files Scanned", toString statistics.filesScanned),
    ("Total Detections", toString statistics.totalDetections),
    ("Scan Duration", durationText statistics.milliseconds)]

theorem summaryLines_eq (made : Moment) (statistics : Statistics) :
    summaryLines made statistics = ["    <div class=\"summary\">"] ++
      (summaryEntries made statistics).map (fun entry => summaryLine entry.1 entry.2) ++
        ["    </div>"] := rfl

theorem bare_summaryEntries (made : Moment) (statistics : Statistics) :
    ∀ entry ∈ summaryEntries made statistics, Bare entry.1 ∧ Bare entry.2 := by
  have hdate : Bare (made.dateText ++ " " ++ made.timeText ":") :=
    ((bare_dateText made).append (by decide)).append (bare_timeText made)
  simp only [summaryEntries, List.forall_mem_cons]
  exact ⟨⟨by decide, hdate⟩, ⟨by decide, bare_int _⟩, ⟨by decide, bare_int _⟩,
    ⟨by decide, bare_durationText _⟩, nofun⟩

theorem marks_summaryLines (made : Moment) (statistics : Statistics) :
    Marks (broken (summaryLines made statistics)) summaryTags := by
  have hopens : Marks "    <div class=\"summary\">".toList ["div class=\"summary\""] :=
    marks_ofList (by decide)
  have hentries : Marks (broken ((summaryEntries made statistics).map fun entry =>
      summaryLine entry.1 entry.2)) (List.replicate 4 ["p", "strong", "/strong", "/p"]).flatten :=
    marks_lines fun entry hentry =>
      marks_summaryLine (bare_summaryEntries made statistics entry hentry).1
        (bare_summaryEntries made statistics entry hentry).2
  have hcloses : Marks "    </div>".toList ["/div"] := marks_ofList (by decide)
  rw [summaryLines_eq, broken_append, broken_append]
  exact ((hopens.cons marks_nil).append hentries).append (hcloses.cons marks_nil)

/-- The tags of the table of some detections, or of the remark that there are none. -/
def detectionTags (detections : Nat) : List String :=
  if detections = 0 then ["div class=\"no-detections\"", "p", "/p", "/div"]
  else
    ["table", "thead", "tr", "th", "/th", "th", "/th", "th", "/th", "th", "/th", "/tr", "/thead",
      "tbody"] ++ (List.replicate detections rowTags).flatten ++ ["/tbody", "/table"]

def firstTitles : String := "            <tr><th>File Name</th><th>Line Number</th>"

def lastTitles : String := "<th>Matched Keyword</th><th>Log Statement</th></tr>"

def titleLine : String := firstTitles ++ lastTitles

theorem detectionLines_of_ne_nil {detections : List Detection} (h : detections ≠ []) :
    detectionLines detections = ["    <table>", "        <thead>"] ++ [titleLine] ++
      ["        </thead>", "        <tbody>"] ++ detections.map rowLine ++
        ["        </tbody>", "    </table>"] := by
  rw [detectionLines, if_neg (by simpa using h)]
  rfl

theorem marks_tableOpening :
    Marks (broken ["    <table>", "        <thead>"]) ["table", "thead"] := by
  have htable : Marks "    <table>".toList ["table"] := marks_ofList (by decide)
  have hhead : Marks "        <thead>".toList ["thead"] := marks_ofList (by decide)
  exact htable.cons (hhead.cons marks_nil)

theorem marks_titleLine : Marks titleLine.toList
    ["tr", "th", "/th", "th", "/th", "th", "/th", "th", "/th", "/tr"] := by
  have hfirst : Marks firstTitles.toList ["tr", "th", "/th", "th", "/th"] := marks_ofList (by decide)
  have hlast : Marks lastTitles.toList ["th", "/th", "th", "/th", "/tr"] := marks_ofList (by decide)
  exact hfirst.append_text hlast

theorem marks_bodyOpening :
    Marks (broken ["        </thead>", "        <tbody>"]) ["/thead", "tbody"] := by
  have hhead : Marks "        </thead>".toList ["/thead"] := marks_ofList (by decide)
  have hbody : Marks "        <tbody>".toList ["tbody"] := marks_ofList (by decide)
  exact hhead.cons (hbody.cons marks_nil)

theorem marks_rows (detections : List Detection) : Marks (broken (detections.map rowLine))
    (List.replicate detections.length rowTags).flatten :=
  marks_lines fun detection _ => marks_rowLine detection

theorem marks_tableClosing :
    Marks (broken ["        </tbody>", "    </table>"]) ["/tbody", "/table"] := by
  have hbody : Marks "        </tbody>".toList ["/tbody"] := marks_ofList (by decide)
  have htable : Marks "    </table>".toList ["/table"] := marks_ofList (by decide)
  exact hbody.cons (htable.cons marks_nil)

theorem marks_detectionLines_nil :
    Marks (broken (detectionLines [])) ["div class=\"no-detections\"", "p", "/p", "/div"] := by
  have hopens : Marks "    <div class=\"no-detections\">".toList ["div class=\"no-detections\""] :=
    marks_ofList (by decide)
  have hremark : Marks "        <p>No sensitive data detected</p>".toList ["p", "/p"] :=
    marks_ofList (by decide)
  have hcloses : Marks "    </div>".toList ["/div"] := marks_ofList (by decide)
  exact hopens.cons (hremark.cons (hcloses.cons marks_nil))

theorem marks_detectionLines (detections : List Detection) :
    Marks (broken (detectionLines detections)) (detectionTags detections.length) := by
  by_cases hempty : detections = []
  · subst hempty
    exact marks_detectionLines_nil
  · rw [detectionLines_of_ne_nil hempty, detectionTags, if_neg (by simpa using hempty)]
    simp only [broken_append]
    exact (((marks_tableOpening.append (marks_titleLine.cons marks_nil)).append
      marks_bodyOpening).append (marks_rows detections)).append marks_tableClosing

def warningTags (warnings : Nat) : List String :=
  if warnings = 0 then []
  else
    ["div class=\"warnings\"", "h2", "/h2", "ul"] ++ (List.replicate warnings ["li", "/li"]).flatten ++
      ["/ul", "/div"]

theorem marks_warningLines (warnings : List FileWarning) :
    Marks (broken (warningLines warnings)) (warningTags warnings.length) := by
  unfold warningLines warningTags
  split
  · next hempty =>
    rw [if_pos (by simpa using hempty)]
    decide
  · next hsome =>
    have hopens : Marks "    <div class=\"warnings\"><h2>Skipped Files</h2><ul>".toList
        ["div class=\"warnings\"", "h2", "/h2", "ul"] := marks_ofList (by decide)
    have hitems : Marks (broken (warnings.map warningLine))
        (List.replicate warnings.length ["li", "/li"]).flatten :=
      marks_lines fun warning _ => marks_warningLine warning
    have hcloses : Marks "    </ul></div>".toList ["/ul", "/div"] := marks_ofList (by decide)
    rw [if_neg (by simpa using hsome), broken_append]
    exact (hopens.cons hitems).append (hcloses.cons marks_nil)

def pageTags (detections warnings : Nat) : List String :=
  headTags ++ summaryTags ++ detectionTags detections ++ warningTags warnings ++ ["/body", "/html"]

theorem toList_page (made : Moment) (result : ScanResult) :
    (page made result).toList = broken (headLines ++ summaryLines made result.statistics ++
      detectionLines result.detections ++ warningLines result.warnings ++ ["</body>", "</html>"]) := by
  rw [page, pageLines, ← toList_intercalate_append, List.append_assoc _ _ [""]]
  rfl

theorem marks_end : Marks (broken ["</body>", "</html>"]) ["/body", "/html"] := by
  have hbody : Marks "</body>".toList ["/body"] := marks_ofList (by decide)
  have hhtml : Marks "</html>".toList ["/html"] := marks_ofList (by decide)
  exact hbody.cons (hhtml.cons marks_nil)

theorem tags_page (made : Moment) (result : ScanResult) :
    tags (page made result).toList = pageTags result.detections.length result.warnings.length := by
  have hpage := (((marks_headLines.append (marks_summaryLines made result.statistics)).append
    (marks_detectionLines result.detections)).append (marks_warningLines result.warnings)).append
      marks_end
  rw [toList_page]
  simp only [broken_append]
  exact hpage.2

/-! ## The table of a page -/

theorem readRows_append {text : List Char} (h : Closed text) (more : List Char) (behind : RowReading) :
    readRows (text ++ more) behind = readRows text (readRows more behind) := by
  rw [readRows, tokens_append h, List.foldr_append]
  rfl

theorem readRows_append_text {text : String} (h : Closed text.toList) (more : String)
    (behind : RowReading) :
    readRows (text ++ more).toList behind = readRows text.toList (readRows more.toList behind) := by
  rw [String.toList_append, readRows_append h]

theorem foldr_rowStep_chars (text : List Char) (behind : RowReading) :
    (text.map Token.char).foldr rowStep behind = { behind with text := text ++ behind.text } := by
  induction text with
  | nil => rfl
  | cons c text ih => rw [List.map_cons, List.foldr_cons, ih, rowStep, List.cons_append]

theorem Bare.readRows {text : String} (h : Bare text) (behind : RowReading) :
    readRows text.toList behind = { behind with text := text.toList ++ behind.text } := by
  rw [Report.readRows, tokens_of_not_mem h, foldr_rowStep_chars]

/-- Whether a tag begins a row or a cell. -/
def beginsCells (tag : String) : Bool :=
  ["tr", "td", "th"].contains (elementOf tag)

theorem foldr_rowStep_keeps {tokens : List Token} (behind : RowReading)
    (h : ∀ tag, Token.tag tag ∈ tokens → beginsCells tag = false) :
    (tokens.foldr rowStep behind).cells = behind.cells ∧
      (tokens.foldr rowStep behind).rows = behind.rows := by
  induction tokens with
  | nil => exact ⟨rfl, rfl⟩
  | cons token tokens ih =>
    have hkeeps := ih fun tag htag => h tag (List.mem_cons_of_mem _ htag)
    rw [List.foldr_cons]
    cases token with
    | char c => exact hkeeps
    | tag tag =>
      have htag : beginsCells tag = false := h tag List.mem_cons_self
      simp only [beginsCells, List.contains_cons, List.contains_nil, Bool.or_false, Bool.or_eq_false_iff]
        at htag
      rw [rowStep, htag.1, htag.2.1, htag.2.2]
      exact hkeeps

/-- A text has given rows, whatever rows stand behind it. -/
def HasRows (text : List Char) (rows : List (List String)) : Prop :=
  Closed text ∧ ∀ behind : RowReading, behind.cells = [] →
    (readRows text behind).cells = [] ∧ (readRows text behind).rows = rows ++ behind.rows

theorem HasRows.append {text more : List Char} {rows rows' : List (List String)} (h : HasRows text rows)
    (h' : HasRows more rows') : HasRows (text ++ more) (rows ++ rows') := by
  refine ⟨h.1.append h'.1, fun behind hcells => ?_⟩
  obtain ⟨hcells', hrows'⟩ := h'.2 behind hcells
  obtain ⟨hcells'', hrows''⟩ := h.2 (readRows more behind) hcells'
  rw [readRows_append h.1]
  refine ⟨hcells'', ?_⟩
  rw [hrows'', hrows', List.append_assoc]

theorem Marks.hasRows {text : List Char} {shown : List String} (h : Marks text shown)
    (hshown : ∀ tag ∈ shown, beginsCells tag = false) : HasRows text [] := by
  refine ⟨h.1, fun behind hcells => ?_⟩
  have hkeeps := foldr_rowStep_keeps behind fun tag (htag : Token.tag tag ∈ tokens text) => by
    refine hshown tag ?_
    rw [← h.2, tags, List.mem_filterMap]
    exact ⟨_, htag, rfl⟩
  exact ⟨hkeeps.1.trans hcells, hkeeps.2⟩

theorem HasRows.line {line : String} {rows : List (List String)} (h : HasRows line.toList rows) :
    HasRows (line.toList ++ ['\n']) rows := by
  have hbreak : Marks ['\n'] [] := by decide
  have hline := h.append (hbreak.hasRows nofun)
  rwa [List.append_nil] at hline

theorem hasRows_lines {α : Type} {line : α → String} {row : α → List String}
    (h : ∀ item, HasRows (line item).toList [row item]) (items : List α) :
    HasRows (broken (items.map line)) (items.map row) := by
  induction items with
  | nil => exact ⟨rfl, fun behind hcells => ⟨hcells, rfl⟩⟩
  | cons item items ih => exact (h item).line.append ih

def rowCells (detection : Detection) : List String :=
  [detection.file, toString detection.line, detection.label, detection.statement]

/-- The end of a row, from its last cell on. -/
def statementCell (detection : Detection) : String :=
  "</td><td class=\"log-statement\">" ++ (escaped detection.statement ++ "</td></tr>")

def labelCells (detection : Detection) : String :=
  "</td><td class=\"keyword\">" ++ (escaped detection.label ++ statementCell detection)

def lineCells (detection : Detection) : String :=
  "</td><td class=\"line-number\">" ++ (toString detection.line ++ labelCells detection)

theorem rowLine_eq (detection : Detection) :
    rowLine detection =
      "            <tr><td>" ++ (escaped detection.file ++ lineCells detection) := by
  unfold rowLine lineCells labelCells statementCell
  simp only [String.append_assoc]

theorem closed_ofList {text : List Char} (h : Closed text) : Closed (String.ofList text).toList := by
  rwa [String.toList_ofList]

theorem readRows_ofList (text : List Char) (behind : RowReading) :
    readRows (String.ofList text).toList behind = readRows text behind := by
  rw [String.toList_ofList]

/-- A cell is read up to the next tag. -/
theorem readRows_cell {opening text content more : String} {behind : RowReading} {cells : List String}
    {rows : List (List String)} (hclosed : Closed opening.toList)
    (hopening : ∀ behind, readRows opening.toList behind =
      ⟨[], String.ofList (unescaped behind.text) :: behind.cells, behind.rows⟩)
    (htext : Bare text) (hcontent : unescaped text.toList = content.toList)
    (hmore : readRows more.toList behind = ⟨[], cells, rows⟩) :
    readRows (opening ++ (text ++ more)).toList behind = ⟨[], content :: cells, rows⟩ := by
  rw [readRows_append_text hclosed, readRows_append_text (closed_of_not_mem htext), hmore,
    htext.readRows, hopening, List.append_nil, hcontent, String.ofList_toList]

theorem readRows_rowLine (detection : Detection) (behind : RowReading) :
    readRows (rowLine detection).toList behind =
      ⟨"            ".toList, [], (rowCells detection ++ behind.cells) :: behind.rows⟩ := by
  -- the row is read from its end, cell by cell
  have hend : readRows "</td></tr>".toList behind = ⟨[], behind.cells, behind.rows⟩ :=
    readRows_ofList _ behind
  have hstatement : readRows (statementCell detection).toList behind =
      ⟨[], detection.statement :: behind.cells, behind.rows⟩ :=
    readRows_cell (closed_ofList (by decide)) (readRows_ofList _) (bare_escaped _)
      (unescaped_escaped _) hend
  have hlabel : readRows (labelCells detection).toList behind =
      ⟨[], detection.label :: detection.statement :: behind.cells, behind.rows⟩ :=
    readRows_cell (closed_ofList (by decide)) (readRows_ofList _) (bare_escaped _)
      (unescaped_escaped _) hstatement
  have hline : readRows (lineCells detection).toList behind =
      ⟨[], toString detection.line :: detection.label :: detection.statement :: behind.cells,
        behind.rows⟩ :=
    readRows_cell (closed_ofList (by decide)) (readRows_ofList _) (bare_int _) (unescaped_int _) hlabel
  have hfile : ∀ behind, readRows "            <tr><td>".toList behind = ⟨"            ".toList, [],
      (String.ofList (unescaped behind.text) :: behind.cells) :: behind.rows⟩ := by
    intro behind
    rw [readRows_ofList]
    rfl
  rw [rowLine_eq, readRows_append_text (closed_ofList (by decide)),
    readRows_append_text (closed_of_not_mem (bare_escaped _)), hline, (bare_escaped _).readRows, hfile,
    List.append_nil, unescaped_escaped, String.ofList_toList]
  rfl

theorem hasRows_rowLine (detection : Detection) :
    HasRows (rowLine detection).toList [rowCells detection] := by
  refine ⟨(marks_rowLine detection).1, fun behind hcells => ?_⟩
  rw [readRows_rowLine, hcells, List.append_nil]
  exact ⟨rfl, rfl⟩

def titles : List String := ["File Name", "Line Number", "Matched Keyword", "Log Statement"]

theorem hasRows_titleLine : HasRows titleLine.toList [titles] := by
  have hlast : ∀ behind, readRows lastTitles.toList behind =
      ⟨[], "Matched Keyword" :: "Log Statement" :: behind.cells, behind.rows⟩ := by
    intro behind
    rw [lastTitles, readRows_ofList]
    rfl
  have hfirst : ∀ behind, readRows firstTitles.toList behind = ⟨"            ".toList, [],
      ("File Name" :: "Line Number" :: behind.cells) :: behind.rows⟩ := by
    intro behind
    rw [firstTitles, readRows_ofList]
    rfl
  have hclosed : Closed firstTitles.toList := closed_ofList (by decide)
  have hclosed' : Closed lastTitles.toList := closed_ofList (by decide)
  refine ⟨?_, fun behind hcells => ?_⟩
  · rw [titleLine, String.toList_append]
    exact hclosed.append hclosed'
  · rw [titleLine, readRows_append_text hclosed, hlast, hfirst, hcells]
    exact ⟨rfl, rfl⟩

theorem hasRows_detectionLines (detections : List Detection) :
    HasRows (broken (detectionLines detections))
      (if detections = [] then [] else titles :: detections.map rowCells) := by
  by_cases hempty : detections = []
  · subst hempty
    exact marks_detectionLines_nil.hasRows (by decide)
  · have htitles : HasRows (broken [titleLine]) [titles] := by
      rw [broken, List.flatMap_singleton]
      exact hasRows_titleLine.line
    have htable := ((((marks_tableOpening.hasRows (by decide)).append htitles).append
      (marks_bodyOpening.hasRows (by decide))).append (hasRows_lines hasRows_rowLine detections)).append
        (marks_tableClosing.hasRows (by decide))
    simp only [List.append_nil, List.nil_append, List.singleton_append] at htable
    rw [detectionLines_of_ne_nil hempty, if_neg hempty]
    simp only [broken_append]
    exact htable

theorem tableRows_page (made : Moment) (result : ScanResult) :
    tableRows (page made result).toList =
      if result.detections = [] then [] else titles :: result.detections.map rowCells := by
  have hsummary : ∀ tag ∈ summaryTags, beginsCells tag = false := by decide
  have hwarnings : ∀ tag ∈ warningTags result.warnings.length, beginsCells tag = false := by
    unfold warningTags
    split_ifs
    · exact nofun
    · simp only [List.forall_mem_append]
      refine ⟨⟨by decide, fun tag htag => ?_⟩, by decide⟩
      obtain ⟨tags, htags, htag⟩ := List.mem_flatten.mp htag
      have hitem : ∀ tag ∈ ["li", "/li"], beginsCells tag = false := by decide
      exact hitem tag (List.eq_of_mem_replicate htags ▸ htag)
  have hpage := ((((marks_headLines.hasRows (by decide)).append
    ((marks_summaryLines made result.statistics).hasRows hsummary)).append
      (hasRows_detectionLines result.detections)).append
        ((marks_warningLines result.warnings).hasRows hwarnings)).append (marks_end.hasRows (by decide))
  simp only [← broken_append, ← toList_page, List.append_nil, List.nil_append] at hpage
  rw [tableRows, (hpage.2 {} rfl).2, List.append_nil]

/-! ## Pages and results -/

theorem rowCells_injective : Function.Injective rowCells := by
  rintro ⟨file, line, label, statement⟩ ⟨file', line', label', statement'⟩ h
  simp only [rowCells, List.cons.injEq, Int.toString_eq_repr, Int.repr_inj, and_true] at h
  obtain ⟨rfl, rfl, rfl, rfl⟩ := h
  rfl

/-- The tags of a page depend on the number of detections and of warnings only; the decoded cells of its
table are those of the detections; and a page tells the detections it was made from. -/
theorem page_faithful (made made' : Moment) (result result' : ScanResult) :
    tags (page made result).toList =
        pageTags result.detections.length result.warnings.length ∧
      tableRows (page made result).toList =
        (if result.detections = [] then [] else titles :: result.detections.map rowCells) ∧
      (page made result = page made' result' → result.detections = result'.detections) := by
  refine ⟨tags_page made result, tableRows_page made result, fun hpage => ?_⟩
  have hrows := tableRows_page made result
  rw [hpage, tableRows_page] at hrows
  split_ifs at hrows with hempty' hempty hempty
  · rw [hempty, hempty']
  · exact (List.map_injective_iff.mpr rowCells_injective (List.cons.inj hrows).2).symm

/-- A result with texts that look like rows, tags and entities, and a warning. -/
def misleading (path reason : String) : ScanResult where
  detections := [⟨"</td></tr><tr><td>", -1, "&lt;&amp;amp;", "\"'\n<script>"⟩]
  warnings := [⟨path, reason⟩]

/-- Two results with one page: it does not tell where the path of a warning ends, but it tells the
detections. -/
theorem page_faithful_misleading :
    page ⟨2024, 2, 29, 0, 0, 0⟩ (misleading "a: b" "c") =
        page ⟨2024, 2, 29, 0, 0, 0⟩ (misleading "a" "b: c") ∧
      tags (page ⟨2024, 2, 29, 0, 0, 0⟩ (misleading "a: b" "c")).toList = pageTags 1 1 ∧
      tableRows (page ⟨2024, 2, 29, 0, 0, 0⟩ (misleading "a: b" "c")).toList =
        [titles, ["</td></tr><tr><td>", "-1", "&lt;&amp;amp;", "\"'\n<script>"]] ∧
      (misleading "a: b" "c").detections = (misleading "a" "b: c").detections := by
  have hline : warningLine ⟨"a: b", "c"⟩ = warningLine ⟨"a", "b: c"⟩ := by decide
  have hpage : page ⟨2024, 2, 29, 0, 0, 0⟩ (misleading "a: b" "c") =
      page ⟨2024, 2, 29, 0, 0, 0⟩ (misleading "a" "b: c") := by
    simp [page, pageLines, warningLines, misleading, hline]
  obtain ⟨htags, hrows, hdetections⟩ := page_faithful ⟨2024, 2, 29, 0, 0, 0⟩ ⟨2024, 2, 29, 0, 0, 0⟩
    (misleading "a: b" "c") (misleading "a" "b: c")
  exact ⟨hpage, htags, hrows, hdetections hpage⟩

end LogAudit.Report
