import LogAudit.Pattern.CharTest

/-! # Searching

A pattern is matched by trying its choices in order, each with all that follows as a continuation: the
first choice whose continuation succeeds is the answer. Repetitions stop after a turn that reads
nothing, which bounds them by the length of the text. -/

namespace LogAudit.Pattern
set_option autoImplicit false

open Text

/-! ## Marks -/

/-- Where groups began and ended last. -/
structure Marks where
  starts : List (Nat × Nat) := []
  stops : List (Nat × Nat) := []
deriving Repr

namespace Marks

/-- Notes where a group begins. -/
def enter (marks : Marks) (index position : Nat) : Marks :=
  { marks with starts := (index, position) :: marks.starts }

/-- Notes where a group ends. -/
def leave (marks : Marks) (index position : Nat) : Marks :=
  { marks with stops := (index, position) :: marks.stops }

/-- The offsets of a group that has been read. -/
def span? (marks : Marks) (index : Nat) : Option (Nat × Nat) :=
  match marks.starts.lookup index, marks.stops.lookup index with
  | some start, some stop => if start ≤ stop then some (start, stop) else none
  | _, _ => none

end Marks

/-- What a match leaves behind: the offset reached, and the marks. -/
abbrev Outcome : Type := Option (Nat × Marks)

/-- What follows a part of a pattern. -/
abbrev Continuation : Type := Nat → Marks → Outcome

/-- A part of a pattern, ready to be followed. -/
abbrev Step : Type := Nat → Marks → Continuation → Outcome

/-! ## Repetition -/

/-- A fixed number of turns. -/
def times (step : Step) : Nat → Continuation → Continuation
  | 0, tail => tail
  | count + 1, tail => fun i marks => step i marks (times step count tail)

/-- Whether one more turn is of no use: none is left, or the last one read nothing. -/
def exhausted (room last : Option Nat) (i : Nat) : Bool :=
  room == some 0 || last == some i

/-- As many turns as possible first, then fewer. `last` is where the last turn began. -/
def most (step : Step) (tail : Continuation) : Nat → Option Nat → Option Nat → Continuation
  | 0, _, _, i, marks => tail i marks
  | fuel + 1, room, last, i, marks =>
    if exhausted room last i then tail i marks
    else match step i marks (most step tail fuel (room.map (· - 1)) (some i)) with
      | some outcome => some outcome
      | none => tail i marks

/-- As few turns as possible first, then more. -/
def fewest (step : Step) (tail : Continuation) : Nat → Option Nat → Option Nat → Continuation
  | 0, _, _, i, marks => tail i marks
  | fuel + 1, room, last, i, marks =>
    match tail i marks with
    | some outcome => some outcome
    | none =>
      if exhausted room last i then none
      else step i marks (fewest step tail fuel (room.map (· - 1)) (some i))

/-- As many turns as possible, each taken the first way it can be, without a way back. -/
def all (step : Step) : Nat → Option Nat → Option Nat → Nat → Marks → Nat × Marks
  | 0, _, _, i, marks => (i, marks)
  | fuel + 1, room, last, i, marks =>
    if exhausted room last i then (i, marks)
    else match step i marks fun j marks' => some (j, marks') with
      | some (j, marks') => all step fuel (room.map (· - 1)) (some i) j marks'
      | none => (i, marks)

/-- A fixed number of turns, each taken the first way it can be. -/
def timesAtomic (step : Step) : Nat → Nat → Marks → Outcome
  | 0, i, marks => some (i, marks)
  | count + 1, i, marks =>
    match step i marks fun j marks' => some (j, marks') with
    | some (j, marks') => timesAtomic step count j marks'
    | none => none

/-- A repetition of a step between `least` and `greatest` times. -/
def repetition (step : Step) (greed : Greed) (least : Nat) (greatest : Option Nat) (size : Nat) :
    Step := fun i marks tail =>
  let room := greatest.map (· - least)
  match greed with
  | .greedy => times step least (fun j => most step tail (size + 2 - j) room none j) i marks
  | .reluctant => times step least (fun j => fewest step tail (size + 2 - j) room none j) i marks
  | .possessive =>
    match timesAtomic step least i marks with
    | none => none
    | some (j, marks') =>
      let (k, marks'') := all step (size + 2 - j) room none j marks'
      tail k marks''

/-! ## Matching -/

/-- Whether a word character stands at an offset. -/
def wordAt (flags : Flags) (text : Array Char) (i : Nat) : Bool :=
  text[i]?.any fun c => Category.word.contains flags c.toNat

/-- Whether a word character stands before an offset. -/
def wordBefore (flags : Flags) (text : Array Char) (i : Nat) : Bool :=
  i != 0 && wordAt flags text (i - 1)

/-- Whether a position of a text passes the test of an anchor. An empty text has no position that is
a word boundary, and none that is not. -/
def Anchor.holds (flags : Flags) (text : Array Char) (i : Nat) : Anchor → Bool
  | .textStart => i = 0
  | .textEnd => i = text.size
  | .lineStart => i = 0 || (flags.multiLine && text[i - 1]? == some '\n')
  | .lineEnd =>
    i = text.size || (text[i]? == some '\n' && (flags.multiLine || i + 1 = text.size))
  | .boundary => wordBefore flags text i != wordAt flags text i
  | .noBoundary => text.size != 0 && wordBefore flags text i == wordAt flags text i

/-- Whether the characters from one offset on are those from another, for a number of characters. -/
def sameText (flags : Flags) (text : Array Char) (i j : Nat) : Nat → Bool
  | 0 => true
  | count + 1 =>
    (match text[i]?, text[j]? with
      | some a, some b =>
        if flags.ignoreCase then fold flags a.toNat == fold flags b.toNat else a == b
      | _, _ => false) && sameText flags text (i + 1) (j + 1) count

/-- Reads one character that passes a test. -/
def readChar (text : Array Char) (test : Char → Bool) : Step := fun i marks tail =>
  match text[i]? with
  | some c => if test c then tail (i + 1) marks else none
  | none => none

/-- Matches a pattern at an offset of a text. -/
def Node.run (text : Array Char) : Node → Flags → Step
  | .empty, _, i, marks, tail => tail i marks
  | .code value, flags, i, marks, tail => readChar text (matchesCode flags value) i marks tail
  | .notCode value, flags, i, marks, tail =>
    readChar text (fun c => !matchesCode flags value c) i marks tail
  | .oneOf negated items, flags, i, marks, tail =>
    readChar text (matchesClass flags negated items) i marks tail
  | .any, flags, i, marks, tail =>
    readChar text (fun c => flags.dotAll || c != '\n') i marks tail
  | .anchor kind, flags, i, marks, tail =>
    if kind.holds flags text i then tail i marks else none
  | .seq first second, flags, i, marks, tail =>
    first.run text flags i marks fun j marks' => second.run text flags j marks' tail
  | .alt first second, flags, i, marks, tail =>
    match first.run text flags i marks tail with
    | some outcome => some outcome
    | none => second.run text flags i marks tail
  | .repeated greed least greatest body, flags, i, marks, tail =>
    repetition (body.run text flags) greed least greatest text.size i marks tail
  | .group index body, flags, i, marks, tail =>
    body.run text flags i (marks.enter index i) fun j marks' => tail j (marks'.leave index j)
  | .flagged added removed body, flags, i, marks, tail =>
    body.run text (flags.within added removed) i marks tail
  | .atomic body, flags, i, marks, tail =>
    match body.run text flags i marks fun j marks' => some (j, marks') with
    | some (j, marks') => tail j marks'
    | none => none
  | .look direction negated body, flags, i, marks, tail =>
    let found := match direction with
      | .ahead => body.run text flags i marks fun j marks' => some (j, marks')
      | .behind low _ =>
        if low ≤ i then body.run text flags (i - low) marks fun j marks' => some (j, marks')
        else none
    match found, negated with
    | some (_, marks'), false => tail i marks'
    | none, true => tail i marks
    | _, _ => none
  | .backref index, flags, i, marks, tail =>
    match marks.span? index with
    | some (start, stop) =>
      if i + (stop - start) ≤ text.size && sameText flags text i start (stop - start) then
        tail (i + (stop - start)) marks
      else none
    | none => none
  | .conditional index yes no, flags, i, marks, tail =>
    if (marks.span? index).isSome then yes.run text flags i marks tail
    else no.run text flags i marks tail

/-- Whether a pattern matches somewhere in a text. -/
def Node.occurs (node : Node) (flags : Flags) (text : List Char) : Bool :=
  let chars := text.toArray
  (List.range (chars.size + 1)).any fun i =>
    (node.run chars flags i {} fun j marks => some (j, marks)).isSome

end LogAudit.Pattern
