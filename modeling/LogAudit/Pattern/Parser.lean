import LogAudit.Decimal.Integer
import LogAudit.Pattern.Fault
import LogAudit.Pattern.Node
import LogAudit.Text.Identifier
import LogAudit.Text.Letter

/-! # Reading a pattern

A pattern is cut into tokens, a backslash and the character behind it being one, and read by recursive
descent. The reader keeps the position of the next token, so that faults are told where they are
noticed. The recursion is bounded by twice the number of tokens: each turn of a loop and each group
takes at least one. -/

namespace LogAudit.Pattern
set_option autoImplicit false

open Text

/-! ## Tokens -/

/-- A character, or a backslash with the character behind it. -/
inductive Token
  | plain (c : Char)
  | escape (c : Char)
deriving Repr, DecidableEq

namespace Token

/-- The text of a token. -/
def text : Token → String
  | plain c => String.ofList [c]
  | escape c => String.ofList ['\\', c]

/-- The number of characters of a token. -/
def size : Token → Nat
  | plain _ => 1
  | escape _ => 2

end Token

/-- The tokens of a pattern, and whether it ends with a backslash that has nothing to escape. -/
def tokens : List Char → List Token × Bool
  | [] => ([], false)
  | ['\\'] => ([], true)
  | '\\' :: c :: rest => let (more, dangling) := tokens rest; (.escape c :: more, dangling)
  | c :: rest => let (more, dangling) := tokens rest; (.plain c :: more, dangling)

/-! ## State -/

/-- What reading takes from the platform. -/
structure Engine where
  /-- the code points of the characters that have names -/
  charNamed? : String → Option Nat
  /-- how many groups can stand inside of each other -/
  deepest : Nat

/-- What is known while a pattern is read. -/
structure State where
  /-- the tokens ahead -/
  rest : List Token
  /-- the offset of the first token ahead -/
  position : Nat
  /-- whether a lone backslash follows the tokens -/
  dangling : Bool
  /-- the flags set for the whole pattern -/
  flags : Flags := {}
  /-- the widths of the groups from number 1 on, unknown while a group is open -/
  widths : Array (Option (Nat × Nat)) := #[]
  /-- the groups that have names -/
  names : List (String × Nat) := []
  /-- the number that the first group inside the outermost lookbehind has or would have -/
  lookbehind : Option Nat := none
  /-- the numbers that conditions refer to, with the offsets of their first use -/
  conditions : List (Nat × Nat) := []
  /-- how many more groups can be opened inside of each other -/
  levels : Nat

/-- A step of reading. -/
abbrev Parse (α : Type) : Type := StateT State (Except Failure) α

namespace Parse

variable {α : Type}

/-- Gives up with a fault at an offset. -/
def failAt (fault : Fault) (position : Nat) : Parse α :=
  throw (.malformed fault (some position))

/-- Gives up with a fault some characters before the next token. -/
def fail (fault : Fault) (back : Nat := 0) : Parse α := do
  failAt fault ((← get).position - back)

/-- The next token. -/
def peek : Parse (Option Token) := do
  return (← get).rest.head?

/-- Passes the next token. A lone backslash is noticed as soon as it comes next. -/
def advance : Parse Unit := do
  match (← get).rest with
  | [] => return
  | token :: rest =>
    modify fun s => { s with rest := rest, position := s.position + token.size }
    if rest.isEmpty && (← get).dangling then fail .danglingBackslash

/-- Takes the next token. -/
def next : Parse (Option Token) := do
  let token ← peek
  advance
  return token

/-- Passes the next token if it is a given character. -/
def accept (c : Char) : Parse Bool := do
  if (← peek) = some (.plain c) then
    advance
    return true
  else return false

/-- Takes characters of a class, at most as many as the number says. -/
def takeSome (inClass : Char → Bool) : Nat → Parse (List Char)
  | 0 => return []
  | count + 1 => do
    match ← peek with
    | some (.plain c) =>
      if inClass c then
        advance
        return c :: (← takeSome inClass count)
      else return []
    | _ => return []

/-- Takes all characters of a class. -/
def takeAll (inClass : Char → Bool) : Parse (List Char) := do
  takeSome inClass (← get).rest.length

/-- Takes the text of tokens up to a terminator, which is passed; the number bounds the tokens. -/
def takeUntil (terminator : Char) (what : String) : Nat → String → Parse String
  | 0, taken => if taken.isEmpty then fail (.missing what)
      else fail (.unterminatedName terminator) taken.length
  | count + 1, taken => do
    match ← next with
    | none =>
      if taken.isEmpty then fail (.missing what)
      else fail (.unterminatedName terminator) taken.length
    | some token =>
      if token = .plain terminator then
        if taken.isEmpty then fail (.missing what) 1 else return taken
      else takeUntil terminator what count (taken ++ token.text)

/-- Takes a name up to its terminator. -/
def takeName (terminator : Char) (what : String) : Parse String := do
  takeUntil terminator what ((← get).rest.length + 1) ""

/-- Reads the inside of a group, which is one level deeper. -/
def deeper (inside : Parse α) : Parse α := do
  match (← get).levels with
  | 0 => throw .tooDeep
  | levels + 1 =>
    modify fun s => { s with levels := levels }
    let read ← inside
    modify fun s => { s with levels := levels + 1 }
    return read

end Parse

open Parse

/-! ## Groups -/

/-- The number that the next group gets. -/
def State.groupCount (s : State) : Nat := s.widths.size + 1

/-- Whether a group is there and closed. -/
def State.isClosed (s : State) (index : Nat) : Bool :=
  index ≠ 0 && (s.widths.getD (index - 1) none).isSome

/-- The widths of the groups that are closed. -/
def State.groupWidth (s : State) (index : Nat) : Nat × Nat :=
  ((s.widths.getD (index - 1) none)).getD (0, 0)

/-- Inside a lookbehind, only groups closed before it can be referred to. -/
def checkLookbehind (index : Nat) : Parse Unit := do
  let s ← get
  match s.lookbehind with
  | none => return
  | some first =>
    unless s.isClosed index do fail .openGroup
    if index ≥ first then fail .sameLookbehind

/-- Opens a group and gives its number. -/
def openGroup (name : Option String) : Parse Nat := do
  let s ← get
  let index := s.groupCount
  match name with
  | none => set { s with widths := s.widths.push none }
  | some name =>
    match s.names.lookup name with
    | some earlier => fail (.redefinedGroup name index earlier) (name.length + 1)
    | none => set { s with widths := s.widths.push none, names := (name, index) :: s.names }
  return index

/-- Closes a group, whose width is known from now on. -/
def closeGroup (index : Nat) (body : Node) : Parse Unit :=
  modify fun s => { s with widths := s.widths.setIfInBounds (index - 1) (body.width s.groupWidth) }

/-- Refuses a group name that is no identifier. -/
def checkGroupName (name : String) : Parse Unit := do
  unless isIdentifier name.toList do fail (.badGroupName name) (name.length + 1)

/-! ## Escapes -/

/-- Whether a character is an octal digit. -/
def isOctal (c : Char) : Bool := '0' ≤ c && c ≤ '7'

/-- Whether a character is a hexadecimal digit. -/
def isHex (c : Char) : Bool :=
  c.isDigit || ('a' ≤ c && c ≤ 'f') || ('A' ≤ c && c ≤ 'F')

/-- The value of digits in a base. -/
def digitsValue (base : Nat) (digits : List Char) : Nat :=
  digits.foldl (fun value c =>
    base * value +
      (if c.isDigit then c.toNat - 48 else if c.isLower then c.toNat - 87 else c.toNat - 55)) 0

/-- The classes of characters that a letter names. -/
def category? : Char → Option ClassItem
  | 'd' => some (.category .digit false)
  | 'D' => some (.category .digit true)
  | 's' => some (.category .space false)
  | 'S' => some (.category .space true)
  | 'w' => some (.category .word false)
  | 'W' => some (.category .word true)
  | _ => none

/-- The control characters that a letter names, and the backslash. -/
def control? : Char → Option Nat
  | 'a' => some 7
  | 'f' => some 12
  | 'n' => some 10
  | 'r' => some 13
  | 't' => some 9
  | 'v' => some 11
  | '\\' => some 92
  | _ => none

/-- The positions that a letter names. -/
def position? : Char → Option Anchor
  | 'A' => some .textStart
  | 'b' => some .boundary
  | 'B' => some .noBoundary
  | 'Z' => some .textEnd
  | _ => none

/-- Reads an exact number of hexadecimal digits behind a backslash and a letter. -/
def hexEscape (letter : Char) (count : Nat) : Parse Nat := do
  let digits ← takeSome isHex count
  let escape := String.ofList ('\\' :: letter :: digits)
  if digits.length ≠ count then fail (.incompleteEscape escape) escape.length
  let value := digitsValue 16 digits
  if value ≥ 0x110000 then fail (.badEscape escape) escape.length
  return value

/-- Reads a character by its name in braces. -/
def namedEscape (engine : Engine) : Parse Nat := do
  unless ← accept '\x7b' do fail (.missing "\x7b")
  let name ← takeName '\x7d' "character name"
  match engine.charNamed? name with
  | some code => return code
  | none => fail (.undefinedCharacterName name) (name.length + 4)

/-- Reads the escapes that mean the same inside and outside of a character class. -/
def commonEscape? (engine : Engine) (c : Char) : Parse (Option Nat) := do
  match c with
  | 'x' => return some (← hexEscape 'x' 2)
  | 'u' => return some (← hexEscape 'u' 4)
  | 'U' => return some (← hexEscape 'U' 8)
  | 'N' => return some (← namedEscape engine)
  | _ => return none

/-- The character itself, unless it is a letter without meaning. -/
def plainEscape (c : Char) : Parse Nat := do
  if c.isAlpha then fail (.badEscape (Token.escape c).text) 2
  return c.toNat

/-- Reads what follows a backslash inside a character class. -/
def classEscape (engine : Engine) (c : Char) : Parse ClassItem := do
  if c = 'b' then return .code 8
  if let some code := control? c then return .code code
  if let some item := category? c then return item
  if let some code ← commonEscape? engine c then return .code code
  if isOctal c then
    let digits := c :: (← takeSome isOctal 2)
    let escape := String.ofList ('\\' :: digits)
    let value := digitsValue 8 digits
    if value > 255 then fail (.octalOutOfRange escape) escape.length
    return .code value
  if c.isDigit then fail (.badEscape (Token.escape c).text) 2
  return .code (← plainEscape c)

/-- Refers to a group by number. -/
def groupReference (digits : List Char) : Parse Node := do
  let index := digitsValue 10 digits
  let s ← get
  if index < s.groupCount then
    unless s.isClosed index do fail .openGroup (digits.length + 1)
    checkLookbehind index
    return .backref index
  else fail (.invalidGroupReference index) digits.length

/-- Reads what follows a backslash and a digit other than zero: three octal digits are a character,
one or two digits a group. -/
def digitEscape (c : Char) : Parse Node := do
  match ← peek with
  | some (.plain second) =>
    if second.isDigit then
      advance
      match ← peek with
      | some (.plain third) =>
        if isOctal c && isOctal second && isOctal third then
          advance
          let escape := String.ofList ['\\', c, second, third]
          let value := digitsValue 8 [c, second, third]
          if value > 255 then fail (.octalOutOfRange escape) 4
          return .code value
        else groupReference [c, second]
      | _ => groupReference [c, second]
    else groupReference [c]
  | _ => groupReference [c]

/-- Reads what follows a backslash outside of a character class. -/
def nodeEscape (engine : Engine) (c : Char) : Parse Node := do
  if let some anchor := position? c then return .anchor anchor
  if let some item := category? c then return .oneOf false [item]
  if let some code := control? c then return .code code
  if let some code ← commonEscape? engine c then return .code code
  if c = '0' then
    return .code (digitsValue 8 (c :: (← takeSome isOctal 2)))
  if c.isDigit then digitEscape c
  else return .code (← plainEscape c)

/-! ## Character classes -/

/-- One end of a range, or a member by itself. -/
def classMember (engine : Engine) : Token → Parse ClassItem
  | .plain c => return .code c.toNat
  | .escape c => classEscape engine c

/-- Reads the members of a class whose bracket stands at `start`. -/
def classMembers (engine : Engine) (start : Nat) : Nat → Array ClassItem → Parse (Array ClassItem)
  | 0, _ => failAt .unterminatedSet start
  | count + 1, items => do
    let some this ← next | failAt .unterminatedSet start
    if this = .plain ']' && !items.isEmpty then return items
    let first ← classMember engine this
    if ← accept '-' then
      let some that ← next | failAt .unterminatedSet start
      if that = .plain ']' then return (items.push first).push (.code 45)
      let second ← classMember engine that
      let bad : Parse (Array ClassItem) :=
        fail (.badRange this.text that.text) (this.size + 1 + that.size)
      match first, second with
      | .code low, .code high =>
        if high < low then bad else classMembers engine start count (items.push (.range low high))
      | _, _ => bad
    else classMembers engine start count (items.push first)

/-- Reads a class behind its opening bracket. -/
def characterClass (engine : Engine) : Parse Node := do
  let s ← get
  let negated ← accept '^'
  let items := (← classMembers engine (s.position - 1) (s.rest.length + 1) #[]).toList.eraseDups
  match items with
  | [.code value] => return if negated then .notCode value else .code value
  | _ => return .oneOf negated items

/-! ## Repetition -/

/-- The counts from this one on are too large. -/
def countLimit : Nat := 4294967295

/-- Reads the counts behind an opening brace; without a closing brace nothing is read. -/
def braceCounts : Parse (Option (Nat × Option Nat)) := do
  let s ← get
  if s.rest.head? = some (.plain '\x7d') then return none
  let low ← takeAll Char.isDigit
  let high ← if ← accept ',' then takeAll Char.isDigit else pure low
  unless ← accept '\x7d' do
    modify fun t => { t with rest := s.rest, position := s.position }
    return none
  let least := digitsValue 10 low
  if least ≥ countLimit then throw .countTooLarge
  if high.isEmpty then return some (least, none)
  let most := digitsValue 10 high
  if most ≥ countLimit then throw .countTooLarge
  if most < least then failAt .leastAboveMost s.position
  return some (least, some most)

/-- The counts of a quantifier, if the character is one. -/
def quantifier? (c : Char) : Parse (Option (Nat × Option Nat)) := do
  match c with
  | '?' => return some (0, some 1)
  | '*' => return some (0, none)
  | '+' => return some (1, none)
  | '\x7b' => braceCounts
  | _ => return none

/-- Reads the mark behind a quantifier that changes its greed. -/
def greedMark : Parse Greed := do
  if ← accept '?' then return .reluctant
  if ← accept '+' then return .possessive
  return .greedy

/-- Repeats the last of the nodes read so far; the quantifier stands at `start`. -/
def repeatLast (start least : Nat) (most : Option Nat) (nodes : Array Node) :
    Parse (Array Node) := do
  match nodes.back? with
  | none => failAt .nothingToRepeat start
  | some (.anchor _) => failAt .nothingToRepeat start
  | some (.repeated ..) => failAt .multipleRepeat start
  | some body =>
    return nodes.pop.push (.repeated (← greedMark) least most body)

/-! ## Flags -/

/-- The flag that a letter stands for; `L` is known and refused. -/
def flag? : Char → Option Flags
  | 'i' => some { ignoreCase := true }
  | 'm' => some { multiLine := true }
  | 's' => some { dotAll := true }
  | 'x' => some { verbose := true }
  | 'a' => some { ascii := true }
  | 'u' => some { unicode := true }
  | 't' => some { template := true }
  | 'L' => some {}
  | _ => none

/-- Refuses a token among flags: a letter is an unknown flag, anything else stands where something
is missing. -/
def failFlag {α : Type} (token : Token) (missing : String) : Parse α :=
  match token with
  | .plain c => fail (if isLetter c then .unknownFlag else .missing missing) 1
  | .escape _ => fail (.missing missing) 2

/-- Reads flags to add, from the letter just taken; gives the character that ends them. -/
def addedFlags : Nat → Char → Flags → Parse (Flags × Char)
  | 0, _, _ => fail (.missing "-, : or )")
  | count + 1, c, flags => do
    if c = 'L' then fail .localeFlag
    let flags := flags.union ((flag? c).getD {})
    if (c = 'a' || c = 'u') && flags.ascii && flags.unicode then fail .incompatibleFlags
    match ← next with
    | none => fail (.missing "-, : or )")
    | some (.plain d) =>
      if d = ')' || d = '-' || d = ':' then return (flags, d)
      else if (flag? d).isSome then addedFlags count d flags
      else failFlag (.plain d) "-, : or )"
    | some token => failFlag token "-, : or )"

/-- Reads flags to remove, from the letter just taken, up to a colon. -/
def removedFlags : Nat → Char → Flags → Parse Flags
  | 0, _, _ => fail (.missing ":")
  | count + 1, c, flags => do
    if c = 'L' || c = 'a' || c = 'u' then fail .alphabetFlagOff
    let flags := flags.union ((flag? c).getD {})
    match ← next with
    | none => fail (.missing ":")
    | some (.plain d) =>
      if d = ':' then return flags
      else if (flag? d).isSome then removedFlags count d flags
      else failFlag (.plain d) ":"
    | some token => failFlag token ":"

/-- Reads flags from the character just taken: those of a group, or none if they were for the whole
pattern, which are then set. -/
def groupFlags (c : Char) : Parse (Option (Flags × Flags)) := do
  let count := (← get).rest.length + 1
  let (added, stop) ← if c = '-' then pure (({} : Flags), '-') else addedFlags count c {}
  if stop = ')' then
    modify fun s => { s with flags := s.flags.union added }
    return none
  if added.template then fail .globalFlagOn 1
  let removed ← if stop = '-' then
      match ← next with
      | none => fail (.missing "flag")
      | some (.plain d) =>
        if (flag? d).isSome then removedFlags count d {} else failFlag (.plain d) "flag"
      | some token => failFlag token "flag"
    else pure {}
  if removed.template then fail .globalFlagOff 1
  if added.meets removed then fail .flagOnAndOff 1
  return some (added, removed)

/-! ## Groups and sequences -/

/-- Passes a comment up to its closing parenthesis; the group stands at `start`. -/
def skipComment (start : Nat) : Nat → Parse Unit
  | 0 => failAt .unterminatedComment start
  | count + 1 => do
    match ← next with
    | none => failAt .unterminatedComment start
    | some token => unless token = .plain ')' do skipComment start count

/-- Passes the rest of a line. -/
def skipLine : Nat → Parse Unit
  | 0 => return
  | count + 1 => do
    match ← next with
    | none => return
    | some token => unless token = .plain '\n' do skipLine count

/-- The number of a group that a condition names or numbers. -/
def conditionGroup : Parse Nat := do
  let name ← takeName ')' "group name"
  let back := name.length + 1
  if isIdentifier name.toList then
    match (← get).names.lookup name with
    | some index => return index
    | none => fail (.unknownGroupName name) back
  else
    match Decimal.integer? name with
    | some (.ofNat index) =>
      if index = 0 then fail .badGroupNumber back
      if index ≥ 1073741823 then fail (.invalidGroupReference index) back
      modify fun s =>
        if (s.conditions.lookup index).isSome then s
        else { s with conditions := s.conditions ++ [(index, s.position - back)] }
      return index
    | _ => fail (.badGroupName name) back

/-- Refers to a group by name, behind `(?P=`. -/
def namedReference : Parse Node := do
  let name ← takeName ')' "group name"
  checkGroupName name
  let s ← get
  match s.names.lookup name with
  | none => fail (.unknownGroupName name) (name.length + 1)
  | some index =>
    unless s.isClosed index do fail .openGroup (name.length + 1)
    checkLookbehind index
    return .backref index

/-- What a parenthesis opens. -/
inductive Opening
  | capture (name : Option String)
  | plain (added removed : Flags)
  | atomic
  | assertion (behind negated : Bool)
  | condition (index : Nat)
  | node (reference : Node)
  | nothing
  | globalFlags

/-- Reads what follows `(?`; the parenthesis stands at `start`. -/
def extension (start : Nat) : Parse Opening := do
  let some token ← next | fail .unexpectedEnd
  match token with
  | .escape _ => fail (.unknownExtension token.text) 3
  | .plain 'P' =>
    if ← accept '<' then
      let name ← takeName '>' "group name"
      checkGroupName name
      return .capture (some name)
    if ← accept '=' then return .node (← namedReference)
    let some token ← next | fail .unexpectedEnd
    fail (.unknownExtension ("P" ++ token.text)) (token.size + 2)
  | .plain ':' => return .plain {} {}
  | .plain '>' => return .atomic
  | .plain '#' =>
    skipComment start ((← get).rest.length + 1)
    return .nothing
  | .plain '=' => return .assertion false false
  | .plain '!' => return .assertion false true
  | .plain '<' =>
    let some token ← next | fail .unexpectedEnd
    if token = .plain '=' then return .assertion true false
    else if token = .plain '!' then return .assertion true true
    else fail (.unknownExtension ("<" ++ token.text)) (token.size + 2)
  | .plain '(' => return .condition (← conditionGroup)
  | .plain c =>
    if c = '-' || (flag? c).isSome then
      match ← groupFlags c with
      | none => return .globalFlags
      | some (added, removed) => return .plain added removed
    else fail (.unknownExtension token.text) 2

/-- Passes the parenthesis that closes the group opened at `start`. -/
def closing (start : Nat) : Parse Unit := do
  unless ← accept ')' do failAt .unterminatedGroup start

/-- Whether a verbose pattern skips a character. -/
def isLayout (c : Char) : Bool :=
  c == ' ' || (9 ≤ c.toNat && c.toNat ≤ 13)

mutual

/-- Reads alternatives. `outer` says that no group is open: then the first alternative may begin with
flags for the whole pattern, and the later ones know whether these made it verbose. -/
def alternatives (engine : Engine) : Nat → Bool → Bool → Bool → Parse Node
  | 0, _, _, _ => fail .unexpectedEnd
  | fuel + 1, verbose, outer, first => do
    let node ← sequence engine fuel verbose (outer && first) #[]
    if ← accept '|' then
      let s ← get
      let verbose := if outer then s.flags.verbose else verbose
      return .alt node (← alternatives engine fuel verbose outer false)
    else return node

/-- Reads nodes one after the other, behind those already read. -/
def sequence (engine : Engine) : Nat → Bool → Bool → Array Node → Parse Node
  | 0, _, _, _ => fail .unexpectedEnd
  | fuel + 1, verbose, first, nodes => do
    match ← peek with
    | none => return .sequence nodes.toList
    | some (.escape c) =>
      advance
      sequence engine fuel verbose first (nodes.push (← nodeEscape engine c))
    | some (.plain c) =>
      if c = '|' || c = ')' then return .sequence nodes.toList
      let start := (← get).position
      advance
      if verbose && isLayout c then sequence engine fuel verbose first nodes
      else if verbose && c = '#' then
        skipLine ((← get).rest.length + 1)
        sequence engine fuel verbose first nodes
      else match c with
      | '[' => sequence engine fuel verbose first (nodes.push (← characterClass engine))
      | '.' => sequence engine fuel verbose first (nodes.push .any)
      | '^' => sequence engine fuel verbose first (nodes.push (.anchor .lineStart))
      | '$' => sequence engine fuel verbose first (nodes.push (.anchor .lineEnd))
      | '(' =>
        let opening ← if ← accept '?' then extension start else pure (.capture none)
        match opening with
        | .nothing => sequence engine fuel verbose first nodes
        | .node reference => sequence engine fuel verbose first (nodes.push reference)
        | .globalFlags =>
          if !first || !nodes.isEmpty then failAt .lateGlobalFlags start
          sequence engine fuel (← get).flags.verbose first nodes
        | .capture name =>
          let index ← openGroup name
          let body ← deeper (alternatives engine fuel verbose false false)
          closing start
          closeGroup index body
          sequence engine fuel verbose first (nodes.push (.group index body))
        | .plain added removed =>
          let body ← deeper (alternatives engine fuel
            ((verbose || added.verbose) && !removed.verbose) false false)
          closing start
          sequence engine fuel verbose first (nodes.push (.flagged added removed body))
        | .atomic =>
          let body ← deeper (alternatives engine fuel verbose false false)
          closing start
          sequence engine fuel verbose first (nodes.push (.atomic body))
        | .assertion behind negated =>
          let outermost := behind && (← get).lookbehind.isNone
          if outermost then modify fun s => { s with lookbehind := some s.groupCount }
          let body ← deeper (alternatives engine fuel verbose false false)
          if outermost then modify fun s => { s with lookbehind := none }
          closing start
          let (low, high) := body.width (← get).groupWidth
          let direction := if behind then Direction.behind low high else .ahead
          sequence engine fuel verbose first (nodes.push (.look direction negated body))
        | .condition index =>
          checkLookbehind index
          let yes ← deeper (sequence engine fuel verbose false #[])
          let no ← if ← accept '|' then
              let no ← deeper (sequence engine fuel verbose false #[])
              if (← peek) = some (.plain '|') then fail .tooManyBranches
              pure no
            else pure .empty
          closing start
          sequence engine fuel verbose first (nodes.push (.conditional index yes no))
      | _ =>
        match ← quantifier? c with
        | some (least, most) =>
          sequence engine fuel verbose first (← repeatLast start least most nodes)
        | none => sequence engine fuel verbose first (nodes.push (.code c.toNat))

end

/-! ## Whole patterns -/

/-- The first node that cannot be used although it is well formed. -/
def Node.fault? (template : Bool) : Node → Option Fault
  | .seq first second => first.fault? template <|> second.fault? template
  | .alt first second => first.fault? template <|> second.fault? template
  | .repeated greed _ _ body =>
    if template then
      some (.templateRepeat (match greed with
        | .greedy => "MAX_REPEAT"
        | .reluctant => "MIN_REPEAT"
        | .possessive => "POSSESSIVE_REPEAT"))
    else body.fault? template
  | .group _ body => body.fault? template
  | .flagged _ _ body => body.fault? template
  | .atomic body => body.fault? template
  | .look (.behind low high) _ body =>
    if low > countLimit then some .farLookbehind
    else if low ≠ high then some .variableLookbehind
    else body.fault? template
  | .look .ahead _ body => body.fault? template
  | .conditional _ yes no => yes.fault? template <|> no.fault? template
  | _ => none

/-- Reads a whole pattern: its tree and the flags it sets. -/
def wholePattern (engine : Engine) (size : Nat) : Parse (Node × Flags) := do
  let s ← get
  if s.rest.isEmpty && s.dangling then fail .danglingBackslash
  let node ← alternatives engine (2 * size + 4) false true true
  let s ← get
  if s.flags.ascii && s.flags.unicode then throw .conflictingAlphabets
  if (← peek).isSome then fail .unbalancedParenthesis
  match s.conditions.find? (·.1 ≥ s.groupCount) with
  | some (index, position) => failAt (.invalidGroupReference index) position
  | none => pure ()
  match node.fault? s.flags.template with
  | some fault => throw (.malformed fault none)
  | none => return (node, s.flags)

/-- The tree of a pattern and the flags it sets, or why it cannot be used. -/
def parse (engine : Engine) (text : String) : Except Failure (Node × Flags) :=
  let (ahead, dangling) := tokens text.toList
  (wholePattern engine ahead.length).run'
    { rest := ahead, position := 0, dangling := dangling, levels := engine.deepest }

end LogAudit.Pattern
