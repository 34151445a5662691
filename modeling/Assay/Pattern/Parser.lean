import Assay.Number.Reading
import Assay.Pattern.Escape
import Assay.Pattern.Flags
import Assay.Text.Identifier

/-!
Reading a pattern: sequences of terms, alternatives, groups and character sets. A count that no
text can exhaust bounds every loop.
-/

namespace Assay.Pattern
open Text

/-- The counts that patterns can state are below this one. -/
def countLimit : Nat := Nat.pow 2 32 - 1

/-- The group numbers that patterns can state are below this one. -/
def groupLimit : Nat := 1073741823

/-- The numerals that can be read have at most this many digits. -/
def numeralLimit : Nat := 4300

/-- White space that verbose patterns skip. -/
def isVerboseBlank (c : Char)
    : Bool :=
  c = ' ' || (9 ≤ c.toNat && c.toNat ≤ 13)

/-- The least and the greatest count of a repetition. -/
structure Counts where
  least : Nat
  most : Option Nat

/-- The members of a list without those that occur before. -/
def withoutRepeats {α : Type} [BEq α] (items : List α)
    : List α :=
  items.foldl (fun kept item => if kept.contains item then kept else kept ++ [item]) []

/-- A set as a term; a set of one character is that character. -/
def setNode (negated : Bool) (items : List SetItem)
    : Node :=
  match negated, withoutRepeats items with
  | false, [.point n] => .point n
  | _, items => .set negated items

/-- Whether two terms are the same for certain: both single characters, sets, places or
references. -/
def Node.isSame
    : Node → Node → Bool
  | .point a, .point b => a == b
  | .anyChar, .anyChar => true
  | .set negated items, .set negated' items' => negated == negated' && items == items'
  | .anchor a, .anchor b => a == b
  | .reference a, .reference b => a == b
  | _, _ => false

/-- The term that all of several sequences begin with. -/
def commonFirst? (sequences : List (List Node))
    : Option Node :=
  match sequences with
  | (first :: _) :: rest =>
      if rest.all fun terms => terms.head?.any (·.isSame first) then some first else none
  | _ => none

/-- The terms that all of several sequences begin with, at most `count` of them, and what is left
of the sequences. -/
def commonFront (sequences : List (List Node))
    : Nat → List Node × List (List Node)
  | 0 => ([], sequences)
  | count + 1 =>
      match commonFirst? sequences with
      | none => ([], sequences)
      | some first =>
          let (front, rest) := commonFront (sequences.map List.tail) count
          (first :: front, rest)

/-- The items of a sequence that is one character or one set. -/
def itemsOf?
    : List Node → Option (List SetItem)
  | [.point n] => some [.point n]
  | [.set false items] => some items
  | _ => none

/-- The items of the set that several sequences amount to, if each is one character or one set. -/
def mergedItems? (sequences : List (List Node))
    : Option (List SetItem) :=
  (sequences.mapM itemsOf?).map fun items => withoutRepeats items.flatten

/-- A choice between several sequences: what they all begin with comes before the choice, and a
choice between characters is a set. -/
def choiceOf (sequences : List (List Node))
    : List Node :=
  let (front, rest) := commonFront sequences ((sequences.map List.length).headD 0)
  match mergedItems? rest with
  | some items => front ++ [.set false items]
  | none => front ++ [.branches rest]

/-- Terms with the groups opened up that neither keep their text nor change modes. -/
def unpacked (terms : List Node)
    : List Node :=
  terms.flatMap fun node =>
    match node with
    | .group none on off body => if on.isPlain && off.isPlain then body else [node]
    | _ => [node]

namespace Reader

/-- Takes the members of a character set that begins at `start`, and the bracket that ends it. -/
def setItems (start : Nat) (items : List SetItem)
    : Nat → Reader (List SetItem)
  | 0 => return items
  | fuel + 1 => do
      let unterminated {α : Type} : Reader α := do
        refuse .unterminatedSet ((← get).position - start)
      match ← take with
      | none => unterminated
      | some token =>
          if token = .plain ']' ∧ !items.isEmpty then return items
          let item ← match token with
            | .plain c => pure (.point c.toNat)
            | .escaped c => setEscape c
          if !(← accept '-') then setItems start (items ++ [item]) fuel
          else match ← take with
            | none => unterminated
            | some (.plain ']') => return items ++ [item, .point '-'.toNat]
            | some last =>
                let lastItem ← match last with
                  | .plain c => pure (.point c.toNat)
                  | .escaped c => setEscape c
                let bad {α : Type} : Reader α :=
                  refuse (.badRange token.text last.text)
                    (token.chars.length + 1 + last.chars.length)
                match item, lastItem with
                | .point first, .point last =>
                    if last < first then bad
                    else setItems start (items ++ [.range first last]) fuel
                | _, _ => bad

/-- Takes a character set after its opening bracket. -/
def characterSet
    : Reader Node := do
  let start := (← get).position - 1
  let negated ← accept '^'
  return setNode negated (← setItems start [] ((← read).size + 1))

/-- The value of a count that has been written with `digits`. -/
def countOf (digits : List Char)
    : Reader Nat := do
  if numeralLimit < digits.length then throw (.fault (.numeralTooLong digits.length))
  let count := valueInBase 10 digits
  if countLimit ≤ count then throw (.fault .repetitionTooLarge)
  return count

/-- Takes the counts between braces after the opening one. What does not have their form is
nothing, and the reader stays behind the brace. -/
def bracedCounts
    : Reader (Option Counts) := do
  let start := (← get).position
  let size := (← read).size
  if (← peek) = some (.plain '\x7d') then return none
  let low ← takeWhile isDecimal size
  let high ← if ← accept ',' then takeWhile isDecimal size else pure low
  if !(← accept '\x7d') then
    moveTo start
    return none
  let least ← if low.isEmpty then pure 0 else countOf low
  if high.isEmpty then return some ⟨least, none⟩
  let most ← countOf high
  if most < least then refuse .unorderedCounts ((← get).position - start)
  return some ⟨least, some most⟩

/-- The counts of a repetition that `c` begins, and nothing if it begins none. -/
def counts (c : Char)
    : Reader (Option Counts) :=
  match c with
  | '?' => return some ⟨0, some 1⟩
  | '*' => return some ⟨0, none⟩
  | '+' => return some ⟨1, none⟩
  | _ => bracedCounts

/-- Takes the mark behind a repetition that says what it does first. -/
def greed
    : Reader Greed := do
  if ← accept '?' then return .lazy
  else if ← accept '+' then return .possessive
  else return .greedy

/-- Repeats the last of the terms read so far, the latest first. The repetition begins at
`start`. -/
def repeatLast (start : Nat) (counts : Counts) (terms : List Node)
    : Reader (List Node) := do
  let back := (← get).position - start
  match terms with
  | [] => refuse .nothingToRepeat back
  | .anchor _ :: _ => refuse .nothingToRepeat back
  | .repeated .. :: _ => refuse .multipleRepeat back
  | last :: rest =>
      let body := match last with
        | .group none on off body => if on.isPlain && off.isPlain then body else [last]
        | _ => [last]
      return .repeated (← greed) counts.least counts.most body :: rest

/-- Skips the rest of a line of a verbose pattern. -/
def skipLine
    : Nat → Reader Unit
  | 0 => return ()
  | fuel + 1 => do
      match ← take with
      | none | some (.plain '\n') => return ()
      | some _ => skipLine fuel

/-- Skips a comment up to its closing parenthesis. -/
def skipComment (start : Nat)
    : Nat → Reader Unit
  | 0 => return ()
  | fuel + 1 => do
      match ← take with
      | none => refuse .unterminatedComment ((← get).position - start)
      | some (.plain ')') => return ()
      | some _ => skipComment start fuel

/-- Takes a group name up to `terminator`. -/
def groupName (terminator : Char)
    : Reader (List Char) := do
  let name ← takeUntil terminator "group name"
  if isIdentifier name then return name
  else refuse (.badGroupName (String.ofList name)) (name.length + 1)

/-- The number of the group with a name. -/
def groupNamed (name : List Char)
    : Reader Nat := do
  let text := String.ofList name
  match (← get).names.find? (·.1 = text) with
  | some (_, number) => return number
  | none => refuse (.unknownGroupName text) (name.length + 1)

/-- Takes the rest of a reference by name. -/
def namedReference
    : Reader Node := do
  let name ← groupName ')'
  let number ← groupNamed name
  if !(← isClosed number) then refuse .openGroup (name.length + 1)
  checkLookbehind number
  return .reference number

/-- Takes the group that a condition asks for, by name or by number. A number may be that of a
group further on, so its place is kept until the whole pattern has been read. -/
def conditionGroup
    : Reader Nat := do
  let name ← takeUntil ')' "group name"
  let back := name.length + 1
  let number ←
    if isIdentifier name then groupNamed name
    else match Number.readInt? name with
      | none => refuse (.badGroupName (String.ofList name)) back
      | some value =>
          if value < 0 || numeralLimit < name.countP isDigit then
            refuse (.badGroupName (String.ofList name)) back
          let number := value.toNat
          if number = 0 then refuse .badGroupNumber back
          if groupLimit ≤ number then refuse (.invalidReference number) back
          let reading ← get
          if !reading.conditions.any (·.1 = number) then
            set { reading with
              conditions := reading.conditions ++ [(number, reading.position - back)] }
          pure number
  checkLookbehind number
  return number

/-- Takes the parenthesis that closes a group which began at `start`. -/
def closing (start : Nat)
    : Reader Unit := do
  if !(← accept ')') then refuse .unterminatedGroup ((← get).position - start)

/-- What the characters after an opening parenthesis and a question mark begin. -/
inductive Opening where
  | plainGroup
  | namedGroup (name : List Char)
  | atomicGroup
  | flaggedGroup (on off : Mode)
  | lookAround (behind negated : Bool)
  | condition
  | reference (node : Node)
  | comment
  | globalFlags

/-- Takes what follows an opening parenthesis and a question mark. -/
def opening
    : Reader Opening := do
  match ← take with
  | none => refuse .unexpectedEnd
  | some (.plain ':') => return .plainGroup
  | some (.plain '#') => return .comment
  | some (.plain '=') => return .lookAround false false
  | some (.plain '!') => return .lookAround false true
  | some (.plain '(') => return .condition
  | some (.plain '>') => return .atomicGroup
  | some (.plain '<') =>
      match ← take with
      | none => refuse .unexpectedEnd
      | some (.plain '=') => return .lookAround true false
      | some (.plain '!') => return .lookAround true true
      | some token => refuse (.unknownExtension ("<" ++ token.text)) (token.chars.length + 2)
  | some (.plain 'P') =>
      if ← accept '<' then return .namedGroup (← groupName '>')
      if ← accept '=' then return .reference (← namedReference)
      match ← take with
      | none => refuse .unexpectedEnd
      | some token => refuse (.unknownExtension ("P" ++ token.text)) (token.chars.length + 2)
  | some token =>
      if token = .plain '-' || token.flag?.isSome then
        match ← takeFlags token with
        | some (on, off) => return .flaggedGroup on off
        | none => return .globalFlags
      else refuse (.unknownExtension token.text) (token.chars.length + 1)

mutual

/-- Takes alternatives; `top` says that they are those of the whole pattern, `first` that none has
been read before. -/
def alternatives (verbose top first : Bool)
    : Nat → Reader (List (List Node))
  | 0 => return []
  | fuel + 1 => do
      let terms ← sequence verbose (top && first) [] fuel
      if ← accept '|' then
        let global := (← get).mode.verbose
        let verbose := if top then global else verbose
        return terms :: (← alternatives verbose top false fuel)
      else return [terms]

/-- Takes a choice between alternatives as a sequence. -/
def choice (verbose top : Bool)
    : Nat → Reader (List Node)
  | 0 => return []
  | fuel + 1 => do
      match ← alternatives verbose top true fuel with
      | [terms] => return terms
      | several => return choiceOf several

/-- Takes terms up to a bar, a closing parenthesis or the end; `terms` are those read so far, the
latest first. Flags for the whole pattern may stand only where `first` holds and no term has been
read. -/
def sequence (verbose first : Bool) (terms : List Node)
    : Nat → Reader (List Node)
  | 0 => return terms.reverse
  | fuel + 1 => do
      match ← peek with
      | none | some (.plain '|') | some (.plain ')') => return unpacked terms.reverse
      | some token =>
          discard take
          match token with
          | .escaped c => sequence verbose first ((← termEscape c) :: terms) fuel
          | .plain c =>
              if verbose && isVerboseBlank c then sequence verbose first terms fuel
              else if verbose && c = '#' then
                skipLine ((← read).size + 1)
                sequence verbose first terms fuel
              else match c with
                | '[' => sequence verbose first ((← characterSet) :: terms) fuel
                | '.' => sequence verbose first (.anyChar :: terms) fuel
                | '^' => sequence verbose first (.anchor .lineStart :: terms) fuel
                | '$' => sequence verbose first (.anchor .lineEnd :: terms) fuel
                | '(' => parenthesis verbose first terms fuel
                | _ =>
                    if c = '*' || c = '+' || c = '?' || c = '\x7b' then
                      let start := (← get).position - 1
                      match ← counts c with
                      | none => sequence verbose first (.point c.toNat :: terms) fuel
                      | some counts =>
                          sequence verbose first (← repeatLast start counts terms) fuel
                    else sequence verbose first (.point c.toNat :: terms) fuel

/-- Takes what an opening parenthesis begins, and the terms after it. -/
def parenthesis (verbose first : Bool) (terms : List Node)
    : Nat → Reader (List Node)
  | 0 => return terms.reverse
  | fuel + 1 => do
      let start := (← get).position - 1
      if !(← accept '?') then
        let node ← captured start verbose none fuel
        sequence verbose first (node :: terms) fuel
      else match ← opening with
        | .plainGroup =>
            let body ← choice verbose false fuel
            closing start
            sequence verbose first (.group none {} {} body :: terms) fuel
        | .namedGroup name =>
            let node ← captured start verbose (some name) fuel
            sequence verbose first (node :: terms) fuel
        | .atomicGroup =>
            let body ← choice verbose false fuel
            closing start
            sequence verbose first (.atomic body :: terms) fuel
        | .flaggedGroup on off =>
            let body ← choice ((verbose || on.verbose) && !off.verbose) false fuel
            closing start
            sequence verbose first (.group none on off body :: terms) fuel
        | .lookAround behind negated =>
            let node ← lookAround start verbose behind negated fuel
            sequence verbose first (node :: terms) fuel
        | .condition =>
            let node ← condition start verbose fuel
            sequence verbose first (node :: terms) fuel
        | .reference node => sequence verbose first (node :: terms) fuel
        | .comment =>
            skipComment start ((← read).size + 1)
            sequence verbose first terms fuel
        | .globalFlags =>
            if !first || !terms.isEmpty then refuse .lateFlags ((← get).position - start)
            sequence (← get).mode.verbose first terms fuel

/-- Takes the body of a group that keeps its text. -/
def captured (start : Nat) (verbose : Bool) (name : Option (List Char))
    : Nat → Reader Node
  | 0 => return .atomic []
  | fuel + 1 => do
      let number ← openGroup name
      let body ← choice verbose false fuel
      closing start
      closeGroup number body
      return .group (some number) {} {} body

/-- Takes the body of a look ahead or behind. -/
def lookAround (start : Nat) (verbose behind negated : Bool)
    : Nat → Reader Node
  | 0 => return .atomic []
  | fuel + 1 => do
      let outside := (← get).outsideLookbehind
      if behind && outside.isNone then
        let count ← groupCount
        modify fun reading => { reading with outsideLookbehind := some count }
      let body ← choice verbose false fuel
      if behind && outside.isNone then
        modify fun reading => { reading with outsideLookbehind := none }
      closing start
      let width := (sequenceWidth (← groupWidths) body).capped
      return .look (if behind then some width else none) negated body

/-- Takes a condition and its one or two sequences. -/
def condition (start : Nat) (verbose : Bool)
    : Nat → Reader Node
  | 0 => return .atomic []
  | fuel + 1 => do
      let number ← conditionGroup
      let yes ← sequence verbose false [] fuel
      let no ←
        if ← accept '|' then
          let no ← sequence verbose false [] fuel
          if (← peek) = some (.plain '|') then refuse .tooManyBranches
          pure no
        else pure []
      closing start
      return .conditional number yes no

end

/-- Takes a whole pattern. -/
def wholePattern (mode : Mode)
    : Reader (List Node) := do
  moveTo 0
  let root ← choice mode.verbose true (8 * (← read).size + 16)
  let reading ← get
  if reading.mode.ascii && reading.mode.unicode then throw (.fault .incompatibleModes)
  if reading.position < (← read).size then refuse .unbalancedParenthesis
  match reading.conditions.find? (reading.groups.size ≤ ·.1) with
  | some (number, place) => throw (.malformed (.invalidReference number) (some place))
  | none => return root

end Reader

end Assay.Pattern
