import Assay.Pattern.Program

/-!
Matching a program: every step is given what to do after it, and what it gives up it hands back
with what the attempt has left behind. Marks are taken back by their number alone, and in full only
within a repetition; a possessive repetition goes on from where its last attempt has left off.
-/

namespace Assay.Pattern

/-- What a match keeps on its way. -/
structure Memory where
  /-- Where the last part that was tried on its own has left off. -/
  reached : Nat
  /-- Where each group began and ended, at twice the group's place and right behind. -/
  marks : Array (Option Nat)
  /-- How many of the marks count. -/
  valid : Nat

namespace Memory

/-- Keeps a position as a mark. The marks passed over are taken away. -/
def mark (memory : Memory) (index position : Nat)
    : Memory :=
  if index < memory.valid then
    { memory with marks := memory.marks.setIfInBounds index (some position) }
  else
    let skipped := List.range' memory.valid (index - memory.valid)
    let marks := skipped.foldl (·.setIfInBounds · none) memory.marks
    { memory with marks := marks.setIfInBounds index (some position), valid := index + 1 }

/-- The memory after an attempt that began in `former`; whether the marks come back too is for
`whole` to say. -/
def restored (memory former : Memory) (whole : Bool)
    : Memory :=
  { memory with
    marks := if whole then former.marks else memory.marks
    valid := former.valid }

/-- The two ends of the text that a group has kept. -/
def kept? (memory : Memory) (number : Nat)
    : Option (Nat × Nat) := do
  if memory.valid < 2 * number then none
  else
    let first ← (memory.marks[2 * number - 2]?).join
    let last ← (memory.marks[2 * number - 1]?).join
    if first ≤ last then some (first, last) else none

/-- Whether some group ends before it begins. -/
def isTwisted (memory : Memory)
    : Bool :=
  (List.range (memory.valid / 2)).any fun place =>
    match (memory.marks[2 * place]?).join, (memory.marks[2 * place + 1]?).join with
    | some first, some last => last < first
    | _, _ => false

end Memory

/-- How an attempt has ended. -/
structure Outcome where
  matched : Bool
  memory : Memory

/-- An attempt that has failed and leaves off at `position`, unless it has not. -/
def Outcome.leavingOff (outcome : Outcome) (position : Nat)
    : Outcome :=
  if outcome.matched then outcome
  else { outcome with memory := { outcome.memory with reached := position } }

/-- What is tried from a position on. -/
abbrev Attempt : Type :=
  Nat → Memory → Outcome

/-- The attempt that ends a part which is tried on its own. -/
def arrive
    : Attempt :=
  fun position memory => ⟨true, { memory with reached := position }⟩

/-- Whether a character of a word stands at a position. -/
def isWordAt (text : Array Char) (ascii : Bool) (position : Nat)
    : Bool :=
  ((text[position]?).map (Category.word.holds ascii)).getD false

/-- Whether a position lies between a word and something else. -/
def splitsWord (text : Array Char) (ascii : Bool) (position : Nat)
    : Bool :=
  (0 < position && isWordAt text ascii (position - 1)) != isWordAt text ascii position

/-- Whether an anchor holds at a position. In the empty text no position is a word boundary, nor
is any the opposite of one. -/
def Anchor.holds (text : Array Char) (multiline ascii : Bool) (position : Nat)
    : Anchor → Bool
  | .textStart => position = 0
  | .textEnd => position = text.size
  | .lineStart => position = 0 || (multiline && text[position - 1]? = some '\n')
  | .lineEnd =>
      position = text.size
        || (text[position]? = some '\n' && (multiline || position + 1 = text.size))
  | .boundary => !text.isEmpty && splitsWord text ascii position
  | .notBoundary => !text.isEmpty && !splitsWord text ascii position

/-- Whether the `count` characters from `first` on come again at `position`. -/
def recurs (text : Array Char) (folding : Folding) (first position : Nat)
    : Nat → Bool
  | 0 => true
  | count + 1 =>
      match text[first]?, text[position]? with
      | some a, some b =>
          folding.apply a.toNat == folding.apply b.toNat
            && recurs text folding (first + 1) (position + 1) count
      | _, _ => false

/-- How many characters from `position` on, `limit` at most, a probe accepts. -/
def stretch (text : Array Char) (probe : Probe) (position : Nat)
    : Nat → Nat
  | 0 => 0
  | limit + 1 =>
      if probe.acceptsAt text position then stretch text probe (position + 1) limit + 1 else 0

/-- Whether it is plain that a program cannot match at a position: it begins with a probe that
folds nothing and accepts nothing there. -/
def isHopeless (text : Array Char) (position : Nat)
    : List Instruction → Bool
  | .probe probe :: _ => probe.isExact && !probe.acceptsAt text position
  | _ => false

/-! ## Repetitions of a probe -/

/-- Tries `next` behind `extra` characters from `start` on, then behind ever fewer. Where a literal
is known to come next, other places are passed over. -/
def giveBack (text : Array Char) (repeating : Bool) (ahead : Option Nat) (next : Attempt)
    (former : Memory) (start : Nat)
    : Nat → Memory → Outcome :=
  fun extra memory =>
    let position := start + extra
    let outcome :=
      if ahead.all fun n => (Probe.literal n).acceptsAt text position then
        next position { memory with reached := position }
      else ⟨false, memory⟩
    if outcome.matched then outcome
    else
      let memory := outcome.memory.restored former repeating
      match extra with
      | 0 => ⟨false, memory⟩
      | fewer + 1 => giveBack text repeating ahead next former start fewer memory

/-- Tries `next` at a position, then behind ever more characters that a probe accepts, up to
`extra` of them. -/
def takeMore (text : Array Char) (repeating : Bool) (probe : Probe) (next : Attempt)
    (former : Memory)
    : Nat → Attempt :=
  fun extra position memory =>
    let outcome := next position { memory with reached := position }
    if outcome.matched then outcome
    else
      let memory := outcome.memory.restored former repeating
      if probe.acceptsAt text position then
        let reached := if probe.isFoldedSet then position + 1 else position
        match extra with
        | 0 => ⟨false, { memory with reached }⟩
        | fewer + 1 =>
            takeMore text repeating probe next former fewer (position + 1)
              { memory with reached }
      else ⟨false, { memory with reached := position }⟩

/-- Tries several characters that a probe accepts, and `next` behind them. -/
def loopProbe (text : Array Char) (repeating : Bool) (ahead : Option Nat) (greed : Greed)
    (least : Nat) (most : Option Nat) (probe : Probe) (next : Attempt)
    : Attempt :=
  fun position memory =>
    let rest := text.size - position
    if rest < least then ⟨false, memory⟩
    else
      let limit := match greed with
        | .lazy => least
        | _ => (most.map (min rest)).getD rest
      let count := stretch text probe position limit
      let memory :=
        { memory with reached := if probe.isFoldedSet then position + count else position }
      if count < least then ⟨false, memory⟩
      else match greed with
        | .greedy =>
            giveBack text repeating ahead next memory (position + least) (count - least) memory
        | .lazy =>
            let extra := (most.map (· - least)).getD rest
            takeMore text repeating probe next memory extra (position + least) memory
        | .possessive =>
            next (position + count) { memory with reached := position + count }

/-! ## Repetitions of a program -/

/-- Rounds of a repetition that tries another round before it goes on. A round that has not moved
is the last. -/
def loopGreedy (least : Nat) (most : Option Nat) (body : Attempt → Attempt) (next : Attempt)
    : Nat → Nat → Option Nat → Attempt
  | 0, _, _, _, memory => ⟨false, memory⟩
  | fuel + 1, count, last, position, memory =>
      let here := { memory with reached := position }
      if count < least then
        (body (loopGreedy least most body next fuel (count + 1) last) position here).leavingOff
          position
      else if most.all (count < ·) && last != some position then
        let outcome :=
          body (loopGreedy least most body next fuel (count + 1) (some position)) position here
        if outcome.matched then outcome
        else
          let memory := { outcome.memory.restored here true with reached := position }
          (next position memory).leavingOff position
      else (next position here).leavingOff position

/-- Rounds of a repetition that goes on before it tries another round. -/
def loopLazy (repeating : Bool) (least : Nat) (most : Option Nat) (body : Attempt → Attempt)
    (next : Attempt)
    : Nat → Nat → Option Nat → Attempt
  | 0, _, _, _, memory => ⟨false, memory⟩
  | fuel + 1, count, last, position, memory =>
      let here := { memory with reached := position }
      if count < least then
        (body (loopLazy repeating least most body next fuel (count + 1) last) position
          here).leavingOff position
      else
        let outcome := next position here
        if outcome.matched then outcome
        else
          let memory := { outcome.memory.restored here repeating with reached := position }
          if most.all (count < ·) && last != some position then
            (body (loopLazy repeating least most body next fuel (count + 1) (some position))
              position memory).leavingOff position
          else ⟨false, memory⟩

/-- The least number of rounds of a repetition that never gives back. -/
def possessLeast (body : Attempt) (start : Nat)
    : Nat → Memory → Outcome
  | 0, memory => ⟨true, memory⟩
  | count + 1, memory =>
      let outcome := body memory.reached memory
      if outcome.matched then possessLeast body start count outcome.memory
      else outcome.leavingOff start

/-- The further rounds of a repetition that never gives back. The round that fails takes its marks
back, but not how far it has come. -/
def possessMore (body : Attempt)
    : Nat → Option Nat → Memory → Memory
  | 0, _, memory => memory
  | fuel + 1, last, memory =>
      if last = some memory.reached then memory
      else
        let outcome := body memory.reached memory
        if outcome.matched then possessMore body fuel (some memory.reached) outcome.memory
        else outcome.memory.restored memory true

/-! ## Programs -/

mutual

/-- Tries a step and `next` behind it. In a repetition (`repeating`) failed attempts leave no
marks; `ahead` is the literal that is known to come next. -/
def Instruction.attempt (text : Array Char)
    : Instruction → Bool → Option Nat → Attempt → Attempt
  | .probe probe, _, _, next => fun position memory =>
      if probe.acceptsAt text position then next (position + 1) memory else ⟨false, memory⟩
  | .anchor anchor multiline ascii, _, _, next => fun position memory =>
      if anchor.holds text multiline ascii position then next position memory
      else ⟨false, memory⟩
  | .mark index, _, _, next => fun position memory =>
      next position (memory.mark index position)
  | .branch alternatives, repeating, _, next => fun position memory =>
      attemptAny text alternatives repeating next memory position memory
  | .loopProbe greed least most probe, repeating, ahead, next =>
      loopProbe text repeating ahead greed least most probe next
  | .loop .greedy least most body, _, _, next => fun position memory =>
      loopGreedy least most (attemptAll text body true none) next (least + text.size + 2) 0 none
        position memory
  | .loop .lazy least most body, repeating, _, next => fun position memory =>
      loopLazy repeating least most (attemptAll text body true none) next
        (least + text.size + 2) 0 none position memory
  | .loop .possessive least most body, repeating, _, next => fun position memory =>
      let body := attemptAll text body repeating none arrive
      let outcome := possessLeast body position least { memory with reached := position }
      if outcome.matched then
        let rounds := (most.map (· - least)).getD (text.size + 2)
        let memory := possessMore body (min rounds (text.size + 2)) none outcome.memory
        next memory.reached memory
      else outcome
  | .atomic body, repeating, _, next => fun position memory =>
      let outcome :=
        attemptAll text body repeating none arrive position { memory with reached := position }
      if outcome.matched then next outcome.memory.reached outcome.memory
      else outcome.leavingOff position
  | .look back false body, repeating, _, next => fun position memory =>
      if position < back then ⟨false, memory⟩
      else
        let start := position - back
        let outcome :=
          attemptAll text body repeating none arrive start { memory with reached := start }
        if outcome.matched then next position outcome.memory else outcome
  | .look back true body, repeating, _, next => fun position memory =>
      if position < back then next position memory
      else
        let start := position - back
        let outcome :=
          attemptAll text body repeating none arrive start { memory with reached := start }
        if outcome.matched then { outcome with matched := false }
        else next position (outcome.memory.restored memory repeating)
  | .reference number folding, _, _, next => fun position memory =>
      match memory.kept? number with
      | none => ⟨false, memory⟩
      | some (first, last) =>
          if recurs text folding first position (last - first) then
            next (position + (last - first)) memory
          else ⟨false, memory⟩
  | .conditional number yes no, repeating, ahead, next => fun position memory =>
      if (memory.kept? number).isSome then
        let ahead := if no.isEmpty then ahead else none
        attemptAll text yes repeating ahead next position memory
      else attemptAll text no repeating ahead next position memory

/-- Tries a program and `next` behind it. -/
def attemptAll (text : Array Char)
    : List Instruction → Bool → Option Nat → Attempt → Attempt
  | [], _, _, next => next
  | instruction :: rest, repeating, ahead, next =>
      instruction.attempt text repeating (literalAhead ahead rest)
        (attemptAll text rest repeating ahead next)

/-- Tries several programs, each with `next` behind it. -/
def attemptAny (text : Array Char)
    : List (List Instruction) → Bool → Attempt → Memory → Attempt
  | [], _, _, _ => fun _ memory => ⟨false, memory⟩
  | program :: rest, repeating, next, former => fun position memory =>
      if isHopeless text position program then
        attemptAny text rest repeating next former position memory
      else
        let outcome :=
          attemptAll text program repeating none next position { memory with reached := position }
        if outcome.matched then outcome
        else
          attemptAny text rest repeating next former position
            (outcome.memory.restored former repeating)

end

end Assay.Pattern
