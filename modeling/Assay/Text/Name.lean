import Assay.Text.NameTable

/-!
Characters by their names in the Unicode standard: the names of the table, and those that follow a
rule, which are made of a syllable, a number or the code point itself.
-/

namespace Assay.Text

/-! ## Names of the table -/

/-- The words that are written short. -/
def commonWordArray : Array String :=
  (commonWords.flatMap (·.splitOn " ")).toArray

/-- How many words are written as one letter. -/
def oneLetterWords : Nat := 8

/-- The place of a small letter or a digit, the letters first. -/
def shortPlace (c : Char)
    : Nat :=
  if 'a' ≤ c && c ≤ 'z' then c.toNat - 'a'.toNat else c.toNat - '0'.toNat + 26

/-- The word that is written as `first`, or as `first` and `second`. -/
def commonWord (first : Char) (second : Option Char)
    : String :=
  let place := match second with
    | none => shortPlace first
    | some second =>
        oneLetterWords + (shortPlace first - oneLetterWords) * 36 + shortPlace second
  commonWordArray[place]?.getD ""

/-- A word that has been read from its end. -/
def spelledWord (reversed : List Char)
    : List String :=
  if reversed.isEmpty then [] else [String.ofList reversed.reverse]

/-- The words of a text in which common ones are written short; `spelled` are the characters of a
word that have been read, the latest first. -/
def wordsOf (spelled : List Char)
    : List Char → List String
  | [] => spelledWord spelled
  | c :: rest =>
      if c = ' ' then spelledWord spelled ++ wordsOf [] rest
      else if 'a' ≤ c && c ≤ 'z' then
        if shortPlace c < oneLetterWords then
          spelledWord spelled ++ commonWord c none :: wordsOf [] rest
        else match rest with
          | [] => spelledWord spelled
          | d :: rest => spelledWord spelled ++ commonWord c (some d) :: wordsOf [] rest
      else wordsOf (c :: spelled) rest

/-- The names of a text by their marks, and the characters before the first mark. -/
def markedNames
    : List Char → List (Nat × List Char) × List Char
  | [] => ([], [])
  | c :: rest =>
      let (names, before) := markedNames rest
      match shareMarks.toList.findIdx? (· = c) with
      | some shared => ((shared, before) :: names, [])
      | none => (names, c :: before)

/-- The place of a name among those of a text; `previous` are the words of the name before. -/
def placeOfName? (name previous : List String)
    : List (Nat × List Char) → Option Nat
  | [] => none
  | (shared, text) :: rest =>
      let words := previous.take shared ++ wordsOf [] text
      if words = name then some 0 else (placeOfName? name words rest).map (· + 1)

/-- The code point of a run with a name, which is given by its words. -/
def NameRun.point? (run : NameRun) (name : List String)
    : Option Nat :=
  (placeOfName? name [] (markedNames (String.join run.lines).toList).1).map (run.first + ·)

/-! ## Names by rule -/

/-- A numeral in a base of at most sixteen, with capital letters. -/
def numeralValue? (base : Nat) (cs : List Char)
    : Option Nat :=
  if cs.isEmpty then none
  else cs.foldl
    (fun value c => do
      let value ← value
      let digit ←
        if '0' ≤ c && c ≤ '9' then some (c.toNat - '0'.toNat)
        else if 'A' ≤ c && c ≤ 'F' then some (c.toNat - 'A'.toNat + 10)
        else none
      if digit < base then some (value * base + digit) else none)
    (some 0)

/-- The rest of a text that begins with `front`. -/
def restAfter? (front : String) (cs : List Char)
    : Option (List Char) :=
  if front.toList.isPrefixOf cs then some (cs.drop front.length) else none

/-- Code points whose names end in the code point itself, written with one of some numbers of
digits. -/
structure PointNamedRange where
  first : Nat
  last : Nat
  front : String
  widths : List Nat

/-- The ranges of such names other than those of unified ideographs. -/
def pointNamedRanges : List PointNamedRange :=
  [
    ⟨0xF900, 0xFA6D, "CJK COMPATIBILITY IDEOGRAPH-", [4]⟩,
    ⟨0xFA70, 0xFAD9, "CJK COMPATIBILITY IDEOGRAPH-", [4]⟩,
    ⟨0x2F800, 0x2FA1D, "CJK COMPATIBILITY IDEOGRAPH-", [5]⟩,
    ⟨0x18B00, 0x18CD5, "KHITAN SMALL SCRIPT CHARACTER-", [5]⟩,
    ⟨0x1B170, 0x1B2FB, "NUSHU CHARACTER-", [5]⟩]

/-- The ranges of unified ideographs. -/
def ideographRanges : List PointNamedRange :=
  [(0x3400, 0x4DBF), (0x4E00, 0x9FFF), (0x20000, 0x2A6DF), (0x2A700, 0x2B738),
    (0x2B740, 0x2B81D), (0x2B820, 0x2CEA1), (0x2CEB0, 0x2EBE0), (0x30000, 0x3134A)].map
    fun (first, last) => ⟨first, last, "CJK UNIFIED IDEOGRAPH-", [4, 5]⟩

/-- The code point of a range that a name ends in. -/
def PointNamedRange.point? (range : PointNamedRange) (name : List Char)
    : Option Nat := do
  let digits ← restAfter? range.front name
  let value ← numeralValue? 16 digits
  if range.first ≤ value && value ≤ range.last && range.widths.contains digits.length then
    some value
  else none

/-- Characters that are numbered from `first` on; the name of the first ends in `start`, and a
numeral has at least `width` digits. -/
structure NumberedRange where
  front : String
  first : Nat
  start : Nat
  count : Nat
  width : Nat

/-- The ranges of numbered characters. -/
def numberedRanges : List NumberedRange :=
  [
    ⟨"TANGUT COMPONENT-", 0x18800, 1, 768, 3⟩,
    ⟨"VARIATION SELECTOR-", 0xFE00, 1, 16, 1⟩, ⟨"VARIATION SELECTOR-", 0xE0100, 17, 240, 1⟩,
    ⟨"VS", 0xFE00, 1, 16, 1⟩, ⟨"VS", 0xE0100, 17, 240, 1⟩]

/-- The code point of a range whose number a name ends in. -/
def NumberedRange.point? (range : NumberedRange) (name : List Char)
    : Option Nat := do
  let digits ← restAfter? range.front name
  let value ← numeralValue? 10 digits
  let isPlain := range.width < digits.length && digits.head? != some '0'
  if range.start ≤ value && value < range.start + range.count
      && (digits.length = range.width || isPlain) then
    some (range.first + (value - range.start))
  else none

/-- The names of the consonants that a Korean syllable begins with. -/
def leadingJamo : List String :=
  ["G", "GG", "N", "D", "DD", "R", "M", "B", "BB", "S", "SS", "", "J", "JJ", "C", "K", "T", "P",
    "H"]

/-- The names of the vowels of Korean syllables. -/
def vowelJamo : List String :=
  ["A", "AE", "YA", "YAE", "EO", "E", "YEO", "YE", "O", "WA", "WAE", "OE", "YO", "U", "WEO", "WE",
    "WI", "YU", "EU", "YI", "I"]

/-- The names of the consonants that a Korean syllable ends with. -/
def trailingJamo : List String :=
  ["", "G", "GG", "GS", "N", "NJ", "NH", "D", "L", "LG", "LM", "LB", "LS", "LT", "LP", "LH", "M",
    "B", "BS", "S", "SS", "NG", "J", "C", "K", "T", "P", "H"]

/-- The place of the longest of some names that a text begins with, and the rest of the text. -/
def longestJamo? (jamo : List String) (cs : List Char)
    : Option (Nat × List Char) :=
  jamo.zipIdx.foldl
    (fun best (name, place) =>
      match restAfter? name cs with
      | none => best
      | some rest =>
          match best with
          | none => some (place, rest)
          | some (_, shortest) =>
              if rest.length < shortest.length then some (place, rest) else best)
    none

/-- The Korean syllable that the rest of a name spells. -/
def syllable? (cs : List Char)
    : Option Nat := do
  let (leading, rest) ← longestJamo? leadingJamo cs
  let (vowel, rest) ← longestJamo? vowelJamo rest
  let (trailing, rest) ← longestJamo? trailingJamo rest
  if rest.isEmpty then some (0xAC00 + (leading * 21 + vowel) * 28 + trailing) else none

/-- The code point with a name. Letters may be of either case, but not in the names of syllables
and of unified ideographs. -/
def pointNamed? (name : String)
    : Option Nat :=
  match restAfter? "HANGUL SYLLABLE " name.toList with
  | some rest => syllable? rest
  | none =>
      match ideographRanges.findSome? (·.point? name.toList) with
      | some point => some point
      | none =>
          let capitals := name.toList.map Char.toUpper
          let words := (String.ofList capitals).splitOn " "
          match pointNamedRanges.findSome? (·.point? capitals) with
          | some point => some point
          | none =>
              match numberedRanges.findSome? (·.point? capitals) with
              | some point => some point
              | none =>
                  match otherNames.lookup (String.ofList capitals) with
                  | some point => some point
                  | none => nameRuns.findSome? (·.point? words)

end Assay.Text
