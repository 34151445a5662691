import Assay.Format.Address

/-!
References to resources as texts: their characters, their parts, and the places where brackets and
colons may stand.
-/

namespace Assay.Format
open Number Text

/-- An ASCII letter or digit, or one of the four marks that never need an escape. -/
def isUnreserved (c : Char)
    : Bool :=
  c.isAlphanum || "-._~".toList.contains c

/-- A mark that may set the parts of a part apart. -/
def isSubDelimiter (c : Char)
    : Bool :=
  "!$&'()*+,;=".toList.contains c

/-- A mark that sets parts apart. -/
def isGeneralDelimiter (c : Char)
    : Bool :=
  ":/?#[]@".toList.contains c

/-- Whether a text has only characters that a reference may hold, others being escaped with a
percent sign and two hexadecimal digits. -/
def hasUriCharacters
    : List Char → Bool
  | [] => true
  | '%' :: high :: low :: rest => isHexDigit high && isHexDigit low && hasUriCharacters rest
  | c :: rest =>
      (isUnreserved c || isSubDelimiter c || isGeneralDelimiter c) && hasUriCharacters rest

/-- A text up to the first character that `isEnd` holds of, and what follows from there on. -/
def splitBefore (isEnd : Char → Bool) (cs : List Char)
    : List Char × List Char :=
  (cs.takeWhile (!isEnd ·), cs.dropWhile (!isEnd ·))

/-- The five parts of a reference. -/
structure UriParts where
  scheme : Option (List Char)
  authority : Option (List Char)
  path : List Char
  query : Option (List Char)
  fragment : Option (List Char)
deriving DecidableEq, Repr

/-- The part behind a mark, if a text begins with it. -/
def behindMark? (mark : Char)
    : List Char → Option (List Char)
  | [] => none
  | c :: rest => if c = mark then some rest else none

/-- The parts of a reference: a scheme is what stands before a colon in its first segment, an
authority what stands behind two slashes. -/
def UriParts.ofText (cs : List Char)
    : UriParts :=
  let head := (splitBefore (fun c => c == '/' || c == '?' || c == '#') cs).1
  let (scheme, rest) :=
    if head.contains ':' then
      let (scheme, rest) := splitBefore (· == ':') cs
      (some scheme, rest.drop 1)
    else (none, cs)
  let (authority, rest) := match rest with
    | '/' :: '/' :: rest =>
        let (authority, rest) := splitBefore (fun c => c == '/' || c == '?' || c == '#') rest
        (some authority, rest)
    | _ => (none, rest)
  let (beforeFragment, fragment) := splitBefore (· == '#') rest
  let (path, query) := splitBefore (· == '?') beforeFragment
  { scheme, authority, path, query := behindMark? '?' query,
    fragment := behindMark? '#' fragment }

/-- Whether a text can be a scheme. -/
def isScheme
    : List Char → Bool
  | [] => false
  | c :: rest => c.isAlpha && rest.all fun c => c.isAlphanum || "+.-".toList.contains c

/-- A square bracket. -/
def isBracket (c : Char)
    : Bool :=
  c == '[' || c == ']'

/-- Whether a text is an address of a later version: its mark, a version and what follows a
point. -/
def isLaterAddress
    : List Char → Bool
  | 'v' :: rest =>
      let (version, address) := splitBefore (· == '.') rest
      !version.isEmpty && version.all isHexDigit && 2 ≤ address.length
        && (address.drop 1).all fun c => isUnreserved c || isSubDelimiter c || c == ':'
  | _ => false

/-- Whether a text can stand between the brackets of a host. -/
def isLiteralAddress (cs : List Char)
    : Bool :=
  isGroupedAddress cs || isLaterAddress cs

/-- Whether a text can be a host in brackets, perhaps with digits behind a colon. -/
def isLiteralHost
    : List Char → Bool
  | '[' :: rest =>
      let (address, behind) := splitBefore (· == ']') rest
      isLiteralAddress address &&
        match behind.drop 1 with
        | [] => !behind.isEmpty
        | colon :: digits => colon == ':' && digits.all isAsciiDigit
  | _ => false

/-- Whether an authority that holds a bracket is well formed: perhaps a user before an at sign, and
a host in brackets. -/
def isLiteralAuthority (cs : List Char)
    : Bool :=
  let (user, rest) := splitBefore (fun c => c == '@' || isBracket c) cs
  match rest with
  | '@' :: host => isLiteralHost host
  | host => user.isEmpty && isLiteralHost host

/-- Whether an authority is well formed; without brackets any is. -/
def isAuthority (cs : List Char)
    : Bool :=
  !cs.any isBracket || isLiteralAuthority cs

/-- Whether the parts of a reference may stand where they do. -/
def UriParts.areWellFormed (parts : UriParts)
    : Bool :=
  parts.scheme.all isScheme && parts.authority.all isAuthority
    && !parts.path.any isBracket
    && parts.query.all (fun query => !query.any isBracket)
    && parts.fragment.all (fun fragment => !fragment.any fun c => c == '#' || isBracket c)

/-- Whether a text is a reference to a resource, absolute or relative. -/
def isUri (cs : List Char)
    : Bool :=
  hasUriCharacters cs && (UriParts.ofText cs).areWellFormed

end Assay.Format
