import DeviceHub.Url.Basic

/-!
# Reading URLs

A text is read on its own or against a base. Spaces and controls around it and tabs and line breaks
inside it count for nothing. Schemes of the network read a backslash as a slash and need a host.
-/
namespace DeviceHub.Url

/-- A text without what counts for nothing. -/
def stripped (text : String) : List Char :=
  let isEdge (c : Char) : Bool := c.toNat ≤ 32
  let trimmed := ((text.toList.dropWhile isEdge).reverse.dropWhile isEdge).reverse
  trimmed.filter fun c => c ≠ '\t' ∧ c ≠ '\n' ∧ c ≠ '\r'

def isLetter (c : Char) : Bool := ('a' ≤ c && c ≤ 'z') || ('A' ≤ c && c ≤ 'Z')

/-- The scheme in lower case and what follows its colon. -/
def scheme? (cs : List Char) : Option (String × List Char) :=
  let isPart (c : Char) : Bool := isLetter c || Decimal.isDigit c || c = '+' || c = '-' || c = '.'
  match cs with
  | c :: _ =>
    if isLetter c then
      match cs.dropWhile isPart with
      | ':' :: rest => some (String.ofList (Text.asciiLower (cs.takeWhile isPart)), rest)
      | _ => none
    else none
  | [] => none

def isSlash (kind : SchemeKind) (c : Char) : Bool := c = '/' || (kind.isSpecial && c = '\\')

/-- Whether a character ends the authority. -/
def endsAuthority (kind : SchemeKind) (c : Char) : Bool :=
  isSlash kind c || c = '?' || c = '#'

/-! ## Paths -/

/-- A letter and a colon or a bar. -/
def isDriveLetter (cs : List Char) : Bool :=
  match cs with
  | [c, d] => isLetter c && (d = ':' || d = '|')
  | _ => false

def isNormalDriveLetter (s : String) : Bool := isDriveLetter s.toList && s.toList.getLast? = some ':'

def isDoubleDot (cs : List Char) : Bool :=
  let s := Text.replaceAll "%2e".toList ['.'] (Text.asciiLower cs)
  s = ['.', '.']

def isSingleDot (cs : List Char) : Bool :=
  let s := Text.replaceAll "%2e".toList ['.'] (Text.asciiLower cs)
  s = ['.']

/-- The segments without the last; the drive letter of a file stays. -/
def shortened (kind : SchemeKind) (segments : List String) : List String :=
  match kind, segments with
  | .file, [s] => if isNormalDriveLetter s then [s] else []
  | _, _ => segments.dropLast

/-- Pieces of a path put behind some segments, dots resolved. -/
def resolved (kind : SchemeKind) (segments : List String) : List (List Char) → List String
  | [] => segments
  | piece :: rest =>
    let written := encodeWith pathSet piece
    let isLast := rest.isEmpty
    let segments :=
      if isDoubleDot piece then
        let kept := shortened kind segments
        if isLast then kept ++ [""] else kept
      else if isSingleDot piece then (if isLast then segments ++ [""] else segments)
      else if kind = .file ∧ segments = [] ∧ isDriveLetter written then
        [String.ofList (written.take 1) ++ ":"]
      else segments ++ [String.ofList written]
    resolved kind segments rest

/-- The pieces of a text at its slashes. -/
def slashPieces (kind : SchemeKind) (cs : List Char) : List (List Char) :=
  Text.pieces '/' (cs.map fun c => if isSlash kind c then '/' else c)

/-- The path that a text makes behind some segments; files have no empty segments in front. -/
def pathBehind (kind : SchemeKind) (segments : List String) (cs : List Char) : Path :=
  let list := resolved kind segments (slashPieces kind cs)
  if kind = .file then
    let list := list.dropWhile (· = "")
    .segments (if list = [] then [""] else list)
  else .segments list

/-- The path behind an authority or at a leading slash. -/
def pathFromRoot (kind : SchemeKind) (cs : List Char) : Path :=
  match cs with
  | [] => if kind.isSpecial then .segments [""] else .segments []
  | c :: r => if isSlash kind c then pathBehind kind [] r else pathBehind kind [] (c :: r)

/-! ## Query and fragment -/

/-- A text up to its query or fragment, the query and the fragment. -/
def splitTail (cs : List Char) : List Char × Option (List Char) × Option (List Char) :=
  let (front, fragment) := match Text.cut '#' cs with
    | some (a, b) => (a, some b)
    | none => (cs, none)
  match Text.cut '?' front with
  | some (a, b) => (a, some b, fragment)
  | none => (front, none, fragment)

def queryText (kind : SchemeKind) (cs : List Char) : String :=
  String.ofList (encodeWith (if kind.isSpecial then specialQuerySet else querySet) cs)

def fragmentText (cs : List Char) : String := String.ofList (encodeWith fragmentSet cs)

/-- A URL given its query and fragment. -/
def withTail (u : Url) (kind : SchemeKind) (query fragment : Option (List Char)) : Url :=
  { u with query := query.map (queryText kind), fragment := fragment.map fragmentText }

/-! ## Authorities -/

/-- The sides of the last separator. -/
def cutLast (sep : Char) (cs : List Char) : Option (List Char × List Char) :=
  (Text.cut sep cs.reverse).map fun (b, a) => (a.reverse, b.reverse)

def userinfoText (cs : List Char) : String := String.ofList (encodeWith userinfoSet cs)

/-- User name and password, each possibly empty. -/
def userinfo (cs : List Char) : String × Option String :=
  match Text.cut ':' cs with
  | some (name, password) =>
    (userinfoText name, if password = [] then none else some (userinfoText password))
  | none => (userinfoText cs, none)

/-- The host of a text and what follows; a colon in brackets does not end it. -/
def splitHost (inBrackets : Bool) : List Char → List Char × List Char
  | [] => ([], [])
  | c :: r =>
    if c = ':' ∧ ¬inBrackets then ([], c :: r)
    else
      let inside := if c = '[' then true else if c = ']' then false else inBrackets
      let (host, rest) := splitHost inside r
      (c :: host, rest)

/-- A port below 65536, unless it is the scheme's own or has no digit. -/
def port? (scheme : String) (cs : List Char) : Except Fault (Option Nat) :=
  let digits := cs.takeWhile Decimal.isDigit
  let n := Decimal.ofDigits digits
  if 65535 < n then .error .invalidPort
  else match cs.dropWhile Decimal.isDigit with
    | [] => .ok (if digits = [] ∨ defaultPort? scheme = some n then none else some n)
    | c :: _ =>
      if c = '\\' then .ok (if digits = [] ∨ defaultPort? scheme = some n then none else some n)
      else .error .invalidPort

/-- Where the port ends: a backslash ends it for every scheme. -/
def splitPort (cs : List Char) : List Char × List Char :=
  (cs.takeWhile (· ≠ '\\'), cs.dropWhile (· ≠ '\\'))

/-- The authority of a text without slash, query or fragment, and what a backslash in the port
leaves over. -/
def authority? (scheme : String) (kind : SchemeKind) (isEnd : Bool) (cs : List Char) :
    Except Fault (Authority × List Char) := do
  let (user, rest) := match cutLast '@' cs with
    | some (user, rest) => (some user, rest)
    | none => (none, cs)
  if user = some [] ∧ rest = [] ∧ ¬isEnd then .error .emptyHost
  else
    let (name, password) := match user with
      | some user => userinfo user
      | none => ("", none)
    let (hostText, rest) := splitHost false rest
    let host ←
      if kind = .other then Host.parseOpaque hostText
      else if hostText = [] then .error .emptyHost
      else Host.parse hostText
    let isEmpty := decide (host = .domain "")
    if isEmpty ∧ rest ≠ [] then .error .emptyHost
    else if isEmpty ∧ (name ≠ "" ∨ password ≠ none) then .error .emptyHost
    else
      let (portText, left) := match rest with
        | ':' :: r => splitPort r
        | r => ([], r)
      let port ← port? scheme portText
      .ok (⟨name, password, host, port⟩, left)

/-- The URL behind `scheme://`. -/
def behindSlashes (scheme : String) (kind : SchemeKind) (cs : List Char) : Except Fault Url := do
  let authorityText := cs.takeWhile fun c => !endsAuthority kind c
  let rest := cs.dropWhile fun c => !endsAuthority kind c
  let (authority, left) ← authority? scheme kind rest.isEmpty authorityText
  let (pathText, query, fragment) := splitTail (left ++ rest)
  .ok (withTail ⟨scheme, some authority, pathFromRoot kind pathText, none, none⟩ kind query fragment)

/-! ## Files -/

/-- The host of a file; the empty one for this computer. -/
def fileHost (cs : List Char) : Except Fault Host :=
  if cs = [] then .ok (.domain "")
  else do
    let host ← Host.parse cs
    .ok (if host = .domain "localhost" then .domain "" else host)

def fileUrl (host : Host) (path : Path) : Url :=
  ⟨"file", some ⟨"", none, host, none⟩, path, none, none⟩

/-- Whether a path starts with a drive letter. -/
def startsWithDrive (cs : List Char) : Bool :=
  isDriveLetter (cs.take 2) &&
    match cs.drop 2 with
    | [] => true
    | c :: _ => c = '/' || c = '\\' || c = '?' || c = '#'

def baseSegments (base : Url) : List String :=
  match base.path with
  | .segments list => list
  | .plain _ => []

/-- The URL behind `file:`. -/
def file (base : Option Url) (cs : List Char) : Except Fault Url := do
  let (front, query, fragment) := splitTail cs
  let tail (u : Url) : Url := withTail u .file query fragment
  match front with
  | a :: b :: r =>
    if isSlash .file a ∧ isSlash .file b then
      let hostText := r.takeWhile fun c => !isSlash .file c
      if isDriveLetter hostText then .ok (tail (fileUrl (.domain "") (pathBehind .file [] r)))
      else
        let host ← fileHost hostText
        let path := pathFromRoot .file (r.dropWhile fun c => !isSlash .file c)
        let host := match path with
          | .segments (s :: _) => if isNormalDriveLetter s then .domain "" else host
          | _ => host
        .ok (tail (fileUrl host path))
    else relative front query fragment
  | front => relative front query fragment
where
  relative (front : List Char) (query fragment : Option (List Char)) : Except Fault Url :=
    let tail (u : Url) : Url := withTail u .file query fragment
    match front, base with
    | c :: r, base =>
      if isSlash .file c then
        let host := if startsWithDrive r then .domain ""
          else ((base.bind (·.authority)).map (·.host)).getD (.domain "")
        let kept := match base.map baseSegments with
          | some (s :: _) => if isNormalDriveLetter s ∧ ¬startsWithDrive r then [s] else []
          | _ => []
        .ok (tail (fileUrl (if kept = [] then host else .domain "") (pathBehind .file kept r)))
      else
        match base with
        | some b =>
          if startsWithDrive (c :: r) then .ok (tail (fileUrl (.domain "") (pathBehind .file [] (c :: r))))
          else
            .ok (tail { b with path := pathBehind .file (shortened .file (baseSegments b)) (c :: r) })
        | none => .ok (tail (fileUrl (.domain "") (pathBehind .file [] (c :: r))))
    | [], some b =>
      .ok (match query with
        | some _ => tail b
        | none => { b with fragment := fragment.map fragmentText })
    | [], none => .ok (tail (fileUrl (.domain "") (.segments [""])))

/-! ## Whole URLs -/

/-- A reference against a base that is no file. -/
def relativeTo (base : Url) (cs : List Char) : Except Fault Url :=
  let kind := schemeKind base.scheme
  let (front, query, fragment) := splitTail cs
  let tail (u : Url) : Url := withTail u kind query fragment
  let isSlash (c : Char) : Bool := c = '/' || c = '\\'
  match front with
  | [] =>
    .ok (match query with
      | some _ => tail base
      | none => { base with fragment := fragment.map fragmentText })
  | c :: r =>
    if isSlash c then
      match r with
      | d :: _ =>
        if isSlash d then
          let plain := "//".toList.isPrefixOf cs
          behindSlashes base.scheme kind (if plain then cs.drop 2 else cs.dropWhile isSlash)
        else .ok (tail { base with path := pathBehind kind [] r })
      | [] => .ok (tail { base with path := pathBehind kind [] [] })
    else .ok (tail { base with path := pathBehind kind (baseSegments base).dropLast (c :: r) })

/-- The URL behind a scheme. -/
def behindScheme (scheme : String) (base : Option Url) (cs : List Char) : Except Fault Url :=
  match schemeKind scheme with
  | .file => file (base.filter fun b => b.scheme = "file") cs
  | .network =>
    let slashes := cs.takeWhile fun c => c = '/' || c = '\\'
    match base with
    | some b =>
      if slashes.length < 2 ∧ b.scheme = scheme then relativeTo b cs
      else behindSlashes scheme .network (cs.drop slashes.length)
    | none => behindSlashes scheme .network (cs.drop slashes.length)
  | .other =>
    if "//".toList.isPrefixOf cs then behindSlashes scheme .other (cs.drop 2)
    else
      let (front, query, fragment) := splitTail cs
      let path := match front with
        | '/' :: r => pathBehind .other [] r
        | r => .plain (String.ofList (encodeWith controls r))
      .ok (withTail ⟨scheme, none, path, none, none⟩ .other query fragment)

/-- The URL of a text, read against a base when there is one. -/
def parseAgainst (base : Option Url) (text : String) : Except Fault Url :=
  let cs := stripped text
  match scheme? cs with
  | some (scheme, rest) => behindScheme scheme base rest
  | none =>
    match base with
    | none => .error .relativeWithoutBase
    | some b =>
      if cs.head? = some '#' then .ok { b with fragment := some (fragmentText (cs.drop 1)) }
      else if b.isPlain then .error .relativeToOpaque
      else if b.scheme = "file" then file (some b) cs
      else relativeTo b cs

/-- The URL of a text. -/
def parse (text : String) : Except Fault Url := parseAgainst none text

/-- The URL that a reference means on a page of this URL. -/
def join (base : Url) (reference : String) : Except Fault Url := parseAgainst (some base) reference

end DeviceHub.Url
