import ScriptSandbox.Url.Basic

/-!
# Reading URLs

A URL is read from left to right: scheme, authority, path, query and fragment. Blanks and controls
at the ends of the text are left out, and so are tabs and line breaks anywhere in it. A reference
without a scheme is read relative to a base.
-/
namespace ScriptSandbox.Url

/-- A tab or a line break. -/
def isIgnored (c : Char) : Bool := c = '\t' || c = '\n' || c = '\r'

/-- The characters of a text that count. -/
def significant (text : List Char) : List Char :=
  let isEdge (c : Char) : Bool := c.toNat ≤ 0x20
  (((text.dropWhile isEdge).reverse.dropWhile isEdge).reverse).filter (!isIgnored ·)

/-- The scheme at the front of a text, in lower case, and what follows its colon. -/
def takeScheme (text : List Char) : Option (String × List Char) :=
  let isSchemeChar (c : Char) : Bool :=
    Ascii.isLetter c || Ascii.isDigit c || c = '+' || c = '-' || c = '.'
  match text with
  | [] => none
  | first :: _ =>
    if Ascii.isLetter first then
      match text.dropWhile isSchemeChar with
      | ':' :: rest => some (String.ofList ((text.takeWhile isSchemeChar).map Ascii.lower), rest)
      | _ => none
    else none

/-- Whether a character is a slash, for special schemes of either slant. -/
def isSlash (special : Bool) (c : Char) : Bool := c = '/' || (special && c = '\\')

/-- Whether a character ends the authority. -/
def endsAuthority (special : Bool) (c : Char) : Bool := isSlash special c || c = '?' || c = '#'

/-- The user name and the password before the last at sign of the authority, and what follows it. -/
def takeCredentials (special : Bool) (text : List Char) :
    Except Fault ((String × Option String) × List Char) :=
  let region := text.takeWhile (!endsAuthority special ·)
  let encode (part : List Char) : String := String.ofList (Percent.encode Percent.inUserinfo part)
  if !region.contains '@' then .ok (("", none), text)
  else
    -- Earlier at signs belong to the credentials.
    let tail := (region.reverse.takeWhile (· != '@')).reverse
    let before := region.take (region.length - tail.length - 1)
    let rest := text.drop (before.length + 1)
    if before.isEmpty then
      match rest with
      | c :: _ => if endsAuthority special c then .error .emptyHost else .ok (("", none), rest)
      | [] => .ok (("", none), rest)
    else
      let name := before.takeWhile (· != ':')
      match before.dropWhile (· != ':') with
      | _ :: secret@(_ :: _) => .ok ((encode name, some (encode secret)), rest)
      | _ => .ok ((encode name, none), rest)

/-- The host at the front of a text, up to a colon outside brackets or the end of the authority. -/
def takeHost (special : Bool) (text : List Char) : List Char × List Char :=
  go text false []
where
  go : List Char → Bool → List Char → List Char × List Char
    | [], _, found => (found.reverse, [])
    | c :: rest, inBrackets, found =>
      if (c = ':' && !inBrackets) || endsAuthority special c then (found.reverse, c :: rest)
      else go rest (c = '[' || (inBrackets && c != ']')) (c :: found)

/-- The port after a colon, none when it is the scheme's own, and what follows it. -/
def takePort (scheme : String) (text : List Char) : Except Fault (Option Nat × List Char) :=
  match text with
  | ':' :: rest =>
    let digits := rest.takeWhile Ascii.isDigit
    let after := rest.dropWhile Ascii.isDigit
    -- Once the number is too large it stays as it is; how large does not matter.
    let number := digits.foldl (fun n c => if n ≤ 65535 then 10 * n + (c.toNat - 48) else n) 0
    let ended := match after with
      | [] => true
      | c :: _ => c = '/' || c = '\\' || c = '?' || c = '#'
    if 65535 < number ∨ !ended then .error .invalidPort
    else .ok (if digits.isEmpty ∨ some number = defaultPort? scheme then none else some number, after)
  | text => .ok (none, text)

/-! ### Paths -/

/-- A segment that stays where it is. -/
def isSingleDot (segment : List Char) : Bool :=
  [".", "%2e"].any fun dot => segment.map Ascii.lower = dot.toList

/-- A segment that leads up. -/
def isDoubleDot (segment : List Char) : Bool :=
  ["..", "%2e.", ".%2e", "%2e%2e"].any fun dots => segment.map Ascii.lower = dots.toList

/-- A drive, which no segment leads up from. -/
def isDrive (segment : List Char) : Bool :=
  match segment with
  | [letter, mark] => Ascii.isLetter letter && (mark = ':' || mark = '|')
  | _ => false

/-- Takes a segment away from the end of a path, listed in reverse. -/
def popSegment : List (List Char) → List (List Char)
  | [] => []
  | last :: rest => if isDrive last then last :: rest else rest

/-- Puts segments behind those of a path, which are listed in reverse. The last segment is the one
that no slash follows. -/
def resolveSegments (path : List (List Char)) : List (List Char) → List (List Char)
  | [] => path
  | segment :: rest =>
    -- Dots at the very end leave a slash behind, which is an empty last segment.
    let closed (path : List (List Char)) : List (List Char) :=
      if rest.isEmpty then [] :: path else path
    if isDoubleDot segment then resolveSegments (closed (popSegment path)) rest
    else if isSingleDot segment then resolveSegments (closed path) rest
    else resolveSegments (segment :: path) rest

/-- A path of segments, read behind those of a base. -/
def segmentsOf (special : Bool) (base : List String) (text : List Char) : Route :=
  let parts := (Search.splitAt (isSlash special) text).map (Percent.encode Percent.inPath)
  .segments ((resolveSegments (base.reverse.map String.toList) parts).reverse.map String.ofList)

def withTail (url : Url) (text : List Char) : Url :=
  let isQueried := if isSpecial url.scheme then Percent.inSpecialQuery else Percent.inQuery
  let beforeHash := text.takeWhile (· != '#')
  let query := match beforeHash with
    | '?' :: query => some (String.ofList (Percent.encode isQueried query))
    | _ => none
  let fragment := match text.dropWhile (· != '#') with
    | '#' :: fragment => some (String.ofList (Percent.encode Percent.inFragment fragment))
    | _ => none
  { url with query, fragment }

def endsPath (c : Char) : Bool := c = '?' || c = '#'

def withPath (url : Url) (text : List Char) : Url :=
  let special := isSpecial url.scheme
  let path := text.takeWhile (!endsPath ·)
  let route := match path with
    | [] => if special then .segments [""] else .segments []
    | c :: rest => segmentsOf special [] (if isSlash special c then rest else path)
  ({ url with route } : Url).withTail (text.dropWhile (!endsPath ·))

def parseAuthority (scheme : String) (text : List Char) : Except Fault Url := do
  let special := isSpecial scheme
  let ((username, password), rest) ← takeCredentials special text
  let (hostPart, rest) := takeHost special rest
  if special && hostPart.isEmpty then throw .emptyHost
  let host ← if special then Host.parse hostPart else Host.parseVerbatim hostPart
  if hostPart.isEmpty && (rest.head? = some ':' || !username.isEmpty || password.isSome) then
    throw .emptyHost
  let (port, rest) ← takePort scheme rest
  return ({ scheme, username, password, host := some host, port } : Url).withPath rest

/-- Reads a URL of the scheme `file` after its colon. Its host is left out where it is the local
one. -/
def parseFile (text : List Char) : Except Fault Url := do
  let isEnd (c : Char) : Bool := endsAuthority true c
  match text with
  | a :: b :: rest =>
    if isSlash true a && isSlash true b then
      let hostPart := rest.takeWhile (!isEnd ·)
      if hostPart.isEmpty || isDrive hostPart then
        return ({ scheme := "file", host := some (.domain "") } : Url).withPath rest
      else
        let host ← Host.parse hostPart
        let host := if host = .domain "localhost" then .domain "" else host
        return ({ scheme := "file", host := some host } : Url).withPath (rest.dropWhile (!isEnd ·))
    else return ({ scheme := "file", host := some (.domain "") } : Url).withPath text
  | text => return ({ scheme := "file", host := some (.domain "") } : Url).withPath text

/-- Reads a URL of a scheme that is not special, after its colon. -/
def parseOther (scheme : String) (text : List Char) : Except Fault Url :=
  match text with
  | '/' :: '/' :: rest => parseAuthority scheme rest
  | '/' :: _ => .ok (({ scheme } : Url).withPath text)
  | text =>
    let path := Percent.encode Percent.isControl (text.takeWhile (!endsPath ·))
    .ok (({ scheme, route := .undivided (String.ofList path) } : Url).withTail
      (text.dropWhile (!endsPath ·)))

/-- Reads a reference without a scheme relative to a base. -/
def parseRelative (base : Url) (text : List Char) : Except Fault Url :=
  let special := isSpecial base.scheme
  match text with
  | [] => .ok { base with fragment := none }
  | '?' :: _ => .ok (base.withTail text)
  | '#' :: _ => .ok { base.withTail text with query := base.query }
  | c :: rest =>
    let slashes := text.takeWhile (isSlash true)
    if 2 ≤ slashes.length then
      match text with
      -- Two plain slashes open the authority at once; others are all passed over first.
      | '/' :: '/' :: after => parseAuthority base.scheme after
      | _ => parseAuthority base.scheme (text.dropWhile (isSlash true))
    else
      let (start, path) := if isSlash true c then ([], rest) else
        (match base.route with
          | .segments names => names.dropLast
          | .undivided _ => [], text)
      let route := segmentsOf special start (path.takeWhile (!endsPath ·))
      .ok (({ base with route } : Url).withTail (path.dropWhile (!endsPath ·)))

/-- Reads a URL after its scheme. A special scheme is followed by any number of slashes; a base of
the same scheme makes what follows fewer than two a relative reference. -/
def parseAfterScheme (base : Option Url) (scheme : String) (text : List Char) : Except Fault Url :=
  if scheme = "file" then parseFile text
  else if isSpecial scheme then
    let slashes := (text.takeWhile (isSlash true)).length
    match base with
    | some base =>
      if slashes < 2 ∧ base.scheme = scheme then parseRelative base text
      else parseAuthority scheme (text.dropWhile (isSlash true))
    | none => parseAuthority scheme (text.dropWhile (isSlash true))
  else parseOther scheme text

/-- Reads a URL, relative to a base where there is one. -/
def parseWith (base : Option Url) (text : String) : Except Fault Url :=
  let input := significant text.toList
  match takeScheme input with
  | some (scheme, rest) => parseAfterScheme base scheme rest
  | none =>
    match base with
    | none => .error .relativeWithoutBase
    | some base =>
      -- Behind a path that is not divided only the fragment can be replaced.
      match base.route, input with
      | .undivided _, '#' :: _ => .ok { base.withTail input with query := base.query }
      | .undivided _, _ => .error .relativeToOpaque
      | _, _ => parseRelative base input

def parse (text : String) : Except Fault Url := parseWith none text

/-- Reads a reference relative to this URL. -/
def join (base : Url) (reference : String) : Except Fault Url := parseWith (some base) reference

end ScriptSandbox.Url
