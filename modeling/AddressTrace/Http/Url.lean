import AddressTrace.Text.Hex
import AddressTrace.Text.Split

/-!
# Addresses of resources

The URLs of requests over HTTP: the server, and the target that is asked for there.  A path and a
query are brought into the form in which they are sent.

## Main definitions

* `Url`, `Url.target` — a URL, and what is sent of it to the server;
* `Url.parse?` — the URL that a text stands for;
* `encodeForm`, `Url.withQuery` — parameters added to a URL.
-/

namespace AddressTrace.Http

open Text

/-- **A URL** without its fragment. -/
structure Url where
  scheme : String
  /-- The server as it is named, in lower case. -/
  host : String
  path : String
  query : Option String
deriving Repr, DecidableEq

/-- **What is asked for at the server.** -/
def Url.target (u : Url) : String :=
  match u.query with
  | some query => u.path ++ "?" ++ query
  | none => u.path

/-! ### Escapes -/

/-- The upper-case digits of a byte behind a percent sign. -/
def percentByte (b : UInt8) : List Char := '%' :: (hexPair b).map Char.toUpper

/-- The bytes of a text, each as it is or behind a percent sign. -/
def percentEncode (keep : UInt8 → Bool) (cs : List Char) : List Char :=
  (String.ofList cs).toUTF8.toList.flatMap fun b =>
    if keep b then [Char.ofNat b.toNat] else percentByte b

/-- Is this one of the bytes from the exclamation mark to the tilde that are not in a list? -/
def isGraphicBut (codes : List Nat) (b : UInt8) : Bool :=
  0x21 ≤ b.toNat && b.toNat ≤ 0x7E && !codes.contains b.toNat

/-- The bytes that stand in a path as they are: no quotes, brackets, braces or backquotes. -/
def keepInPath : UInt8 → Bool := isGraphicBut [0x22, 0x23, 0x3C, 0x3E, 0x3F, 0x60, 0x7B, 0x7D]

/-- The bytes that stand in a query as they are: no quotes and brackets. -/
def keepInQuery : UInt8 → Bool := isGraphicBut [0x22, 0x23, 0x27, 0x3C, 0x3E]

/-! ### Reading -/

/-- Is this segment a single dot, perhaps escaped? -/
def isDot (segment : List Char) : Bool :=
  let folded := segment.map Char.toLower
  folded == ['.'] || folded == ['%', '2', 'e']

/-- Is this segment two dots, perhaps escaped? -/
def isDoubleDot (segment : List Char) : Bool :=
  let folded := segment.map Char.toLower
  folded == ['.', '.'] || folded == ['.', '%', '2', 'e'] || folded == ['%', '2', 'e', '.']
    || folded == ['%', '2', 'e', '%', '2', 'e']

/-- **The segments of a path**, in which a dot stays where it is and two dots lead back.  `done` are
the segments so far, the last one first. -/
def walkSegments (done : List (List Char)) : List (List Char) → List (List Char)
  | [] => done.reverse
  | [last] =>
    if isDoubleDot last then ([] :: done.drop 1).reverse
    else if isDot last then ([] :: done).reverse
    else (percentEncode keepInPath last :: done).reverse
  | s :: t :: rest =>
    if isDoubleDot s then walkSegments (done.drop 1) (t :: rest)
    else if isDot s then walkSegments done (t :: rest)
    else walkSegments (percentEncode keepInPath s :: done) (t :: rest)

/-- Does this character end a segment? -/
def isSlash (c : Char) : Bool := c == '/' || c == '\\'

/-- The path behind a server. -/
def readPath (cs : List Char) : String :=
  let cs := cs.map fun c => if isSlash c then '/' else c
  let segments := walkSegments [] (pieces '/' (cs.drop 1))
  String.ofList (segments.flatMap fun s => '/' :: s)

/-- A text without control characters and blanks at its ends, and without tabs and line breaks. -/
def tidy (cs : List Char) : List Char :=
  let isMargin (c : Char) : Bool := c.toNat ≤ 0x20
  let cs := (cs.dropWhile isMargin).reverse.dropWhile isMargin |>.reverse
  cs.filter fun c => c != '\t' && c != '\n' && c != '\r'

/-- May this character stand in the name of a server? -/
def isHostChar (c : Char) : Bool :=
  c.isAlphanum || c == '.' || c == '-' || c == '_' || c == ':' || c == '@'

/-- **The URL that a text stands for**, with one of the two schemes that requests are made with. -/
def Url.parse? (text : String) : Option Url :=
  let cs := tidy text.toList
  let scheme := String.ofList ((cs.takeWhile (· != ':')).map Char.toLower)
  let rest := (cs.dropWhile (· != ':')).drop 1 |>.dropWhile isSlash
  let rest := rest.takeWhile (· != '#')
  let isHostEnd (c : Char) : Bool := isSlash c || c == '?'
  let host := rest.takeWhile (!isHostEnd ·)
  let rest := rest.dropWhile (!isHostEnd ·)
  let path := rest.takeWhile (· != '?')
  let query :=
    match rest.dropWhile (· != '?') with
    | _ :: query => some (String.ofList (percentEncode keepInQuery query))
    | [] => none
  if (scheme = "http" ∨ scheme = "https") ∧ !host.isEmpty ∧ host.all isHostChar then
    some ⟨scheme, String.ofList (host.map Char.toLower), readPath path, query⟩
  else none

/-! ### Parameters -/

/-- The bytes that stand in a parameter as they are. -/
def keepInForm (b : UInt8) : Bool :=
  let c := Char.ofNat b.toNat
  c.isAlphanum || c == '*' || c == '-' || c == '.' || c == '_'

/-- **The name or value of a parameter.**  A blank becomes a plus sign. -/
def encodeForm (text : String) : List Char :=
  text.toUTF8.toList.flatMap fun b =>
    if b.toNat = 0x20 then ['+'] else if keepInForm b then [Char.ofNat b.toNat] else percentByte b

/-- Some parameters as a query. -/
def formQuery (parameters : List (String × String)) : String :=
  String.ofList (unsplit '&' (parameters.map fun (name, value) =>
    encodeForm name ++ '=' :: encodeForm value))

/-- **A URL with parameters added** behind those that it has. -/
def Url.withQuery (u : Url) (parameters : List (String × String)) : Url :=
  let added := formQuery parameters
  { u with query := some (match u.query with
      | none | some "" => added
      | some query => query ++ "&" ++ added) }

end AddressTrace.Http
