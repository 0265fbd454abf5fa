import QueryHints.Web.Host.Authority

/-!
The target of a request and where it leads. A target may be a whole URL. It is taken apart twice, so that
what looks like a host behind a run of slashes is one. In the path that is left, escapes are resolved and
the slashes at the front count as one.
-/

namespace QueryHints.Web

open QueryHints.Web.Host (Authority AuthorityFault before behind isDigit isHexDigit hexValue)

structure Url where
  scheme : List Char
  authority : List Char
  path : List Char
  query : List Char

namespace Url

def isAsciiLetter (c : Char) : Bool := ('a' ≤ c && c ≤ 'z') || ('A' ≤ c && c ≤ 'Z')

def isSchemeChar (c : Char) : Bool :=
  isAsciiLetter c || isDigit c || c = '+' || c = '-' || c = '.'

def splitScheme (cs : List Char) : List Char × List Char :=
  let scheme := before ':' cs
  if cs.contains ':' && scheme.head?.any isAsciiLetter && scheme.all isSchemeChar then
    (scheme.map Char.toLower, behind ':' cs)
  else ([], cs)

def endsAuthority (c : Char) : Bool := c = '/' || c = '?' || c = '#'

def splitAuthority : List Char → List Char × List Char
  | '/' :: '/' :: rest =>
    (rest.takeWhile fun c => !endsAuthority c, rest.dropWhile fun c => !endsAuthority c)
  | cs => ([], cs)

/-- Takes a URL apart. Control characters and spaces in front of it do not count, and neither do
tabulators and line breaks anywhere. -/
def split (target : List Char) : Except AuthorityFault Url :=
  let clean := (target.dropWhile fun c => c.toNat ≤ 0x20).filter fun c =>
    c != '\t' && c != '\n' && c != '\r'
  let (scheme, rest) := splitScheme clean
  let (authority, rest) := splitAuthority rest
  (Host.checkText authority).map fun () =>
    let rest := before '#' rest
    ⟨scheme, authority, before '?' rest, behind '?' rest⟩

end Url

def reassembled (path : List Char) : Except AuthorityFault (List Char) := do
  let url ← Url.split path
  let authority ← Authority.ofText url.authority
  let behindScheme :=
    if authority.text.isEmpty then url.path else '/' :: '/' :: authority.text ++ url.path
  return if url.scheme.isEmpty then behindScheme else url.scheme ++ ':' :: behindScheme

/-- The character of an escaped octet. No route has characters outside ASCII, so those are not told
apart. -/
def octetChar (n : Nat) : Char :=
  if n < 128 then Char.ofNat n else Letter.replacement

def unescape : List Char → List Char
  | '%' :: a :: b :: rest =>
    if isHexDigit a && isHexDigit b then octetChar (hexValue a * 16 + hexValue b) :: unescape rest
    else '%' :: unescape (a :: b :: rest)
  | c :: rest => c :: unescape rest
  | [] => []

def rooted (path : List Char) : List Char :=
  if path.isEmpty then [] else '/' :: path.dropWhile (· == '/')

structure Destination where
  scheme : List Char
  authority : Authority
  path : List Char

namespace Destination

def defaultScheme : List Char := "http".toList

def defaultHost : List Char := "localhost".toList

def ofTarget (target : List Char) : Except AuthorityFault Destination := do
  let outer ← Url.split target
  let inner ← Url.split
    (outer.path ++ (if outer.query.isEmpty then [] else '?' :: outer.query))
  let path ← reassembled inner.path
  let authority ← Authority.ofText (if outer.authority.isEmpty then defaultHost else outer.authority)
  Host.checkText authority.text
  return {
    scheme := if outer.scheme.isEmpty then defaultScheme else outer.scheme
    authority
    path := rooted (unescape path) }

def isSocket (d : Destination) : Bool :=
  d.scheme = "ws".toList || d.scheme = "wss".toList

def usualNumber (scheme : List Char) : Nat :=
  if scheme = "http".toList || scheme = "ws".toList then 80
  else if scheme = "https".toList || scheme = "wss".toList then 443
  else 0

def checkShown (d : Destination) : Except AuthorityFault Unit :=
  let isUsual := d.authority.number = usualNumber d.scheme
  Authority.checkShown { d.authority with number := if isUsual then 0 else d.authority.number }

end Destination

end QueryHints.Web
