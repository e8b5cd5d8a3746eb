import ItemCatalog.Fault
import ItemCatalog.Resource.HostNumber
import ItemCatalog.Text.Case

/-! # Addresses: where a resource is

An address may start with a scheme and a colon, and go on with two slashes and an authority; then
comes a path, and after it a query and a fragment. Blanks and control characters in front do not
count, and neither do tabs and line ends inside. Brackets in an authority have to hold the number of
a host. -/

namespace ItemCatalog.Resource

open Text

/-- The parts of an address that say where a resource is: the scheme, in small letters, or nothing,
what stands between two slashes and the path, and the path. -/
structure Address where
  scheme : String
  authority : String
  path : String
deriving DecidableEq, Repr, Inhabited

namespace Address

/-- Whether a character can be part of a scheme. -/
def isSchemeChar (c : Char) : Bool :=
  c.isAlphanum || c == '+' || c == '-' || c == '.'

/-- The characters without the ones that do not count. -/
def clean (cs : List Char) : List Char :=
  (cs.dropWhile fun c => c.toNat ≤ 32).filter fun c => c != '\t' && c != '\n' && c != '\r'

/-- The scheme in front of a colon, and what stands after it. -/
def splitScheme (cs : List Char) : List Char × List Char :=
  let name := cs.takeWhile isSchemeChar
  match cs.dropWhile isSchemeChar with
  | ':' :: rest => if name.head?.any Char.isAlpha then (name.map Char.toLower, rest) else ([], cs)
  | _ => ([], cs)

/-- Whether a character ends an authority. -/
def endsAuthority (c : Char) : Bool :=
  c == '/' || c == '?' || c == '#'

/-- The authority after two slashes, and what stands after it. -/
def splitAuthority (cs : List Char) : List Char × List Char :=
  match cs with
  | '/' :: '/' :: rest => (rest.takeWhile (!endsAuthority ·), rest.dropWhile (!endsAuthority ·))
  | cs => ([], cs)

/-- The characters inside the first brackets. -/
def bracketed (cs : List Char) : List Char :=
  ((cs.dropWhile (· != '[')).drop 1).takeWhile (· != ']')

/-- The fault of an address, by its wording. -/
def fault (message : String) : Fault :=
  .failure .value message

/-- Checks that brackets hold the number of a host. -/
def checkBrackets (authority : List Char) : Except Fault Unit :=
  match authority.contains '[', authority.contains ']' with
  | false, false => .ok ()
  | true, true =>
    let host := bracketed authority
    if host.head? = some 'v' then
      if isFutureHost host then .ok () else .error (fault "IPvFuture address is invalid")
    else if isFourNumber host then .error (fault "An IPv4 address cannot be in brackets")
    else if isScopedNumber host then .ok ()
    else
      .error (fault (quote (String.ofList host) ++
        " does not appear to be an IPv4 or IPv6 address"))
  | _, _ => .error (fault "Invalid IPv6 URL")

/-- The characters beyond ASCII that stand for signs with a meaning in an authority. -/
def signLikes : List Char :=
  ['\u2047', '\u2048', '\u2049', '\u2100', '\u2101', '\u2105', '\u2106', '\u2a74', '\ufe13',
   '\ufe16', '\ufe55', '\ufe56', '\ufe5f', '\ufe6b', '\uff03', '\uff0f', '\uff1a', '\uff1f',
   '\uff20']

/-- Checks that no character of an authority stands for a sign with a meaning there. -/
def checkSigns (authority : List Char) : Except Fault Unit :=
  if authority.any signLikes.contains then
    .error (fault ("netloc '" ++ String.ofList authority ++
      "' contains invalid characters under NFKC normalization"))
  else .ok ()

/-- **The address** that a text spells. -/
def ofText (s : String) : Except Fault Address := do
  let (scheme, rest) := splitScheme (clean s.toList)
  let (authority, rest) := splitAuthority rest
  checkBrackets authority
  checkSigns authority
  let path := rest.takeWhile fun c => c != '?' && c != '#'
  return ⟨String.ofList scheme, String.ofList authority, String.ofList path⟩

end Address

end ItemCatalog.Resource
