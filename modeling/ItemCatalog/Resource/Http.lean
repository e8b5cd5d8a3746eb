import ItemCatalog.Fault
import ItemCatalog.Resource.HostNumber
import ItemCatalog.Text.Case
import ItemCatalog.Text.Percent
import ItemCatalog.Text.Split

/-! # HTTP: resources that a server sends

What servers send is a table from addresses in their normal form to replies. A reply has a status;
one that sends the reader to another address is followed, but not too often, and a status that is
not one of success is a fault. -/

namespace ItemCatalog.Resource.Http

open Text

/-- What a server sends for an address: a status, a text, and where the reader is sent to. -/
structure Reply where
  status : Nat := 200
  text : String := ""
  location : Option String := none
deriving DecidableEq, Repr, Inhabited

/-- What servers send, by address. -/
abbrev Table := List (String × Reply)

/-! ### Addresses in their normal form -/

/-- The parts of an address. The scheme is in small letters; the user, the host and the port are in
their normal form. -/
structure Url where
  scheme : Option String := none
  authority : Option String := none
  path : String := ""
  query : Option String := none
  fragment : Option String := none
deriving DecidableEq, Repr, Inhabited

/-- The text of an address. -/
def Url.render (u : Url) : String :=
  u.scheme.elim "" (· ++ ":") ++ u.authority.elim "" ("//" ++ ·) ++ u.path ++
    u.query.elim "" ("?" ++ ·) ++ u.fragment.elim "" ("#" ++ ·)

/-- Whether a character is visible ASCII and none of some others. -/
def isVisibleBut (others : List Char) (c : Char) : Bool :=
  32 < c.toNat && c.toNat < 127 && !others.contains c

/-- Whether a character stands for itself in a query. -/
def isQueryChar : Char → Bool :=
  isVisibleBut ['"', '#', '<', '>']

/-- Whether a character stands for itself in a path. -/
def isPathChar : Char → Bool :=
  isVisibleBut ['"', '#', '<', '>', '?', '\x60', '\x7b', '\x7d']

/-- Whether a character stands for itself in a fragment. -/
def isFragmentChar : Char → Bool :=
  isVisibleBut ['"', '<', '>', '\x60']

/-- Whether a character stands for itself in a host. -/
def isHostChar : Char → Bool :=
  isVisibleBut ['#', '/', ':', '<', '>', '?', '@', '[', ']', '^']

/-- Whether a character stands for itself in the name of a user. -/
def isUserChar : Char → Bool :=
  isVisibleBut ['"', '#', '<', '>', '?', '\x60', '\x7b', '\x7d', '/', ';', '=', '@', '[', '\\', ']',
    '^', '|']

/-- The names of a path with `.` and `..` taken back. -/
def dropDots (path : String) : String :=
  let parts := cut '/' path
  if parts.contains "." || parts.contains ".." then
    "/".intercalate (parts.foldl (fun acc p =>
      if p = "." then acc
      else if p = ".." then (if acc.isEmpty || acc = [""] then acc else acc.dropLast)
      else acc ++ [p]) [])
  else path

/-- The fault of an address, by its wording. -/
def urlFault (message : String) : Fault :=
  .failure .address message

/-- The ports that schemes have by themselves. -/
def defaultPorts : List (String × Nat) :=
  [("ftp", 21), ("http", 80), ("https", 443), ("ws", 80), ("wss", 443)]

/-- The port, nothing if it is the one of the scheme. -/
def readPort (scheme : Option String) (port : String) : Except Fault (Option Nat) :=
  if port.isEmpty then .ok none
  else match port.toList.all Char.isDigit, port.toNat? with
    | true, some n =>
      .ok (if (scheme.bind fun s => defaultPorts.lookup s) = some n then none else some n)
    | _, _ => .error (urlFault ("Invalid port: " ++ quote port))

/-- The host and, after a colon, the port. -/
def splitPort (s : List Char) : List Char × List Char :=
  match s with
  | '[' :: _ =>
    let inner := (s.reverse.dropWhile (· != ']')).reverse
    if inner.isEmpty then (s.takeWhile (· != ':'), (s.dropWhile (· != ':')).drop 1)
    else (inner, (s.drop inner.length).dropWhile (· == ':'))
  | s => (s.takeWhile (· != ':'), (s.dropWhile (· != ':')).drop 1)

/-- The normal form of an authority. -/
def readAuthority (scheme : Option String) (s : List Char) : Except Fault String := do
  let after := (s.reverse.takeWhile (· != '@')).reverse
  let user := s.take (s.length - after.length - 1)
  let (host, port) := splitPort after
  let port ← readPort scheme (String.ofList port)
  let user := if user.isEmpty then "" else Percent.encode isUserChar (String.ofList user) ++ "@"
  let host := String.ofList (host.map Char.toLower)
  let host := if host.startsWith "[" then host else Percent.encode isHostChar host
  return user ++ host ++ port.elim "" fun n => ":" ++ Number.renderInt n

/-- The first character of an address that is not visible, with its place. -/
def hiddenChar? (s : String) : Option (Nat × Char) :=
  (s.toList.zipIdx.find? fun e => e.1.toNat < 32 || e.1.toNat == 127).map fun e => (e.2, e.1)

/-- **The normal form** of an address. -/
def readUrl (s : String) : Except Fault Url := do
  match hiddenChar? s with
  | some (i, c) =>
    throw (urlFault ("Invalid non-printable ASCII character in URL, " ++
      quote (String.singleton c) ++ s!" at position {i}."))
  | none => pure ()
  let cs := s.toList
  let name := cs.takeWhile fun c => c.isAlphanum || c == '+' || c == '-' || c == '.'
  let (scheme, rest) := match cs.drop name.length with
    | ':' :: rest =>
      if name.head?.any Char.isAlpha then (some (String.ofList (name.map Char.toLower)), rest)
      else (none, cs)
    | _ => (none, cs)
  let isEnd := fun c : Char => c == '/' || c == '?' || c == '#'
  let (authority, rest) := match rest with
    | '/' :: '/' :: rest => (some (rest.takeWhile (!isEnd ·)), rest.dropWhile (!isEnd ·))
    | rest => (none, rest)
  let path := String.ofList (rest.takeWhile fun c => c != '?' && c != '#')
  let rest := rest.dropWhile fun c => c != '?' && c != '#'
  let (query, rest) := match rest with
    | '?' :: rest => (some (rest.takeWhile (· != '#')), rest.dropWhile (· != '#'))
    | rest => (none, rest)
  let fragment := match rest with
    | '#' :: rest => some rest
    | _ => none
  let authority ← match authority with
    | some a => some <$> readAuthority scheme a
    | none => pure none
  let path := if scheme.isSome || authority.isSome then dropDots path else path
  return {
    scheme
    authority := authority.filter (· ≠ "")
    path := Percent.encode isPathChar path
    query := query.map fun q => Percent.encode isQueryChar (String.ofList q)
    fragment := fragment.map fun f => Percent.encode isFragmentChar (String.ofList f) }

/-- The address that an address means, seen from another one. -/
def Url.join (base u : Url) : Url :=
  let fragment := u.fragment.or base.fragment
  match u.scheme, u.authority with
  | some _, some _ => { u with fragment }
  | some _, none => { u with authority := base.authority, fragment }
  | none, some _ => { u with scheme := base.scheme, fragment }
  | none, none =>
    let found := { base with fragment }
    if u.path.isEmpty then { found with query := u.query.or base.query }
    else if u.path.startsWith "/" then { found with path := dropDots u.path, query := u.query }
    else
      let folder := "/".intercalate ((cut '/' base.path).dropLast ++ [""])
      let path := dropDots ((if folder.startsWith "/" then folder else "/" ++ folder) ++ u.path)
      { found with path, query := u.query }

/-! ### Statuses -/

/-- The words for statuses. -/
def statusWords : List (Nat × String) :=
  [(100, "Continue"), (101, "Switching Protocols"), (102, "Processing"), (103, "Early Hints"),
   (200, "OK"), (201, "Created"), (202, "Accepted"), (203, "Non-Authoritative Information"),
   (204, "No Content"), (205, "Reset Content"), (206, "Partial Content"), (207, "Multi-Status"),
   (208, "Already Reported"), (226, "IM Used"), (300, "Multiple Choices"),
   (301, "Moved Permanently"), (302, "Found"), (303, "See Other"), (304, "Not Modified"),
   (305, "Use Proxy"), (307, "Temporary Redirect"), (308, "Permanent Redirect"),
   (400, "Bad Request"), (401, "Unauthorized"), (402, "Payment Required"), (403, "Forbidden"),
   (404, "Not Found"), (405, "Method Not Allowed"), (406, "Not Acceptable"),
   (407, "Proxy Authentication Required"), (408, "Request Timeout"), (409, "Conflict"),
   (410, "Gone"), (411, "Length Required"), (412, "Precondition Failed"),
   (413, "Request Entity Too Large"), (414, "Request-URI Too Long"),
   (415, "Unsupported Media Type"), (416, "Requested Range Not Satisfiable"),
   (417, "Expectation Failed"), (418, "I'm a teapot"), (421, "Misdirected Request"),
   (422, "Unprocessable Entity"), (423, "Locked"), (424, "Failed Dependency"), (425, "Too Early"),
   (426, "Upgrade Required"), (428, "Precondition Required"), (429, "Too Many Requests"),
   (431, "Request Header Fields Too Large"), (451, "Unavailable For Legal Reasons"),
   (500, "Internal Server Error"), (501, "Not Implemented"), (502, "Bad Gateway"),
   (503, "Service Unavailable"), (504, "Gateway Timeout"), (505, "HTTP Version Not Supported"),
   (506, "Variant Also Negotiates"), (507, "Insufficient Storage"), (508, "Loop Detected"),
   (510, "Not Extended"), (511, "Network Authentication Required")]

/-- Whether a status is one of success. -/
def isSuccess (status : Nat) : Bool :=
  status / 100 = 2

/-- The statuses that send the reader to another address. -/
def redirects : List Nat :=
  [301, 302, 303, 307, 308]

/-- The kind of fault that a status is. -/
def statusKind (status : Nat) : String :=
  match status / 100 with
  | 1 => "Informational response"
  | 3 => "Redirect response"
  | 4 => "Client error"
  | 5 => "Server error"
  | _ => "Invalid status code"

/-- Where statuses are explained. -/
def statusPages : String :=
  "https:" ++ "//developer.mozilla.org/en-US/docs/Web/HTTP/Status/"

/-- The wording of a status that is not one of success. -/
def statusMessage (url : String) (status : Nat) : String :=
  let n := Number.renderInt status
  statusKind status ++ " '" ++ n ++ " " ++ (statusWords.lookup status).getD "" ++ "' for url '" ++
    url ++ "'\nFor more information check: " ++ statusPages ++ n

/-! ### Reading -/

/-- How often a reader lets itself be sent to another address. -/
def maxRedirects : Nat := 20

/-- The last reply, and its address, when at most `count` replies may send on. -/
def follow (table : Table) : Nat → Url → Except Fault (String × Reply)
  | count, url =>
    match table.lookup url.render with
    | none => .error (.failure .connection "connection refused")
    | some reply =>
      match reply.location, redirects.contains reply.status, count with
      | some location, true, count + 1 => do
        let next ← (readUrl location).mapError fun e =>
          .failure .protocol ("Invalid URL in location header: " ++ e.message ++ ".")
        follow table count (url.join next)
      | some _, true, 0 => .error (.failure .redirects "Exceeded maximum allowed redirects.")
      | _, _, _ => .ok (url.render, reply)

/-- **The text** at an address. -/
def read (table : Table) (address : String) : Except Fault String := do
  let (url, reply) ← follow table maxRedirects (← readUrl address)
  if isSuccess reply.status then return reply.text
  else throw (.failure .status (statusMessage url reply.status))

end ItemCatalog.Resource.Http
