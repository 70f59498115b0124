import MapLayer.Failure
import MapLayer.Url.Basic

/-! Getting documents over the network. Every request is made once. -/

namespace MapLayer

/-- The answer of a server: its status, and its body or why the body broke off. -/
structure Response where
  status : Nat
  body : Except String String

/-- What addresses answer, or why they do not. -/
abbrev Network := Url → Except String Response

namespace Network

def phrases : List (Nat × String) :=
  [(400, "Bad Request"), (401, "Unauthorized"), (402, "Payment Required"), (403, "Forbidden"),
    (404, "Not Found"), (405, "Method Not Allowed"), (406, "Not Acceptable"),
    (407, "Proxy Authentication Required"), (408, "Request Timeout"), (409, "Conflict"),
    (410, "Gone"), (411, "Length Required"), (412, "Precondition Failed"),
    (413, "Payload Too Large"), (414, "URI Too Long"), (415, "Unsupported Media Type"),
    (416, "Range Not Satisfiable"), (417, "Expectation Failed"), (418, "I'm a teapot"),
    (421, "Misdirected Request"), (422, "Unprocessable Entity"), (423, "Locked"),
    (424, "Failed Dependency"), (426, "Upgrade Required"), (428, "Precondition Required"),
    (429, "Too Many Requests"), (431, "Request Header Fields Too Large"),
    (451, "Unavailable For Legal Reasons"), (500, "Internal Server Error"),
    (501, "Not Implemented"), (502, "Bad Gateway"), (503, "Service Unavailable"),
    (504, "Gateway Timeout"), (505, "HTTP Version Not Supported"),
    (506, "Variant Also Negotiates"), (507, "Insufficient Storage"), (508, "Loop Detected"),
    (510, "Not Extended"), (511, "Network Authentication Required")]

def phrase (status : Nat) : String :=
  (phrases.lookup status).getD "<unknown status code>"

/-- Only addresses of these schemes are asked. -/
def isServed (url : Url) : Bool :=
  url.authority.isSome
    && (url.scheme == ['h', 't', 't', 'p'] || url.scheme == ['h', 't', 't', 'p', 's'])

def maxLength : Nat := 65534

/-- Whether an address can be written in a request: it is not too long, and its host holds no double
quote, backtick or brace. -/
def isWritable (url : Url) : Bool :=
  url.chars.length ≤ maxLength
    && !(url.authority.getD []).any fun c => ['"', '\x60', '\x7b', '\x7d'].contains c

/-- A document without the byte order mark that may stand before it. -/
def withoutMark (s : String) : String :=
  match s.toList with
  | c :: r => if c = Char.ofNat 0xFEFF then String.ofList r else s
  | [] => s

/-- The document at an address, or why there is none. User and password are not part of the address
that is asked. -/
def get (network : Network) (url : Url) : Except String String :=
  if !isServed url then
    .error s!"builder error for url ({url.withoutUser.text}): URL scheme is not allowed"
  else if !isWritable url.withoutUser then
    .error s!"builder error for url ({url.withoutUser.text}): Parsed Url is not a valid Uri"
  else match network url.withoutUser with
    | .error cause =>
      .error s!"error sending request for url ({url.withoutUser.text}): {cause}"
    | .ok response =>
      if 400 ≤ response.status then .error s!"HTTP {response.status} {phrase response.status}"
      else response.body.map withoutMark

end Network

end MapLayer
