import SnippetAudit.Text.Search

/-!
# Requests and responses

What the service sees of a request, and what it answers. A body is taken as JSON when its media type says so.
-/

namespace SnippetAudit.Service

structure Request where
  method : String
  uri : String
  contentType : Option String
  body : String
  deriving DecidableEq, Repr

structure Response where
  status : Nat
  contentType : Option String
  /-- The methods that would have been allowed. -/
  allow : Option String
  body : String
  deriving DecidableEq, Repr

namespace Response

def jsonType : String := "application/json"

def textType : String := "text/plain; charset=utf-8"

/-- The origins that may read a response. -/
def allowOrigin : String := "*"

def ofJson (status : Nat) (body : String) : Response := ⟨status, some jsonType, none, body⟩

/-- A request that was turned away for its body, with a text that is not settled. -/
def refused (status : Nat) : Response := ⟨status, some textType, none, ""⟩

def empty (status : Nat) (allow : Option String) : Response := ⟨status, none, allow, ""⟩

end Response

namespace Request

/-- What stands behind the scheme and the host of a full address. -/
def localPart (uri : List Char) : List Char :=
  if uri.head? == some '/' then uri
  else
    match Text.cutAt "://".toList uri with
    | some (_, rest) =>
      let path := rest.dropWhile fun c => c ≠ '/' ∧ c ≠ '?' ∧ c ≠ '#'
      if path.head? == some '/' then path else '/' :: path
    | none => uri

/-- The path of a request, as it was written. -/
def path (r : Request) : String :=
  String.ofList ((localPart r.uri.toList).takeWhile fun c => c ≠ '?' ∧ c ≠ '#')

/-! ### Media types -/

/-- A character of the words of a media type. -/
def isTokenChar (c : Char) : Bool := c.isAlphanum || "!#$%&'*+-.^_\x60|~".toList.contains c

/-- A character that may stand in a quoted value. -/
def isQuotedChar (c : Char) : Bool := ' ' ≤ c && c < '\x7f'

/-- Where a reader stands in the parameters of a media type. -/
inductive Place where
  /-- Before a parameter. -/
  | between
  | name
  /-- Behind the equals sign. -/
  | value
  | word
  /-- Behind the opening quote. A quote that follows at once belongs to the value. -/
  | opened
  | quoted
  /-- Behind the closing quote. -/
  | closed
  deriving DecidableEq, Repr

/-- The place behind one more character; none if it may not stand there. -/
def Place.step (p : Place) (c : Char) : Option Place :=
  match p with
  | .between => if c = ' ' then some .between else if isTokenChar c then some .name else none
  | .name => if c = '=' then some .value else if isTokenChar c then some .name else none
  | .value => if c = '"' then some .opened else if isTokenChar c then some .word else none
  | .word => if c = ';' ∨ c = ' ' then some .between else if isTokenChar c then some .word else none
  | .opened => if isQuotedChar c then some .quoted else none
  | .quoted => if c = '"' then some .closed else if isQuotedChar c then some .quoted else none
  | .closed => if c = ';' then some .between else if c = ' ' then some .closed else none

/-- Whether a text may end in a place. -/
def Place.isFinal : Place → Bool
  | .between | .value | .word | .closed => true
  | .name | .opened | .quoted => false

/-- Whether a text is a list of parameters. -/
def areParameters (s : List Char) : Bool := ((s.foldlM Place.step .between).map Place.isFinal).getD false

/-- The kind of a media type: its second word, and what stands behind the last plus in it. -/
def kinds (subtype : List Char) : List Char × Option (List Char) :=
  let suffix := (subtype.reverse.takeWhile (· ≠ '+')).reverse
  if suffix.length = subtype.length ∨ suffix.length + 1 = subtype.length then (subtype, none)
  else (subtype.take (subtype.length - suffix.length - 1), some suffix)

/-- Whether a media type is JSON: `application/json`, or any type of `application` that ends in `+json`. Parameters
follow behind a semicolon or a blank. -/
def isJsonType (mediaType : String) : Bool :=
  match Text.cutAt ['/'] (Text.lowered mediaType).toList with
  | none => false
  | some (type, rest) =>
    let (kind, suffix) := kinds (rest.takeWhile isTokenChar)
    type == "application".toList && (kind == "json".toList || suffix == some "json".toList) &&
      (match rest.dropWhile isTokenChar with
        | [] => true
        | c :: parameters => (c == ';' || c == ' ') && areParameters parameters)

/-- Whether the body is to be taken as JSON. -/
def isJson (r : Request) : Bool := (r.contentType.map isJsonType).getD false

end Request
end SnippetAudit.Service
