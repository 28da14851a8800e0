import ChatFlow.Deflate.File
import ChatFlow.Json.Body
import ChatFlow.Text.Blank
import ChatFlow.Text.Charset

/-!
# Replies

What an endpoint sends back: a status, headers and the bytes of a body. `Reply.bytes` undoes the
encodings that the headers name, `Reply.text?` reads the bytes in the charset that they name, and
`Reply.data` takes them for JSON first.
-/

namespace ChatFlow.Endpoint

structure Reply where
  status : Int
  headers : Assoc String := []
  body : List UInt8
  deriving DecidableEq, Repr

/-- Headers under their names in small letters; values of one name are joined. -/
def joinHeaders (headers : Assoc String) : Assoc String :=
  headers.foldl (fun m (k, v) =>
    let k := k.toLower
    m.put k (match m.get? k with
      | some w => w ++ ", " ++ v
      | none => v)) []

namespace Reply

/-- The value of a header, whose name is given in small letters. -/
def header? (r : Reply) (name : String) : Option String := (joinHeaders r.headers).get? name

/-! ### Bytes -/

def encodings (r : Reply) : List String :=
  (((r.header? "content-encoding").getD "").splitOn ",").map fun s => (Text.strip s).toLower

/-- Undo an encoding. Other encodings than the two are left alone. -/
def decode (bytes : List UInt8) (encoding : String) : Except String (List UInt8) :=
  if encoding = "gzip" then Deflate.gunzip bytes
  else if encoding = "deflate" then Deflate.expand bytes
  else .ok bytes

/-- The bytes of the body, or the reason why there are none. -/
def bytes (r : Reply) : Except String (List UInt8) :=
  (r.encodings.reverse.foldlM decode r.body).mapError
    ("Error -3 while decompressing data: " ++ ·)

/-! ### Texts -/

/-- The pieces of a header between semicolons, but for those inside quotes. -/
def pieces (isQuoted : Bool) : List Char → List (List Char)
  | [] => [[]]
  | '\\' :: '"' :: cs => extend ['\\', '"'] (pieces isQuoted cs)
  | '"' :: cs => extend ['"'] (pieces (!isQuoted) cs)
  | ';' :: cs => if isQuoted then extend [';'] (pieces isQuoted cs) else [] :: pieces false cs
  | c :: cs => extend [c] (pieces isQuoted cs)
where
  extend (cs : List Char) : List (List Char) → List (List Char)
    | [] => [cs]
    | p :: ps => (cs ++ p) :: ps

def unescaped : List Char → List Char
  | '\\' :: '\\' :: cs => '\\' :: unescaped cs
  | '\\' :: '"' :: cs => '"' :: unescaped cs
  | c :: cs => c :: unescaped cs
  | [] => []

/-- A value without the quotes or the brackets around it. -/
def unquoted (cs : List Char) : List Char :=
  let inner := (cs.drop 1).dropLast
  if cs.length < 2 then cs
  else if cs.head? == some '"' && cs.getLast? == some '"' then unescaped inner
  else if cs.head? == some '<' && cs.getLast? == some '>' then inner
  else cs

/-- The charset that the type of the body names in ASCII. If the name is spelled in the extended
notation it is left to the codecs, which are given the type as it stands. -/
def charset? (r : Reply) : Option String := do
  let type ← r.header? "content-type"
  let fields := (pieces false type.toList).map fun piece =>
    let (name, value) := piece.span (· != '=')
    ((Text.strip (String.ofList name)).toLower, Text.strip (String.ofList (value.drop 1)))
  match fields.find? (·.1 == "charset") with
  | some (_, value) =>
    let name := unquoted value.toList
    if name.all (·.toNat < 128) then some (String.ofList name) else none
  | none => if fields.any ("charset*".toList.isPrefixOf ·.1.toList) then some type else none

/-- The text of bytes, unless the codec for it fails. -/
def text? (r : Reply) (codecs : Text.Codecs) (bytes : List UInt8) : Option String :=
  if bytes.isEmpty then some "" else codecs.decode? (r.charset?.getD "utf-8") bytes

/-! ### Data -/

/-- The value of bytes: their JSON, or else a value made of their text. -/
def data (r : Reply) (codecs : Text.Codecs) (bytes : List UInt8) (ofText : String → Json) :
    Except Fault Json :=
  match Json.readBody bytes with
  | .ok v => .ok v
  | .error .tooDeep => .error .tooDeep
  | .error _ => match r.text? codecs bytes with
    | some s => .ok (ofText s)
    | none => .error .undecodable

/-- What a reply tells: the JSON of its body or, if it is none, the text. Only a status that means
success tells anything. -/
def content? (r : Reply) (codecs : Text.Codecs) : Option Json :=
  if 200 ≤ r.status ∧ r.status < 300 then
    match r.bytes with
    | .ok bytes => (r.data codecs bytes .str).toOption
    | .error _ => none
  else none

end Reply

end ChatFlow.Endpoint
