import ChatFlow.Json.Reader
import ChatFlow.Text.Wide

/-!
# The bodies of messages

A body is made of bytes. A byte order mark at its start tells how they are to be read. Without one
they are UTF-8, unless zeros among the first of them tell that every character takes two bytes or
four. Halves of surrogate pairs are read in any layout.
-/

namespace ChatFlow.Json

inductive Layout where
  | utf8
  | utf16 (bigEndian : Bool)
  | utf32 (bigEndian : Bool)
  deriving DecidableEq, Repr

namespace Layout

/-- The layout that a byte order mark shows, and the bytes after the mark. -/
def marked? : List UInt8 → Option (Layout × List UInt8)
  | 0 :: 0 :: 0xfe :: 0xff :: bs => some (utf32 true, bs)
  | 0xff :: 0xfe :: 0 :: 0 :: bs => some (utf32 false, bs)
  | 0xfe :: 0xff :: bs => some (utf16 true, bs)
  | 0xff :: 0xfe :: bs => some (utf16 false, bs)
  | 0xef :: 0xbb :: 0xbf :: bs => some (utf8, bs)
  | _ => none

/-- The layout that the first bytes show where there is no mark. -/
def of : List UInt8 → Layout
  | 0 :: 0 :: _ :: _ :: _ => utf32 true
  | 0 :: _ :: _ :: _ :: _ => utf16 true
  | _ :: 0 :: 0 :: 0 :: _ => utf32 false
  | _ :: 0 :: _ :: _ :: _ => utf16 false
  | [0, _] => utf16 true
  | [_, 0] => utf16 false
  | _ => utf8

/-- The characters of bytes in a layout, unless the bytes are no text. -/
def read? : Layout → List UInt8 → Option (List Char)
  | utf8, bytes => Text.looseUtf8? bytes
  | utf16 bigEndian, bytes => match Text.pairs bigEndian bytes with
    | (ns, false) => some (Text.ofUnits ns)
    | (_, true) => none
  | utf32 bigEndian, bytes => match Text.quads bigEndian bytes with
    | (ns, false) => if ns.all (· < 0x110000) then some (Text.ofPoints ns) else none
    | (_, true) => none

end Layout

/-- The characters of a body, unless its bytes are no text. -/
def bodyChars? (bytes : List UInt8) : Option (List Char) :=
  match Layout.marked? bytes with
  | some (layout, bytes) => layout.read? bytes
  | none => (Layout.of bytes).read? bytes

def readBody (bytes : List UInt8) : Except Fault Json :=
  match bodyChars? bytes with
  | some cs => read (String.ofList cs)
  | none => .error .notText

end ChatFlow.Json
