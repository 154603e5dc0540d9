/-!
Texts written in bytes. Every longest run of bytes that begins a character without ending it is one
fault, and so is every byte that can begin none.
-/

namespace Chartbook.Text

/-- A character that has begun: how many bytes it still needs, between which bounds the next of them
lies, and its bits so far. -/
structure Begun where
  needed : Nat
  least : Nat
  most : Nat
  bits : Nat
  deriving DecidableEq, Repr

namespace Begun

def needing (needed bits : Nat) : Begun :=
  { needed, least := 0x80, most := 0xBF, bits }

/-- The bounds of the second byte leave out longer forms than needed, surrogates, and numbers above
U+10FFFF. -/
def first? (byte : Nat) : Option Begun :=
  if byte < 0xC2 then none
  else if byte ≤ 0xDF then some (needing 1 (byte - 0xC0))
  else if byte = 0xE0 then some { needing 2 0 with least := 0xA0 }
  else if byte = 0xED then some { needing 2 0xD with most := 0x9F }
  else if byte ≤ 0xEF then some (needing 2 (byte - 0xE0))
  else if byte = 0xF0 then some { needing 3 0 with least := 0x90 }
  else if byte ≤ 0xF3 then some (needing 3 (byte - 0xF0))
  else if byte = 0xF4 then some { needing 3 4 with most := 0x8F }
  else none

end Begun

def readFirst (byte : Nat) : List (Option Char) × Option Begun :=
  if byte < 0x80 then ([some (Char.ofNat byte)], none)
  else
    match Begun.first? byte with
    | some begun => ([], some begun)
    | none => ([none], none)

/-- Reads a byte within a character. A byte that does not belong to it is read as a first one. -/
def readNext (begun : Begun) (byte : Nat) : List (Option Char) × Option Begun :=
  if begun.least ≤ byte && byte ≤ begun.most then
    let bits := begun.bits * 0x40 + (byte - 0x80)
    if begun.needed = 1 then ([some (Char.ofNat bits)], none)
    else ([], some (Begun.needing (begun.needed - 1) bits))
  else
    let (found, after) := readFirst byte
    (none :: found, after)

def readByte (begun : Option Begun) (byte : UInt8) : List (Option Char) × Option Begun :=
  match begun with
  | some begun => readNext begun byte.toNat
  | none => readFirst byte.toNat

def decodeAfter : Option Begun → List UInt8 → List (Option Char)
  | none, [] => []
  | some _, [] => [none]
  | begun, byte :: rest =>
      let (found, after) := readByte begun byte
      found ++ decodeAfter after rest

def decode (bytes : List UInt8) : List (Option Char) :=
  decodeAfter none bytes

def ofBytes? (bytes : List UInt8) : Option String :=
  let characters := decode bytes
  if characters.all Option.isSome then some (String.ofList (characters.filterMap id)) else none

/-- The text with a replacement character in place of every fault. -/
def ofBytesMarked (bytes : List UInt8) : String :=
  String.ofList ((decode bytes).map fun character => character.getD '\uFFFD')

def toBytes (text : String) : List UInt8 :=
  text.toList.flatMap String.utf8EncodeChar

end Chartbook.Text
