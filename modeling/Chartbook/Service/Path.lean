import Chartbook.Json.Printer

/-!
Paths of requests. Every segment is written so that no character of it can change the route.
-/

namespace Chartbook.Service

/-- Characters that a segment may not hold as they are: control characters, space, the marks that
have a meaning in an address, and everything beyond ASCII. -/
def isReserved (character : Char) : Bool :=
  character.toNat ≤ 0x20 || 0x7F ≤ character.toNat
    || ['"', '#', '%', '/', '<', '>', '?', '\\', '\x60', '\x7b', '\x7d'].contains character

def upperHex (digit : Nat) : Char :=
  (Json.hexText digit).toUpper

def escapeByte (byte : UInt8) : List Char :=
  ['%', upperHex (byte.toNat / 16), upperHex (byte.toNat % 16)]

def escapeCharacter (character : Char) : List Char :=
  if isReserved character then (String.utf8EncodeChar character).flatMap escapeByte
  else [character]

def vanishes (character : Char) : Bool :=
  character == '\t' || character == '\n' || character == '\r'

def upToSlash (path : List Char) : List Char :=
  (path.reverse.dropWhile (· != '/')).reverse

def lastSegment (path : List Char) : List Char :=
  (path.reverse.takeWhile (· != '/')).reverse

/-- A letter and a colon or a bar: the root of a drive. -/
def isDrive : List Char → Bool
  | [letter, mark] => letter.isAlpha && (mark == ':' || mark == '|')
  | _ => false

/-- Goes up one step from a path that ends in a slash. Nothing is above the root of the path, and
the root of a drive is not left either. -/
def parent (path : List Char) : List Char :=
  if path = ['/'] || isDrive (lastSegment path.dropLast) then path else upToSlash path.dropLast

/-- Appends a segment. Dots alone are skipped; where they only come about because other characters
vanish, they mean this place and the one above it. -/
def append (path segment : List Char) : List Char :=
  if segment = ['.'] || segment = ['.', '.'] then
    path
  else
    let base := if path = ['/'] then path else path ++ ['/']
    let kept := segment.filter fun character => !vanishes character
    if kept = ['.'] then base
    else if kept = ['.', '.'] then parent base
    else base ++ kept.flatMap escapeCharacter

def pathOf (segments : List String) : String :=
  String.ofList ((segments.map String.toList).foldl append ['/'])

end Chartbook.Service
