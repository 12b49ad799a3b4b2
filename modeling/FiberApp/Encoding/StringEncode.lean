import FiberApp.Foundation.UnitCode

/-! The escapes of `stringencode.cc`: what each function writes into a buffer of `buflen` bytes
before the terminating zero, and reads back. -/

set_option autoImplicit false

namespace FiberApp.Encoding

open FiberApp.Foundation

def hexDigits : List UInt8 :=
  ['0', '1', '2', '3', '4', '5', '6', '7', '8', '9', 'a', 'b', 'c', 'd', 'e', 'f'].map Char.toUInt8

def hexEncode (val : UInt8) : UInt8 :=
  if val < 16 then hexDigits.getD val.toNat 0 else '!'.toUInt8

/-- The letters after `f` are taken too. -/
def hexDecode (ch : UInt8) : Option UInt8 :=
  if '0'.toUInt8 ≤ ch ∧ ch ≤ '9'.toUInt8 then some (ch - '0'.toUInt8)
  else if 'A'.toUInt8 ≤ ch ∧ ch ≤ 'Z'.toUInt8 then some (ch - 'A'.toUInt8 + 10)
  else if 'a'.toUInt8 ≤ ch ∧ ch ≤ 'z'.toUInt8 then some (ch - 'a'.toUInt8 + 10)
  else none

/-- `::strchr` finds the terminating zero of a text as well. -/
def strchr (text : List UInt8) (ch : UInt8) : Bool := ch = 0 ∨ ch ∈ text

def hexUnit (escape ch : UInt8) : List UInt8 :=
  [escape, hexEncode (ch >>> 4 &&& 0xF), hexEncode (ch &&& 0xF)]

/-- Two digits, when both are there, and what follows them. -/
def readHexPair : List UInt8 → Option (UInt8 × List UInt8)
  | first :: second :: rest => do
      let h1 ← hexDecode first
      let h2 ← hexDecode second
      return (h1 <<< 4 ||| h2, rest)
  | _ => none

def escapeUnit (illegal : List UInt8) (escape ch : UInt8) : List UInt8 :=
  if ch = escape ∨ strchr illegal ch then [escape, ch] else [ch]

def unescapeNext (escape ch : UInt8) (rest : List UInt8) : UInt8 × List UInt8 :=
  if ch = escape then
    match rest with
    | [] => (ch, [])
    | second :: rest => (second, rest)
  else (ch, rest)

def encodeUnit (illegal : List UInt8) (escape ch : UInt8) : List UInt8 :=
  if ch ≠ escape ∧ strchr illegal ch = false then [ch] else hexUnit escape ch

def decodeNext (escape ch : UInt8) (rest : List UInt8) : UInt8 × List UInt8 :=
  if ch = escape then (readHexPair rest).getD (ch, rest) else (ch, rest)

def urlUnsafe : UInt8 := 0x1

def asciiClass : List UInt8 := [
  1,1,1,1,1,1,1,1,1,1,1,1,1,1,1,1,1,1,1,1,1,1,1,1,1,1,1,1,1,1,1,1,
  1,0,3,1,1,1,3,2,0,0,0,1,1,0,0,1,0,0,0,0,0,0,0,0,0,0,1,1,3,1,3,1,
  1,0,0,0,0,0,0,0,0,0,0,0,0,0,0,0,0,0,0,0,0,0,0,0,0,0,0,1,1,1,1,0,
  1,0,0,0,0,0,0,0,0,0,0,0,0,0,0,0,0,0,0,0,0,0,0,0,0,0,0,1,1,1,0,1]

def isUrlUnsafe (ch : UInt8) : Bool :=
  ch < 128 && asciiClass.getD ch.toNat 0 &&& urlUnsafe != 0

def urlEncodeUnit (ch : UInt8) : List UInt8 :=
  if isUrlUnsafe ch then hexUnit '%'.toUInt8 ch else [ch]

def urlDecodeNext (ch : UInt8) (rest : List UInt8) : UInt8 × List UInt8 :=
  if ch = '+'.toUInt8 then (' '.toUInt8, rest)
  else if ch = '%'.toUInt8 then (readHexPair rest).getD (ch, rest)
  else (ch, rest)

def escape (illegal : List UInt8) (escape : UInt8) (buflen : Nat) (source : List UInt8) :
    List UInt8 :=
  writeUnits (escapeUnit illegal escape) buflen source []

def unescape (escape : UInt8) (buflen : Nat) (source : List UInt8) : List UInt8 :=
  readUnits (unescapeNext escape) buflen source.length source []

def encode (illegal : List UInt8) (escape : UInt8) (buflen : Nat) (source : List UInt8) :
    List UInt8 :=
  writeUnits (encodeUnit illegal escape) buflen source []

def decode (escape : UInt8) (buflen : Nat) (source : List UInt8) : List UInt8 :=
  readUnits (decodeNext escape) buflen source.length source []

def urlEncode (buflen : Nat) (source : List UInt8) : List UInt8 :=
  writeUnits urlEncodeUnit buflen source []

/-- The answer of `url_encode` when it is given no buffer. -/
def urlEncodeSize (srclen : Nat) : Nat := srclen * 3 + 1

def urlDecode (buflen : Nat) (source : List UInt8) : List UInt8 :=
  readUnits urlDecodeNext buflen source.length source []

/-- The answer of `url_decode` when it is given no buffer. -/
def urlDecodeSize (srclen : Nat) : Nat := srclen + 1

end FiberApp.Encoding
