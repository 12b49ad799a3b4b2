import Mathlib.Data.List.Basic

/-! The parser of device ids of `audiodevconfig.cpp` with its output variable. A `Char` of
a list stands for one `char` of the string. -/

set_option autoImplicit false

namespace FiberApp.Devices

def isSpace (c : Char) : Bool := c == ' ' || (9 ≤ c.toNat && c.toNat ≤ 13)

def hexDigit (c : Char) : Option Nat :=
  if '0' ≤ c ∧ c ≤ '9' then some (c.toNat - '0'.toNat)
  else if 'a' ≤ c ∧ c ≤ 'f' then some (c.toNat - 'a'.toNat + 10)
  else if 'A' ≤ c ∧ c ≤ 'F' then some (c.toNat - 'A'.toNat + 10)
  else none

def isHexDigit (c : Char) : Bool := (hexDigit c).isSome

/-- The number that hexadecimal digits denote. -/
def hexNumber (digits : List Char) : Nat :=
  digits.foldl (fun value c => value * 16 + (hexDigit c).getD 0) 0

/-- A sign at the start of the text, and what follows it. -/
def splitSign : List Char → List Char × List Char
  | '-' :: rest => (['-'], rest)
  | '+' :: rest => (['+'], rest)
  | rest => ([], rest)

/-- `0x` at the start of the text, if a digit follows it, and what follows. -/
def splitMarker : List Char → List Char × List Char
  | '0' :: x :: next :: rest =>
      if (x == 'x' || x == 'X') && isHexDigit next then (['0', x], next :: rest)
      else ([], '0' :: x :: next :: rest)
  | rest => ([], rest)

/-- The value, the offset of `endptr` and `errno` after `strtol`. -/
structure StrtolResult where
  longVal : Int
  endOffset : Nat
  errno : Int
  deriving DecidableEq, Repr

/-- `strtol` with base 16 for a text whose number is in the range of `long`, as that of
four characters is. An implementation may set `errno` when there is no number. -/
def strtol (noNumberErrno : Int) (text : List Char) : StrtolResult :=
  let spaces := text.takeWhile isSpace
  let (sign, unsigned) := splitSign (text.dropWhile isSpace)
  let (marker, number) := splitMarker unsigned
  let digits := number.takeWhile isHexDigit
  if digits = [] then ⟨0, 0, noNumberErrno⟩
  else
    ⟨if sign = ['-'] then -(hexNumber digits : Int) else hexNumber digits,
      spaces.length + sign.length + marker.length + digits.length, 0⟩

/-- What `c_str()` shows of a string. -/
def cString (str : List Char) : List Char := str.takeWhile (·.toNat != 0)

/-- Whether it succeeded, and the output variable afterwards. -/
def getIntDeviceIdFromHex (noNumberErrno : Int) (str : List Char) (val : Int32) :
    Bool × Int32 :=
  if str.length = 4 then
    let start := cString str
    let result := strtol noNumberErrno start
    if !(val == 0 && result.errno != 0) && result.endOffset != 0 &&
        result.endOffset == start.length then
      (true, .ofInt result.longVal)
    else (false, val)
  else (false, val)

end FiberApp.Devices
