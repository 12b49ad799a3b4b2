import FiberApp.Foundation.TextSearch
import Mathlib.Algebra.Ring.Int.Defs

/-! The ids of the screen-sharing devices, `bjndevices.cc`. -/

set_option autoImplicit false

namespace FiberApp.Devices.ScreenSharing

open Foundation

abbrev Text := List Char

def screenSharingUniqueId : Text := "{7306149c-b8c7-4227-9946-6d6316edc64f}".toList

def toDecimal : Int → Text
  | .ofNat number => Nat.toDigits 10 number
  | .negSucc number => '-' :: Nat.toDigits 10 (number + 1)

def isSpace (character : Char) : Bool :=
  character ∈ [' ', '\t', '\n', '\x0b', '\x0c', '\r']

def digitsValue (text : Text) : Int :=
  Nat.ofDigitChars 10 (text.takeWhile Char.isDigit) 0

def signedValue (text : Text) : Int :=
  match text.dropWhile isSpace with
  | '-' :: digits => -digitsValue digits
  | '+' :: digits => digitsValue digits
  | digits => digitsValue digits

/-- The C standard leaves open what `atoi` returns for a number that is no `int`. -/
def atoi (outOfRange : Int → Int32) (text : Text) : Int32 :=
  let value := signedValue text
  if -2 ^ 31 ≤ value ∧ value < 2 ^ 31 then .ofInt value else outOfRange value

def getScreenSharingDeviceUniqueID (index : Int32) (appId : UInt64) : Text :=
  let id := screenSharingUniqueId ++ '\\' :: toDecimal index.toInt
  if appId ≠ 0 then id ++ '\\' :: toDecimal appId.toNat else id

def isScreenSharingDevice (id : Text) : Bool :=
  screenSharingUniqueId.isPrefixOf id

def getScreenSharingDeviceIndex (outOfRange : Int → Int32) (id : Text) : Int32 :=
  match fromLast '\\' id with
  | none => 0
  | some pos => atoi outOfRange pos.tail

end FiberApp.Devices.ScreenSharing
