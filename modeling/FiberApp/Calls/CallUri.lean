import FiberApp.Foundation.SeparatedText

/-! The URI that `platformMakeCall` of `skinnysipmanager.cpp` calls, as the text it is cut
and put together from. Offsets stand for the pointers into it. The library's `pj_stristr` is
a parameter. -/

set_option autoImplicit false

namespace FiberApp.Calls

open Foundation (StartsFolded)

/-- What the address is rewritten for: the argument of the call and two meeting features. -/
structure CallMode where
  encryptionSupport : Bool
  nat64Ipv6 : Bool
  preferIpv6 : Bool
  deriving DecidableEq, Repr

/-- What `pj/string.h` says of `pj_stristr`: it looks a substring up without regard to the case
of both strings. -/
structure IgnoresCase (stristr : List Char → List Char → Option Nat) : Prop where
  occurs {str substr : List Char} {p : Nat} (found : stristr str substr = some p) :
    p ≤ str.length ∧ StartsFolded Char.toLower substr (str.drop p)
  first {str substr : List Char} {p earlier : Nat} (found : stristr str substr = some p)
    (before : earlier < p) : ¬ StartsFolded Char.toLower substr (str.drop earlier)
  missing {str substr : List Char} {p : Nat} (missing : stristr str substr = none)
    (inside : p ≤ str.length) : ¬ StartsFolded Char.toLower substr (str.drop p)

def transportStr : List Char := ";transport".toList

def proxyStr : List Char := ";httpproxy=".toList

/-- Both schemes of a SIP URI are taken to be this long. -/
def schemeLength : Nat := 4

/-- `append(uri->ptr + 4, length)`. A negative length is a huge one, and what lies behind the
URI is not known. -/
def appendPart (uri : List Char) (length : Int) : Option (List Char) :=
  let part := uri.drop schemeLength
  if 0 ≤ length ∧ length.toNat ≤ part.length then some (part.take length.toNat) else none

/-- The part of the URI in front of the transport at `p`. `memchr` finds the first colon and
the first semicolon, wherever they belong; a difference with null is not known. -/
def copiedPart (mode : CallMode) (uri : List Char) (p : Nat) : Option (List Char) :=
  let length : Int := p - schemeLength
  if mode.encryptionSupport then appendPart uri length
  else
    match (uri.drop schemeLength).idxOf? ':', (uri.drop schemeLength).idxOf? ';' with
    | some portStart, some portEnd =>
        let portLen : Int := portEnd - portStart - 1
        (appendPart uri (length - portLen)).map (· ++ "5060".toList)
    | some _, none => none
    | none, _ => appendPart uri length

def newTransport (mode : CallMode) : List Char :=
  (if mode.encryptionSupport then ";transport=multiport".toList else ";transport=tcp".toList) ++
    if mode.nat64Ipv6 && mode.preferIpv6 then ";ipv6".toList else []

section Stristr

variable (stristr : List Char → List Char → Option Nat)

def proxyTail (uri : List Char) : List Char :=
  match stristr uri proxyStr with
  | some p => uri.drop p
  | none => []

/-- The URI of the call. A URI without a transport is used as it is, and one has no null
character that would end it. -/
def callUri (mode : CallMode) (uri : List Char) : Option (List Char) :=
  match stristr uri transportStr with
  | some p =>
      (copiedPart mode uri p).map fun part =>
        (if mode.encryptionSupport then "sips:".toList else "sip:".toList) ++ part ++
          newTransport mode ++ proxyTail stristr uri
  | none => some uri

end Stristr

end FiberApp.Calls
