import FiberApp.Foundation.TextSearch

/-! The check of `bjnhelpers.cpp` on the location of a page. -/

set_option autoImplicit false

namespace FiberApp.Helpers

open Foundation

def vsiteList : List (List Char) :=
  ["bluejeans.com".toList, "bluejeansnet.com".toList, "bluejeansdev.com".toList]

def invsiteList : List (List Char) :=
  ["bluejeans.com.".toList, "bluejeansnet.com.".toList, "bluejeansdev.com.".toList]

def hasEnding (fullString ending : List Char) : Bool :=
  if fullString.length ≥ ending.length then
    fullString.drop (fullString.length - ending.length) == ending
  else false

/-- The loop over `vsiteList`. Without a slash behind the site `find_first_of`
returns `npos`, and the range the source then copies is undefined: `none`. -/
def scanValidSites (location : List Char) : List (List Char) → Option Bool
  | [] => some false
  | site :: rest =>
      match findFrom site location with
      | none => scanValidSites location rest
      | some tempStr =>
          match upTo '/' tempStr with
          | none => none
          | some actualLocation =>
              if hasEnding actualLocation site then some true else scanValidSites location rest

def scanInvalidSites (location : List Char) : List (List Char) → Bool
  | [] => false
  | site :: rest =>
      if (findFrom site location).isSome then true else scanInvalidSites location rest

def checkForValidSite (location : List Char) : Option Bool :=
  match scanValidSites location vsiteList with
  | none => none
  | some isValidList =>
      let isInValidList := scanInvalidSites location invsiteList
      some (!isInValidList && isValidList)

end FiberApp.Helpers
