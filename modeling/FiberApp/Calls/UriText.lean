import Mathlib.Data.List.TakeWhile
import FiberApp.Calls.CallUri

/-! URIs of the form `scheme user@host[:port]*(;param)`, their text, and what they become when
they are rewritten for a call. -/

set_option autoImplicit false

namespace FiberApp.Calls

open Foundation

theorem toLower_eq_semicolon {letter : Char} (folded : letter.toLower = ';') : letter = ';' := by
  unfold Char.toLower at folded
  split at folded
  case isTrue upper =>
    have value := congrArg (·.val.toNat) folded
    have low := UInt32.le_iff_toNat_le.mp upper.1
    have high := UInt32.le_iff_toNat_le.mp upper.2
    simp [UInt32.toNat_add] at value low high
    omega
  case isFalse => exact folded

theorem lower_free {text : List Char} (free : ';' ∉ text) :
    Char.toLower ';' ∉ text.map Char.toLower := by
  intro member
  obtain ⟨letter, inText, folded⟩ := List.mem_map.mp member
  exact free (toLower_eq_semicolon folded ▸ inText)

/-- The search that ignores the case of letters. -/
def caselessFind (str substr : List Char) : Option Nat := findFolded Char.toLower substr str

theorem caselessFind_ignoresCase : IgnoresCase caselessFind where
  occurs := findFolded_some
  first := findFolded_first
  missing lost inside := findFolded_none lost inside

/-- The documentation leaves no choice. -/
theorem IgnoresCase.eq_caselessFind {stristr : List Char → List Char → Option Nat}
    (documented : IgnoresCase stristr) : stristr = caselessFind := by
  funext str substr
  cases found : stristr str substr with
  | none =>
      cases other : caselessFind str substr with
      | none => rfl
      | some q =>
          obtain ⟨inside, starts⟩ := findFolded_some other
          exact absurd starts (documented.missing found inside)
  | some p =>
      obtain ⟨inside, starts⟩ := documented.occurs found
      cases other : caselessFind str substr with
      | none => exact absurd starts (findFolded_none other inside)
      | some q =>
          rcases Nat.lt_trichotomy p q with before | same | behind
          · exact absurd starts (findFolded_first other before)
          · rw [same]
          · exact absurd (findFolded_some other).2 (documented.first found behind)

inductive Scheme
  | sip
  | sips
  deriving DecidableEq, Repr

namespace Scheme

def text : Scheme → List Char
  | .sip => "sip:".toList
  | .sips => "sips:".toList

/-- What is left of the scheme behind its first four letters. -/
def rest : Scheme → List Char
  | .sip => []
  | .sips => [':']

variable (scheme : Scheme)

theorem text_free : ';' ∉ scheme.text := by
  cases scheme <;> decide

theorem drop_text_append (text : List Char) :
    (scheme.text ++ text).drop schemeLength = scheme.rest ++ text := by
  cases scheme <;> rfl

theorem text_append_inj {scheme other : Scheme} {left right : List Char} :
    scheme.text ++ left = other.text ++ right ↔ scheme = other ∧ left = right := by
  constructor
  · intro same
    have fourth := congrArg (·[3]?) same
    cases scheme <;> cases other <;> simp [Scheme.text] at same fourth ⊢ <;> exact same
  · intro parts
    obtain ⟨rfl, rfl⟩ := parts
    rfl

end Scheme

def portText : Option (List Char) → List Char
  | none => []
  | some digits => ':' :: digits

/-- The user may have colons and semicolons, and a host with colons is an address in brackets. -/
structure Uri where
  scheme : Scheme
  user : List Char
  host : List Char
  port : Option (List Char)
  params : List (List Char)
  user_plain : '@' ∉ user
  host_plain : ';' ∉ host
  host_colon : ':' ∈ host → host.head? = some '[' ∧ host.getLast? = some ']'
  port_digits : ∀ digits, port = some digits → ∀ digit ∈ digits, digit.isDigit = true
  params_plain : ∀ param ∈ params, ';' ∉ param

def transportWord : List Char := "transport".toList

def proxyWord : List Char := "httpproxy=".toList

theorem transportStr_eq : transportStr = ';' :: transportWord := by decide

theorem proxyStr_eq : proxyStr = ';' :: proxyWord := by decide

def isTransport (param : List Char) : Bool :=
  (param.takeWhile (· != '=')).map Char.toLower == transportWord

def startsProxy (param : List Char) : Bool :=
  StartsFolded Char.toLower proxyWord param

theorem startsFolded_of_isTransport {param : List Char} (transport : isTransport param = true) :
    StartsFolded Char.toLower transportWord param := by
  have named := eq_of_beq transport
  rw [StartsFolded, ← List.takeWhile_append_dropWhile (p := (· != '=')) (l := param),
    List.map_append, named]
  exact List.prefix_append _ _

theorem not_isTransport_of_startsProxy {param : List Char} (proxy : startsProxy param = true) :
    isTransport param = false := by
  obtain ⟨rest, split⟩ := of_decide_eq_true proxy
  cases param with
  | nil => cases split
  | cons letter param =>
      have folded : letter.toLower = 'h' := (List.cons.inj split).1.symm
      have named : letter ≠ '=' := by
        rintro rfl
        cases folded
      cases given : isTransport (letter :: param) with
      | false => rfl
      | true =>
          have whole := eq_of_beq given
          rw [List.takeWhile_cons_of_pos (by simpa using named), List.map_cons, folded] at whole
          have first : some 'h' = transportWord.head? := congrArg List.head? whole
          exact absurd first (by decide)

namespace CallMode

variable (mode : CallMode)

def scheme : Scheme := if mode.encryptionSupport then .sips else .sip

def defaultPort : List Char := "5060".toList

def port (port : Option (List Char)) : Option (List Char) :=
  if mode.encryptionSupport then port else port.map fun _ => defaultPort

def transport : List Char :=
  if mode.encryptionSupport then "transport=multiport".toList else "transport=tcp".toList

def marks : List (List Char) :=
  if mode.nat64Ipv6 && mode.preferIpv6 then ["ipv6".toList] else []

theorem scheme_text :
    mode.scheme.text =
      if mode.encryptionSupport then "sips:".toList else "sip:".toList := by
  unfold CallMode.scheme
  split <;> rfl

theorem newTransport_eq : newTransport mode = separated ';' (mode.transport :: mode.marks) := by
  obtain ⟨encryptionSupport, nat64Ipv6, preferIpv6⟩ := mode
  cases encryptionSupport <;> cases nat64Ipv6 <;> cases preferIpv6 <;> rfl

theorem newTransport_free : '@' ∉ newTransport mode := by
  obtain ⟨encryptionSupport, nat64Ipv6, preferIpv6⟩ := mode
  cases encryptionSupport <;> cases nat64Ipv6 <;> cases preferIpv6 <;> decide

theorem transport_spec : ';' ∉ mode.transport ∧ isTransport mode.transport = true := by
  unfold transport
  split <;> decide

theorem marks_spec : ∀ mark ∈ mode.marks, ';' ∉ mark ∧ isTransport mark = false := by
  intro mark member
  unfold marks at member
  split at member
  · cases List.mem_singleton.mp member
    decide
  · cases member

theorem port_digits {port : Option (List Char)}
    (digits : ∀ number, port = some number → ∀ digit ∈ number, digit.isDigit = true) :
    ∀ number, mode.port port = some number → ∀ digit ∈ number, digit.isDigit = true := by
  intro number same
  unfold CallMode.port at same
  split at same
  · exact digits number same
  · obtain ⟨_, _, rfl⟩ := Option.map_eq_some_iff.mp same
    exact List.all_eq_true.mp (by decide : defaultPort.all Char.isDigit = true)

end CallMode

namespace Uri

variable (mode : CallMode) (uri : Uri)

def hostPort : List Char := uri.host ++ portText uri.port

def address : List Char := uri.user ++ '@' :: uri.hostPort

def text : List Char := uri.scheme.text ++ (uri.address ++ separated ';' uri.params)

def hasTransport : Bool := uri.params.any isTransport

/-- The parameters before the transport, and the other ones after it. -/
def earlier : List (List Char) := uri.params.takeWhile fun param => !isTransport param

def later : List (List Char) :=
  (uri.params.dropWhile fun param => !isTransport param).filter fun param => !isTransport param

theorem earlier_spec {param : List Char} (member : param ∈ uri.earlier) :
    ';' ∉ param ∧ isTransport param = false := by
  have other := List.mem_takeWhile_imp member
  exact ⟨uri.params_plain param ((List.takeWhile_sublist _).mem member), by simpa using other⟩

theorem later_spec {param : List Char} (member : param ∈ uri.later) :
    ';' ∉ param ∧ isTransport param = false := by
  obtain ⟨rest, other⟩ := List.mem_filter.mp member
  exact ⟨uri.params_plain param ((List.dropWhile_sublist _).mem rest), by simpa using other⟩

theorem earlier_append_later :
    uri.earlier ++ uri.later = uri.params.filter fun param => !isTransport param := by
  have kept : uri.earlier.filter (fun param => !isTransport param) = uri.earlier :=
    List.filter_eq_self.mpr fun param member => by simp [(uri.earlier_spec member).2]
  rw [← kept, later, ← List.filter_append, earlier, List.takeWhile_append_dropWhile]

theorem hostPort_free : ';' ∉ uri.hostPort := by
  rw [hostPort, List.mem_append, not_or]
  refine ⟨uri.host_plain, ?_⟩
  cases given : uri.port with
  | none => exact List.not_mem_nil
  | some digits =>
      intro member
      rcases List.mem_cons.mp member with wrong | inDigits
      · cases wrong
      · cases uri.port_digits digits given ';' inDigits

/-- The URI for the mode: user and host stay as they are, and so do the parameters other than
the transport, in their order. -/
def rewritten : Uri :=
  if uri.hasTransport then
    { uri with
      scheme := mode.scheme
      port := mode.port uri.port
      params := uri.earlier ++ mode.transport :: (mode.marks ++ uri.later)
      port_digits := mode.port_digits uri.port_digits
      params_plain := by
        intro param member
        simp only [List.mem_append, List.mem_cons] at member
        rcases member with early | rfl | mark | late
        · exact (uri.earlier_spec early).1
        · exact mode.transport_spec.1
        · exact (mode.marks_spec param mark).1
        · exact (uri.later_spec late).1 }
  else uri

variable {uri}

theorem rewritten_of_transport (transport : uri.hasTransport = true) :
    (uri.rewritten mode).scheme = mode.scheme ∧
      (uri.rewritten mode).hostPort = uri.host ++ portText (mode.port uri.port) ∧
      (uri.rewritten mode).params =
        uri.earlier ++ mode.transport :: (mode.marks ++ uri.later) := by
  rw [rewritten, if_pos transport]
  exact ⟨rfl, rfl, rfl⟩

theorem rewritten_of_none (noTransport : uri.hasTransport = false) :
    uri.rewritten mode = uri := by
  rw [rewritten, if_neg (by simp [noTransport])]

variable (uri)

@[simp] theorem rewritten_user : (uri.rewritten mode).user = uri.user := by
  unfold rewritten
  split <;> rfl

/-- No parameter other than the transport is lost. -/
theorem countP_params_le :
    (uri.params.countP fun param => !isTransport param) ≤
      (uri.rewritten mode).params.countP fun param => !isTransport param := by
  cases given : uri.hasTransport with
  | false => rw [rewritten_of_none mode given]
  | true =>
      have kept : (uri.earlier ++ uri.later).Sublist (uri.rewritten mode).params := by
        rw [(rewritten_of_transport mode given).2.2]
        exact (List.Sublist.refl _).append ((List.sublist_append_right _ _).cons _)
      have counted := kept.countP_le (p := fun param => !isTransport param)
      rw [earlier_append_later, List.countP_filter] at counted
      simpa using counted

theorem text_eq :
    uri.text =
      uri.scheme.text ++ (uri.user ++ '@' :: (uri.hostPort ++ separated ';' uri.params)) := by
  rw [text, address, List.append_assoc, List.cons_append]

/-- What starts with a semicolon is found in the user, else where a parameter starts. -/
theorem caselessFind_text {word : List Char} (noAt : '@' ∉ (';' :: word).map Char.toLower)
    (outside : Char.toLower ';' ∉ word.map Char.toLower) :
    caselessFind uri.text (';' :: word) =
      ((caselessFind uri.user (';' :: word)).or
        ((if uri.params.any fun param => StartsFolded Char.toLower word param then
            some (separated ';' (uri.params.takeWhile
              fun param => ¬ StartsFolded Char.toLower word param)).length
          else none).map fun offset =>
            uri.hostPort.length + offset + (uri.user.length + 1))).map
        (uri.scheme.text.length + ·) := by
  rw [caselessFind, text_eq, findFolded_skip (lower_free uri.scheme.text_free),
    findFolded_append_cons _ _ (List.cons_ne_nil _ _) noAt,
    findFolded_skip (lower_free uri.hostPort_free),
    findFolded_separated outside fun param member => lower_free (uri.params_plain param member),
    Option.map_map]
  rfl

theorem marked_of_hasTransport (transport : uri.hasTransport = true) :
    caselessFind uri.text transportStr ≠ none := by
  obtain ⟨param, member, given⟩ := List.any_eq_true.mp transport
  have starts : (uri.params.any fun param =>
      decide (StartsFolded Char.toLower transportWord param)) = true :=
    List.any_eq_true.mpr ⟨param, member, decide_eq_true (startsFolded_of_isTransport given)⟩
  rw [transportStr_eq, uri.caselessFind_text (by decide) (by decide), if_pos starts]
  intro lost
  rw [Option.map_eq_none_iff, Option.or_eq_none_iff] at lost
  exact absurd lost.2 (Option.some_ne_none _)

end Uri

end FiberApp.Calls
