import Mathlib.Data.List.Flatten
import FiberApp.Calls.UriText

/-! Which URIs keep their address and their other parameters when they are rewritten for a call.
The text is cut at the first colon and the first semicolon, and only its `httpproxy` tail is
put back. -/

set_option autoImplicit false

namespace FiberApp.Calls

open Foundation

theorem appendPart_eq_some_iff {text part : List Char} {length : Int} :
    appendPart text length = some part ↔
      ∃ kept : Nat, length = kept ∧ kept ≤ (text.drop schemeLength).length ∧
        part = (text.drop schemeLength).take kept := by
  simp only [appendPart, Option.ite_none_right_eq_some, Option.some.injEq]
  constructor
  · intro appended
    obtain ⟨⟨nonneg, inside⟩, rfl⟩ := appended
    exact ⟨length.toNat, (Int.toNat_of_nonneg nonneg).symm, inside, rfl⟩
  · intro appended
    obtain ⟨kept, rfl, inside, rfl⟩ := appended
    exact ⟨⟨Int.natCast_nonneg kept, inside⟩, rfl⟩

theorem proxyTail_apart (text : List Char) : StartsApart ';' (proxyTail caselessFind text) := by
  unfold proxyTail
  cases found : caselessFind text proxyStr with
  | none => exact .inl rfl
  | some p =>
      obtain ⟨rest, split⟩ := (findFolded_some found).2
      change StartsApart ';' (text.drop p)
      cases tail : text.drop p with
      | nil => exact .inl rfl
      | cons letter more =>
          rw [tail, proxyStr_eq] at split
          have folded : letter.toLower = ';' := (List.cons.inj split).1.symm
          rw [toLower_eq_semicolon folded]
          exact .inr ⟨more, rfl⟩

namespace Uri

variable (mode : CallMode) (uri : Uri)

/-- The call uses the rewritten URI. -/
def KeepsAllButTransport (stristr : List Char → List Char → Option Nat) : Prop :=
  callUri stristr mode uri.text = some (uri.rewritten mode).text

/-- The text behind the letters of a scheme. -/
def body : List Char := uri.text.drop schemeLength

/-- The text between the scheme and the transport parameter. -/
def front : List Char := uri.address ++ separated ';' uri.earlier

def beforePort : List Char := uri.user ++ '@' :: (uri.host ++ [':'])

/-- How many letters of the body are kept, and the port that is put behind them. -/
inductive Cut : Nat → List Char → Prop
  | whole {kept : Nat}
      (marked : caselessFind uri.text transportStr = some (kept + schemeLength))
      (noPort : mode.encryptionSupport = true ∨ ':' ∉ uri.body) : Cut kept []
  | port {kept found portStart portEnd : Nat}
      (plain : mode.encryptionSupport = false)
      (marked : caselessFind uri.text transportStr = some found)
      (colon : uri.body.idxOf? ':' = some portStart)
      (semicolon : uri.body.idxOf? ';' = some portEnd)
      (offset : kept + schemeLength + portEnd = found + portStart + 1)
      (inside : kept ≤ uri.body.length) : Cut kept CallMode.defaultPort

/-- The new port takes the place of the old one, or of a text that is the same. -/
def PortPlace (kept : Nat) : Prop :=
  (∃ digits, uri.port = some digits ∧ uri.earlier = [] ∧
    kept + digits.length = uri.front.length) ∨
  ((uri.port = none ∨ uri.port = some CallMode.defaultPort) ∧
    kept + CallMode.defaultPort.length = uri.front.length ∧ CallMode.defaultPort <:+ uri.front)

def FrontKept : Prop :=
  uri.scheme = .sip ∧ uri.hasTransport = true ∧
    (uri.Cut mode uri.front.length [] ∨
      ∃ kept, uri.Cut mode kept CallMode.defaultPort ∧ uri.PortPlace kept)

/-- The parameters from the proxy on are all that there are behind the transport. -/
def OthersKept : Prop :=
  caselessFind uri.user proxyStr = none ∧
    (uri.params.dropWhile fun param => !startsProxy param) = uri.later

/-- The user has the text of the new transport in front of a proxy's, and the rest of the URI is
as it should be. -/
def UserRepeats : Prop :=
  ∃ kept digits proxy, uri.Cut mode kept digits ∧ caselessFind uri.user proxyStr = some proxy ∧
    uri.user = uri.body.take kept ++ digits ++ (newTransport mode ++ uri.user.drop proxy) ∧
    (uri.rewritten mode).scheme = mode.scheme ∧
    (uri.rewritten mode).hostPort = uri.hostPort ∧ (uri.rewritten mode).params = uri.params

theorem body_eq :
    uri.body =
      (uri.scheme.rest ++ uri.user) ++ '@' :: (uri.hostPort ++ separated ';' uri.params) := by
  rw [body, text_eq, Scheme.drop_text_append, List.append_assoc]

/-- The proxy's text that is put back starts in the user or with a parameter. -/
theorem proxyTail_text :
    proxyTail caselessFind uri.text =
      match caselessFind uri.user proxyStr with
      | some proxy => uri.user.drop proxy ++ '@' :: (uri.hostPort ++ separated ';' uri.params)
      | none => separated ';' (uri.params.dropWhile fun param => !startsProxy param) := by
  have noProxy : (fun param => decide (¬ StartsFolded Char.toLower proxyWord param)) =
      fun param => !startsProxy param := funext fun param => decide_not
  rw [proxyTail, proxyStr_eq, uri.caselessFind_text (by decide) (by decide), noProxy]
  cases inUser : caselessFind uri.user (';' :: proxyWord) with
  | some proxy =>
      have inside := (findFolded_some inUser).1
      change uri.text.drop (uri.scheme.text.length + proxy) = _
      rw [text_eq, ← List.drop_drop, List.drop_left, List.drop_append_of_le_length inside]
  | none =>
      cases given : uri.params.any fun param => decide (StartsFolded Char.toLower proxyWord param)
      with
      | false =>
          have dropped : (uri.params.dropWhile fun param => !startsProxy param) = [] :=
            List.dropWhile_eq_nil_iff.mpr fun param member => by
              simpa [startsProxy] using List.any_eq_false.mp given param member
          rw [dropped]
          rfl
      | true =>
          have split : uri.text =
              uri.scheme.text ++ (uri.user ++ '@' :: (uri.hostPort ++
                separated ';' (uri.params.takeWhile fun param => !startsProxy param))) ++
              separated ';' (uri.params.dropWhile fun param => !startsProxy param) := by
            rw [List.append_assoc, List.append_assoc, List.cons_append, List.append_assoc,
              ← separated_append, List.takeWhile_append_dropWhile, text_eq]
          refine (congrArg _ split).trans (List.drop_left' ?_)
          simp only [List.length_append, List.length_cons]
          omega

variable {uri}

theorem Cut.inside {mode : CallMode} {kept : Nat} {digits : List Char}
    (cut : uri.Cut mode kept digits) : kept ≤ uri.body.length := by
  cases cut with
  | whole marked =>
      have inText := (findFolded_some marked).1
      rw [body, List.length_drop]
      omega
  | port _ _ _ _ _ inside => exact inside

theorem exists_cut {p : Nat} (found : caselessFind uri.text transportStr = some p)
    {part : List Char} (copied : copiedPart mode uri.text p = some part) :
    ∃ kept digits, uri.Cut mode kept digits ∧ part = uri.body.take kept ++ digits := by
  have whole (noPort : mode.encryptionSupport = true ∨ ':' ∉ uri.body)
      (taken : appendPart uri.text (p - schemeLength) = some part) :
      ∃ kept digits, uri.Cut mode kept digits ∧ part = uri.body.take kept ++ digits := by
    obtain ⟨kept, length, -, rfl⟩ := appendPart_eq_some_iff.mp taken
    have marked : p = kept + schemeLength := by omega
    exact ⟨kept, [], .whole (marked ▸ found) noPort, (List.append_nil _).symm⟩
  unfold copiedPart at copied
  split at copied
  case isTrue encrypted => exact whole (.inl encrypted) copied
  case isFalse plain =>
    split at copied
    case h_1 portStart portEnd colon semicolon =>
      obtain ⟨start, taken, rfl⟩ := Option.map_eq_some_iff.mp copied
      obtain ⟨kept, length, inside, rfl⟩ := appendPart_eq_some_iff.mp taken
      exact ⟨kept, _, .port (by simpa using plain) found colon semicolon (by omega) inside, rfl⟩
    case h_2 => cases copied
    case h_3 noColon => exact whole (.inr (List.idxOf?_eq_none_iff.mp noColon)) copied

theorem Cut.copiedPart_eq {mode : CallMode} {p kept : Nat} {digits : List Char}
    (cut : uri.Cut mode kept digits) (found : caselessFind uri.text transportStr = some p) :
    copiedPart mode uri.text p = some (uri.body.take kept ++ digits) := by
  have inside := cut.inside
  cases cut with
  | whole marked noPort =>
      obtain rfl := Option.some.inj (found.symm.trans marked)
      have taken : appendPart uri.text ((kept + schemeLength : Nat) - schemeLength) =
          some (uri.body.take kept ++ []) :=
        appendPart_eq_some_iff.mpr ⟨kept, by omega, inside, List.append_nil _⟩
      unfold copiedPart
      split
      case isTrue => exact taken
      case isFalse plain =>
        have noColon : (uri.text.drop schemeLength).idxOf? ':' = none :=
          List.idxOf?_eq_none_iff.mpr (noPort.resolve_left (by simpa using plain))
        rw [noColon]
        exact taken
  | @port _ portStart portEnd plain marked colon semicolon offset =>
      obtain rfl := Option.some.inj (found.symm.trans marked)
      have taken : appendPart uri.text (p - schemeLength - (portEnd - portStart - 1)) =
          some (uri.body.take kept) :=
        appendPart_eq_some_iff.mpr ⟨kept, by omega, inside, rfl⟩
      rw [body] at colon semicolon
      simp only [copiedPart, plain, Bool.false_eq_true, ↓reduceIte, colon, semicolon, taken]
      rfl

theorem keeps_iff_of_marked {p : Nat} (found : caselessFind uri.text transportStr = some p) :
    uri.KeepsAllButTransport mode caselessFind ↔
      ∃ kept digits, uri.Cut mode kept digits ∧ mode.scheme = (uri.rewritten mode).scheme ∧
        uri.body.take kept ++ digits ++ (newTransport mode ++ proxyTail caselessFind uri.text) =
          uri.user ++ '@' :: ((uri.rewritten mode).hostPort ++
            separated ';' (uri.rewritten mode).params) := by
  have called : callUri caselessFind mode uri.text = (copiedPart mode uri.text p).map fun part =>
      mode.scheme.text ++ (part ++ (newTransport mode ++ proxyTail caselessFind uri.text)) := by
    simp only [callUri, found, ← mode.scheme_text, List.append_assoc]
  rw [KeepsAllButTransport, called, Option.map_eq_some_iff, (uri.rewritten mode).text_eq,
    rewritten_user]
  constructor
  · intro called
    obtain ⟨part, copied, same⟩ := called
    obtain ⟨kept, digits, cut, rfl⟩ := exists_cut mode found copied
    exact ⟨kept, digits, cut, Scheme.text_append_inj.mp same⟩
  · intro cutSome
    obtain ⟨kept, digits, cut, same⟩ := cutSome
    exact ⟨_, cut.copiedPart_eq found, Scheme.text_append_inj.mpr same⟩

/-- A proxy behind the user's address leaves no room for the address and all parameters. -/
theorem proxy_params_ne {late : List Char} :
    separated ';' (uri.params.dropWhile fun param => !startsProxy param) ≠
      late ++ '@' :: ((uri.rewritten mode).hostPort ++
        separated ';' (uri.rewritten mode).params) := by
  intro same
  obtain ⟨early, head, split⟩ := parts_of_separated_eq (by decide)
    (uri.rewritten mode).hostPort_free
    (fun param member => uri.params_plain param ((List.dropWhile_sublist _).mem member))
    (uri.rewritten mode).params_plain same
  have sublist : (uri.params.dropWhile fun param => !startsProxy param).Sublist uri.params :=
    List.dropWhile_sublist _
  -- What follows the '@' holds every parameter but the transport, and the proxy before it is
  -- one more of them.
  have fewer := sublist.countP_le (p := fun param => !isTransport param)
  have kept := uri.countP_params_le mode
  have first := List.head?_dropWhile_not (fun param => !startsProxy param) uri.params
  rw [split] at fewer first
  cases early with
  | nil =>
      have other := not_isTransport_of_startsProxy (by simpa using first)
      simp only [List.nil_append, List.countP_cons, other] at fewer
      simp at fewer
      omega
  | cons proxy early =>
      have other := not_isTransport_of_startsProxy (by simpa using first)
      simp only [List.cons_append, List.countP_cons, List.countP_append, other] at fewer
      simp at fewer
      omega

theorem userRepeats_iff {copied : List Char} :
    (∃ late, uri.user = copied ++ (newTransport mode ++ late) ∧
      proxyTail caselessFind uri.text = late ++ '@' :: ((uri.rewritten mode).hostPort ++
        separated ';' (uri.rewritten mode).params)) ↔
    ∃ proxy, caselessFind uri.user proxyStr = some proxy ∧
      uri.user = copied ++ (newTransport mode ++ uri.user.drop proxy) ∧
      (uri.rewritten mode).hostPort = uri.hostPort ∧
      (uri.rewritten mode).params = uri.params := by
  rw [proxyTail_text]
  constructor
  · intro behind
    obtain ⟨late, user, same⟩ := behind
    cases inUser : caselessFind uri.user proxyStr with
    | none =>
        rw [inUser] at same
        exact absurd same (proxy_params_ne mode)
    | some proxy =>
        rw [inUser] at same
        have dropFree : '@' ∉ uri.user.drop proxy := fun member =>
          uri.user_plain (List.mem_of_mem_drop member)
        have lateFree : '@' ∉ late := fun member => uri.user_plain
          (user ▸ List.mem_append_right _ (List.mem_append_right _ member))
        obtain rfl := before_eq_of_append_cons dropFree lateFree same
        obtain ⟨hostPort, params⟩ := (separated_inj uri.hostPort_free
          (uri.rewritten mode).hostPort_free uri.params_plain
          (uri.rewritten mode).params_plain).mp (List.cons.inj (List.append_cancel_left same)).2
        exact ⟨proxy, rfl, user, hostPort.symm, params.symm⟩
  · intro repeated
    obtain ⟨proxy, inUser, user, hostPort, params⟩ := repeated
    exact ⟨uri.user.drop proxy, user, by rw [inUser, hostPort, params]⟩

theorem othersKept_iff :
    proxyTail caselessFind uri.text = separated ';' uri.later ↔ uri.OthersKept := by
  have laterLength : (separated ';' uri.later).length ≤ (separated ';' uri.params).length := by
    have sublist : uri.later.Sublist uri.params :=
      List.filter_sublist.trans (List.dropWhile_sublist _)
    exact (sublist.flatMap _).length_le
  rw [proxyTail_text, OthersKept]
  cases inUser : caselessFind uri.user proxyStr with
  | some proxy =>
      constructor
      · intro same
        have lengths := congrArg List.length same
        simp only [List.length_append, List.length_cons] at lengths
        omega
      · intro others
        obtain ⟨none, -⟩ := others
        cases none
  | none =>
      rw [and_iff_right rfl]
      have restFree : ∀ param ∈ uri.params.dropWhile fun param => !startsProxy param,
          ';' ∉ param :=
        fun param member => uri.params_plain param ((List.dropWhile_sublist _).mem member)
      have parts_iff := separated_inj List.not_mem_nil List.not_mem_nil restFree
        fun param member => (uri.later_spec member).1
      exact parts_iff.trans (and_iff_right rfl)

theorem newTransport_append (tail : List Char) :
    newTransport mode ++ tail =
      ';' :: (mode.transport ++ (separated ';' mode.marks ++ tail)) := by
  rw [mode.newTransport_eq, separated_cons, List.cons_append, List.append_assoc]

theorem params_ne_of_noTransport (noTransport : uri.hasTransport = false)
    {early tail : List Char} (apart : StartsApart ';' tail) :
    uri.hostPort ++ separated ';' uri.params ≠ early ++ (newTransport mode ++ tail) := by
  rw [newTransport_append]
  refine ne_of_mark_notMem uri.hostPort_free mode.transport_spec.1 uri.params_plain ?_
    ((startsApart_separated ';' mode.marks).append apart)
  intro member
  exact List.any_eq_false.mp noTransport _ member mode.transport_spec.2

/-- The mode's transport is one of the rewritten parameters only where the old one was. -/
theorem rewritten_params_eq_iff (transport : uri.hasTransport = true) {early tail : List Char}
    (apart : StartsApart ';' tail) :
    (uri.rewritten mode).hostPort ++ separated ';' (uri.rewritten mode).params =
        early ++ (newTransport mode ++ tail) ↔
      early = (uri.rewritten mode).hostPort ++ separated ';' uri.earlier ∧
        tail = separated ';' uri.later := by
  have noTransport {param : List Char} (other : isTransport param = false) :
      param ≠ mode.transport := by
    intro same
    rw [same, mode.transport_spec.2] at other
    cases other
  have behindSpec {param : List Char} (member : param ∈ mode.marks ++ uri.later) :
      ';' ∉ param ∧ isTransport param = false :=
    (List.mem_append.mp member).elim (mode.marks_spec param) uri.later_spec
  rw [newTransport_append, (rewritten_of_transport mode transport).2.2,
    before_mark_iff (uri.rewritten mode).hostPort_free mode.transport_spec.1
      (fun param member => (uri.earlier_spec member).1)
      (fun param member => (behindSpec member).1)
      (fun member => noTransport (uri.earlier_spec member).2 rfl)
      (fun member => noTransport (behindSpec member).2 rfl)
      ((startsApart_separated ';' mode.marks).append apart),
    separated_append, List.append_cancel_left_eq]

/-- The new transport that is put in is the one of the rewritten URI, or stands in its user. -/
theorem placed_iff {copied : List Char} :
    copied ++ (newTransport mode ++ proxyTail caselessFind uri.text) =
        uri.user ++ '@' :: ((uri.rewritten mode).hostPort ++
          separated ';' (uri.rewritten mode).params) ↔
      (∃ proxy, caselessFind uri.user proxyStr = some proxy ∧
        uri.user = copied ++ (newTransport mode ++ uri.user.drop proxy) ∧
        (uri.rewritten mode).hostPort = uri.hostPort ∧
        (uri.rewritten mode).params = uri.params) ∨
      uri.hasTransport = true ∧
        copied = uri.user ++ '@' :: ((uri.rewritten mode).hostPort ++
          separated ';' uri.earlier) ∧ uri.OthersKept := by
  have apart := proxyTail_apart uri.text
  -- The '@' behind the user stands after the new transport or before it.
  rw [append_mark_eq_iff mode.newTransport_free, userRepeats_iff]
  refine or_congr_right ?_
  cases given : uri.hasTransport with
  | false =>
      refine iff_of_false ?_ (by simp)
      intro placed
      obtain ⟨early, -, same⟩ := placed
      rw [rewritten_of_none mode given] at same
      exact params_ne_of_noTransport mode given apart same
  | true =>
      constructor
      · intro placed
        obtain ⟨early, rfl, same⟩ := placed
        obtain ⟨rfl, tail⟩ := (rewritten_params_eq_iff mode given apart).mp same
        exact ⟨rfl, rfl, othersKept_iff.mp tail⟩
      · intro kept
        obtain ⟨-, rfl, others⟩ := kept
        exact ⟨_, rfl, (rewritten_params_eq_iff mode given apart).mpr
          ⟨rfl, othersKept_iff.mpr others⟩⟩

theorem sip_of_take {kept : Nat} {digits rest : List Char} (digitsFree : '@' ∉ digits)
    (same : uri.body.take kept ++ digits = uri.user ++ '@' :: rest) : uri.scheme = .sip := by
  cases given : uri.scheme with
  | sip => rfl
  | sips =>
      have bodyFree : '@' ∉ ':' :: uri.user := by simp [uri.user_plain]
      rw [body_eq, given] at same
      have longer := before_eq_of_take_append bodyFree uri.user_plain digitsFree same
      exact absurd longer (List.cons_ne_self _ _)

theorem body_of_sip (sip : uri.scheme = .sip) :
    uri.body =
      uri.front ++ separated ';' (uri.params.dropWhile fun param => !isTransport param) := by
  rw [front, List.append_assoc, earlier, ← separated_append, List.takeWhile_append_dropWhile,
    body_eq, sip, address, List.append_assoc, List.append_assoc, List.cons_append]
  rfl

theorem rewritten_front (transport : uri.hasTransport = true)
    (samePort : mode.port uri.port = uri.port) :
    uri.user ++ '@' :: ((uri.rewritten mode).hostPort ++ separated ';' uri.earlier) =
      uri.front := by
  rw [(rewritten_of_transport mode transport).2.1, samePort, front, address, hostPort,
    List.append_assoc, List.append_assoc, List.cons_append, List.append_assoc]

theorem samePort_of_noPort (noPort : mode.encryptionSupport = true ∨ ':' ∉ uri.body) :
    mode.port uri.port = uri.port := by
  unfold CallMode.port
  split
  case isTrue => rfl
  case isFalse plain =>
    cases given : uri.port with
    | none => rfl
    | some digits =>
        refine absurd ?_ (noPort.resolve_left plain)
        simp [body_eq, hostPort, given, portText]

theorem front_of_port {digits : List Char} (given : uri.port = some digits) :
    uri.front = uri.beforePort ++ (digits ++ separated ';' uri.earlier) := by
  simp [front, address, hostPort, beforePort, portText, given]

theorem portPlace_of_samePort {kept : Nat}
    (samePort : uri.port = none ∨ uri.port = some CallMode.defaultPort) :
    uri.PortPlace kept ↔
      kept + CallMode.defaultPort.length = uri.front.length ∧
        CallMode.defaultPort <:+ uri.front := by
  constructor
  · intro place
    cases place with
    | inl first =>
        obtain ⟨digits, given, first, lengths⟩ := first
        cases samePort with
        | inl none => cases given.symm.trans none
        | inr default =>
            obtain rfl := Option.some.inj (given.symm.trans default)
            refine ⟨lengths, ?_⟩
            rw [front_of_port given, first, separated_nil, List.append_nil]
            exact List.suffix_append _ _
    | inr same => exact same.2
  · exact fun place => .inr ⟨samePort, place⟩

theorem portPlace_of_otherPort {kept : Nat} {digits : List Char}
    (given : uri.port = some digits) (other : digits ≠ CallMode.defaultPort) :
    uri.PortPlace kept ↔ uri.earlier = [] ∧ kept = uri.beforePort.length := by
  have split := front_of_port given
  constructor
  · intro place
    cases place with
    | inl first =>
        obtain ⟨port, named, first, lengths⟩ := first
        obtain rfl := Option.some.inj (given.symm.trans named)
        rw [split, first, separated_nil, List.append_nil, List.length_append,
          Nat.add_right_cancel_iff] at lengths
        exact ⟨first, lengths⟩
    | inr same =>
        rw [given] at same
        cases same.1 with
        | inl none => cases none
        | inr default => exact absurd (Option.some.inj default) other
  · intro place
    obtain ⟨first, rfl⟩ := place
    refine .inl ⟨digits, given, first, ?_⟩
    rw [split, first, separated_nil, List.append_nil, List.length_append]

/-- Digits at the end of the body's start are the new port when they are where it belongs. -/
theorem portPlace_iff {kept : Nat} (sip : uri.scheme = .sip)
    (transport : uri.hasTransport = true) (plain : mode.encryptionSupport = false)
    (inside : kept ≤ uri.body.length) :
    uri.body.take kept ++ CallMode.defaultPort =
        uri.user ++ '@' :: ((uri.rewritten mode).hostPort ++ separated ';' uri.earlier) ↔
      uri.PortPlace kept := by
  have modePort : mode.port uri.port = uri.port.map fun _ => CallMode.defaultPort := by
    rw [CallMode.port, plain]
    rfl
  rw [body_of_sip sip] at inside ⊢
  by_cases samePort : uri.port = none ∨ uri.port = some CallMode.defaultPort
  case pos =>
    have unchanged : mode.port uri.port = uri.port := by
      rw [modePort]
      cases samePort with
      | inl none => rw [none, Option.map_none]
      | inr default => rw [default, Option.map_some]
    rw [rewritten_front mode transport unchanged, take_append_eq_iff inside,
      portPlace_of_samePort samePort]
  case neg =>
    obtain ⟨digits, given⟩ := Option.ne_none_iff_exists'.mp (mt .inl samePort)
    have other : digits ≠ CallMode.defaultPort :=
      fun same => samePort (.inr (given.trans (congrArg some same)))
    have digitsFree : ';' ∉ digits := by
      intro member
      cases uri.port_digits digits given ';' member
    have target :
        uri.user ++ '@' :: ((uri.rewritten mode).hostPort ++ separated ';' uri.earlier) =
          uri.beforePort ++ (CallMode.defaultPort ++ separated ';' uri.earlier) := by
      rw [(rewritten_of_transport mode transport).2.1, modePort, given]
      simp [beforePort, portText]
    rw [front_of_port given, List.append_assoc, List.append_assoc] at inside ⊢
    rw [target, take_append_replaced_iff digitsFree (by decide) other inside,
      portPlace_of_otherPort given other]

theorem Cut.digits_free {mode : CallMode} {kept : Nat} {digits : List Char}
    (cut : uri.Cut mode kept digits) : '@' ∉ digits := by
  cases cut <;> decide

theorem frontKept_iff :
    (∃ kept digits, uri.Cut mode kept digits ∧ uri.hasTransport = true ∧
      uri.body.take kept ++ digits =
        uri.user ++ '@' :: ((uri.rewritten mode).hostPort ++ separated ';' uri.earlier)) ↔
      uri.FrontKept mode := by
  constructor
  · intro cutSome
    obtain ⟨kept, digits, cut, transport, same⟩ := cutSome
    have inside := cut.inside
    have sip := sip_of_take cut.digits_free same
    refine ⟨sip, transport, ?_⟩
    cases cut with
    | whole marked noPort =>
        rw [rewritten_front mode transport (samePort_of_noPort mode noPort),
          body_of_sip sip] at same
        rw [body_of_sip sip] at inside
        obtain ⟨rfl, -⟩ := (take_append_eq_iff inside).mp same
        exact .inl (.whole marked noPort)
    | port plain marked colon semicolon offset =>
        exact .inr ⟨kept, .port plain marked colon semicolon offset inside,
          (portPlace_iff mode sip transport plain inside).mp same⟩
  · intro frontKept
    obtain ⟨sip, transport, cut | ⟨kept, cut, place⟩⟩ := frontKept
    · refine ⟨_, [], cut, transport, ?_⟩
      cases cut with
      | whole _ noPort =>
          rw [rewritten_front mode transport (samePort_of_noPort mode noPort), body_of_sip sip,
            List.take_left, List.append_nil]
    · cases cut with
      | port plain marked colon semicolon offset inside =>
          exact ⟨kept, _, .port plain marked colon semicolon offset inside, transport,
            (portPlace_iff mode sip transport plain inside).mpr place⟩

/-- A call's URI keeps everything but the transport and the port when it has no transport at
all, when both of its cut parts are what they are taken for, or when its user hides a call's
transport. -/
theorem keepsAllButTransport_iff {stristr : List Char → List Char → Option Nat}
    (documented : IgnoresCase stristr) :
    uri.KeepsAllButTransport mode stristr ↔
      caselessFind uri.text transportStr = none ∨ (uri.FrontKept mode ∧ uri.OthersKept) ∨
        uri.UserRepeats mode := by
  rw [documented.eq_caselessFind]
  cases found : caselessFind uri.text transportStr with
  | none =>
      refine iff_of_true ?_ (.inl rfl)
      have noTransport : uri.hasTransport = false := by
        cases given : uri.hasTransport with
        | false => rfl
        | true => exact absurd found (uri.marked_of_hasTransport given)
      rw [KeepsAllButTransport, rewritten_of_none mode noTransport, callUri, found]
  | some p =>
      rw [keeps_iff_of_marked mode found, or_iff_right (Option.some_ne_none p)]
      simp only [placed_iff]
      constructor
      · intro keeps
        obtain ⟨kept, digits, cut, scheme, placed⟩ := keeps
        cases placed with
        | inl repeated =>
            obtain ⟨proxy, inUser, user, rest⟩ := repeated
            exact .inr ⟨kept, digits, proxy, cut, inUser, user, scheme.symm, rest⟩
        | inr behind =>
            obtain ⟨given, front, others⟩ := behind
            exact .inl ⟨(frontKept_iff mode).mp ⟨kept, digits, cut, given, front⟩, others⟩
      · intro fits
        cases fits with
        | inl kept =>
            obtain ⟨front, others⟩ := kept
            obtain ⟨kept, digits, cut, given, same⟩ := (frontKept_iff mode).mpr front
            exact ⟨kept, digits, cut, (rewritten_of_transport mode given).1.symm,
              .inr ⟨given, same, others⟩⟩
        | inr repeated =>
            obtain ⟨kept, digits, proxy, cut, inUser, user, scheme, rest⟩ := repeated
            exact ⟨kept, digits, cut, scheme.symm, .inl ⟨proxy, inUser, user, rest⟩⟩

theorem digits_of_all {port : List Char} (digits : port.all Char.isDigit = true) :
    ∀ number, some port = some number → ∀ digit ∈ number, digit.isDigit = true := by
  intro number same
  obtain rfl := Option.some.inj same
  exact List.all_eq_true.mp digits

def proxyUri : Uri where
  scheme := .sip
  user := "u".toList
  host := "h".toList
  port := some "5061".toList
  params := ["transport=tls".toList, "httpproxy=x".toList]
  user_plain := by decide
  host_plain := by decide
  host_colon := by decide
  port_digits := digits_of_all (by decide)
  params_plain := by decide

theorem proxyUri_cut : proxyUri.Cut ⟨false, false, false⟩ 4 CallMode.defaultPort :=
  @Cut.port _ _ 4 12 3 8 rfl (by decide) (by decide) (by decide) (by decide) (by decide)

theorem proxyUri_keeps : proxyUri.KeepsAllButTransport ⟨false, false, false⟩ caselessFind := by
  refine (keepsAllButTransport_iff ⟨false, false, false⟩ caselessFind_ignoresCase).mpr
    (.inr (.inl ⟨⟨rfl, by decide, .inr ⟨4, proxyUri_cut, ?_⟩⟩, by decide, by decide⟩))
  exact .inl ⟨"5061".toList, rfl, by decide, by decide⟩

def ipv6Uri : Uri where
  scheme := .sip
  user := "u".toList
  host := "[::1]".toList
  port := some "5061".toList
  params := ["transport=tls".toList]
  user_plain := by decide
  host_plain := by decide
  host_colon := by decide
  port_digits := digits_of_all (by decide)
  params_plain := by decide

/-- The colons of an address in brackets are taken for the port's. -/
theorem ipv6Uri_cut :
    callUri caselessFind ⟨false, false, false⟩ ipv6Uri.text =
        some "sip:u@[:5060;transport=tcp".toList ∧
      ¬ ipv6Uri.KeepsAllButTransport ⟨false, false, false⟩ caselessFind := by
  have called : callUri caselessFind ⟨false, false, false⟩ ipv6Uri.text =
      some "sip:u@[:5060;transport=tcp".toList := by decide
  have meant : (ipv6Uri.rewritten ⟨false, false, false⟩).text =
      "sip:u@[::1]:5060;transport=tcp".toList := by decide
  refine ⟨called, fun keeps => ?_⟩
  rw [KeepsAllButTransport, called, meant, Option.some.injEq] at keeps
  exact absurd keeps (by decide)

end Uri

end FiberApp.Calls
