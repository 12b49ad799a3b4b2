import FiberApp.Helpers.BjnHelpers

/-! Which locations `checkForValidSite` accepts, by the parts of the location. -/

set_option autoImplicit false

namespace FiberApp.Helpers

open Foundation

structure Location where
  scheme : List Char
  host : List Char
  port : Option (List Char)
  path : Option (List Char)
  schemeChars : ':' ∉ scheme ∧ '/' ∉ scheme
  hostChars : ':' ∉ host ∧ '/' ∉ host
  portChars : ∀ digits, port = some digits → ∀ char ∈ digits, char.isDigit = true

namespace Location

def portText (location : Location) : List Char :=
  match location.port with
  | none => []
  | some port => ':' :: port

def pathText (location : Location) : List Char :=
  match location.path with
  | none => []
  | some path => '/' :: path

def text (location : Location) : List Char :=
  location.scheme ++
    ':' :: '/' :: '/' :: (location.host ++ (location.portText ++ location.pathText))

/-- The host is one of the listed domains or a subdomain of one. -/
def Trusted (location : Location) : Prop :=
  ∃ site ∈ vsiteList, location.host = site ∨ '.' :: site <:+ location.host

instance (location : Location) : Decidable location.Trusted :=
  inferInstanceAs (Decidable (∃ site ∈ vsiteList, _))

end Location

/-- What the sites of both lists have in common. -/
structure SiteName (site : List Char) : Prop where
  nonempty : site ≠ []
  colon : ':' ∉ site
  slash : '/' ∉ site
  digits : ∀ char ∈ site, char.isDigit = false

theorem siteName_of_mem {site : List Char} (member : site ∈ vsiteList ++ invsiteList) :
    SiteName site := by
  have all : ((vsiteList ++ invsiteList).all fun site => !site.isEmpty &&
      !site.contains ':' && !site.contains '/' && site.all fun char => !char.isDigit) = true := by
    decide +kernel
  have good := List.all_eq_true.mp all site member
  simp only [Bool.and_eq_true, Bool.not_eq_true', List.isEmpty_eq_false_iff,
    List.all_eq_true] at good
  obtain ⟨⟨⟨nonempty, colon⟩, slash⟩, digits⟩ := good
  refine ⟨nonempty, ?_, ?_, digits⟩
  · simpa using colon
  · simpa using slash

theorem hasEnding_iff {fullString ending : List Char} :
    hasEnding fullString ending = true ↔ ending <:+ fullString := by
  rw [hasEnding, List.suffix_iff_eq_drop]
  split_ifs with long
  · rw [beq_iff_eq, eq_comm]
  · constructor
    · intro impossible
      cases impossible
    · intro same
      have lengths := congrArg List.length same
      simp only [List.length_drop] at lengths
      omega

theorem not_suffix_port {site before port : List Char} (name : SiteName site)
    (digits : ∀ char ∈ port, char.isDigit = true) : ¬ site <:+ before ++ ':' :: port := by
  intro ends
  have last : (before ++ ':' :: port).getLast (by simp) ∈ site := by
    obtain ⟨front, same⟩ := ends
    have nonempty := name.nonempty
    simp only [← same]
    rw [List.getLast_append_of_ne_nil _ nonempty]
    exact List.getLast_mem nonempty
  rw [List.getLast_append_of_ne_nil _ (by simp)] at last
  rcases List.mem_cons.mp (List.getLast_mem (by simp : ':' :: port ≠ [])) with colon | digit
  · rw [colon] at last
    exact name.colon last
  · have plain := name.digits _ last
    rw [digits _ digit] at plain
    cases plain

/-- The listed site stands in the location where the check takes it for the host,
and is the end of what it takes. -/
def Location.Vouches (location : Location) (site : List Char) : Prop :=
  ¬ site <:+: location.scheme ∧ ∃ path, location.path = some path ∧
    (site <:+: location.host ∧ location.port = none ∧ site <:+ location.host ∨
      ¬ site <:+: location.host ∧ ∃ tail segment, findFrom site path = some tail ∧
        upTo '/' tail = some segment ∧ site <:+ segment)

/-- The first occurrence of the site has no slash behind it. -/
def Location.Unterminated (location : Location) (site : List Char) : Prop :=
  ¬ site <:+: location.scheme ∧
    (site <:+: location.host ∧ location.path = none ∨
      ¬ site <:+: location.host ∧ ∃ path tail, location.path = some path ∧
        findFrom site path = some tail ∧ '/' ∉ tail)

/-- One round of the loop over `vsiteList`: `none` when it is undefined. -/
def siteVerdict (location site : List Char) : Option Bool :=
  match findFrom site location with
  | none => some false
  | some tempStr => (upTo '/' tempStr).map (hasEnding · site)

theorem scanValidSites_cons (location site : List Char) (rest : List (List Char)) :
    scanValidSites location (site :: rest) =
      match siteVerdict location site with
      | none => none
      | some true => some true
      | some false => scanValidSites location rest := by
  cases found : findFrom site location with
  | none => simp [scanValidSites, siteVerdict, found]
  | some tempStr =>
      cases cut : upTo '/' tempStr with
      | none => simp [scanValidSites, siteVerdict, found, cut]
      | some actualLocation =>
          cases ends : hasEnding actualLocation site <;>
            simp [scanValidSites, siteVerdict, found, cut, ends]

theorem findFrom_port {site port : List Char} (name : SiteName site)
    (digits : ∀ char ∈ port, char.isDigit = true) : findFrom site port = none := by
  rw [findFrom_eq_none]
  intro occurs
  obtain ⟨char, member⟩ := List.exists_mem_of_ne_nil site name.nonempty
  have plain := name.digits char member
  rw [digits char (occurs.subset member)] at plain
  cases plain

theorem findFrom_authority (location : Location) {site : List Char} (name : SiteName site) :
    findFrom site (location.host ++ (location.portText ++ location.pathText)) =
      match findFrom site location.host with
      | some tail => some (tail ++ (location.portText ++ location.pathText))
      | none => location.path.bind (findFrom site) := by
  cases port : location.port with
  | none =>
      cases path : location.path with
      | none => cases found : findFrom site location.host <;>
          simp [Location.portText, Location.pathText, port, path, found]
      | some path =>
          simp only [Location.portText, Location.pathText, port, path, List.nil_append,
            findFrom_append_cons _ _ name.nonempty name.slash]
          cases findFrom site location.host <;> rfl
  | some digits =>
      have none_port := findFrom_port name (location.portChars digits port)
      cases path : location.path with
      | none =>
          simp only [Location.portText, Location.pathText, port, path, List.append_nil,
            findFrom_append_cons _ _ name.nonempty name.colon, none_port]
          cases findFrom site location.host <;> rfl
      | some path =>
          simp only [Location.portText, Location.pathText, port, path, List.cons_append,
            findFrom_append_cons _ _ name.nonempty name.colon,
            findFrom_append_cons _ _ name.nonempty name.slash, none_port]
          cases findFrom site location.host <;> rfl

theorem findFrom_text (location : Location) {site : List Char} (name : SiteName site) :
    findFrom site location.text =
      match findFrom site location.scheme with
      | some tail => some (tail ++ [':'] ++ '/' :: '/' ::
          (location.host ++ (location.portText ++ location.pathText)))
      | none => findFrom site (location.host ++ (location.portText ++ location.pathText)) := by
  have skip : ∀ rest, findFrom site ('/' :: rest) = findFrom site rest := by
    intro rest
    have split := findFrom_append_cons [] rest name.nonempty name.slash
    simpa [findFrom, name.nonempty] using split
  rw [Location.text, findFrom_append_cons _ _ name.nonempty name.colon, skip, skip]
  cases findFrom site location.scheme <;> simp

theorem slash_not_mem_portText (location : Location) : '/' ∉ location.portText := by
  cases port : location.port with
  | none => simp [Location.portText, port]
  | some digits =>
      simp only [Location.portText, port, List.mem_cons, not_or]
      refine ⟨by decide, fun member => ?_⟩
      have digit := location.portChars digits port '/' member
      revert digit
      decide

theorem suffix_host_iff {site tail host : List Char} (suffix : tail <:+ host)
    (starts : site <+: tail) : site <:+ tail ↔ site <:+ host :=
  ⟨fun ends => ends.trans suffix,
    fun ends => List.suffix_of_suffix_length_le ends suffix starts.length_le⟩

theorem siteVerdict_host {location : Location} {site : List Char} (name : SiteName site)
    (scheme : ¬ site <:+: location.scheme) (host : site <:+: location.host) :
    siteVerdict location.text site =
      location.path.map fun _ => decide (location.port = none ∧ site <:+ location.host) := by
  obtain ⟨tail, found⟩ : ∃ tail, findFrom site location.host = some tail := by
    rw [← Option.ne_none_iff_exists', Ne, findFrom_eq_none, not_not]
    exact host
  obtain ⟨suffix, starts⟩ := findFrom_some found
  have clean : '/' ∉ tail ++ location.portText := by
    rw [List.mem_append, not_or]
    exact ⟨fun member => location.hostChars.2 (suffix.subset member),
      slash_not_mem_portText location⟩
  simp only [siteVerdict, findFrom_text location name, findFrom_eq_none.mpr scheme,
    findFrom_authority location name, found]
  rw [← List.append_assoc]
  cases path : location.path with
  | none =>
      have text : location.pathText = [] := by simp [Location.pathText, path]
      rw [text, List.append_nil, upTo_eq_none.mpr clean]
      rfl
  | some rest =>
      have text : location.pathText = '/' :: rest := by simp [Location.pathText, path]
      rw [text, upTo_append_cons clean, Option.map_some, Option.map_some, Option.some_inj,
        Bool.eq_iff_iff, hasEnding_iff, decide_eq_true_iff]
      cases port : location.port with
      | none =>
          simp only [Location.portText, port, List.append_nil, true_and]
          exact suffix_host_iff suffix starts
      | some digits =>
          simp only [Location.portText, port, reduceCtorEq, false_and, iff_false]
          exact not_suffix_port name (location.portChars digits port)

theorem siteVerdict_scheme {location : Location} {site : List Char} (name : SiteName site)
    (scheme : site <:+: location.scheme) : siteVerdict location.text site = some false := by
  obtain ⟨tail, found⟩ : ∃ tail, findFrom site location.scheme = some tail := by
    rw [← Option.ne_none_iff_exists', Ne, findFrom_eq_none, not_not]
    exact scheme
  obtain ⟨suffix, _⟩ := findFrom_some found
  have clean : '/' ∉ tail ++ [':'] := by
    rw [List.mem_append, not_or]
    exact ⟨fun member => location.schemeChars.2 (suffix.subset member), by decide⟩
  simp only [siteVerdict, findFrom_text location name, found, upTo_append_cons clean,
    Option.map_some, Option.some_inj]
  rw [← Bool.not_eq_true, hasEnding_iff]
  exact not_suffix_port name (by simp)

theorem siteVerdict_path {location : Location} {site : List Char} (name : SiteName site)
    (scheme : ¬ site <:+: location.scheme) (host : ¬ site <:+: location.host) :
    siteVerdict location.text site =
      match location.path.bind (findFrom site) with
      | none => some false
      | some tail => (upTo '/' tail).map (hasEnding · site) := by
  simp only [siteVerdict, findFrom_text location name, findFrom_eq_none.mpr scheme,
    findFrom_authority location name, findFrom_eq_none.mpr host]

theorem siteVerdict_true_iff (location : Location) {site : List Char} (name : SiteName site) :
    siteVerdict location.text site = some true ↔ location.Vouches site := by
  by_cases scheme : site <:+: location.scheme
  · rw [siteVerdict_scheme name scheme]
    exact iff_of_false (by simp) fun vouches => vouches.1 scheme
  · by_cases host : site <:+: location.host
    · rw [siteVerdict_host name scheme host]
      cases path : location.path <;>
        simp [Location.Vouches, scheme, host, path]
    · rw [siteVerdict_path name scheme host]
      cases path : location.path with
      | none => simp [Location.Vouches, path]
      | some rest =>
          simp only [Location.Vouches, scheme, host, path, Option.bind_some, not_false_eq_true,
            false_and, false_or, true_and, Option.some.injEq, exists_eq_left']
          cases found : findFrom site rest with
          | none => simp
          | some tail => simp [hasEnding_iff]

theorem siteVerdict_none_iff (location : Location) {site : List Char} (name : SiteName site) :
    siteVerdict location.text site = none ↔ location.Unterminated site := by
  by_cases scheme : site <:+: location.scheme
  · rw [siteVerdict_scheme name scheme]
    exact iff_of_false (by simp) fun unterminated => unterminated.1 scheme
  · by_cases host : site <:+: location.host
    · rw [siteVerdict_host name scheme host]
      simp [Location.Unterminated, scheme, host]
    · rw [siteVerdict_path name scheme host]
      cases path : location.path with
      | none => simp [Location.Unterminated, host, path]
      | some rest =>
          simp only [Location.Unterminated, scheme, host, path, Option.bind_some,
            not_false_eq_true, false_and, false_or, true_and, Option.some.injEq]
          cases found : findFrom site rest with
          | none => simp [found]
          | some tail => simp [found, upTo_eq_none]

theorem scanValidSites_true_iff (location : Location) (sites : List (List Char))
    (names : ∀ site ∈ sites, SiteName site) :
    scanValidSites location.text sites = some true ↔
      ∃ before site after, sites = before ++ site :: after ∧ location.Vouches site ∧
        ∀ earlier ∈ before, ¬ location.Unterminated earlier := by
  induction sites with
  | nil => simp [scanValidSites]
  | cons first rest ih =>
      have later := ih fun site member => names site (List.mem_cons_of_mem _ member)
      have vouches := siteVerdict_true_iff location (names first List.mem_cons_self)
      have unterminated := siteVerdict_none_iff location (names first List.mem_cons_self)
      rw [scanValidSites_cons]
      cases verdict : siteVerdict location.text first with
      | none =>
          rw [verdict] at vouches unterminated
          have stuck := unterminated.mp rfl
          apply iff_of_false (by simp)
          intro vouched
          obtain ⟨before, site, after, split, vouched, earlier⟩ := vouched
          cases before with
          | nil =>
              cases split
              cases vouches.mpr vouched
          | cons head tail =>
              cases split
              exact earlier first List.mem_cons_self stuck
      | some verdictValue =>
          cases verdictValue with
          | true =>
              rw [verdict] at vouches
              exact iff_of_true rfl ⟨[], first, rest, rfl, vouches.mp rfl, by simp⟩
          | false =>
              rw [verdict] at vouches unterminated
              simp only [later]
              constructor
              · intro vouched
                obtain ⟨before, site, after, rfl, vouched, earlier⟩ := vouched
                refine ⟨first :: before, site, after, rfl, vouched, ?_⟩
                rw [List.forall_mem_cons]
                exact ⟨fun stuck => (nomatch unterminated.mpr stuck), earlier⟩
              · intro vouched
                obtain ⟨before, site, after, split, vouched, earlier⟩ := vouched
                cases before with
                | nil =>
                    cases split
                    cases vouches.mpr vouched
                | cons head tail =>
                    cases split
                    rw [List.forall_mem_cons] at earlier
                    exact ⟨tail, site, after, rfl, vouched, earlier.2⟩

theorem scanValidSites_false_iff (location : Location) (sites : List (List Char))
    (names : ∀ site ∈ sites, SiteName site) :
    scanValidSites location.text sites = some false ↔
      ∀ site ∈ sites, ¬ location.Vouches site ∧ ¬ location.Unterminated site := by
  induction sites with
  | nil => simp [scanValidSites]
  | cons first rest ih =>
      have later := ih fun site member => names site (List.mem_cons_of_mem _ member)
      have vouches := siteVerdict_true_iff location (names first List.mem_cons_self)
      have unterminated := siteVerdict_none_iff location (names first List.mem_cons_self)
      rw [scanValidSites_cons, List.forall_mem_cons, ← vouches, ← unterminated]
      cases verdict : siteVerdict location.text first with
      | none => simp
      | some verdictValue =>
          cases verdictValue with
          | true => simp
          | false => simp [later]

/-- One of the sites with a dot behind it stands somewhere in the location. -/
def Location.Trailing (location : Location) : Prop :=
  ∃ site ∈ invsiteList, site <:+: location.scheme ∨ site <:+: location.host ∨
    ∃ path, location.path = some path ∧ site <:+: path

theorem findFrom_isSome_iff {needle text : List Char} :
    (findFrom needle text).isSome = true ↔ needle <:+: text := by
  rw [← not_iff_not, ← findFrom_eq_none, Bool.not_eq_true, Option.isSome_eq_false_iff,
    Option.isNone_iff_eq_none]

theorem findFrom_text_isSome (location : Location) {site : List Char} (name : SiteName site) :
    (findFrom site location.text).isSome = true ↔
      site <:+: location.scheme ∨ site <:+: location.host ∨
        ∃ path, location.path = some path ∧ site <:+: path := by
  rw [findFrom_text location name, findFrom_authority location name]
  simp only [← findFrom_isSome_iff]
  cases findFrom site location.scheme <;> cases findFrom site location.host <;>
    cases location.path <;> simp

theorem scanInvalidSites_iff (location : Location) :
    scanInvalidSites location.text invsiteList = true ↔ location.Trailing := by
  have any : ∀ sites, scanInvalidSites location.text sites = true ↔
      ∃ site ∈ sites, (findFrom site location.text).isSome = true := by
    intro sites
    induction sites with
    | nil => simp [scanInvalidSites]
    | cons first rest ih =>
        simp only [scanInvalidSites, List.exists_mem_cons_iff, ← ih]
        split_ifs with found <;> simp [found]
  rw [any]
  apply exists_congr
  intro site
  apply and_congr_right
  intro member
  exact findFrom_text_isSome location (siteName_of_mem (List.mem_append_right _ member))

/-- A listed site vouches, and no site listed before it is unterminated. -/
def Location.Vouched (location : Location) : Prop :=
  ∃ before site after, vsiteList = before ++ site :: after ∧ location.Vouches site ∧
    ∀ earlier ∈ before, ¬ location.Unterminated earlier

structure Location.CheckedRight (location : Location) : Prop where
  trusted : location.Trusted → location.Vouched ∧ ¬ location.Trailing
  other : ¬ location.Trusted →
    (∀ site ∈ vsiteList, ¬ location.Vouches site ∧ ¬ location.Unterminated site) ∨
      location.Vouched ∧ location.Trailing

theorem checkForValidSite_iff (location : Location) :
    checkForValidSite location.text = some (decide location.Trusted) ↔
      location.CheckedRight := by
  have names : ∀ site ∈ vsiteList, SiteName site := fun site member =>
    siteName_of_mem (List.mem_append_left _ member)
  have vouched := scanValidSites_true_iff location vsiteList names
  have silent := scanValidSites_false_iff location vsiteList names
  have trailing := scanInvalidSites_iff location
  cases scanned : scanValidSites location.text vsiteList with
  | none =>
      rw [scanned] at vouched silent
      simp only [checkForValidSite, scanned, reduceCtorEq, false_iff]
      intro right
      by_cases trusted : location.Trusted
      · cases vouched.mpr (right.trusted trusted).1
      · rcases right.other trusted with unmentioned | both
        · cases silent.mpr unmentioned
        · cases vouched.mpr both.1
  | some isValidList =>
      rw [scanned] at vouched silent
      simp only [checkForValidSite, scanned, Option.some_inj]
      cases isValidList with
      | false =>
          have unvouched : ¬ location.Vouched := fun found => nomatch vouched.mpr found
          rw [Bool.and_false, eq_comm, decide_eq_false_iff_not]
          constructor
          · intro untrusted
            exact ⟨fun trusted => absurd trusted untrusted, fun _ => .inl (silent.mp rfl)⟩
          · intro right trusted
            exact unvouched (right.trusted trusted).1
      | true =>
          have found : location.Vouched := vouched.mp rfl
          rw [Bool.and_true, Bool.eq_iff_iff, Bool.not_eq_true', decide_eq_true_iff,
            ← Bool.not_eq_true, trailing]
          constructor
          · intro same
            exact ⟨fun trusted => ⟨found, same.mpr trusted⟩,
              fun untrusted => .inr ⟨found, not_not.mp (mt same.mp untrusted)⟩⟩
          · intro right
            constructor
            · intro clean
              by_contra untrusted
              rcases right.other untrusted with unmentioned | both
              · cases silent.mpr unmentioned
              · exact clean both.2
            · intro trusted
              exact (right.trusted trusted).2

def lookAlike : Location where
  scheme := "https".toList
  host := "evilbluejeans.com".toList
  port := none
  path := some []
  schemeChars := by decide
  hostChars := by decide
  portChars := by simp

theorem checkForValidSite_lookAlike :
    ¬ checkForValidSite lookAlike.text = some (decide lookAlike.Trusted) := by
  decide

end FiberApp.Helpers
