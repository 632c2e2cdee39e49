import SatClient.Proofs.Solver.ServicePath
import SatClient.Proofs.Url.Cleaned
import SatClient.Settings.Basic

/-! Where the endpoint of accepted settings is. A base URL is read twice, as it is when settings are
checked and without the blanks around it when the path of the service is put behind it. Where both
readings name the same server, the endpoint is at this server.
-/

namespace SatClient

open Url (FaintTail IsBehind Names Network Place Reaches cleaned cleaned_append cleaned_of_visible
  isSmall isSmall_eq_false_iff opened opened_append)

namespace Endpoint

/-- The base URL with exactly one slash at its end. -/
def directory (baseUrl : String) : String :=
  String.ofList (Text.dropEndWhile (· == '/') (Text.trim baseUrl.toList) ++ ['/'])

/-- A base URL that is the same without the blanks around it, and then does not end with a control
character.
-/
structure EndsCleanly (baseUrl : String) : Prop where
  trimmed : Url.parse (String.ofList (Text.trim baseUrl.toList)) = Url.parse baseUrl
  visible : ∀ c ∈ (Text.trim baseUrl.toList).getLast?, 0x20 < c.toNat

/-- An endpoint at the server of a place, with the path of the service behind that of the place. -/
structure Below (endpoint : Endpoint) (scheme : Network) (place : Place) : Prop where
  scheme : endpoint.scheme = scheme
  host : endpoint.place.host = place.host
  port : endpoint.place.port = place.port
  path : endpoint.place.path.text = servedPath place

/-- A base URL of a place whose path goes on behind the text. -/
structure Extensible (baseUrl : String) (place : Place) : Prop where
  clean : EndsCleanly baseUrl
  query : place.query = none
  fragment : place.fragment = none
  single : ∃ scheme inside,
    Url.parse (directory baseUrl) = .ok (.server scheme inside)
      ∧ ¬ ['/', '/'] <:+ inside.path.text

/-- The part of a base URL that is read in front of the path of the service. -/
def front (baseUrl : String) : List Char :=
  opened (Text.dropEndWhile (· == '/') (Text.trim baseUrl.toList))

theorem servicePath_visible : ∀ c ∈ servicePath, isSmall c = false := by
  have all : servicePath.all (!isSmall ·) = true := by decide
  simpa using all

theorem cleaned_join (baseUrl : String)
    : cleaned (join baseUrl).toList = front baseUrl ++ servicePath := by
  rw [join, String.toList_ofList, cleaned_append (by decide) servicePath_visible]
  rfl

theorem cleaned_directory (baseUrl : String)
    : cleaned (directory baseUrl).toList = front baseUrl ++ ['/'] := by
  rw [directory, String.toList_ofList, cleaned_append (by decide) (by simp [isSmall])]
  rfl

theorem exists_opened_trim (baseUrl : String)
    : ∃ count, opened (Text.trim baseUrl.toList) = front baseUrl ++ List.replicate count '/' := by
  obtain ⟨more, whole, all, -⟩ :=
    Text.exists_dropEndWhile (· == '/') (Text.trim baseUrl.toList)
  have slashes : more = List.replicate more.length '/' :=
    List.eq_replicate_iff.mpr ⟨rfl, fun c member => by simpa using all c member⟩
  refine ⟨more.length, ?_⟩
  have visible : ∀ c ∈ List.replicate more.length '/', isSmall c = false := by
    simp [isSmall]
  rw [front, ← opened_append visible, ← slashes, ← whole]

theorem ofBaseUrl_eq_ok_iff {baseUrl : String} {endpoint : Endpoint}
    : ofBaseUrl baseUrl = .ok endpoint
      ↔ Reaches (front baseUrl ++ servicePath) endpoint.scheme endpoint.place := by
  rw [← cleaned_join, ← Url.parse_eq_ok_server_iff, ofBaseUrl]
  cases Url.parse (join baseUrl) with
  | error fault => simp
  | ok url =>
      cases url with
      | other scheme => simp [ofUrl]
      | server scheme place =>
          obtain ⟨scheme', place', isWeb⟩ := endpoint
          by_cases web : scheme = .http ∨ scheme = .https
          · simp [ofUrl, web]
          · have differs : scheme ≠ scheme' := by
              rintro rfl
              exact web isWeb
            simp [ofUrl, web, differs]

variable {baseUrl : String} {scheme : Network} {place : Place}

-----------------------------------------------------------------------------------------
-- Base URLs that end cleanly
-----------------------------------------------------------------------------------------

theorem EndsCleanly.exists_names (clean : EndsCleanly baseUrl)
    (parsed : Url.parse baseUrl = .ok (.server scheme place))
    : ∃ bare authority behind count,
        Names (front baseUrl) scheme bare authority behind
          ∧ place = bare.reaching (behind ++ List.replicate count '/') := by
  obtain ⟨count, trimmed⟩ := exists_opened_trim baseUrl
  have visible : ∀ c ∈ (Text.trim baseUrl.toList).getLast?, isSmall c = false :=
    fun c last => isSmall_eq_false_iff.mpr (clean.visible c last)
  rw [← clean.trimmed, Url.parse_eq_ok_server_iff, String.toList_ofList,
    cleaned_of_visible visible, trimmed] at parsed
  obtain ⟨bare, authority, behind, names, same⟩ := parsed.exists_names_of_slashes
  exact ⟨bare, authority, behind, count, names, same⟩

theorem isBehind_servicePath : IsBehind servicePath := Url.isBehind_cons_slash _

theorem ofBaseUrl_of_names {bare : Place} {authority behind : List Char}
    (names : Names (front baseUrl) scheme bare authority behind)
    (web : scheme = .http ∨ scheme = .https)
    : ofBaseUrl baseUrl = .ok ⟨scheme, bare.reaching (behind ++ servicePath), web⟩ :=
  ofBaseUrl_eq_ok_iff.mpr (names.append (names.apart.append isBehind_servicePath)).reaches

/-- The endpoint for a base URL that ends cleanly is at the server of the base URL. -/
theorem EndsCleanly.exists_endpoint (clean : EndsCleanly baseUrl)
    (parsed : Url.parse baseUrl = .ok (.server scheme place))
    (web : scheme = .http ∨ scheme = .https)
    : ∃ endpoint,
        ofBaseUrl baseUrl = .ok endpoint
          ∧ endpoint.scheme = scheme
          ∧ endpoint.place.host = place.host
          ∧ endpoint.place.port = place.port := by
  obtain ⟨bare, authority, behind, count, names, rfl⟩ := clean.exists_names parsed
  exact ⟨_, ofBaseUrl_of_names names web, rfl, rfl, rfl⟩

theorem EndsCleanly.below_iff (clean : EndsCleanly baseUrl)
    (parsed : Url.parse baseUrl = .ok (.server scheme place))
    (web : scheme = .http ∨ scheme = .https)
    : (∃ endpoint, ofBaseUrl baseUrl = .ok endpoint ∧ Below endpoint scheme place)
      ↔ Extensible baseUrl place := by
  obtain ⟨bare, authority, behind, count, names, rfl⟩ := clean.exists_names parsed
  have found := ofBaseUrl_of_names names web
  have inside : Url.parse (directory baseUrl)
      = .ok (.server scheme (bare.reaching (behind ++ ['/']))) := by
    rw [Url.parse_eq_ok_server_iff, cleaned_directory]
    exact (names.append (names.apart.append (Url.isBehind_cons_slash _))).reaches
  have served := text_path_eq_servedPath_iff bare names.apart count
  constructor
  · rintro ⟨endpoint, found', below⟩
    obtain rfl := Except.ok.inj (found.symm.trans found')
    obtain ⟨query, fragment, single⟩ := served.mp below.path
    exact ⟨clean, query, fragment, scheme, _, inside, single⟩
  · rintro ⟨-, query, fragment, scheme', inside', parsed', single⟩
    obtain ⟨-, rfl⟩ := Url.server.inj (Except.ok.inj (inside.symm.trans parsed'))
    exact ⟨_, found, rfl, rfl, rfl, served.mpr ⟨query, fragment, single⟩⟩

-----------------------------------------------------------------------------------------
-- Other base URLs
-----------------------------------------------------------------------------------------

/-- No endpoint is below the place of a text with control characters at its end that are read. -/
theorem not_below_of_kept {text tail : List Char} {endpoint : Endpoint} (tailed : FaintTail tail)
    (small : ∀ c ∈ tail.getLast?, isSmall c = true) (reaches : Reaches text scheme place)
    (found : Reaches (text ++ (tail ++ servicePath)) endpoint.scheme endpoint.place)
    : ¬ Below endpoint scheme place := by
  intro below
  obtain ⟨bare, authority, behind, names, rfl⟩ := Url.reaches_iff.mp reaches
  rw [below.scheme] at found
  cases behind with
  | nil =>
      obtain ⟨rest, leads, read⟩ := found
      have some : authority ++ [] ≠ [] := by simp [names.ne_nil]
      obtain ⟨-, rfl⟩ := leads.unique (names.leads.append some _)
      rw [List.append_nil, ← List.append_assoc] at read
      have whole := names.whole.append_faint tailed
      obtain ⟨bare', named, -⟩ := Url.exists_of_readPlace_append whole isBehind_servicePath read
      obtain ⟨others, c, rfl, -⟩ := tailed.last
      have visible := (Url.isNamed_of_readPlace whole named).visible c (by simp)
      simp [isSmall_eq_false_iff.mpr visible] at small
  | cons c others =>
      have apart := names.apart.append_of_ne_nil (List.cons_ne_nil c others) (tail ++ servicePath)
      obtain ⟨-, same⟩ := found.unique (names.append apart).reaches
      have served := below.path
      rw [same] at served
      exact text_path_ne_of_kept bare names.apart (List.cons_ne_nil c others) tailed served

/-- An endpoint with nothing behind its server is below no place. -/
theorem not_below_of_bare {endpoint : Endpoint} (bare : endpoint.place.reaching [] = endpoint.place)
    : ¬ Below endpoint scheme place := by
  intro below
  have served := congrArg List.length below.path
  rw [← bare, servedPath, List.length_append] at served
  have path : (endpoint.place.reaching []).path.text.length = 1 := rfl
  have service : servicePath.length = 7 := rfl
  omega

/-- The place of a text with blanks at its end that are read has an endpoint below it only where the
blanks are no part of its server and nothing stands behind it.
-/
theorem Below.reaches_of_dropped {text tail : List Char} {count : Nat} {endpoint : Endpoint}
    (below : Below endpoint scheme place) (tailed : FaintTail tail)
    (reaches : Reaches (text ++ (List.replicate count '/' ++ tail)) scheme place)
    (found : Reaches (text ++ servicePath) endpoint.scheme endpoint.place)
    : count = 0 ∧ Reaches text scheme place ∧ ∀ c ∈ text.getLast?, 0x20 < c.toNat := by
  rw [below.scheme] at found
  obtain ⟨rest, leads, read⟩ := reaches
  obtain ⟨before, shorter⟩ := leads.of_append (by simp [tailed.not_mem, List.mem_replicate])
  by_cases some : before = []
  · -- the name of the service is read as the host
    subst some
    obtain ⟨rest', leads', read'⟩ := found
    obtain ⟨-, rfl⟩ := leads'.unique (shorter.append_nil servicePath)
    have name : Url.IsAuthority (servicePath.dropWhile Url.isSlash) := by
      have all : (servicePath.dropWhile Url.isSlash).all (!Url.endsAuthority true ·) = true := by
        decide
      simpa [Url.IsAuthority] using all
    exact absurd below (not_below_of_bare (Url.isNamed_of_readPlace name read').bare)
  obtain ⟨bare, authority, behind, rfl, names, same⟩ :=
    shorter.exists_names some isBehind_servicePath found
  obtain ⟨-, rfl⟩ := leads.unique (shorter.append some _)
  by_cases none : behind ++ List.replicate count '/' = []
  · obtain ⟨rfl, noSlashes⟩ := List.append_eq_nil_iff.mp none
    obtain rfl : count = 0 := by simpa using noSlashes
    rw [List.append_nil, List.replicate_zero, List.nil_append] at read
    have host := below.host
    have port := below.port
    rw [same] at host port
    obtain rfl := Url.eq_of_readPlace_faint names.whole tailed names.named read host port
    have reached := names.reaches
    rw [(Url.isNamed_of_readPlace names.whole names.named).bare] at reached
    exact ⟨rfl, reached, names.visible⟩
  · have apart := (names.apart.append (Url.isBehind_replicate count)).append_of_ne_nil none tail
    rw [List.append_assoc] at apart
    rw [List.append_assoc] at read
    obtain ⟨bare', named, reached⟩ := Url.exists_of_readPlace_append names.whole apart read
    obtain rfl := Except.ok.inj (names.named.symm.trans named)
    have served := below.path
    rw [same, reached] at served
    exact absurd served (text_path_ne_of_dropped bare names.apart none tailed)

/-- An endpoint below the place of a base URL is found only where the base URL ends cleanly. -/
theorem Below.endsCleanly {endpoint : Endpoint} (below : Below endpoint scheme place)
    (parsed : Url.parse baseUrl = .ok (.server scheme place))
    (found : ofBaseUrl baseUrl = .ok endpoint)
    : EndsCleanly baseUrl := by
  rw [ofBaseUrl_eq_ok_iff] at found
  have reaches := Url.parse_eq_ok_server_iff.mp parsed
  obtain ⟨count, trimmed⟩ := exists_opened_trim baseUrl
  obtain ⟨c, first, notBlank⟩ := reaches.exists_first
  rcases Url.opened_trim_cases first notBlank with
    ⟨same, visible⟩ | ⟨tail, tailed, small, kept⟩ | ⟨tail, tailed, dropped⟩
  · refine ⟨Url.parse_congr ?_, fun d last => isSmall_eq_false_iff.mp (visible d last)⟩
    rw [String.toList_ofList, cleaned_of_visible visible, same]
  · -- the control characters stand at the end, so that no slash is dropped there
    rw [trimmed] at kept
    cases count with
    | succ count =>
        have last := congrArg List.getLast? kept
        rw [List.getLast?_append_of_ne_nil _ (by simp),
          List.getLast?_append_of_ne_nil _ tailed.ne_nil, List.getLast?_replicate,
          if_neg (by simp)] at last
        exact absurd (small '/' last.symm) (by decide)
    | zero =>
        rw [List.replicate_zero, List.append_nil] at kept
        rw [kept, List.append_assoc] at found
        exact absurd below (not_below_of_kept tailed small reaches found)
  · rw [dropped, trimmed, List.append_assoc] at reaches
    obtain ⟨rfl, alone, visible⟩ := below.reaches_of_dropped tailed reaches found
    rw [List.replicate_zero, List.append_nil] at trimmed
    have some : opened (Text.trim baseUrl.toList) ≠ [] := by
      intro none
      obtain ⟨d, start, -⟩ := alone.exists_first
      simp [← trimmed, none] at start
    rw [← trimmed, Url.getLast?_opened_trim some] at visible
    rw [← trimmed, ← cleaned_of_visible fun d last => isSmall_eq_false_iff.mpr (visible d last)]
      at alone
    refine ⟨?_, visible⟩
    rw [parsed, Url.parse_eq_ok_server_iff, String.toList_ofList]
    exact alone

end Endpoint

namespace Settings

open Endpoint (Below EndsCleanly Extensible)

/-- Only the base URL of a server of the web is accepted. -/
theorem exists_server_of_validate {settings : Settings} (accepted : settings.validate = .ok ())
    : ∃ scheme place,
        Url.parse settings.baseUrl = .ok (.server scheme place)
          ∧ (scheme = .http ∨ scheme = .https) := by
  rw [validate] at accepted
  cases parsed : Url.parse settings.baseUrl with
  | error fault => simp [parsed] at accepted
  | ok url =>
      rw [parsed] at accepted
      dsimp only at accepted
      split at accepted
      · rename_i web
        cases url with
        | server scheme place =>
            refine ⟨scheme, place, rfl, ?_⟩
            cases scheme <;> simp_all [Url.schemeText, Network.text]
        | other scheme =>
            have unknown := Url.ofText?_of_parse parsed
            rcases web with rfl | rfl <;> cases unknown
      · cases accepted

/-- Where accepted settings lead. Their base URL names a server of the web, and the endpoint is at
this server if the base URL ends cleanly. The path of the endpoint is that of the base URL, without
the slashes at its end and with that of the service behind it, exactly where the base URL ends
cleanly, has no query and no fragment, and leaves one slash at the end of its path when it is
written with one slash at its end.
-/
theorem endpoint_of_validate (settings : Settings) (accepted : settings.validate = .ok ())
    : ∃ scheme place,
        Url.parse settings.baseUrl = .ok (.server scheme place)
          ∧ (scheme = .http ∨ scheme = .https)
          ∧ (EndsCleanly settings.baseUrl →
              ∃ endpoint,
                Endpoint.ofBaseUrl settings.baseUrl = .ok endpoint
                  ∧ endpoint.scheme = scheme
                  ∧ endpoint.place.host = place.host
                  ∧ endpoint.place.port = place.port)
          ∧ ((∃ endpoint,
                Endpoint.ofBaseUrl settings.baseUrl = .ok endpoint
                  ∧ Below endpoint scheme place)
              ↔ Extensible settings.baseUrl place) := by
  obtain ⟨scheme, place, parsed, web⟩ := exists_server_of_validate accepted
  refine ⟨scheme, place, parsed, web, fun clean => clean.exists_endpoint parsed web, ?_⟩
  constructor
  · rintro ⟨endpoint, found, below⟩
    exact ((below.endsCleanly parsed found).below_iff parsed web).mp ⟨endpoint, found, below⟩
  · intro extensible
    exact (extensible.clean.below_iff parsed web).mpr extensible

def slashed : Settings := { standard with baseUrl := "http://[::1]/a//" }

theorem endpoint_of_validate_slashed
    : slashed.validate = .ok ()
      ∧ ∃ endpoint scheme place,
          Url.parse slashed.baseUrl = .ok (.server scheme place)
            ∧ Endpoint.ofBaseUrl slashed.baseUrl = .ok endpoint
            ∧ Below endpoint scheme place := by
  have accepted : slashed.validate = .ok () := rfl
  obtain ⟨scheme, place, parsed, -, -, below⟩ := endpoint_of_validate slashed accepted
  obtain ⟨rfl, rfl⟩ := Url.server.inj (Except.ok.inj (parsed.symm.trans rfl))
  have clean : EndsCleanly slashed.baseUrl := by
    refine ⟨rfl, fun c last => ?_⟩
    obtain rfl := Option.some.inj last
    decide
  obtain ⟨endpoint, found, isBelow⟩ := below.mpr ⟨clean, rfl, rfl, .http, _, rfl, by decide⟩
  exact ⟨accepted, endpoint, .http, _, parsed, found, isBelow⟩

def backslashed : Settings := { standard with baseUrl := "http://[::1]/a\\" }

def controlled : Settings := { standard with baseUrl := "http://[::1]\x01" }

/-- Accepted settings may lead to no endpoint, or to one with an empty segment in its path. -/
theorem not_below_of_validate
    : (backslashed.validate = .ok ()
        ∧ ∃ endpoint scheme place,
            Url.parse backslashed.baseUrl = .ok (.server scheme place)
              ∧ Endpoint.ofBaseUrl backslashed.baseUrl = .ok endpoint
              ∧ ¬ Below endpoint scheme place)
      ∧ controlled.validate = .ok ()
      ∧ Endpoint.ofBaseUrl controlled.baseUrl
          = .error ⟨controlled.baseUrl, .malformed .invalidIpv6⟩ := by
  refine ⟨⟨rfl, _, _, _, rfl, rfl, fun below => ?_⟩, rfl, rfl⟩
  exact absurd below.path (by decide)

end Settings

end SatClient
