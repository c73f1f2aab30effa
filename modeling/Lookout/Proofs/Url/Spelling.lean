import Lookout.Proofs.Url.Host
import Lookout.Proofs.Url.Reference

/-!
# How an address is spelled

An address of the web is spelled in parts: a scheme with its colon, slashes, the user information with its
sign, a host, a port and what is behind them. Each part is read for itself: the slashes are only passed over,
the user information gives user name and password, the host and the port are those of the address, and what
is behind them is its path, its query and its fragment.

* **`Spelling.text_ofText`** — nothing of an address gets lost between its parts.
* **`Spelling.isReadAs_of_read`** — an address of the web is what its parts are read as.
-/

namespace Lookout.Url

/-! ## User information -/

/-- What stands in front of the server in an authority, with the sign. -/
def userInfoOf (authority : List Char) : List Char := (authority.reverse.dropWhile (· != '@')).reverse

theorem userInfoOf_append_serverOf (authority : List Char) :
    userInfoOf authority ++ serverOf authority = authority := by
  rw [userInfoOf, serverOf, ← List.reverse_append, List.takeWhile_append_dropWhile, List.reverse_reverse]

theorem not_mem_serverOf (authority : List Char) : '@' ∉ serverOf authority := by
  intro h
  have hsign := List.mem_takeWhile_imp (List.mem_reverse.1 h)
  cases hsign

/-- The user information ends with the sign. -/
theorem eq_of_mem_getLast?_userInfoOf (authority : List Char) :
    ∀ c ∈ (userInfoOf authority).getLast?, c = '@' := by
  intro c hc
  have hhead := List.head?_dropWhile_not (· != '@') authority.reverse
  rw [userInfoOf, List.getLast?_reverse] at hc
  rw [Option.mem_def.1 hc] at hhead
  simpa using hhead

/-- User name and password are settled by the user information, whatever is behind it. -/
theorem readUserInfo_ok {userInfo server behind : List Char} (hinfo : Stopless userInfo)
    (signed : ∀ c ∈ userInfo.getLast?, c = '@') (hserver : Stopless server) (signless : '@' ∉ server)
    (stopped : StartsStopped behind) {user : List Char} {password : Option (List Char)} {rest : List Char}
    (h : readUserInfo true (userInfo ++ (server ++ behind)) = .ok (user, password, rest)) :
    rest = server ++ behind ∧ readUserInfo true userInfo = .ok (user, password, []) := by
  rcases List.eq_nil_or_concat userInfo with rfl | ⟨info, c, rfl⟩
  · rw [List.nil_append, readUserInfo_signless hserver signless stopped] at h
    cases h
    exact ⟨rfl, rfl⟩
  · rw [List.concat_eq_append] at *
    obtain rfl : c = '@' := signed c (by simp)
    have hinfo' : Stopless info := fun c hc => hinfo c (List.mem_append_left _ hc)
    rw [List.append_assoc, List.singleton_append, readUserInfo_sign hinfo' hserver signless stopped] at h
    have halone := readUserInfo_sign hinfo' (List.forall_mem_nil _) (List.not_mem_nil) StartsStopped.nil
    rw [List.nil_append] at halone
    rw [halone]
    split at h
    · next hempty =>
      rw [if_pos hempty]
      split at h
      · cases h
      · cases h
        exact ⟨rfl, rfl⟩
    · next hempty =>
      rw [if_neg hempty]
      cases h
      exact ⟨rfl, rfl⟩

/-! ## Host and port -/

theorem hostLength_append {server behind : List Char} (stopped : StartsStopped behind) (inBrackets : Bool) :
    hostLength true inBrackets (server ++ behind) = hostLength true inBrackets server := by
  rcases stopped.cases with rfl | ⟨s, t, rfl, hs⟩
  · rw [List.append_nil]
  · exact hostLength_stop hs server t inBrackets

/-- A port is a colon with digits behind it. -/
theorem readPort_ok {scheme port behind : List Char} (colon : ∀ c ∈ port.head?, c = ':')
    (stopless : Stopless port) (stopped : StartsStopped behind) {number : Option Nat} {rest : List Char}
    (h : readPort scheme (port ++ behind) = .ok (number, rest)) :
    rest = behind ∧ readPort scheme port = .ok (number, []) ∧ ∀ c ∈ port.tail, c.isDigit = true := by
  cases port with
  | nil =>
    have hnone : readPort scheme behind = .ok (none, behind) := by
      rcases stopped.cases with rfl | ⟨s, t, rfl, hs⟩
      · rfl
      · exact readPort_of_ne (by rintro rfl; cases hs) t
    rw [List.nil_append, hnone] at h
    cases h
    exact ⟨rfl, rfl, List.forall_mem_nil _⟩
  | cons c digits =>
    obtain rfl : c = ':' := colon c rfl
    rw [List.cons_append] at h
    have hdigits : ∀ c ∈ digits, c.isDigit = true := by
      by_contra other
      rw [readPort_invalid scheme (fun c hc => stopless c (List.mem_cons_of_mem _ hc)) other] at h
      cases h
    rw [readPort_digits scheme hdigits stopped] at h
    have halone := readPort_digits scheme hdigits StartsStopped.nil
    rw [List.append_nil] at halone
    rw [halone]
    split at h
    · cases h
    · next hsmall =>
      rw [if_neg hsmall]
      split at h
      · next hdefault =>
        rw [if_pos hdefault]
        cases h
        exact ⟨rfl, rfl, hdigits⟩
      · next hother =>
        rw [if_neg hother]
        cases h
        exact ⟨rfl, rfl, hdigits⟩

/-! ## Spellings -/

/-- The parts in which an address of the web is spelled, in their order; the colon of the scheme stands behind
the first one. -/
structure Spelling where
  scheme : List Char
  slashes : List Char
  userInfo : List Char
  host : List Char
  port : List Char
  behind : List Char
  scheme_inner : ∀ c ∈ scheme, isSchemeChar c = true
  slashes_isSeparator : ∀ c ∈ slashes, isSeparator true c = true
  userInfo_stopless : Stopless userInfo
  userInfo_signed : ∀ c ∈ userInfo.getLast?, c = '@'
  server_stopless : Stopless (host ++ port)
  server_signless : '@' ∉ host ++ port
  host_length : hostLength true false (host ++ port) = host.length
  behind_stopped : StartsStopped behind
deriving DecidableEq, Repr

namespace Spelling

/-- The authority without the user information: the host and the port, even if it is only a colon. -/
def server (p : Spelling) : List Char := p.host ++ p.port

/-- The port with its colon, if it has digits. -/
def explicitPort (p : Spelling) : List Char := if p.port = [':'] then [] else p.port

/-- The host and the explicit port: whom requests are sent to. -/
def hostAndPort (p : Spelling) : List Char := p.host ++ p.explicitPort

/-- The parts behind the slashes. -/
def place (p : Spelling) : List Char := p.userInfo ++ (p.server ++ p.behind)

/-- The parts put together. -/
def text (p : Spelling) : List Char := p.scheme ++ ':' :: (p.slashes ++ p.place)

/-- The parts of a text. -/
def ofText (cs : List Char) : Spelling :=
  let reference := (cs.dropWhile isSchemeChar).drop 1
  let behindSlashes := reference.dropWhile (isSeparator true)
  let authority := behindSlashes.takeWhile (!isStop ·)
  let server := serverOf authority
  let length := hostLength true false server
  have stopless : Stopless authority := fun c hc => by simpa using List.mem_takeWhile_imp hc
  have split : userInfoOf authority ++ server = authority := userInfoOf_append_serverOf authority
  have whole : server.take length ++ server.drop length = server := List.take_append_drop length server
  { scheme := cs.takeWhile isSchemeChar
    slashes := reference.takeWhile (isSeparator true)
    userInfo := userInfoOf authority
    host := server.take length
    port := server.drop length
    behind := behindSlashes.dropWhile (!isStop ·)
    scheme_inner := fun _ hc => List.mem_takeWhile_imp hc
    slashes_isSeparator := fun _ hc => List.mem_takeWhile_imp hc
    userInfo_stopless := fun c hc => stopless c (split ▸ List.mem_append_left _ hc)
    userInfo_signed := eq_of_mem_getLast?_userInfoOf authority
    server_stopless := by
      rw [whole]
      exact fun c hc => stopless c (split ▸ List.mem_append_right _ hc)
    server_signless := by
      rw [whole]
      exact not_mem_serverOf authority
    host_length := by
      rw [whole, List.length_take, Nat.min_eq_left (hostLength_le server false)]
    behind_stopped := startsStopped_dropWhile behindSlashes }

/-- The server starts with the host and the explicit port. -/
theorem hostAndPort_initial (p : Spelling) : p.hostAndPort <+: p.server := by
  rw [hostAndPort, server, explicitPort]
  split
  · rw [List.append_nil]
    exact List.prefix_append _ _
  · exact List.prefix_rfl

theorem hostAndPort_of_getLast? {p : Spelling} (h : p.server.getLast? ≠ some ':') :
    p.hostAndPort = p.server := by
  rw [hostAndPort, server, explicitPort, if_neg]
  intro hcolon
  rw [server, hcolon] at h
  exact h List.getLast?_concat

section OfText

variable {lead : List Char} (inner : ∀ c ∈ lead, isSchemeChar c = true) (reference : List Char)
include inner

theorem dropWhile_isSchemeChar :
    ((lead ++ ':' :: reference).dropWhile isSchemeChar).drop 1 = reference := by
  rw [dropWhile_stop (by decide), List.dropWhile_eq_nil_iff.2 inner]
  rfl

theorem scheme_ofText :
    (ofText (lead ++ ':' :: reference)).scheme = lead := by
  show (lead ++ ':' :: reference).takeWhile isSchemeChar = lead
  rw [takeWhile_stop (by decide), List.takeWhile_eq_self_iff.2 inner]

theorem slashes_ofText :
    (ofText (lead ++ ':' :: reference)).slashes = reference.takeWhile (isSeparator true) := by
  show (((lead ++ ':' :: reference).dropWhile isSchemeChar).drop 1).takeWhile (isSeparator true) = _
  rw [dropWhile_isSchemeChar inner reference]

/-- Behind the slashes there are the other parts. -/
theorem place_ofText :
    (ofText (lead ++ ':' :: reference)).place = reference.dropWhile (isSeparator true) := by
  simp only [place, server, ofText, dropWhile_isSchemeChar inner reference, List.take_append_drop]
  rw [← List.append_assoc, userInfoOf_append_serverOf, List.takeWhile_append_dropWhile]

/-- Nothing of an address gets lost between its parts. -/
theorem text_ofText :
    (ofText (lead ++ ':' :: reference)).text = lead ++ ':' :: reference := by
  rw [text, place_ofText inner reference, scheme_ofText inner, slashes_ofText inner, List.takeWhile_append_dropWhile]

end OfText

/-- The address has the scheme that is spelled, in lower case, the user name, the password, the host and the
port that are read from the parts of the authority, and the path, the query and the fragment of what is
behind it. -/
structure IsReadAs (p : Spelling) (u : Url) : Prop where
  scheme : p.scheme.map Char.toLower = u.scheme
  authority : ∃ a, u.authority = some a ∧ readUserInfo true p.userInfo = .ok (a.username, a.password, []) ∧
    parseHost p.host = .ok a.host ∧ readPort u.scheme p.port = .ok (a.port, [])
  behind : behindAuthority u p.behind = u

theorem port_colon (p : Spelling) : ∀ c ∈ p.port.head?, c = ':' := by
  have hcolon := eq_colon_of_hostLength p.server_stopless false
  rw [p.host_length, List.drop_left' rfl] at hcolon
  exact hcolon

theorem take_host (p : Spelling) : (p.server ++ p.behind).take p.host.length = p.host := by
  rw [server, List.append_assoc, List.take_left' rfl]

theorem drop_host (p : Spelling) : (p.server ++ p.behind).drop p.host.length = p.port ++ p.behind := by
  rw [server, List.append_assoc, List.drop_left' rfl]

/-- An authority with what is behind it is read part by part. -/
theorem isReadAs_of_readAuthority (p : Spelling) {scheme : List Char} (special : isSpecialScheme scheme = true)
    {u : Url} (h : readAuthority scheme p.place = .ok u) (spelled : p.scheme.map Char.toLower = scheme) :
    p.IsReadAs u := by
  rw [place] at h
  have hlength : hostLength true false (p.server ++ p.behind) = p.host.length :=
    (hostLength_append p.behind_stopped false).trans p.host_length
  have hserver : Stopless p.server := p.server_stopless
  have hsignless : '@' ∉ p.server := p.server_signless
  have hport : Stopless p.port := fun c hc => hserver c (List.mem_append_right _ hc)
  cases huser : readUserInfo true (p.userInfo ++ (p.server ++ p.behind)) with
  | error e => simp only [readAuthority, special, huser, bind, Except.bind, reduceCtorEq] at h
  | ok read =>
    obtain ⟨user, password, rest⟩ := read
    obtain ⟨rfl, hinfo⟩ :=
      readUserInfo_ok p.userInfo_stopless p.userInfo_signed hserver hsignless p.behind_stopped huser
    simp only [readAuthority, special, huser, hlength, p.take_host, p.drop_host, bind, Except.bind] at h
    split at h
    · cases h
    · cases hhost : parseHost p.host with
      | error e => simp only [hhost, if_true, reduceCtorEq] at h
      | ok host =>
        cases hread : readPort scheme (p.port ++ p.behind) with
        | error e => simp only [hhost, hread, if_true, reduceCtorEq] at h
        | ok read =>
          obtain ⟨number, rest⟩ := read
          obtain ⟨rfl, hnumber, -⟩ := readPort_ok p.port_colon hport p.behind_stopped hread
          simp only [hhost, hread, if_true] at h
          obtain rfl := Except.ok.inj h
          refine ⟨spelled, ⟨⟨user, password, host, number⟩, rfl, hinfo, hhost, hnumber⟩, ?_⟩
          simp only [behindAuthority]
          cases (spanPath p.behind).1 <;> rfl

/-- An address of the web is what the parts of its text are read as, once the text is cleaned. -/
theorem isReadAs_of_read {cs : List Char} {u : Url} (h : read none cs = .ok u) (web : u.isWeb = true) :
    (ofText (cleanInput cs)).text = cleanInput cs ∧ (ofText (cleanInput cs)).IsReadAs u := by
  unfold read at h
  dsimp only at h
  split at h
  · next scheme reference hscheme =>
    obtain ⟨lead, hclean, -, hinner, rfl⟩ := takeScheme?_eq_some_iff.1 hscheme
    rw [hclean]
    refine ⟨text_ofText hinner _, ?_⟩
    have hspecial := isSpecial_of_isWeb web
    split at h
    · next hfile => exact absurd ((readFile_ok h).trans (beq_iff_eq.1 hfile)) (ne_file_of_isWeb web)
    · split at h
      · next hspecial =>
        have hspelled := congrArg (List.map Char.toLower) (scheme_ofText hinner reference)
        have hplace := place_ofText hinner reference
        rw [spanSlashes_eq] at h
        dsimp only at h
        rw [← hplace] at h
        exact isReadAs_of_readAuthority _ hspecial h hspelled
      · next hplain =>
        rw [readPlain_ok h] at hspecial
        exact absurd hspecial hplain
  · cases h

namespace IsReadAs

variable {p : Spelling} {u : Url}

/-- No address is read without a host. -/
theorem host_ne_nil (h : p.IsReadAs u) : p.host ≠ [] := by
  obtain ⟨a, -, -, hhost, -⟩ := h.authority
  intro hnil
  have hdecoded : textOfBytes? (percentDecode []) = some [] := textOfBytes?_encoded []
  rw [hnil, parseHost, hdecoded] at hhost
  · cases hhost
  · rintro rest ⟨⟩

/-- A port is a colon with digits behind it. -/
theorem port_digits (h : p.IsReadAs u) : ∀ c ∈ p.port.tail, c.isDigit = true := by
  obtain ⟨a, -, -, -, hport⟩ := h.authority
  have hstopless : Stopless p.port := fun c hc => p.server_stopless c (List.mem_append_right _ hc)
  rw [← List.append_nil p.port] at hport
  exact (readPort_ok p.port_colon hstopless StartsStopped.nil hport).2.2

/-- A host without brackets has no character that no domain name may contain, but for the percent sign. -/
theorem eq_percent (h : p.IsReadAs u) (unbracketed : p.host.head? ≠ some '[') {c : Char} (mem : c ∈ p.host)
    (forbidden : isForbiddenInDomain c = true) : c = '%' := by
  obtain ⟨a, -, -, hhost, -⟩ := h.authority
  exact eq_percent_of_parseHost hhost unbracketed mem forbidden

/-- An explicit port has digits behind its colon. -/
theorem explicitPort_eq (h : p.IsReadAs u) : p.explicitPort = [] ∨
    ∃ d digits, p.explicitPort = ':' :: d :: digits ∧ ∀ c ∈ d :: digits, c.isDigit = true := by
  have hdigits := h.port_digits
  unfold explicitPort
  split
  · exact .inl rfl
  · next hcolon =>
    rcases hport : p.port with _ | ⟨c, _ | ⟨d, digits⟩⟩
    · exact .inl rfl
    · obtain rfl : c = ':' := p.port_colon c (by rw [hport]; rfl)
      exact absurd hport hcolon
    · obtain rfl : c = ':' := p.port_colon c (by rw [hport]; rfl)
      rw [hport, List.tail_cons] at hdigits
      exact .inr ⟨d, digits, rfl, hdigits⟩

theorem hostAndPort_ne_nil (h : p.IsReadAs u) : p.hostAndPort ≠ [] := by
  simp [hostAndPort, h.host_ne_nil]

/-- No host with its explicit port ends with a colon. -/
theorem getLast?_hostAndPort (h : p.IsReadAs u) : p.hostAndPort.getLast? ≠ some ':' := by
  rw [hostAndPort]
  rcases h.explicitPort_eq with hnone | ⟨d, digits, hport, hdigits⟩
  · obtain ⟨a, -, -, hhost, -⟩ := h.authority
    rw [hnone, List.append_nil]
    exact getLast?_ne_colon_of_parseHost hhost
  · rw [hport, List.getLast?_append_cons, List.getLast?_cons_cons]
    intro hlast
    have hdigit := hdigits _ (List.mem_of_getLast? hlast)
    cases hdigit

/-- A host starts with something visible. -/
theorem dropWhile_hostAndPort (h : p.IsReadAs u) :
    p.hostAndPort.dropWhile (!isVisible ·) = p.hostAndPort := by
  obtain ⟨c, more, hhost⟩ := List.exists_cons_of_ne_nil h.host_ne_nil
  have hvisible : isVisible c = true := by
    by_cases hbracket : c = '['
    · rw [hbracket]
      rfl
    · by_contra hblank
      have hforbidden : isForbiddenInDomain c = true := by
        have hle : c.toNat ≤ 0x20 := by simpa [isVisible] using hblank
        simp [isForbiddenInDomain, hle]
      have hpercent := h.eq_percent (by simpa [hhost] using hbracket) (hhost ▸ List.mem_cons_self) hforbidden
      rw [hpercent] at hblank
      exact hblank rfl
  rw [hostAndPort, hhost, List.cons_append, List.dropWhile_cons_of_neg (by simp [hvisible])]

/-- A host with its port that starts like the scheme, up to a colon, is a host of that name with a port. -/
theorem explicitPort_of_alike (h : p.IsReadAs u) {more : List Char}
    (alike : p.hostAndPort = p.scheme ++ ':' :: more) : p.explicitPort = ':' :: more := by
  have hunbracketed : p.host.head? ≠ some '[' := by
    intro hbracket
    have hhead : (p.scheme ++ ':' :: more).head? = some '[' := by
      rw [← alike, hostAndPort, List.head?_append, hbracket]
      rfl
    cases hscheme : p.scheme with
    | nil =>
      rw [hscheme] at hhead
      cases hhead
    | cons s scheme =>
      rw [hscheme] at hhead
      obtain rfl : s = '[' := Option.some.inj hhead
      cases p.scheme_inner _ (hscheme ▸ List.mem_cons_self)
  have hhost : ':' ∉ p.host := fun hmem => absurd (h.eq_percent hunbracketed hmem rfl) (by decide)
  rw [hostAndPort] at alike
  rcases h.explicitPort_eq with hnone | ⟨d, digits, hport, hdigits⟩
  · rw [hnone, List.append_nil] at alike
    exact absurd (alike ▸ List.mem_append_right _ List.mem_cons_self) hhost
  · have hcolon : ':' ∉ d :: digits := fun hmem => absurd (hdigits _ hmem) (by decide)
    rw [hport] at alike ⊢
    obtain ⟨-, -, hmore⟩ := (List.append_cons_inj_of_notMem hhost hcolon).1 alike
    exact congrArg _ hmore

end IsReadAs

end Spelling

end Lookout.Url
