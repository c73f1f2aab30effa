import Lookout.Config.Read
import Lookout.Proofs.Client.Endpoint
import Lookout.Proofs.Resource.Chats
import Lookout.Proofs.Resource.Templates

/-!
# Where the messages of a chat come from

The identifier of a chat comes from the server. It is written as one path segment, which is put into a
template, and that is resolved as a reference. A template is steady if no identifier can bend it: it starts
as a relative path, or with something that leads under the base already, and no part of its path becomes a
way up. In other templates an identifier can do harm. A colon is not encoded, so what comes before it is
read as a scheme if the template starts with nothing else.

* **`thread_kept`** — with a steady template the messages of every chat are asked for under the base.
* **`builtin_kept`** — those of the built-in pages are.
* **`exists_not_kept`** — with the start of a scheme in front of the place those of some chat are not.
* **`scheme_not_kept`** — an identifier that leads to another server.
-/

namespace Lookout.Resource

open Url

/-- The messages of a chat are asked for under a base: the chat has messages, and each of their sections an
address with the scheme, the host and the port of the base and a path that starts with that of the
base. -/
def Kept (base : Url) (r : Resource) (id title : String) : Prop :=
  ∃ t, r.threadFor id title = some t ∧ t.sections ≠ [] ∧
    ∀ s ∈ t.sections, ∃ u, Client.endpointUnder base s.path = .ok u ∧ Under base u

/-- A template with a start that stays relative: behind blanks it starts with neither a slash nor a mark, it
makes no scheme with anything that could follow it, and all parts of the path are safe. -/
structure Relative (head rest : List Char) : Prop where
  plain : '\x7b' ∉ head
  start : ∃ c, (head.filter isVisible).head? = some c ∧ isStop c = false
  schemeless : ∀ r, takeScheme? (head.filter isVisible ++ r) = none
  safe : ∀ s ∈ splitAt (isSeparator true) (spanPath (head ++ rest)).1, isSafe s = true

/-- A template has a fixed start, up to a slash or the mark of a query or a fragment: there is no place in
the start, which leads under the base already. Before a slash it ends in a character that is neither a
slash nor the colon of a scheme, and behind a slash all parts of the path are safe. -/
structure Fixed (base : Url) (head : List Char) (d : Char) (rest : List Char) : Prop where
  visible : Visible (head ++ d :: rest)
  stop : isStop d = true
  plain : '\x7b' ∉ head
  markless : Markless head
  named : isSeparator true d = true → ∃ c, head.getLast? = some c ∧ isSeparator true c = false ∧ c ≠ ':'
  safe : isSeparator true d = true → ∀ s ∈ splitAt (isSeparator true) (spanPath rest).1, isSafe s = true
  leads : ∃ u, Client.endpointUnder base (String.ofList (head ++ [d])) = .ok u ∧ Under base u

/-- The templates that no identifier can bend: those without a place, with a relative start if the path of
the base ends in a slash, and with a fixed start. -/
inductive Steady (base : Url) (template : List Char) : Prop
  | constant (plain : ¬ place <:+: template) {u : Url}
      (leads : Client.endpointUnder base (String.ofList template) = .ok u) (under : Under base u)
  | relative {front : List (List Char)} (slash : base.path = .segments (front ++ [[]]))
      {head rest : List Char} (split : Client.trimLeadingSlashes template = head ++ rest)
      (relative : Relative head rest)
  | fixed {head rest : List Char} {d : Char} (split : template = head ++ d :: rest)
      (fixed : Fixed base head d rest)

/-- The filled template of a chat leads under a base. -/
def Leads (base : Url) (template : List Char) (id : String) : Prop :=
  ∃ u, Client.endpointUnder base (String.ofList (fillTemplate (encodeSegment id.toList) template)) = .ok u ∧
    Under base u

theorem kept_iff {base : Url} {r : Resource} {template : ThreadTemplate} (thread : r.thread = some template)
    (id title : String) : Kept base r id title ↔ Leads base template.path.toList id := by
  obtain ⟨t, hthread, hsections⟩ := exists_threadFor_of_thread thread id title
  constructor
  · rintro ⟨t', hthread', -, hkept⟩
    obtain rfl : t = t' := Option.some.inj (hthread.symm.trans hthread')
    rw [hsections] at hkept
    have hleads := hkept _ (List.mem_singleton_self _)
    exact hleads
  · intro hleads
    refine ⟨t, hthread, by rw [hsections]; exact List.cons_ne_nil _ _, fun s hs => ?_⟩
    rw [hsections] at hs
    rw [List.mem_singleton.1 hs]
    exact hleads

/-- There is no scheme at the start if there is none up to a character that cannot stand in one. -/
theorem schemeless_of_stop {head a : List Char} {d : Char} (cut : head.filter isVisible = a ++ [d])
    (inner : isSchemeChar d = false) (colon : d ≠ ':') (schemeless : takeScheme? (a ++ [d]) = none) :
    ∀ r, takeScheme? (head.filter isVisible ++ r) = none := by
  intro r
  rw [cut, List.append_assoc]
  exact takeScheme?_none inner colon schemeless r

/-- Slashes at the start of a template stand at the start when it is filled. -/
theorem trimLeadingSlashes_fillTemplate {segment template k : List Char} {c : Char}
    (h : fillTemplate segment (Client.trimLeadingSlashes template) = c :: k) (plain : c ≠ '/') :
    Client.trimLeadingSlashes (fillTemplate segment template) = c :: k := by
  have hslashes : ∀ d ∈ template.takeWhile (· == '/'), d = '/' := by
    intro d hd
    have hslash := List.mem_takeWhile_imp hd
    exact beq_iff_eq.1 hslash
  have hsplit : template.takeWhile (· == '/') ++ Client.trimLeadingSlashes template = template :=
    List.takeWhile_append_dropWhile
  have hnone : Client.trimLeadingSlashes (template.takeWhile (· == '/')) = [] :=
    List.dropWhile_eq_nil_iff.2 fun d hd => beq_iff_eq.2 (hslashes d hd)
  have hbrace : '\x7b' ∉ template.takeWhile (· == '/') := fun hmem => absurd (hslashes _ hmem) (by decide)
  conv_lhs => rw [← hsplit, fillTemplate_append segment hbrace, h]
  rw [Client.trimLeadingSlashes_concat _ plain, hnone]
  rfl

namespace Relative

variable {head rest : List Char}

/-- There is no place in the start, and it starts behind the slashes that are passed over. -/
theorem trim_fill (relative : Relative head rest) {template : List Char}
    (split : Client.trimLeadingSlashes template = head ++ rest) (segment : List Char) :
    Client.trimLeadingSlashes (fillTemplate segment template) = head ++ fillTemplate segment rest := by
  have hfill := fillTemplate_append segment relative.plain rest
  obtain ⟨c, hstart, -⟩ := relative.start
  cases head with
  | nil => cases hstart
  | cons first head =>
    refine trimLeadingSlashes_fillTemplate (by rw [split, hfill]; rfl) ?_
    rintro rfl
    have hnot := List.head?_dropWhile_not (· == '/') template
    rw [← Client.trimLeadingSlashes, split] at hnot
    cases hnot

/-- A template with a relative start leads every identifier under a base whose path ends in a slash. -/
theorem leads (relative : Relative head rest) {base : Url} (web : base.isWeb = true)
    {front : List (List Char)} (slash : base.path = .segments (front ++ [[]])) {template : List Char}
    (split : Client.trimLeadingSlashes template = head ++ rest) (id : String) : Leads base template id := by
  obtain ⟨c, hstart, hstop⟩ := relative.start
  obtain ⟨more, hmore⟩ := List.head?_eq_some_iff.1 hstart
  have hfilter : (head ++ fillTemplate (encodeSegment id.toList) rest).filter isVisible =
      c :: (more ++ (fillTemplate (encodeSegment id.toList) rest).filter isVisible) := by
    rw [List.filter_append, hmore]
    rfl
  have hschemeless := relative.schemeless ((fillTemplate (encodeSegment id.toList) rest).filter isVisible)
  rw [← List.filter_append] at hschemeless
  obtain ⟨u, hread, hunder⟩ := under_of_relative web slash hfilter hstop hschemeless
    (down_of_safe relative.safe (by rw [filter_cleanInput, fillTemplate_append _ relative.plain]))
  refine ⟨u, Client.endpointUnder_of_ok ?_, hunder⟩
  rw [relative.trim_fill split]
  exact hread

end Relative

namespace Fixed

variable {base : Url} {head rest : List Char} {d : Char}

/-- There is no place in the start. -/
theorem fill (fixed : Fixed base head d rest) (segment : List Char) :
    fillTemplate segment (head ++ d :: rest) = head ++ d :: fillTemplate segment rest := by
  have hbrace : '\x7b' ∉ head ++ [d] := by
    intro hmem
    rcases List.mem_append.1 hmem with hmem | hmem
    · exact fixed.plain hmem
    · have hstop := fixed.stop
      rw [← List.mem_singleton.1 hmem] at hstop
      cases hstop
  have h := fillTemplate_append segment hbrace rest
  rwa [List.append_assoc, List.append_assoc] at h

/-- The start ends behind the slashes that are passed over. -/
theorem trim (fixed : Fixed base head d rest) (r : List Char) :
    Client.trimLeadingSlashes (head ++ d :: r) = Client.trimLeadingSlashes head ++ d :: r := by
  refine Client.trimLeadingSlashes_append ?_ r
  rintro rfl
  obtain ⟨c, hlast, hc, -⟩ := fixed.named rfl
  refine ⟨c, hlast, ?_⟩
  rintro rfl
  cases hc

/-- Without slashes in front of it the start is read once and for all. -/
theorem reads (fixed : Fixed base head d rest) (web : base.isWeb = true) {parts : List (List Char)}
    (hpath : base.path = .segments parts) {u : Url}
    (hread : Url.read (some base) (Client.trimLeadingSlashes head ++ [d]) = .ok u) (under : Under base u) :
    Reads d fun r => Url.read (some base) (Client.trimLeadingSlashes head ++ d :: r) := by
  have hsub : Client.trimLeadingSlashes head ⊆ head := List.dropWhile_subset _
  have hvisible : Visible (Client.trimLeadingSlashes head ++ [d]) := by
    intro c hc
    rcases List.mem_append.1 hc with hc | hc
    · exact fixed.visible c (List.mem_append_left _ (hsub hc))
    · rw [List.mem_singleton.1 hc]
      exact fixed.visible d (List.mem_append_right _ List.mem_cons_self)
  refine reads_read web hpath (fun c hc => fixed.markless c (hsub hc)) fixed.stop hvisible ?_ hread
    (isWeb_of_under web under)
  intro hsep
  obtain ⟨c, hlast, hc, hcolon⟩ := fixed.named hsep
  have hslash : c ≠ '/' := by
    rintro rfl
    cases hc
  exact ⟨c, Client.getLast?_trimLeadingSlashes hlast hslash, hc, hcolon⟩

/-- A template with a fixed start leads every identifier under a base. -/
theorem leads_filled (fixed : Fixed base head d rest) (web : base.isWeb = true) {parts : List (List Char)}
    (hpath : base.path = .segments parts) (id : String) : Leads base (head ++ d :: rest) id := by
  obtain ⟨u, hleads, under⟩ := fixed.leads
  have hread := Client.ok_of_endpointUnder hleads
  rw [fixed.trim] at hread
  have hrest : Visible (fillTemplate (encodeSegment id.toList) rest) := by
    intro c hc
    rcases mem_of_mem_fillTemplate rest hc with hc | hc
    · exact visible_encodeSegment _ c hc
    · exact fixed.visible c (List.mem_append_right _ (List.mem_cons_of_mem d hc))
  obtain ⟨v, hv, hunder⟩ := under_of_reads (fixed.reads web hpath hread under) hread under hrest
    (fun hsep => down_of_safe (fixed.safe hsep) rfl)
  refine ⟨v, Client.endpointUnder_of_ok ?_, hunder⟩
  rw [fixed.fill, fixed.trim]
  exact hv

end Fixed

/-- A steady template leads every identifier under a base of the web. -/
theorem Steady.leads {base : Url} {template : List Char} (steady : Steady base template)
    (web : base.isWeb = true) {parts : List (List Char)} (hpath : base.path = .segments parts) (id : String) :
    Leads base template id := by
  cases steady with
  | @constant plain u leads under =>
    refine ⟨u, ?_, under⟩
    rw [fillTemplate_of_placeless plain]
    exact leads
  | relative slash split relative => exact relative.leads web slash split id
  | fixed split fixed => exact split ▸ fixed.leads_filled web hpath id

/-- The address of an API, a list of chats, and a steady template: the messages of every chat are asked for
under the address, whatever identifier the server gives to the chat. -/
theorem thread_kept {raw : String} {base : Url} (accepted : Client.parseBase raw = .ok base) {r : Resource}
    {template : ThreadTemplate} (thread : r.thread = some template)
    (steady : Steady base template.path.toList) (id title : String) : Kept base r id title := by
  obtain ⟨web, parts, hpath⟩ := Client.parseBase_ok accepted
  exact (kept_iff thread id title).2 (steady.leads web hpath id)

theorem getLast?_of_isSpecialScheme {scheme : List Char} (h : isSpecialScheme scheme = true) :
    scheme.getLast? ≠ some 'x' := by
  have hschemes : scheme ∈ ["http", "ws", "https", "wss", "ftp", "file"].map String.toList := by
    unfold isSpecialScheme defaultPort? at h
    rw [← String.toList_ofList (l := scheme)]
    refine List.mem_map_of_mem ?_
    split at h
    all_goals simp_all
  have hlast : ∀ s ∈ ["http", "ws", "https", "wss", "ftp", "file"].map String.toList,
      s.getLast? ≠ some 'x' := by
    decide
  exact hlast scheme hschemes

/-- Where nothing but the start of a scheme stands in front of the place for the identifier, the messages of
some chat are not asked for under the address. -/
theorem exists_not_kept {raw : String} {base : Url} (accepted : Client.parseBase raw = .ok base) {r : Resource}
    {template : ThreadTemplate} (thread : r.thread = some template) {head rest : List Char}
    (split : Client.trimLeadingSlashes template.path.toList = head ++ (place ++ rest))
    (letter : head.head?.all Char.isAlpha = true) (inner : ∀ c ∈ head, isSchemeChar c = true) :
    ∃ id, ∀ title, ¬ Kept base r id title := by
  -- With these two characters the start becomes a scheme that nobody has given rules.
  refine ⟨"x:", fun title hkept => ?_⟩
  obtain ⟨u, hleads, under⟩ := (kept_iff thread "x:" title).1 hkept
  have hbrace : '\x7b' ∉ head := fun hmem => absurd (inner _ hmem) (by decide)
  have hencoded : encodeSegment "x:".toList = ['x', ':'] := by decide
  have hfill : fillTemplate (encodeSegment "x:".toList) (Client.trimLeadingSlashes template.path.toList) =
      (head ++ ['x']) ++ ':' :: fillTemplate ['x', ':'] rest := by
    rw [split, fillTemplate_append _ hbrace, fillTemplate_place, hencoded, List.append_assoc]
    rfl
  have hinner : ∀ c ∈ head ++ ['x'], isSchemeChar c = true := by
    intro c hc
    rcases List.mem_append.1 hc with hc | hc
    · exact inner c hc
    · rw [List.mem_singleton.1 hc]
      decide
  have hplain : isSpecialScheme ((head ++ ['x']).map Char.toLower) = false := by
    rw [Bool.eq_false_iff]
    intro hspecial
    refine getLast?_of_isSpecialScheme hspecial ?_
    rw [List.map_append, List.map_singleton, List.getLast?_concat]
    decide
  cases hstart : head ++ ['x'] with
  | nil => simp at hstart
  | cons c k =>
    have hletter : (head ++ ['x']).head?.any Char.isAlpha = true := by
      cases head with
      | nil => rfl
      | cons f head => exact letter
    have hslash : c ≠ '/' := by
      rintro rfl
      rw [hstart] at hletter
      cases hletter
    have hread := Client.ok_of_endpointUnder hleads
    rw [hstart] at hfill
    have htrim := trimLeadingSlashes_fillTemplate hfill hslash
    change Client.trimLeadingSlashes _ = (c :: k) ++ ':' :: fillTemplate ['x', ':'] rest at htrim
    rw [htrim, ← hstart] at hread
    exact not_under_of_scheme (Client.parseBase_ok accepted).1 hletter hinner hplain _ u hread under

/-- The built-in pages ask for the messages of every chat under every accepted address without a query and a
fragment. -/
theorem builtin_kept {raw : String} {base : Url} (accepted : Client.parseBase raw = .ok base)
    (markless : Markless raw.toList) {r : Resource} (page : r ∈ builtin) (lists : r.thread.isSome)
    (id title : String) : Kept base r id title := by
  obtain ⟨web, -⟩ := Client.parseBase_ok accepted
  obtain ⟨front, hpath⟩ := Client.parseBase_slash accepted markless
  simp only [builtin, List.mem_cons, List.not_mem_nil, or_false] at page
  rcases page with rfl | rfl | rfl
  · cases lists
  · have hrelative : Relative "avito/".toList "chats/\x7bid\x7d/messages".toList :=
      { plain := by decide
        start := ⟨'a', by decide, by decide⟩
        schemeless := schemeless_of_stop (a := "avito".toList) (d := '/') (by decide) rfl (by decide) rfl
        safe := by decide }
    exact (kept_iff rfl id title).2 (hrelative.leads web hpath (by decide) id)
  · have hrelative : Relative "chats/".toList "\x7bid\x7d/messages".toList :=
      { plain := by decide
        start := ⟨'c', by decide, by decide⟩
        schemeless := schemeless_of_stop (a := "chats".toList) (d := '/') (by decide) rfl (by decide) rfl
        safe := by decide }
    exact (kept_iff rfl id title).2 (hrelative.leads web hpath (by decide) id)

/-- The address of an API. -/
def crmAddress : String := "https://crm.example.com/api"

/-- The address as it is read. -/
def crmBase : Url where
  scheme := ['h', 't', 't', 'p', 's']
  authority := some ⟨[], none, "crm.example.com".toList, none⟩
  path := .segments [['a', 'p', 'i'], []]
  query := none
  fragment := none

theorem parseBase_crm : Client.parseBase crmAddress = .ok crmBase := by
  decide +kernel

instance (base u : Url) : Decidable (Under base u) := by
  unfold Under
  infer_instance

/-- A list of chats with a template. -/
def listAt (template : String) : Resource :=
  .new "chats" "Chats" .chatList "chats" 10 [.get "chats" "chats"]
    (some ⟨template, defaultThreadInterval⟩)

theorem markless_of_all {cs : List Char} (h : cs.all (!isMark ·) = true) : Markless cs := by
  intro c hc
  simpa using List.all_eq_true.1 h c hc

/-- The identifiers of chats stay within their segment, even if they look like an address or a way up: behind
a name with a blank in it, and behind an address of the same server. -/
theorem segments_kept : Client.parseBase crmAddress = .ok crmBase ∧
    Steady crmBase "/team chats_\x7bid\x7d/messages".toList ∧
    Kept crmBase (listAt "/team chats_\x7bid\x7d/messages") "http:../evil.example" "" ∧
    Steady crmBase "https://crm.example.com/api/chats?of=\x7bid\x7d".toList ∧
    Kept crmBase (listAt "https://crm.example.com/api/chats?of=\x7bid\x7d") "http:../evil.example" "" := by
  have hslash : crmBase.path = .segments ([['a', 'p', 'i']] ++ [[]]) := rfl
  have hname : Client.trimLeadingSlashes "/team chats_\x7bid\x7d/messages".toList =
      "team chats_".toList ++ "\x7bid\x7d/messages".toList := by
    decide
  have hrelative : Relative "team chats_".toList "\x7bid\x7d/messages".toList :=
    { plain := by decide
      start := ⟨'t', by decide, by decide⟩
      schemeless := schemeless_of_stop (a := "teamchats".toList) (d := '_') (by decide) rfl (by decide) rfl
      safe := by decide }
  have hnamed : Steady crmBase "/team chats_\x7bid\x7d/messages".toList :=
    .relative hslash hname hrelative
  have hquery : "https://crm.example.com/api/chats?of=\x7bid\x7d".toList =
      "https://crm.example.com/api/chats".toList ++ '?' :: "of=\x7bid\x7d".toList := by
    decide
  have hfixed : Fixed crmBase "https://crm.example.com/api/chats".toList '?' "of=\x7bid\x7d".toList :=
    { visible := List.all_eq_true.1 (by decide)
      stop := rfl
      plain := by decide
      markless := markless_of_all (by decide)
      named := fun h => by cases h
      safe := fun h => by cases h
      leads := ⟨{ crmBase with path := .segments [['a', 'p', 'i'], "chats".toList], query := some [] },
        by decide +kernel, by decide +kernel⟩ }
  have habsolute : Steady crmBase "https://crm.example.com/api/chats?of=\x7bid\x7d".toList :=
    .fixed hquery hfixed
  exact ⟨parseBase_crm, hnamed, thread_kept parseBase_crm rfl hnamed _ _, habsolute,
    thread_kept parseBase_crm rfl habsolute _ _⟩

/-- A configuration in which the template for the messages of a chat starts with the identifier. -/
def openTemplate : String :=
  "api:\n  url: https://crm.example.com/api\nresources:\n" ++
    "  chats:\n    thread_path: \"\x7bid\x7d/messages\"\n"

/-- Messages that are asked for under the base of an accepted configuration if the chat is the first one, and
at another server if the identifier is made for it. -/
theorem scheme_not_kept : ∃ c r, Config.ofText openTemplate = .ok c ∧
    Client.parseBase c.api.url = .ok crmBase ∧ r ∈ resolve c ∧ Kept crmBase r "1" "" ∧
    ∃ t s u, r.threadFor "http:evil.example" "" = some t ∧ s ∈ t.sections ∧
      Client.endpointUnder crmBase s.path = .ok u ∧ u.text = "http://evil.example/messages" ∧
      ¬ Under crmBase u := by
  have hread : (Config.ofText openTemplate).toOption.any (fun c =>
      c.api.url == crmAddress && (resolve c).any fun r =>
        r.thread == some ⟨"\x7bid\x7d/messages", defaultThreadInterval⟩) = true := by
    decide +kernel
  obtain ⟨c, hc, hfacts⟩ := Config.exists_of_any hread
  rw [Bool.and_eq_true, beq_iff_eq, List.any_eq_true] at hfacts
  obtain ⟨haddress, r, hr, hthread⟩ := hfacts
  rw [beq_iff_eq] at hthread
  refine ⟨c, r, hc, by rw [haddress, parseBase_crm], hr, ?_, ?_⟩
  · obtain ⟨t, ht, hsections⟩ := exists_threadFor_of_thread hthread "1" ""
    have hpath : String.ofList (fillTemplate (encodeSegment "1".toList) "\x7bid\x7d/messages".toList) =
        "1/messages" := by
      decide +kernel
    rw [hpath] at hsections
    refine ⟨t, ht, by rw [hsections]; exact List.cons_ne_nil _ _, fun s hs => ?_⟩
    rw [hsections] at hs
    rw [List.mem_singleton.1 hs]
    exact ⟨{ crmBase with path := .segments [['a', 'p', 'i'], ['1'], "messages".toList] },
      by decide +kernel, by decide +kernel⟩
  · obtain ⟨t, ht, hsections⟩ := exists_threadFor_of_thread hthread "http:evil.example" ""
    have hpath : String.ofList (fillTemplate (encodeSegment "http:evil.example".toList)
        "\x7bid\x7d/messages".toList) = "http:evil.example/messages" := by
      decide +kernel
    rw [hpath] at hsections
    refine ⟨t, .get "messages" "http:evil.example/messages",
      ⟨"http".toList, some ⟨[], none, "evil.example".toList, none⟩, .segments ["messages".toList], none, none⟩,
      ht, by rw [hsections]; exact List.mem_singleton_self _, by decide +kernel, by decide +kernel,
      by decide +kernel⟩

end Lookout.Resource
