import Lookout.Proofs.Url.Segments

/-!
# Authorities with a fixed end

How an address is read is settled from its start to its end. Up to a slash behind its authority, or up to
the mark of its query or its fragment, the authority is read once and for all: whatever is written behind
goes on with the path, or changes nothing but the query and the fragment.

* **`readAuthority_stop`** — an authority is settled where it ends.
* **`reads_authority`** — what an authority with a path is read as.
-/

namespace Lookout.Url

/-! ## Stops -/

/-- The character ends the path. -/
def isMark (c : Char) : Bool := c == '?' || c == '#'

/-- The character ends the authority of a web address. -/
def isStop (c : Char) : Bool := c == '/' || c == '?' || c == '#' || c == '\\'

theorem isStop_eq (c : Char) : isStop c = (isSeparator true c || isMark c) := by
  simp only [isStop, isSeparator, isMark, Bool.true_and]
  cases c == '/' <;> cases c == '?' <;> cases c == '#' <;> cases c == '\\' <;> rfl

theorem not_isMark_of_isSeparator {c : Char} (h : isSeparator true c = true) : isMark c = false := by
  simp only [isSeparator, Bool.true_and, Bool.or_eq_true, beq_iff_eq] at h
  rcases h with rfl | rfl <;> rfl

/-- No character of the text ends a path. -/
def Markless (cs : List Char) : Prop := ∀ c ∈ cs, isMark c = false

/-- No character of the text ends an authority. -/
def Stopless (cs : List Char) : Prop := ∀ c ∈ cs, isStop c = false

theorem Stopless.markless {cs : List Char} (h : Stopless cs) : Markless cs := by
  intro c hc
  have hstop := h c hc
  rw [isStop_eq, Bool.or_eq_false_iff] at hstop
  exact hstop.2

theorem takeWhile_stop {p : Char → Bool} {s : Char} (h : p s = false) (a b : List Char) :
    (a ++ s :: b).takeWhile p = a.takeWhile p := by
  induction a with
  | nil => simp [h]
  | cons c a ih =>
    rw [List.cons_append, List.takeWhile_cons, List.takeWhile_cons, ih]

theorem dropWhile_stop {p : Char → Bool} {s : Char} (h : p s = false) (a b : List Char) :
    (a ++ s :: b).dropWhile p = a.dropWhile p ++ s :: b := by
  induction a with
  | nil => simp [h]
  | cons c a ih =>
    rw [List.cons_append, List.dropWhile_cons, List.dropWhile_cons, ih]
    split <;> rfl

/-- A text without a character is cut at the first one, if there is one. -/
theorem stopless_or_cut (cs : List Char) :
    Stopless cs ∨ ∃ x s y, cs = x ++ s :: y ∧ Stopless x ∧ isStop s = true := by
  induction cs with
  | nil => exact .inl (List.forall_mem_nil _)
  | cons c cs ih =>
    cases hc : isStop c with
    | true => exact .inr ⟨[], c, cs, rfl, List.forall_mem_nil _, hc⟩
    | false =>
      rcases ih with h | ⟨x, s, y, rfl, hx, hs⟩
      · exact .inl (List.forall_mem_cons.2 ⟨hc, h⟩)
      · exact .inr ⟨c :: x, s, y, rfl, List.forall_mem_cons.2 ⟨hc, hx⟩, hs⟩

/-! ## Paths with what is behind them -/

theorem spanPath_append {a : List Char} (markless : Markless a) (b : List Char) :
    spanPath (a ++ b) = (a ++ (spanPath b).1, (spanPath b).2) := by
  have hpath : ∀ c ∈ a, (c != '?' && c != '#') = true := by
    intro c hc
    have hmark := markless c hc
    simp only [isMark, Bool.or_eq_false_iff] at hmark
    simp [bne, hmark]
  rw [spanPath, List.takeWhile_append_of_pos hpath, List.dropWhile_append_of_pos hpath]
  rfl

theorem spanPath_mark {m : Char} (mark : isMark m = true) (cs : List Char) :
    spanPath (m :: cs) = ([], m :: cs) := by
  simp only [isMark, Bool.or_eq_true, beq_iff_eq] at mark
  rcases mark with rfl | rfl <;> rfl

/-- The address with a path that is read from a start on, and what is behind the path. -/
def atPath (u : Url) (start : List (List Char)) (cs : List Char) : Url :=
  { u with
    path := .segments (readPath true start (spanPath cs).1)
    query := (readTail true (spanPath cs).2).1
    fragment := (readTail true (spanPath cs).2).2 }

/-- Up to a separator the path is walked. -/
theorem atPath_separator (u : Url) (start : List (List Char)) {a : List Char} (markless : Markless a)
    {s : Char} (isSep : isSeparator true s = true) (r : List Char) :
    atPath u start (a ++ s :: r) = atPath u ((written a).foldl enter start) r := by
  have hs : Markless (a ++ [s]) := by
    intro c hc
    rcases List.mem_append.1 hc with hc | hc
    · exact markless c hc
    · rw [List.mem_singleton.1 hc]
      exact not_isMark_of_isSeparator isSep
  have hspan : spanPath (a ++ s :: r) = (a ++ s :: (spanPath r).1, (spanPath r).2) := by
    have h := spanPath_append hs r
    simpa using h
  simp only [atPath, hspan, readPath_append isSep]

/-- From a mark on nothing is added to the path. -/
theorem atPath_mark (u : Url) (start : List (List Char)) {a : List Char} (markless : Markless a)
    {m : Char} (mark : isMark m = true) (r : List Char) : ∃ query fragment, atPath u start (a ++ m :: r) =
      { u with path := .segments (readPath true start a), query := query, fragment := fragment } := by
  refine ⟨(readTail true (m :: r)).1, (readTail true (m :: r)).2, ?_⟩
  rw [atPath, spanPath_append markless, spanPath_mark mark, List.append_nil]

/-! ## What a fixed start settles -/

/-- All that may stand in an address as it is written: no blanks and no control characters but one. -/
def Visible (cs : List Char) : Prop := ∀ c ∈ cs, isVisible c = true

/-- What is read for a text that starts in a fixed way, up to the character `d`, by the rest of it: always
the same failure; behind a separator, an address with a path that goes on from a start; or behind a mark,
an address of which only the query and the fragment are still open. -/
inductive Reads (d : Char) (read : List Char → Except AddressError Url) : Prop
  | fails (e : AddressError) (h : ∀ r, Visible r → read r = .error e)
  | goesOn (isSep : isSeparator true d = true) (u : Url) (start : List (List Char))
      (h : ∀ r, Visible r → read r = .ok (atPath u start r))
  | stays (mark : isMark d = true) (u : Url)
      (h : ∀ r, Visible r → ∃ query fragment, read r = .ok { u with query := query, fragment := fragment })

theorem Reads.congr {d : Char} {f g : List Char → Except AddressError Url} (h : Reads d f)
    (same : ∀ r, Visible r → g r = f r) : Reads d g := by
  cases h with
  | fails e h => exact .fails e fun r hr => (same r hr).trans (h r hr)
  | goesOn isSep u start h => exact .goesOn isSep u start fun r hr => (same r hr).trans (h r hr)
  | stays mark u h =>
    refine .stays mark u fun r hr => ?_
    rw [same r hr]
    exact h r hr

/-- A path that is read from a start goes on with it. -/
theorem reads_atPath (u : Url) (start : List (List Char)) {a : List Char} (markless : Markless a) {d : Char}
    (stop : isStop d = true) : Reads d fun r => .ok (atPath u start (a ++ d :: r)) := by
  rw [isStop_eq, Bool.or_eq_true] at stop
  rcases stop with hsep | hmark
  · exact .goesOn hsep u _ fun r _ => congrArg Except.ok (atPath_separator u start markless hsep r)
  · refine .stays hmark { u with path := .segments (readPath true start a) } fun r _ => ?_
    obtain ⟨query, fragment, heq⟩ := atPath_mark u start markless hmark r
    exact ⟨query, fragment, congrArg Except.ok heq⟩

/-! ## What stands behind an authority -/

/-- The text is empty or starts with a character that ends an authority. -/
def StartsStopped (cs : List Char) : Prop := ∀ c ∈ cs.head?, isStop c = true

theorem StartsStopped.nil : StartsStopped [] := fun _ h => nomatch h

theorem startsStopped_cons {s : Char} (stop : isStop s = true) (t : List Char) : StartsStopped (s :: t) := by
  intro c hc
  obtain rfl : s = c := Option.some.inj hc
  exact stop

theorem StartsStopped.cases {cs : List Char} (h : StartsStopped cs) :
    cs = [] ∨ ∃ s t, cs = s :: t ∧ isStop s = true := by
  cases cs with
  | nil => exact .inl rfl
  | cons s t => exact .inr ⟨s, t, rfl, h s rfl⟩

theorem startsStopped_dropWhile (cs : List Char) : StartsStopped (cs.dropWhile (!isStop ·)) := by
  intro c hc
  have hhead := List.head?_dropWhile_not (!isStop ·) cs
  rw [Option.mem_def.1 hc] at hhead
  simpa using hhead

theorem takeWhile_stopless {a : List Char} (stopless : Stopless a) {b : List Char} (stopped : StartsStopped b) :
    (a ++ b).takeWhile (!isStop ·) = a := by
  have ha : ∀ c ∈ a, (!isStop c) = true := fun c hc => by simp [stopless c hc]
  rcases stopped.cases with rfl | ⟨s, t, rfl, hs⟩
  · rw [List.append_nil, List.takeWhile_eq_self_iff.2 ha]
  · rw [takeWhile_stop (by simp [hs]), List.takeWhile_eq_self_iff.2 ha]

/-! ## User information -/

/-- What stands behind the last sign of an authority. -/
def serverOf (authority : List Char) : List Char := (authority.reverse.takeWhile (· != '@')).reverse

theorem serverOf_sign {server : List Char} (signless : '@' ∉ server) (info : List Char) :
    serverOf (info ++ '@' :: server) = server := by
  have hplain : ∀ c ∈ server.reverse, (c != '@') = true := by
    intro c hc
    rw [bne_iff_ne]
    rintro rfl
    exact signless (List.mem_reverse.1 hc)
  rw [serverOf, List.reverse_append, List.reverse_cons, List.append_assoc, List.singleton_append,
    takeWhile_stop (by decide), List.takeWhile_eq_self_iff.2 hplain, List.reverse_reverse]

theorem exists_last_sign {authority : List Char} (signed : '@' ∈ authority) :
    ∃ info server, authority = info ++ '@' :: server ∧ '@' ∉ server := by
  obtain ⟨server, info, hsplit, hnone⟩ := List.eq_append_cons_of_mem (List.mem_reverse.2 signed)
  refine ⟨info.reverse, server.reverse, ?_, fun h => hnone (List.mem_reverse.1 h)⟩
  rw [← List.reverse_reverse authority, hsplit]
  simp

/-- Without the sign there is no user information. -/
theorem readUserInfo_signless {server : List Char} (stopless : Stopless server) (signless : '@' ∉ server)
    {behind : List Char} (stopped : StartsStopped behind) :
    readUserInfo true (server ++ behind) = .ok ([], none, server ++ behind) := by
  have hauthority : (server ++ behind).takeWhile
      (fun c => !(c == '/' || c == '?' || c == '#' || (true && c == '\\'))) = server :=
    takeWhile_stopless stopless stopped
  have hsign : server.contains '@' = false := by simpa using signless
  simp only [readUserInfo, hauthority, hsign, Bool.false_eq_true, if_false]

/-- How user information is read that stands in front of a server. -/
theorem readUserInfo_sign {info server : List Char} (hinfo : Stopless info) (hserver : Stopless server)
    (signless : '@' ∉ server) {behind : List Char} (stopped : StartsStopped behind) :
    readUserInfo true (info ++ '@' :: (server ++ behind)) =
      if info.isEmpty then
        if server.isEmpty && !(server ++ behind).isEmpty then .error .emptyHost
        else .ok ([], none, server ++ behind)
      else
        .ok (percentEncode inUserInfoSet (info.takeWhile (· != ':')),
          if ((info.dropWhile (· != ':')).drop 1).isEmpty then none
          else some (percentEncode inUserInfoSet ((info.dropWhile (· != ':')).drop 1)),
          server ++ behind) := by
  have hauthority : (info ++ '@' :: (server ++ behind)).takeWhile
      (fun c => !(c == '/' || c == '?' || c == '#' || (true && c == '\\'))) = info ++ '@' :: server := by
    have hstopless : Stopless (info ++ '@' :: server) := by
      intro c hc
      rcases List.mem_append.1 hc with hc | hc
      · exact hinfo c hc
      · rcases List.mem_cons.1 hc with rfl | hc
        · rfl
        · exact hserver c hc
    have h := takeWhile_stopless hstopless stopped
    rw [List.append_assoc] at h
    exact h
  have hsign : (info ++ '@' :: server).contains '@' = true := by simp
  have hhost : ((info ++ '@' :: server).reverse.takeWhile (· != '@')).reverse = server :=
    serverOf_sign signless info
  have htake : (info ++ '@' :: server).take ((info ++ '@' :: server).length - server.length - 1) = info := by
    have hlength : (info ++ '@' :: server).length - server.length - 1 = info.length := by
      simp only [List.length_append, List.length_cons]
      omega
    rw [hlength, List.take_left']
    rfl
  have hdrop : (info ++ '@' :: (server ++ behind)).drop (info.length + 1) = server ++ behind := by
    rw [← List.drop_drop, List.drop_left' rfl]
    rfl
  simp only [readUserInfo, hauthority, hsign, hhost, htake, hdrop, if_true]

/-- Where user name and password end is settled before the authority ends. -/
theorem readUserInfo_stop {x : List Char} (stopless : Stopless x) {s : Char} (stop : isStop s = true) :
    (∃ e, ∀ t, readUserInfo true (x ++ s :: t) = .error e) ∨
      ∃ user password h, Stopless h ∧
        ∀ t, readUserInfo true (x ++ s :: t) = .ok (user, password, h ++ s :: t) := by
  by_cases hat : '@' ∈ x
  · obtain ⟨info, server, rfl, hsignless⟩ := exists_last_sign hat
    have hinfo : Stopless info := fun c hc => stopless c (List.mem_append_left _ hc)
    have hserver : Stopless server :=
      fun c hc => stopless c (List.mem_append_right _ (List.mem_cons_of_mem _ hc))
    have hread (t : List Char) := readUserInfo_sign hinfo hserver hsignless (startsStopped_cons stop t)
    simp only [List.append_assoc, List.cons_append, hread]
    cases info.isEmpty with
    | true =>
      cases hnone : server.isEmpty with
      | true => exact .inl ⟨.emptyHost, fun t => by simp⟩
      | false => exact .inr ⟨[], none, server, hserver, fun t => by simp⟩
    | false => exact .inr ⟨_, _, server, hserver, fun t => rfl⟩
  · exact .inr ⟨[], none, x, stopless, fun t => readUserInfo_signless stopless hat (startsStopped_cons stop t)⟩

/-! ## Host and port -/

/-- The host ends before the authority does. -/
theorem hostLength_stop {s : Char} (stop : isStop s = true) (h t : List Char) (inBrackets : Bool) :
    hostLength true inBrackets (h ++ s :: t) = hostLength true inBrackets h := by
  induction h generalizing inBrackets with
  | nil =>
    have hs : ((s == ':' && !inBrackets) || s == '/' || s == '?' || s == '#' || (true && s == '\\')) =
        true := by
      simp only [isStop, Bool.or_eq_true, beq_iff_eq] at stop
      rcases stop with ((rfl | rfl) | rfl) | rfl <;> simp
    simp only [List.nil_append, hostLength, hs, if_true]
  | cons c h ih =>
    rw [List.cons_append, hostLength, hostLength, ih]

theorem hostLength_le (h : List Char) (inBrackets : Bool) : hostLength true inBrackets h ≤ h.length := by
  induction h generalizing inBrackets with
  | nil => exact Nat.le_refl _
  | cons c h ih =>
    rw [hostLength]
    split
    · exact Nat.zero_le _
    · exact Nat.succ_le_succ (ih _)

theorem readPort_of_ne {scheme : List Char} {c : Char} (h : c ≠ ':') (cs : List Char) :
    readPort scheme (c :: cs) = .ok (none, c :: cs) := by
  unfold readPort
  split
  · next heq => exact absurd (List.cons.inj heq).1 h
  · rfl

/-- A host ends at a colon, if the authority goes on. -/
theorem eq_colon_of_hostLength {server : List Char} (stopless : Stopless server) (inBrackets : Bool) :
    ∀ c ∈ (server.drop (hostLength true inBrackets server)).head?, c = ':' := by
  induction server generalizing inBrackets with
  | nil => exact fun c hc => nomatch hc
  | cons d server ih =>
    have hstop := stopless d List.mem_cons_self
    simp only [isStop, Bool.or_eq_false_iff] at hstop
    rw [hostLength]
    split
    · next hend =>
      intro c hc
      obtain rfl : d = c := by simpa using hc
      simp only [hstop, Bool.or_false, Bool.and_false, Bool.and_eq_true, beq_iff_eq] at hend
      exact hend.1
    · rw [List.drop_succ_cons]
      exact ih (fun c hc => stopless c (List.mem_cons_of_mem d hc)) _

/-- How a port is read that is written in digits. -/
theorem readPort_digits (scheme : List Char) {digits behind : List Char} (hdigits : ∀ c ∈ digits, c.isDigit = true)
    (stopped : StartsStopped behind) : readPort scheme (':' :: (digits ++ behind)) =
      if 65535 < digits.foldl (fun n d => n * 10 + (d.toNat - 48)) 0 then .error .invalidPort
      else if digits.isEmpty ||
          defaultPort? scheme == some (digits.foldl (fun n d => n * 10 + (d.toNat - 48)) 0) then
        .ok (none, behind)
      else .ok (some (digits.foldl (fun n d => n * 10 + (d.toNat - 48)) 0), behind) := by
  rcases stopped.cases with rfl | ⟨s, t, rfl, hs⟩
  · have htake : (digits ++ []).takeWhile Char.isDigit = digits := by
      rw [List.append_nil, List.takeWhile_eq_self_iff.2 hdigits]
    have hdrop : (digits ++ []).dropWhile Char.isDigit = [] := by
      rw [List.append_nil, List.dropWhile_eq_nil_iff.2 hdigits]
    simp only [readPort, htake, hdrop, Bool.not_true, Bool.or_false, decide_eq_true_eq]
  · have hs' := hs
    simp only [isStop, Bool.or_eq_true, beq_iff_eq] at hs'
    have hplain : s.isDigit = false := by
      rcases hs' with ((rfl | rfl) | rfl) | rfl <;> rfl
    have htake : (digits ++ s :: t).takeWhile Char.isDigit = digits := by
      rw [takeWhile_stop hplain, List.takeWhile_eq_self_iff.2 hdigits]
    have hdrop : (digits ++ s :: t).dropWhile Char.isDigit = s :: t := by
      rw [dropWhile_stop hplain, List.dropWhile_eq_nil_iff.2 hdigits, List.nil_append]
    have hends : (s == '/' || s == '\\' || s == '?' || s == '#') = true := by
      rcases hs' with ((rfl | rfl) | rfl) | rfl <;> rfl
    simp only [readPort, htake, hdrop, hends, Bool.not_true, Bool.or_false, decide_eq_true_eq]

/-- A port that is not written in digits up to its end is none. -/
theorem readPort_invalid (scheme : List Char) {x : List Char} (stopless : Stopless x)
    (other : ¬ ∀ c ∈ x, c.isDigit = true) (behind : List Char) :
    readPort scheme (':' :: (x ++ behind)) = .error .invalidPort := by
  obtain ⟨c, hc⟩ : ∃ c, (x.dropWhile Char.isDigit).head? = some c := by
    rw [← Option.ne_none_iff_exists', Ne, List.head?_eq_none_iff, List.dropWhile_eq_nil_iff]
    exact other
  obtain ⟨more, hmore⟩ := List.head?_eq_some_iff.1 hc
  have hstop := stopless c (List.dropWhile_subset _ (hmore ▸ List.mem_cons_self))
  have hends : (c == '/' || c == '\\' || c == '?' || c == '#') = false := by
    simp only [isStop, Bool.or_eq_false_iff] at hstop
    simp [hstop]
  have hdrop : (x ++ behind).dropWhile Char.isDigit = c :: (more ++ behind) := by
    rw [List.dropWhile_append, hmore]
    rfl
  simp only [readPort, hdrop, hends, Bool.not_false, Bool.or_true, if_true]

/-- What a port is is settled where the authority ends. -/
theorem readPort_stop (scheme : List Char) {x : List Char} (colon : ∀ c ∈ x.head?, c = ':')
    (stopless : Stopless x) {s : Char} (stop : isStop s = true) :
    (∃ e, ∀ t, readPort scheme (x ++ s :: t) = .error e) ∨
      ∃ port, ∀ t, readPort scheme (x ++ s :: t) = .ok (port, s :: t) := by
  cases x with
  | nil =>
    have hcolon : s ≠ ':' := by rintro rfl; cases stop
    exact .inr ⟨none, fun t => readPort_of_ne hcolon t⟩
  | cons c x =>
    obtain rfl : c = ':' := colon c rfl
    have hx : Stopless x := fun c hc => stopless c (List.mem_cons_of_mem _ hc)
    by_cases hdigits : ∀ c ∈ x, c.isDigit = true
    · have hread (t : List Char) := readPort_digits scheme hdigits (startsStopped_cons stop t)
      simp only [List.cons_append, hread]
      split
      · exact .inl ⟨.invalidPort, fun t => rfl⟩
      · split
        · exact .inr ⟨none, fun t => rfl⟩
        · exact .inr ⟨_, fun t => rfl⟩
    · exact .inl ⟨.invalidPort, fun t => readPort_invalid scheme hx hdigits (s :: t)⟩

/-! ## Authorities -/

/-- The segments of the path that is written behind an authority. -/
def rootSegments : List Char → List (List Char)
  | [] => [[]]
  | c :: inner => if isSeparator true c then readPath true [] inner else readPath true [] (c :: inner)

/-- The address with the path, the query and the fragment that are written behind its authority. -/
def behindAuthority (u : Url) (cs : List Char) : Url :=
  { u with
    path := .segments (rootSegments (spanPath cs).1)
    query := (readTail true (spanPath cs).2).1
    fragment := (readTail true (spanPath cs).2).2 }

/-- What an authority is is settled where it ends. -/
theorem readAuthority_stop {scheme : List Char} (special : isSpecialScheme scheme = true) {x : List Char}
    (stopless : Stopless x) {s : Char} (stop : isStop s = true) :
    (∃ e, ∀ t, readAuthority scheme (x ++ s :: t) = .error e) ∨
      ∃ u, ∀ t, readAuthority scheme (x ++ s :: t) = .ok (behindAuthority u (s :: t)) := by
  rcases readUserInfo_stop stopless stop with ⟨e, huser⟩ | ⟨user, password, h, hstopless, huser⟩
  · refine .inl ⟨e, fun t => ?_⟩
    simp only [readAuthority, special, huser]
    rfl
  obtain ⟨n, hn⟩ : ∃ n, hostLength true false h = n := ⟨_, rfl⟩
  have hle : n ≤ h.length := hn ▸ hostLength_le h false
  have hlength (t : List Char) : hostLength true false (h ++ s :: t) = n :=
    (hostLength_stop stop h t false).trans hn
  have htake (t : List Char) : (h ++ s :: t).take n = h.take n := List.take_append_of_le_length hle
  have hdrop (t : List Char) : (h ++ s :: t).drop n = h.drop n ++ s :: t :=
    List.drop_append_of_le_length hle
  have hread (t : List Char) : readAuthority scheme (x ++ s :: t) =
      if (h.take n).isEmpty then .error .emptyHost
      else (parseHost (h.take n)).bind fun host =>
        (readPort scheme (h.drop n ++ s :: t)).map fun port =>
          behindAuthority ⟨scheme, some ⟨user, password, host, port.1⟩, .segments [], none, none⟩ port.2 := by
    simp only [readAuthority, special, huser, hlength, htake, hdrop, bind, Except.bind,
      Bool.true_or, Bool.and_true, if_true]
    split
    · rfl
    · cases parseHost (h.take n) with
      | error e => rfl
      | ok host =>
        cases readPort scheme (h.drop n ++ s :: t) with
        | error e => rfl
        | ok port =>
          simp only [Except.map, behindAuthority]
          cases (spanPath port.2).1 <;> rfl
  by_cases hempty : (h.take n).isEmpty = true
  · exact .inl ⟨.emptyHost, fun t => by rw [hread, if_pos hempty]⟩
  cases hhost : parseHost (h.take n) with
  | error e => exact .inl ⟨e, fun t => by rw [hread, if_neg hempty, hhost]; rfl⟩
  | ok host =>
    have hbehind : Stopless (h.drop n) := fun c hc => hstopless c (List.mem_of_mem_drop hc)
    have hcolon : ∀ c ∈ (h.drop n).head?, c = ':' := hn ▸ eq_colon_of_hostLength hstopless false
    rcases readPort_stop scheme hcolon hbehind stop with ⟨e, hport⟩ | ⟨port, hport⟩
    · exact .inl ⟨e, fun t => by rw [hread, if_neg hempty, hhost, hport]; rfl⟩
    · refine .inr ⟨⟨scheme, some ⟨user, password, host, port⟩, .segments [], none, none⟩, fun t => ?_⟩
      rw [hread, if_neg hempty, hhost, hport]
      rfl

/-- Behind the authority and a separator the path goes on from the root. -/
theorem behindAuthority_separator (u : Url) {s : Char} (isSep : isSeparator true s = true) (t : List Char) :
    behindAuthority u (s :: t) = atPath u [] t := by
  have hs : Markless [s] := fun c hc => List.mem_singleton.1 hc ▸ not_isMark_of_isSeparator isSep
  have hspan : spanPath (s :: t) = (s :: (spanPath t).1, (spanPath t).2) := spanPath_append hs t
  rw [behindAuthority, hspan, rootSegments, if_pos isSep, atPath]

/-- Behind the authority and a mark nothing is added to the path. -/
theorem behindAuthority_mark (u : Url) {m : Char} (mark : isMark m = true) (t : List Char) :
    ∃ query fragment, behindAuthority u (m :: t) =
      { u with path := .segments [[]], query := query, fragment := fragment } := by
  refine ⟨(readTail true (m :: t)).1, (readTail true (m :: t)).2, ?_⟩
  rw [behindAuthority, spanPath_mark mark, rootSegments]

/-- An authority with a path up to a character is read once and for all. -/
theorem reads_authority {scheme : List Char} (special : isSpecialScheme scheme = true) {a : List Char}
    (markless : Markless a) {d : Char} (stop : isStop d = true) :
    Reads d fun r => readAuthority scheme (a ++ d :: r) := by
  rcases stopless_or_cut a with hstopless | ⟨x, s, y, rfl, hx, hs⟩
  · rcases readAuthority_stop special hstopless stop with ⟨e, hread⟩ | ⟨u, hread⟩
    · exact .fails e fun r _ => hread r
    · rw [isStop_eq, Bool.or_eq_true] at stop
      rcases stop with hsep | hmark
      · exact .goesOn hsep u [] fun r _ =>
          (hread r).trans (congrArg Except.ok (behindAuthority_separator u hsep r))
      · refine .stays hmark { u with path := .segments [[]] } fun r _ => ?_
        obtain ⟨query, fragment, heq⟩ := behindAuthority_mark u hmark r
        exact ⟨query, fragment, (hread r).trans (congrArg Except.ok heq)⟩
  · -- The authority ends at a separator before the character.
    have hsep : isSeparator true s = true := by
      have hmark := markless s (List.mem_append_right _ List.mem_cons_self)
      rw [isStop_eq, hmark, Bool.or_false] at hs
      exact hs
    have hy : Markless y := fun c hc => markless c (List.mem_append_right _ (List.mem_cons_of_mem s hc))
    have hsplit (r : List Char) : x ++ s :: y ++ d :: r = x ++ s :: (y ++ d :: r) := by simp
    rcases readAuthority_stop special hx (s := s) hs with ⟨e, hread⟩ | ⟨u, hread⟩
    · exact .fails e fun r _ => by rw [hsplit, hread]
    · refine (reads_atPath u [] hy stop).congr fun r _ => ?_
      rw [hsplit, hread, behindAuthority_separator u hsep]

end Lookout.Url
