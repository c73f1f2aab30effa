import Lookout.Proofs.Resource.Templates
import Lookout.Proofs.Url.Percent
import Lookout.Resource.Resolve

/-!
# Endpoints of chats

The messages of a chat come from the template of its list with the identifier of the chat, written as one
path segment, in every place. The filled template tells the segment, and the segment tells the identifier,
unless something of it is left out: tabs, line ends, and the whole of a dot segment. Chats that differ in
nothing else share an endpoint.

* **`fillTemplate_injective`** — a filled template tells what was put into its places.
* **`endpoints_apart`** — when two chats of a list have endpoints of their own.
* **`endpoint_shared`** — chats that share one.
-/

namespace Lookout.Resource

open Url

/-! ## Filled templates -/

/-- A filled template is as long as the empty one, and longer by the segment for every place. -/
theorem exists_length_fillTemplate (t : List Char) : ∃ places, (place <:+: t → 0 < places) ∧
    ∀ segment, (fillTemplate segment t).length = (fillTemplate [] t).length + places * segment.length := by
  induction t using template_induction with
  | nil => exact ⟨0, fun h => absurd (List.infix_nil.1 h) (by decide), fun segment => by simp [fillTemplate]⟩
  | placed rest ih =>
    obtain ⟨places, -, hlength⟩ := ih
    refine ⟨places + 1, fun _ => Nat.succ_pos _, fun segment => ?_⟩
    rw [fillTemplate_place, fillTemplate_place, List.length_append, hlength segment, List.nil_append,
      Nat.succ_mul]
    omega
  | char c rest hplace ih =>
    obtain ⟨places, hsome, hlength⟩ := ih
    refine ⟨places, fun h => hsome ((List.infix_cons_iff.1 h).resolve_left hplace), fun segment => ?_⟩
    rw [fillTemplate_cons hplace, fillTemplate_cons hplace, List.length_cons, List.length_cons,
      hlength segment]
    omega

/-- A filled template tells what was put into its places. -/
theorem fillTemplate_injective {t a b : List Char} (placed : place <:+: t)
    (h : fillTemplate a t = fillTemplate b t) : a = b := by
  have hlength : a.length = b.length := by
    obtain ⟨places, hsome, hlength⟩ := exists_length_fillTemplate t
    have htotal := congrArg List.length h
    rw [hlength a, hlength b] at htotal
    exact Nat.eq_of_mul_eq_mul_left (hsome placed) (Nat.add_left_cancel htotal)
  induction t using template_induction with
  | nil => exact absurd (List.infix_nil.1 placed) (by decide)
  | placed rest ih =>
    rw [fillTemplate_place, fillTemplate_place] at h
    exact List.append_inj_left h hlength
  | char c rest hplace ih =>
    rw [fillTemplate_cons hplace, fillTemplate_cons hplace] at h
    exact ih ((List.infix_cons_iff.1 placed).resolve_left hplace) (List.cons.inj h).2

/-! ## Chats -/

/-- The paths from which the messages of a chat come. -/
def threadPaths (r : Resource) (id title : String) : Option (List String) :=
  (r.threadFor id title).map fun t => t.sections.map (·.path)

/-- The identifier is kept whole where it is written as a segment: it is not empty, there are no tabs and no
line ends in it, and it is no dot segment. -/
structure IsPlain (id : List Char) : Prop where
  nonempty : id ≠ []
  kept : ∀ c ∈ id, isIgnored c = false
  noDot : id ≠ ['.']
  noDots : id ≠ ['.', '.']

theorem isPlain_iff (id : List Char) : IsPlain id ↔ id ≠ [] ∧ segmentText id = id := by
  rw [segmentText_eq_self_iff]
  exact ⟨fun h => ⟨h.nonempty, h.kept, h.noDot, h.noDots⟩, fun h => ⟨h.1, h.2.1, h.2.2.1, h.2.2.2⟩⟩

/-- A segment is a written form of an identifier exactly if the identifier is plain. -/
theorem written_iff_isPlain (id : List Char) :
    encodeSegment id ≠ [] ∧ textOfBytes? (percentDecode (encodeSegment id)) = some id ↔ IsPlain id := by
  have hempty : encodeSegment id = [] ↔ segmentText id = [] := by
    rw [encodeSegment_eq, percentEncode_eq_nil_iff]
  rw [isPlain_iff, textOfBytes?_encodeSegment, Ne, hempty, Option.some.injEq]
  constructor
  · rintro ⟨hsome, hkept⟩
    exact ⟨hkept ▸ hsome, hkept⟩
  · rintro ⟨hsome, hkept⟩
    exact ⟨hkept.symm ▸ hsome, hkept⟩

/-- The messages of every chat of a list with a place in its template come from the filled template, and
those of two chats come from one endpoint exactly if the same is kept of their identifiers. What is put into
the place has no separator and no mark in it, and it is a written form of the identifier exactly if that is
plain. So chats with different plain identifiers have endpoints of their own. -/
theorem endpoints_apart {r : Resource} {template : ThreadTemplate} (thread : r.thread = some template)
    (placed : place <:+: template.path.toList) :
    (∀ id title, r.threadPaths id title =
      some [String.ofList (fillTemplate (encodeSegment id.toList) template.path.toList)]) ∧
    (∀ a b titleA titleB, r.threadPaths a titleA = r.threadPaths b titleB ↔
      segmentText a.toList = segmentText b.toList) ∧
    (∀ id : String, Stopless (encodeSegment id.toList) ∧
      (encodeSegment id.toList ≠ [] ∧
        textOfBytes? (percentDecode (encodeSegment id.toList)) = some id.toList ↔ IsPlain id.toList)) ∧
    ∀ a b titleA titleB, IsPlain a.toList → IsPlain b.toList → a ≠ b →
      r.threadPaths a titleA ≠ r.threadPaths b titleB := by
  have hpaths (id title : String) : r.threadPaths id title =
      some [String.ofList (fillTemplate (encodeSegment id.toList) template.path.toList)] := by
    rw [threadPaths, threadFor, thread]
    rfl
  have hsame (a b titleA titleB : String) : r.threadPaths a titleA = r.threadPaths b titleB ↔
      segmentText a.toList = segmentText b.toList := by
    rw [hpaths, hpaths, Option.some.injEq, List.singleton_inj, String.ofList_inj, ← encodeSegment_eq_iff]
    exact ⟨fillTemplate_injective placed, fun h => by rw [h]⟩
  refine ⟨hpaths, hsame, fun id => ⟨stopless_encodeSegment _, written_iff_isPlain _⟩, ?_⟩
  intro a b titleA titleB ha hb hne hpath
  have hkept := (hsame a b titleA titleB).1 hpath
  rw [((isPlain_iff _).1 ha).2, ((isPlain_iff _).1 hb).2] at hkept
  exact hne (String.toList_inj.1 hkept)

/-- A chat list of the built-in pages, and two identifiers that are written with percent signs. -/
theorem dotted_endpoints_apart : ∃ r ∈ builtin, ∃ template, r.thread = some template ∧
    place <:+: template.path.toList ∧ r.threadPaths "../1" "" ≠ r.threadPaths "%2e./1" "" := by
  refine ⟨_, List.mem_cons_of_mem _ (List.mem_cons_of_mem _ List.mem_cons_self), _, rfl, by decide, ?_⟩
  refine (endpoints_apart rfl (by decide)).2.2.2 "../1" "%2e./1" "" "" ?_ ?_ (by decide)
  · exact (isPlain_iff _).2 ⟨by decide, by decide⟩
  · exact (isPlain_iff _).2 ⟨by decide, by decide⟩

/-- Chats of a built-in page that share an endpoint: those with the dot segments for identifiers, of which
nothing is written, and two that differ in a line end. -/
theorem endpoint_shared : ∃ r ∈ builtin, ∃ template, r.thread = some template ∧
    place <:+: template.path.toList ∧
    (r.threadPaths "." "" = some ["chats//messages"] ∧ r.threadPaths ".." "" = some ["chats//messages"]) ∧
    (r.threadPaths "ab" "" = some ["chats/ab/messages"] ∧
      r.threadPaths "a\nb" "" = some ["chats/ab/messages"]) := by
  refine ⟨_, List.mem_cons_of_mem _ (List.mem_cons_of_mem _ List.mem_cons_self), _, rfl, by decide, ?_⟩
  decide +kernel

end Lookout.Resource
