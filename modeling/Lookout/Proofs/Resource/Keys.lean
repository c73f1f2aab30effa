import Lookout.Config.Read
import Lookout.Proofs.Cache.Places
import Lookout.Proofs.Resource.Chats

/-!
# The keys of pages

Where no key is set, a built-in page has a key that differs from its name, any other page has its name
for a key, and the messages of a chat are kept under the key of the list, a colon and the identifier of
the chat. Nothing keeps the three apart: the name of a page can be the key of a built-in one, and it can
be what a list and a chat make together. Apart from these two cases no two pages share a key.

* **`keys_apart_iff`** — when the pages of a configuration have keys of their own.
* **`pages_share_a_key`** — two pages with one key, and a page and a chat.
-/

namespace Lookout.Resource

/-- The key of a page if none is set. -/
def defaultKey (name : String) : String :=
  ((builtin.find? (·.name = name)).map (·.policy.key)).getD name

/-- A page that can be opened: that of a resource, or the messages of one of its chats. -/
inductive Opened
  | resource (name : String)
  | chat (list id : String)
deriving DecidableEq

/-- The pages that a configuration lets open, with the keys of their data. -/
inductive HasKey (c : Config) : Opened → String → Prop
  | resource {r : Resource} (page : r ∈ resolve c) : HasKey c (.resource r.name) r.policy.key
  | chat {r : Resource} (page : r ∈ resolve c) {id title : String} {t : Resource}
      (thread : r.threadFor id title = some t) : HasKey c (.chat r.name id) t.policy.key

/-! ## Keys that are not set -/

theorem key_builtin : ∀ r ∈ builtin, r.policy.key = defaultKey r.name := by
  decide

theorem defaultKey_of_not_builtin {name : String} (h : name ∉ names builtin) : defaultKey name = name := by
  have hnone : builtin.find? (·.name = name) = none := by
    rw [List.find?_eq_none]
    intro r hr heq
    obtain rfl : r.name = name := by simpa using heq
    exact h (List.mem_map_of_mem hr)
  rw [defaultKey, hnone]
  rfl

/-- A page whose key is not set has the default one. -/
theorem key_of_unset {c : Config} (unset : ∀ entry ∈ c.pages, entry.2.key = none) :
    ∀ r ∈ resolve c, r.policy.key = defaultKey r.name := by
  have hchange (r : Resource) (entry : String × PageSettings) (h : entry ∈ c.pages) :
      (r.change entry.2).policy.key = r.policy.key := by
    show entry.2.key.getD r.policy.key = r.policy.key
    rw [unset entry h]
    rfl
  refine forall_resolve key_builtin ?_ ?_ fun r h => h
  · intro entry hentry hnew _
    rw [defined, hchange _ entry hentry]
    exact (defaultKey_of_not_builtin hnew).symm
  · intro r hr entry hentry
    rw [hchange r entry hentry]
    exact hr

/-! ## Keys that meet -/

/-- The name of a page is the key of a built-in page of another name. -/
def TakesBuiltinKey (c : Config) : Prop :=
  ∃ r ∈ resolve c, ∃ b ∈ builtin, r.name = b.policy.key ∧ r.name ≠ b.name

/-- The name of a page is the key of a list whose chats have messages, a colon and a text. -/
def TakesChatKey (c : Config) : Prop :=
  ∃ list ∈ resolve c, list.thread.isSome ∧
    ∃ r ∈ resolve c, list.policy.key.toList ++ [':'] <+: r.name.toList

instance (c : Config) : Decidable (TakesBuiltinKey c) := by
  unfold TakesBuiltinKey
  infer_instance

instance (c : Config) : Decidable (TakesChatKey c) := by
  unfold TakesChatKey
  infer_instance

theorem joined_prefix_iff (key name : String) :
    key.toList ++ [':'] <+: name.toList ↔ ∃ id, name = key ++ ":" ++ id := by
  constructor
  · rintro ⟨id, hid⟩
    refine ⟨String.ofList id, (Cache.eq_joined_iff _ _ _).2 ?_⟩
    rw [String.toList_ofList, ← hid, List.append_assoc, List.singleton_append]
  · rintro ⟨id, rfl⟩
    refine ⟨id.toList, ?_⟩
    rw [Cache.toList_joined, List.append_assoc, List.singleton_append]

theorem mem_toList_joined (a b : String) : ':' ∈ (a ++ ":" ++ b).toList := by
  rw [Cache.toList_joined]
  simp

/-- A text with a colon in it is no built-in name, so it is its own default key. -/
theorem defaultKey_joined (a b : String) : defaultKey (a ++ ":" ++ b) = a ++ ":" ++ b := by
  refine defaultKey_of_not_builtin fun h => ?_
  have hplain : ∀ name ∈ names builtin, ':' ∉ name.toList := by decide
  exact hplain _ h (mem_toList_joined a b)

/-- Only a name with a colon in it has a default key with one. -/
theorem eq_of_defaultKey_joined {name a b : String} (h : defaultKey name = a ++ ":" ++ b) :
    name = a ++ ":" ++ b := by
  by_cases hbuiltin : name ∈ names builtin
  · have hplain : ∀ name ∈ names builtin, ':' ∉ (defaultKey name).toList := by decide
    exact absurd (h ▸ mem_toList_joined a b) (hplain name hbuiltin)
  · exact (defaultKey_of_not_builtin hbuiltin).symm.trans h

/-- Two names have one default key only if they are the same or one of them is the key of a built-in
page. -/
theorem eq_of_defaultKey {name name' : String} (h : defaultKey name = defaultKey name')
    (apart : ∀ b ∈ builtin, name = b.policy.key → name = b.name)
    (apart' : ∀ b ∈ builtin, name' = b.policy.key → name' = b.name) : name = name' := by
  by_cases hname : name ∈ names builtin <;> by_cases hname' : name' ∈ names builtin
  · have hkeys : ∀ m ∈ names builtin, ∀ n ∈ names builtin, defaultKey m = defaultKey n → m = n := by
      decide
    exact hkeys name hname name' hname' h
  · obtain ⟨b, hb, rfl⟩ := List.mem_map.1 hname
    rw [defaultKey_of_not_builtin hname', ← key_builtin b hb] at h
    exact (apart' b hb h.symm).symm
  · obtain ⟨b, hb, rfl⟩ := List.mem_map.1 hname'
    rw [defaultKey_of_not_builtin hname, ← key_builtin b hb] at h
    exact apart b hb h
  · rwa [defaultKey_of_not_builtin hname, defaultKey_of_not_builtin hname'] at h

section Unset

variable {c : Config} (unset : ∀ entry ∈ c.pages, entry.2.key = none)
include unset

/-- A page with a colon in its key is named like that key. -/
theorem starts_of_key {r : Resource} (page : r ∈ resolve c) {key id : String}
    (h : r.policy.key = key ++ ":" ++ id) : key.toList ++ [':'] <+: r.name.toList :=
  (joined_prefix_iff _ _).2 ⟨id, eq_of_defaultKey_joined ((key_of_unset unset r page).symm.trans h)⟩

/-- Two pages with one key are the same if no name is the key of a built-in page. -/
theorem name_of_key (free : ¬ TakesBuiltinKey c) {r s : Resource} (hr : r ∈ resolve c)
    (hs : s ∈ resolve c) (h : r.policy.key = s.policy.key) : r.name = s.name := by
  have hapart {q : Resource} (hq : q ∈ resolve c) (b : Resource) (hb : b ∈ builtin)
      (hkey : q.name = b.policy.key) : q.name = b.name := by
    by_contra hne
    exact free ⟨q, hq, b, hb, hkey, hne⟩
  rw [key_of_unset unset r hr, key_of_unset unset s hs] at h
  exact eq_of_defaultKey h (hapart hr) (hapart hs)

/-- Pages with one key are the same page if neither case occurs. -/
theorem opened_of_key (free : ¬ TakesBuiltinKey c) (quiet : ¬ TakesChatKey c) {p q : Opened}
    {key key' : String} (hp : HasKey c p key) (hq : HasKey c q key') (h : key = key') : p = q := by
  cases hp with
  | @resource r hr =>
    cases hq with
    | @resource s hs => rw [name_of_key unset free hr hs h]
    | @chat list hlist id title t ht =>
      obtain ⟨hthread, hkey⟩ := key_of_threadFor ht
      exact absurd ⟨list, hlist, hthread, r, hr, starts_of_key unset hr (h.trans hkey)⟩ quiet
  | @chat list hlist id title t ht =>
    obtain ⟨hthread, hkey⟩ := key_of_threadFor ht
    cases hq with
    | @resource s hs =>
      exact absurd ⟨list, hlist, hthread, s, hs, starts_of_key unset hs (h.symm.trans hkey)⟩ quiet
    | @chat list' hlist' id' title' t' ht' =>
      obtain ⟨hthread', hkey'⟩ := key_of_threadFor ht'
      have hjoined : Cache.slotText list.policy.key id = Cache.slotText list'.policy.key id' :=
        hkey.symm.trans (h.trans hkey')
      rcases (Cache.slotText_eq_iff _ _ _ _).1 hjoined with ⟨hlists, rfl⟩ | ⟨text, hmore, -⟩ |
        ⟨text, hmore, -⟩
      · rw [name_of_key unset free hlist hlist' hlists]
      · exact absurd ⟨list, hlist, hthread, list', hlist', starts_of_key unset hlist' hmore⟩ quiet
      · exact absurd ⟨list', hlist', hthread', list, hlist, starts_of_key unset hlist hmore⟩ quiet

/-- A page that is named like the key of a built-in page shares that key. -/
theorem not_apart_of_takesBuiltinKey (h : TakesBuiltinKey c) :
    ∃ p q key, p ≠ q ∧ HasKey c p key ∧ HasKey c q key := by
  obtain ⟨r, hr, b, hb, hkey, hne⟩ := h
  obtain ⟨s, hs, hname⟩ := exists_of_mem_builtin c (List.mem_map_of_mem hb)
  have hnew : ∀ b ∈ builtin, b.policy.key ∈ names builtin → b.policy.key = b.name := by decide
  have hr' : r.policy.key = b.policy.key := by
    rw [key_of_unset unset r hr, hkey, defaultKey_of_not_builtin]
    exact fun hmem => hne (hkey.trans (hnew b hb hmem))
  have hs' : s.policy.key = b.policy.key := by
    rw [key_of_unset unset s hs, hname, ← key_builtin b hb]
  refine ⟨.resource r.name, .resource s.name, b.policy.key, ?_, hr' ▸ .resource hr, hs' ▸ .resource hs⟩
  rw [Ne, Opened.resource.injEq, hname]
  exact hne

/-- A page that is named like the key of a chat shares that key. -/
theorem not_apart_of_takesChatKey (h : TakesChatKey c) :
    ∃ p q key, p ≠ q ∧ HasKey c p key ∧ HasKey c q key := by
  obtain ⟨list, hlist, hthread, r, hr, hstarts⟩ := h
  obtain ⟨id, hname⟩ := (joined_prefix_iff _ _).1 hstarts
  obtain ⟨t, ht⟩ := exists_threadFor hthread id ""
  have hkey : r.policy.key = t.policy.key := by
    rw [key_of_unset unset r hr, hname, defaultKey_joined, (key_of_threadFor ht).2]
  exact ⟨.resource r.name, .chat list.name id, t.policy.key, by simp, hkey ▸ .resource hr,
    .chat hlist ht⟩

end Unset

/-- Where no key is set, the pages of a configuration and the chats of its lists have keys of their own,
whatever identifiers the server gives to chats, exactly if no page is named like the key of a built-in
page of another name, and none like the key of a list whose chats have messages, a colon and a text. -/
theorem keys_apart_iff (c : Config) (unset : ∀ entry ∈ c.pages, entry.2.key = none) :
    (∀ p q key, HasKey c p key → HasKey c q key → p = q) ↔ ¬ TakesBuiltinKey c ∧ ¬ TakesChatKey c := by
  constructor
  · intro apart
    refine ⟨fun h => ?_, fun h => ?_⟩
    · obtain ⟨p, q, key, hne, hp, hq⟩ := not_apart_of_takesBuiltinKey unset h
      exact hne (apart p q key hp hq)
    · obtain ⟨p, q, key, hne, hp, hq⟩ := not_apart_of_takesChatKey unset h
      exact hne (apart p q key hp hq)
  · rintro ⟨free, quiet⟩ p q key hp hq
    exact opened_of_key unset free quiet hp hq rfl

/-- Two pages with similar names, and a list of chats at a path of its own. -/
def quietPages : Config where
  api := ⟨"https://crm.example.com/api", .none, 20⟩
  title := none
  defaultPage := none
  notificationSecs := 4
  pages := [("chats", { PageSettings.none with threadPath := some "team/\x7bid\x7d" }),
    ("chats-1", { PageSettings.none with sections := some [.get "a" "a"] }),
    ("deals:chats:1", { PageSettings.none with sections := some [.get "b" "b"] })]

/-- The name of a page may hold the key of a chat behind something else. -/
theorem quiet_pages_apart : (∀ entry ∈ quietPages.pages, entry.2.key = none) ∧
    ∀ p q key, HasKey quietPages p key → HasKey quietPages q key → p = q := by
  have hunset : ∀ entry ∈ quietPages.pages, entry.2.key = none := by decide
  exact ⟨hunset, (keys_apart_iff quietPages hunset).2 (by decide)⟩

/-- A configuration with a page that is named like the key of a built-in page, and one like that of a
chat. -/
def sharingPages : String :=
  "api:\n  url: https://crm.example.com/api\nresources:\n" ++
    "  hosting-dashboard:\n    sections:\n      - name: a\n        path: a\n" ++
    "  chats:1:\n    sections:\n      - name: b\n        path: b\n"

/-- An accepted configuration that sets no key, in which two pages share a key, and so do a page and a
chat. -/
theorem pages_share_a_key : ∃ c, Config.ofText sharingPages = .ok c ∧
    (∀ entry ∈ c.pages, entry.2.key = none) ∧
    (HasKey c (.resource "hosting") "hosting-dashboard" ∧
      HasKey c (.resource "hosting-dashboard") "hosting-dashboard") ∧
    HasKey c (.resource "chats:1") "chats:1" ∧ HasKey c (.chat "chats" "1") "chats:1" := by
  have hread : (Config.ofText sharingPages).toOption.any (fun c =>
      c.pages.all (·.2.key = none) && (resolve c).map (fun r => (r.name, r.policy.key, r.thread.isSome)) ==
        [("hosting", "hosting-dashboard", false), ("avito", "avito-chats", true),
          ("chats", "chats", true), ("chats:1", "chats:1", false),
          ("hosting-dashboard", "hosting-dashboard", false)]) = true := by
    decide +kernel
  obtain ⟨c, hc, hfacts⟩ := Config.exists_of_any hread
  rw [Bool.and_eq_true, beq_iff_eq, List.all_eq_true] at hfacts
  obtain ⟨hunset, hpages⟩ := hfacts
  have hpage (page : String × String × Bool)
      (h : page ∈ (resolve c).map (fun r => (r.name, r.policy.key, r.thread.isSome))) :
      HasKey c (.resource page.1) page.2.1 ∧
        (page.2.2 = true → HasKey c (.chat page.1 "1") (page.2.1 ++ ":" ++ "1")) := by
    obtain ⟨r, hr, rfl⟩ := List.mem_map.1 h
    refine ⟨.resource hr, fun hthread => ?_⟩
    obtain ⟨t, ht⟩ := exists_threadFor hthread "1" ""
    have hchat := HasKey.chat hr ht
    rwa [(key_of_threadFor ht).2] at hchat
  rw [hpages] at hpage
  exact ⟨c, hc, fun entry h => by simpa using hunset entry h,
    ⟨(hpage ("hosting", "hosting-dashboard", false) (by decide)).1,
      (hpage ("hosting-dashboard", "hosting-dashboard", false) (by decide)).1⟩,
    (hpage ("chats:1", "chats:1", false) (by decide)).1,
    (hpage ("chats", "chats", true) (by decide)).2 rfl⟩

end Lookout.Resource
