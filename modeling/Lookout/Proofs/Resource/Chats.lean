import Lookout.Proofs.Resource.Names

/-!
# The messages of chats

A list of chats makes a resource for the messages of each of its chats: it has the title of the chat, the
key of the list with the identifier of the chat behind a colon, and one section, at the template of the
list with the identifier in every place. Whatever is configured, every list of chats has a template.

* **`isChatOf_of_threadFor`** — what the resource of a chat is.
* **`thread_of_chatList`** — every list of chats has messages for its chats.
-/

namespace Lookout.Resource

/-- The resource is that of the messages of a chat of a list. -/
structure IsChatOf (t list : Resource) (id title : String) : Prop where
  kind : t.kind = .chatThread
  title : t.title = title
  key : t.policy.key = list.policy.key ++ ":" ++ id
  sections : ∃ template, list.thread = some template ∧ t.sections =
    [.get "messages" (String.ofList (fillTemplate (Url.encodeSegment id.toList) template.path.toList))]

section Thread

variable {list t : Resource} {id title : String}

theorem isChatOf_of_threadFor (h : list.threadFor id title = some t) : t.IsChatOf list id title := by
  obtain ⟨template, hthread, rfl⟩ := Option.map_eq_some_iff.1 h
  exact ⟨rfl, rfl, rfl, template, hthread, rfl⟩

/-- The key of the messages of a chat. -/
theorem key_of_threadFor (h : list.threadFor id title = some t) :
    list.thread.isSome ∧ t.policy.key = list.policy.key ++ ":" ++ id := by
  obtain ⟨-, -, hkey, template, hthread, -⟩ := isChatOf_of_threadFor h
  exact ⟨Option.isSome_of_eq_some hthread, hkey⟩

/-- A list with a template has messages for every chat. -/
theorem exists_threadFor (h : list.thread.isSome) (id title : String) :
    ∃ t, list.threadFor id title = some t := by
  rw [← Option.isSome_iff_exists, threadFor, Option.isSome_map]
  exact h

/-- The messages of a chat have one section, at the filled template. -/
theorem exists_threadFor_of_thread {template : ThreadTemplate} (h : list.thread = some template)
    (id title : String) : ∃ t, list.threadFor id title = some t ∧ t.sections =
      [.get "messages"
        (String.ofList (fillTemplate (Url.encodeSegment id.toList) template.path.toList))] := by
  obtain ⟨t, ht⟩ := exists_threadFor (Option.isSome_of_eq_some h) id title
  obtain ⟨template', hthread, hsections⟩ := (isChatOf_of_threadFor ht).sections
  obtain rfl : template' = template := Option.some.inj (hthread.symm.trans h)
  exact ⟨t, ht, hsections⟩

end Thread

/-! ## Templates -/

/-- Settings for a page keep its template or give it another one. -/
theorem isSome_changeThread (s : PageSettings) {thread : Option ThreadTemplate} (h : thread.isSome) :
    (changeThread s thread).isSome := by
  unfold changeThread
  cases s.threadPath <;> cases s.threadIntervalSecs <;> simp [h]

/-- Every list of chats of a configuration has a template for their messages. -/
theorem thread_of_chatList {c : Config} : ∀ r ∈ resolve c, r.kind = .chatList → r.thread.isSome := by
  refine forall_resolve (by decide) (fun entry _ _ _ hkind => ?_) (fun r h entry _ hkind => ?_)
    fun r h => h
  · -- The pages that settings define list sections.
    cases hkind
  · exact isSome_changeThread entry.2 (h hkind)

end Lookout.Resource
