import Lookout.Proofs.Cache.Attempts
import Lookout.Resource.Basic

/-!
# Which keys share a place

The place of a key is named by the digest of one text: the namespace, a colon and the key. The colon
does not tell where the namespace ends, since a namespace and a key may hold colons of their own, so two
different pairs can name one place. They do exactly if one namespace is the other with a colon and a
text behind it, and that text stands with a colon in front of the other key.

* **`slotText_eq_iff`** — when two pairs name one place.
* **`isolated_iff`** — writes for one pair leave the entry of another alone exactly if they do not.
* **`ports_share_a_place`** — two servers that share an entry, and two chats.
-/

namespace Lookout.Cache

/-- A namespace with its key runs into another: the other namespace goes on with a colon and a text, and
the key is that text, a colon and the other key. -/
def RunsInto (space key space' key' : String) : Prop :=
  ∃ text, space' = space ++ ":" ++ text ∧ key = text ++ ":" ++ key'

/-- Two texts that are joined by a colon in two ways. -/
theorem append_colon_eq_iff (a b c d : List Char) : a ++ ':' :: b = c ++ ':' :: d ↔
    (a = c ∧ b = d) ∨ (∃ t, c = a ++ ':' :: t ∧ b = t ++ ':' :: d) ∨
      ∃ t, a = c ++ ':' :: t ∧ d = t ++ ':' :: b := by
  constructor
  · intro h
    obtain ⟨rest, hc, hb⟩ | ⟨rest, ha, hd⟩ := List.append_eq_append_iff.1 h
    · cases rest with
      | nil => simp_all
      | cons colon t =>
        obtain ⟨rfl, rfl⟩ := List.cons.inj hb
        exact .inr (.inl ⟨t, hc, rfl⟩)
    · cases rest with
      | nil => simp_all
      | cons colon t =>
        obtain ⟨rfl, rfl⟩ := List.cons.inj hd
        exact .inr (.inr ⟨t, ha, rfl⟩)
  · rintro (⟨rfl, rfl⟩ | ⟨t, rfl, rfl⟩ | ⟨t, rfl, rfl⟩) <;> simp

theorem toList_joined (a b : String) : (a ++ ":" ++ b).toList = a.toList ++ ':' :: b.toList := by
  simp

theorem eq_joined_iff (a b c : String) : a = b ++ ":" ++ c ↔ a.toList = b.toList ++ ':' :: c.toList := by
  rw [← toList_joined, String.toList_inj]

theorem runsInto_iff (space key space' key' : String) : RunsInto space key space' key' ↔
    ∃ t, space'.toList = space.toList ++ ':' :: t ∧ key.toList = t ++ ':' :: key'.toList := by
  constructor
  · rintro ⟨text, hspace, hkey⟩
    exact ⟨text.toList, (eq_joined_iff _ _ _).1 hspace, (eq_joined_iff _ _ _).1 hkey⟩
  · rintro ⟨t, hspace, hkey⟩
    refine ⟨String.ofList t, (eq_joined_iff _ _ _).2 ?_, (eq_joined_iff _ _ _).2 ?_⟩
    · rw [String.toList_ofList]
      exact hspace
    · rw [String.toList_ofList]
      exact hkey

/-- Two pairs of a namespace and a key name one place exactly if they are the same or one runs into the
other. -/
theorem slotText_eq_iff (space key space' key' : String) :
    slotText space key = slotText space' key' ↔
      (space = space' ∧ key = key') ∨ RunsInto space key space' key' ∨
        RunsInto space' key' space key := by
  rw [← String.toList_inj, slotText, slotText, toList_joined, toList_joined, append_colon_eq_iff,
    String.toList_inj, String.toList_inj, runsInto_iff, runsInto_iff]

/-- Whatever is written for the first pair, and whichever operations fail, what is read for the second is
what was read before. -/
def Isolated (space key space' key' : String) : Prop :=
  ∀ s as getFails setFails, read space' ((attempts space key s as).failing getFails setFails) key' =
    read space' (s.failing getFails setFails) key'

theorem isolated_of_ne {space key space' key' : String}
    (h : slotName space' key' ≠ slotName space key) : Isolated space key space' key' :=
  fun s as _ _ => read_congr rfl (slots_attempts_of_ne s h as)

/-- Null is read back once it has been written to a storage that works. -/
theorem read_attempt_null (space key : String) (time : Int) (h : IsStamp time) :
    read space (attempts space key .empty [⟨.null, time, false, false⟩]) key =
      some ⟨key, .null, time⟩ := by
  have hempty : stamp space (Storage.empty.failing false false) key .null time =
      ⟨key, .null, time⟩ := rfl
  have hnull : Json.Readable .null := ⟨trivial, List.forall_mem_nil _⟩
  have hread : read space (write space (Storage.empty.failing false false) key .null time).1 key =
      if Json.depth .null ≤ payloadDepth then
        some (write space (Storage.empty.failing false false) key .null time).2 else none :=
    read_write rfl rfl hnull (by rwa [hempty])
  exact hread.trans (if_pos (by decide))

/-- A pair whose text is that of another is not isolated from it: a first write is seen through both. -/
theorem not_isolated_of_eq {space key space' key' : String}
    (h : slotText space key = slotText space' key') : ¬ Isolated space key space' key' := by
  intro isolated
  have hname : slotName space' key' = slotName space key := by
    rw [slotName, slotName, h]
  have hfound : read space' (attempts space key .empty [⟨.null, 0, false, false⟩]) key' =
      some ⟨key', .null, 0⟩ := by
    rw [read_of_same_place hname, read_attempt_null space key 0 (by decide)]
    rfl
  have hsame := isolated .empty [⟨.null, 0, false, false⟩] false false
  have hempty : read space' (Storage.empty.failing false false) key' = none := rfl
  have hworking : (attempts space key .empty [⟨.null, 0, false, false⟩]).failing false false =
      attempts space key .empty [⟨.null, 0, false, false⟩] := rfl
  rw [hworking, hfound, hempty] at hsame
  cases hsame

/-- Writes for one pair of a namespace and a key, however many, whenever made and whichever of them fail,
leave what is read for another pair alone exactly if the two pairs are different and neither runs into
the other. It is assumed that their two texts do not have one digest by accident. -/
theorem isolated_iff (space key space' key' : String)
    (apart : slotName space key = slotName space' key' → slotText space key = slotText space' key') :
    Isolated space key space' key' ↔
      (space, key) ≠ (space', key') ∧ ¬ RunsInto space key space' key' ∧
        ¬ RunsInto space' key' space key := by
  have htexts : slotText space key ≠ slotText space' key' ↔
      (space, key) ≠ (space', key') ∧ ¬ RunsInto space key space' key' ∧
        ¬ RunsInto space' key' space key := by
    rw [Ne, slotText_eq_iff, Ne, Prod.mk.injEq, not_or, not_or]
  rw [← htexts]
  constructor
  · intro isolated heq
    exact not_isolated_of_eq heq isolated
  · intro hne
    exact isolated_of_ne fun hname => hne (apart hname.symm)

/-- The same page of two servers has two places. -/
theorem servers_apart :
    (slotName "https://a.example" "hosting" = slotName "https://b.example" "hosting" →
      slotText "https://a.example" "hosting" = slotText "https://b.example" "hosting") ∧
    Isolated "https://a.example" "hosting" "https://b.example" "hosting" := by
  have hname : slotName "https://a.example" "hosting" ≠ slotName "https://b.example" "hosting" := by
    decide +kernel
  have htext : slotText "https://a.example" "hosting" ≠ slotText "https://b.example" "hosting" := by
    decide
  refine ⟨fun h => absurd h hname, (isolated_iff _ _ _ _ fun h => absurd h hname).2 ⟨by decide, ?_, ?_⟩⟩
  · exact fun h => htext ((slotText_eq_iff _ _ _ _).2 (.inr (.inl h)))
  · exact fun h => htext ((slotText_eq_iff _ _ _ _).2 (.inr (.inr h)))

/-- A list of chats that is kept under a key. -/
def chatsUnder (key path : String) : Resource :=
  .new "chats" "Chats" .chatList key 10 [.get "chats" "chats"] (some ⟨path, .ofSecs 5⟩)

/-- Two servers that share an entry: what a page of one writes is what a page of the other reads, since
the port of the one stands in the key of the other. And on one server, a chat of one list and a chat of
another are kept under one key, although their messages come from two paths. -/
theorem ports_share_a_place :
    ("https://crm.example.com:8443/api", "chats") ≠ ("https://crm.example.com", "8443/api:chats") ∧
      read "https://crm.example.com" .empty "8443/api:chats" = none ∧
      read "https://crm.example.com"
          (attempts "https://crm.example.com:8443/api" "chats" .empty [⟨.null, 5, false, false⟩])
          "8443/api:chats" = some ⟨"8443/api:chats", .null, 5⟩ ∧
      ((chatsUnder "chats" "chats/\x7bid\x7d").threadFor "1:2" "").map
          (fun r => (r.policy.key, r.sections.map (·.path))) = some ("chats:1:2", ["chats/1:2"]) ∧
      ((chatsUnder "chats:1" "team/\x7bid\x7d").threadFor "2" "").map
          (fun r => (r.policy.key, r.sections.map (·.path))) = some ("chats:1:2", ["team/2"]) := by
  refine ⟨by decide, rfl, ?_, by decide, by decide⟩
  have hname : slotName "https://crm.example.com" "8443/api:chats" =
      slotName "https://crm.example.com:8443/api" "chats" :=
    congrArg Digest.ofText (by decide : slotText "https://crm.example.com" "8443/api:chats" =
      slotText "https://crm.example.com:8443/api" "chats")
  rw [read_of_same_place hname, read_attempt_null _ _ 5 (by decide)]
  rfl

end Lookout.Cache
