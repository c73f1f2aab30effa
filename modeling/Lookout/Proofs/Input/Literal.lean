import Lookout.Page.ChatList
import Lookout.Page.Hosting
import Lookout.Proofs.Text.Sigma
import Mathlib.Data.List.TakeWhile

/-!
# Rows with the text of the filter in them

Rows and the text of a filter are compared in lower case, in which a capital sigma that ends a word is another
letter than elsewhere. So a row that has the text of the filter in a field, character for character, is shown
wherever the sigmas of the text end a word in the field if they do in the text. For every other text there is a
row that has it and is not shown.

* **`isMatch_of_standsIn`** — rows in which the text keeps its sigmas are shown.
* **`standsIn_of_trim`** — so are rows with the text as a whole field.
* **`standsIn_of_settled`**, **`isMatch_of_isIn_iff`** — the texts that are found wherever they stand.
* **`literal_shown`** — put together, with the rows of the pages.
-/

namespace Lookout

namespace Text

theorem ordered_blankRanges : blankRanges.Ordered := by
  simp [blankRanges, Ranges.Ordered]

/-- Blanks are not passed over when looking for a letter, and are none. -/
theorem isCased_of_isBlank {c : Char} (h : isBlank c = true) :
    isCaseIgnorable c = false ∧ isCased c = false := by
  have hpoints : ∀ r ∈ blankRanges, ∀ n ∈ List.range' r.1 (r.2 + 1 - r.1),
      caseIgnorableRanges.has n = false ∧ casedRanges.has n = false := by decide +kernel
  obtain ⟨r, hr, hlo, hhi⟩ := (Ranges.has_eq_true_iff ordered_blankRanges c.toNat).1 h
  exact hpoints r hr c.toNat (List.mem_range'_1.2 ⟨hlo, by omega⟩)

/-- No letter is in sight from a row of blanks. -/
theorem startsCased_of_blank {cs : List Char} (h : ∀ c ∈ cs, isBlank c = true) : startsCased cs = false := by
  cases cs with
  | nil => rfl
  | cons c cs =>
    obtain ⟨hcounts, hcased⟩ := isCased_of_isBlank (h c (List.mem_cons_self ..))
    rw [startsCased_cons, hcounts, hcased]
    rfl

/-- A text is its trimmed form between blanks. -/
theorem exists_trim (cs : List Char) : ∃ front back, cs = front ++ trim cs ++ back ∧
    (∀ c ∈ front, isBlank c = true) ∧ ∀ c ∈ back, isBlank c = true := by
  have hback : trimStart cs =
      trimEnd (trimStart cs) ++ ((trimStart cs).reverse.takeWhile isBlank).reverse := by
    rw [trimEnd, ← List.reverse_append, List.takeWhile_append_dropWhile, List.reverse_reverse]
  refine ⟨cs.takeWhile isBlank, ((trimStart cs).reverse.takeWhile isBlank).reverse, ?_, ?_, ?_⟩
  · rw [trim, List.append_assoc, ← hback, trimStart, List.takeWhile_append_dropWhile]
  · exact fun c hc => List.mem_takeWhile_imp hc
  · exact fun c hc => List.mem_takeWhile_imp (List.mem_reverse.1 hc)

end Text

namespace Filter

open Text

variable {f : Filter} {fields : List String}

/-- One of the fields of a row has the text of the filter in it, without the blanks around it, character for
character. -/
def IsIn (f : Filter) (fields : List String) : Prop := ∃ field ∈ fields, trim f.query <:+: field.toList

/-- The text of the filter stands in one of the fields of a row and its capital sigmas end a word there if
they do in the text. -/
def StandsIn (f : Filter) (fields : List String) : Prop :=
  ∃ field ∈ fields, ∃ front back, field.toList = front ++ trim f.query ++ back ∧
    KeepsSigmas front (trim f.query) back

/-- What the filter compares, by the places of texts in each other. -/
theorem isMatch_iff : f.isMatch fields = true ↔
    f.needle = [] ∨ ∃ field ∈ fields, f.needle <:+: lowercase field.toList := by
  simp only [isMatch, Bool.or_eq_true, List.isEmpty_iff, List.any_eq_true, isWithin_eq_true_iff]

/-- Rows in which the text keeps its sigmas are shown. -/
theorem isMatch_of_standsIn (h : f.StandsIn fields) : f.isMatch fields = true := by
  obtain ⟨field, hfield, front, back, heq, keeps⟩ := h
  refine isMatch_iff.2 (.inr ⟨field, hfield, ?_⟩)
  rw [heq]
  exact infix_lowercase keeps

/-- The text is a whole field of a row, whatever blanks stand around either. -/
theorem standsIn_of_trim {field : String} (hfield : field ∈ fields)
    (h : trim field.toList = trim f.query) : f.StandsIn fields := by
  obtain ⟨front, back, heq, hfront, hback⟩ := exists_trim field.toList
  rw [h] at heq
  refine ⟨field, hfield, front, back, heq, keepsSigmas_apart ?_ (startsCased_of_blank hback) _⟩
  exact startsCased_of_blank fun c hc => hfront c (List.mem_reverse.1 hc)

/-- A text with settled sigmas keeps them wherever it stands. -/
theorem standsIn_of_settled (h : isSettled (trim f.query) = true) (hin : f.IsIn fields) :
    f.StandsIn fields := by
  obtain ⟨field, hfield, front, back, heq⟩ := hin
  exact ⟨field, hfield, front, back, heq.symm, keepsSigmas_of_settled h front back⟩

/-- The texts that are found in every row that has them. -/
theorem isMatch_of_isIn_iff (f : Filter) :
    (∀ fields, f.IsIn fields → f.isMatch fields = true) ↔ isSettled (trim f.query) = true := by
  refine ⟨fun h => (infix_lowercase_iff _).1 fun front back => ?_,
    fun h fields hin => isMatch_of_standsIn (standsIn_of_settled h hin)⟩
  have hmatch := h [String.ofList (front ++ trim f.query ++ back)]
    ⟨_, List.mem_singleton_self _, front, back, by rw [String.toList_ofList]⟩
  rcases isMatch_iff.1 hmatch with hempty | ⟨field, hfield, hinfix⟩
  · rw [needle] at hempty
    exact hempty ▸ List.nil_infix
  · rwa [List.mem_singleton.1 hfield, String.toList_ofList] at hinfix

/-- Rows with the text of the filter, character for character, are shown: all of them just if the sigmas of
the text are settled, otherwise those in which it keeps its sigmas, among them those with the text as a whole
field. -/
theorem literal_shown (f : Filter) :
    ((∀ fields, f.IsIn fields → f.isMatch fields = true) ↔ isSettled (trim f.query) = true) ∧
    (isSettled (trim f.query) = true → ∀ fields, f.IsIn fields → f.StandsIn fields) ∧
    (∀ fields, ∀ field ∈ fields, trim field.toList = trim f.query → f.StandsIn fields) ∧
    (∀ fields, f.StandsIn fields → f.isMatch fields = true) ∧
    (∀ (p : ChatListPage) data, p.table.filter = f → p.content.loaded? = some data → ∀ c ∈ data.chats,
      f.StandsIn [c.title, c.lastMessage.getD ""] → c ∈ p.visibleChats) ∧
    ∀ (p : HostingPage) data, p.table.filter = f → p.content.loaded? = some data → ∀ s ∈ data.servers,
      f.StandsIn (HostingPage.searchedFields s) → s ∈ p.visibleServers := by
  refine ⟨f.isMatch_of_isIn_iff, fun hsettled _ => standsIn_of_settled hsettled,
    fun _ _ => standsIn_of_trim, fun _ => isMatch_of_standsIn, ?_, ?_⟩
  · rintro p data rfl hloaded c hc hstands
    rw [ChatListPage.visibleChats, hloaded]
    exact List.mem_filter.2 ⟨hc, isMatch_of_standsIn hstands⟩
  · rintro p data rfl hloaded s hs hstands
    rw [HostingPage.visibleServers, hloaded]
    exact List.mem_filter.2 ⟨hs, isMatch_of_standsIn hstands⟩

/-- A word that ends in a sigma is not found in the longer word that it begins. -/
theorem longer_word_hidden :
    let f := (("/ΟΔΟΣ".toList.map Key.plain).foldl (fun f k => (f.press k).1) Filter.empty)
    f.IsIn ["ΟΔΟΣΑ"] ∧ f.isMatch ["ΟΔΟΣΑ"] = false := by
  refine ⟨⟨"ΟΔΟΣΑ", List.mem_singleton_self _, [], ['Α'], ?_⟩, ?_⟩ <;> decide +kernel

end Filter

end Lookout
