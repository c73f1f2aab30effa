import Lookout.Config.Read
import Lookout.Proofs.App.Navigation
import Lookout.Proofs.Input.Ranking

/-!
# Pages by their names

A page is opened by its name: a colon, the characters of the name and Enter. The palette puts what is
typed in lower case and takes the blanks around it away before it looks for a command of that name, so
this works for the names that are written that way, apart from the one that quits.

* **`chosen_eq_iff`** — the names that are handed in as they are typed.
* **`opens_by_name`** — the page whose name is typed opens in place of all.
* **`capital_not_opened`** — a page with a capital letter in its name, which does not.
-/

namespace Lookout

/-! ## Suggestions -/

namespace Command

@[simp] theorem name_ofResource (r : Resource) : (ofResource r).name = r.name := by
  unfold ofResource
  split
  · next c hc => simpa using List.find?_some hc
  · rfl

/-- A text matches a command best if it is its name. -/
theorem rank?_eq_zero_iff (text : List Char) (c : Command) :
    c.rank? text = some 0 ↔ c.name.toList = text := by
  rw [rank?_eq_some_iff]
  exact ⟨fun best => best.1, fun named => ⟨named, fun _ _ => Nat.zero_le _⟩⟩

/-- A text that matches a command without other names stands in its name. -/
theorem isWithin_of_rank? {text : List Char} {c : Command} {n : Nat} (alone : c.aliases = [])
    (h : c.rank? text = some n) : Text.isWithin text c.name.toList = true := by
  rw [Text.isWithin_eq_true_iff]
  rcases (rank?_eq_some_iff.1 h).1.has with hname | ⟨a, ha, -⟩
  · exact hname
  · rw [alone] at ha
    cases ha

/-- What is suggested for a text matches it. -/
theorem exists_rank_of_mem {commands : List Command} {input : String} {c : Command}
    (typed : normalized input ≠ []) (h : c ∈ suggestions commands input) :
    c ∈ commands ∧ ∃ n, c.rank? (normalized input) = some n := by
  have htyped : ¬ (normalized input).isEmpty = true := by simpa using typed
  simp only [suggestions, if_neg htyped, List.mem_flatMap, List.mem_filter, decide_eq_true_eq] at h
  obtain ⟨n, -, hmem, hrank⟩ := h
  exact ⟨hmem, n, hrank⟩

/-- The first suggestion for the name of a command is that command. -/
theorem head?_suggestions {commands : List Command} {input : String} {c : Command}
    (typed : normalized input ≠ [])
    (named : commands.find? (·.name.toList = normalized input) = some c) :
    (suggestions commands input).head? = some c := by
  have htyped : ¬ (normalized input).isEmpty = true := by simpa using typed
  have hbest : (commands.filter fun c => c.rank? (normalized input) = some 0) =
      commands.filter (·.name.toList = normalized input) := by
    simp only [rank?_eq_zero_iff]
  have hrange : List.range 6 = 0 :: [1, 2, 3, 4, 5] := rfl
  simp only [suggestions, if_neg htyped, hrange, List.flatMap_cons]
  rw [hbest, List.head?_append, List.head?_filter, named]
  rfl

/-- The command of a page is found by the name of the page. -/
theorem find?_all {c : Config} {r : Resource} (page : r ∈ Resource.resolve c) :
    (all (Resource.resolve c)).find? (·.name.toList = r.name.toList) = some (ofResource r) := by
  have hname : ((fun c : Command => decide (c.name.toList = r.name.toList)) ∘ ofResource) =
      fun s : Resource => decide (s.name = r.name) := by
    funext s
    simp only [Function.comp_apply, name_ofResource, String.toList_inj]
  rw [all, List.find?_append, List.find?_map, hname, Resource.find?_name page]
  rfl

/-- The command that Enter hands in after a text was typed: the first suggestion, or else the text without
blanks around it and in lower case. -/
def chosen (commands : List Command) (input : String) : String :=
  ((suggestions commands input).head?.map (·.name)).getD (String.ofList (normalized input))

/-- A name with other names, and that of the command to leave, are in lower case. -/
theorem normalized_or_alone {resources : List Resource} {c : Command} (h : c ∈ all resources) :
    normalized c.name = c.name.toList ∨ c.aliases = [] := by
  have hplain : ∀ c ∈ quit :: builtin, normalized c.name = c.name.toList := by decide +kernel
  rcases List.mem_append.1 h with h | h
  · obtain ⟨r, -, rfl⟩ := List.mem_map.1 h
    unfold ofResource
    split
    · next c hc => exact .inl (hplain c (.tail _ (List.mem_of_find?_eq_some hc)))
    · exact .inr rfl
  · obtain rfl := List.mem_singleton.1 h
    exact .inl (hplain quit (.head _))

/-- The name of a page is handed in as it is typed if it is in lower case, without blanks around it. -/
theorem chosen_eq_self {c : Config} {r : Resource} (page : r ∈ Resource.resolve c) (named : r.name ≠ "")
    (plain : normalized r.name = r.name.toList) : chosen (all (Resource.resolve c)) r.name = r.name := by
  have htyped : normalized r.name ≠ [] := by
    rw [plain]
    exact fun h => named (String.toList_eq_nil_iff.1 h)
  rw [chosen, head?_suggestions htyped (plain ▸ find?_all page)]
  exact name_ofResource r

/-- Without blanks around it, the name is handed in as it is typed only if it is in lower case. -/
theorem chosen_eq_iff {c : Config} {r : Resource} (page : r ∈ Resource.resolve c) (named : r.name ≠ "")
    (trimmed : Text.trim r.name.toList = r.name.toList) :
    chosen (all (Resource.resolve c)) r.name = r.name ↔ normalized r.name = r.name.toList := by
  refine ⟨fun hchosen => ?_, chosen_eq_self page named⟩
  have hlength : r.name.toList.length ≤ (normalized r.name).length := by
    rw [normalized, trimmed]
    exact Text.length_le_lowercase _
  have htyped : normalized r.name ≠ [] := by
    intro h
    rw [h, List.length_nil, Nat.le_zero, List.length_eq_zero_iff, String.toList_eq_nil_iff] at hlength
    exact named hlength
  cases hfirst : (suggestions (all (Resource.resolve c)) r.name).head? with
  | none =>
    have hname : String.ofList (normalized r.name) = r.name := by
      rwa [chosen, hfirst] at hchosen
    rw [← String.toList_ofList (l := normalized r.name), hname]
  | some first =>
    have hname : first.name = r.name := by
      rwa [chosen, hfirst] at hchosen
    obtain ⟨hmem, n, hrank⟩ := exists_rank_of_mem htyped (List.mem_of_head? hfirst)
    rcases normalized_or_alone hmem with hplain | halone
    · rwa [hname] at hplain
    · -- The name has no room for a longer text, and to put it in lower case makes it no shorter.
      have hwithin := isWithin_of_rank? halone hrank
      rw [hname] at hwithin
      exact Text.eq_of_isWithin hwithin hlength

end Command

/-! ## Typing -/

namespace Palette

/-- The open palette with a text that was typed into it. -/
def typed (p : Palette) (text : List Char) : Palette :=
  { p with editor := ⟨text, text.length⟩, isOpen := true, selected := 0 }

/-- A character is added at the end of the text. -/
theorem press_plain (p : Palette) (text : List Char) (ch : Char) :
    (p.typed text).press (.plain ch) = (p.typed (text ++ [ch]), .handled) := by
  simp [press, pressOpen, typed, Key.plain, LineEditor.press, LineEditor.edit?,
    LineEditor.replaceBefore, LineEditor.before, LineEditor.after]

/-- Enter hands in the command that is chosen for the text. -/
theorem press_enter (p : Palette) (text : List Char) :
    (p.typed text).press { code := .enter } =
      (p.reset false, .submitted (Command.chosen p.commands (String.ofList text))) := by
  have hfirst : (p.typed text).suggestions[(p.typed text).selected]? =
      (Command.suggestions p.commands (String.ofList text)).head? := List.head?_eq_getElem?.symm
  have hchoice : (p.typed text).choice = Command.chosen p.commands (String.ofList text) := by
    rw [choice, Command.chosen, hfirst, Command.normalized, String.toList_ofList]
    split <;> simp_all [typed]
  have hopen : (p.typed text).isOpen = true := rfl
  rw [press, if_pos hopen, pressOpen, hchoice]
  rfl

end Palette

namespace App

/-- The keys with which a name is handed in to the palette. -/
def keysOf (name : String) : List Key := .plain ':' :: (name.toList.map .plain ++ [{ code := .enter }])

/-- The program after a name has been handed in to its palette. -/
def handIn (a : App) (name : String) : App := (keysOf name).foldl press a

/-- A colon opens a palette that is closed. -/
theorem press_colon {a : App} (closed : a.palette.isOpen = false) :
    a.press (.plain ':') = { a with palette := a.palette.typed [] } := by
  have hpalette : a.palette.press (.plain ':') = (a.palette.typed [], .handled) := by
    simp [Palette.press, closed, Palette.reset, Palette.typed, LineEditor.empty]
  have hkey : (Key.plain ':').isCharacter 'c' = false := by decide
  simp only [press, hkey, hpalette, Bool.false_and, Bool.false_eq_true, if_false]

/-- The characters that are typed stand one after the other in the palette. -/
theorem press_chars (a : App) (p : Palette) (text cs : List Char) :
    (cs.map Key.plain).foldl press { a with palette := p.typed text } =
      { a with palette := p.typed (text ++ cs) } := by
  induction cs generalizing text with
  | nil => rw [List.append_nil]; rfl
  | cons ch cs ih =>
    have hcontrol : (Key.plain ch).control = false := rfl
    have hpress : press { a with palette := p.typed text } (.plain ch) =
        { a with palette := p.typed (text ++ [ch]) } := by
      simp only [press, hcontrol, Palette.press_plain, Bool.and_false, Bool.false_eq_true, if_false]
    rw [List.map_cons, List.foldl_cons, hpress, ih, List.append_assoc, List.singleton_append]

/-- To hand in a text runs the command that is chosen for it. -/
theorem handIn_eq {a : App} (closed : a.palette.isOpen = false) (name : String) :
    a.handIn name =
      { a with palette := a.palette.reset false }.execute (Command.chosen a.palette.commands name) := by
  have hkey : Key.isCharacter { code := .enter } 'c' = false := by decide
  rw [handIn, keysOf, List.foldl_cons, press_colon closed, List.foldl_append, press_chars,
    List.nil_append, List.foldl_cons, List.foldl_nil, press, Palette.press_enter, String.ofList_toList]
  simp only [hkey, Bool.false_and, Bool.false_eq_true, if_false]

/-- Whatever the program shows, as long as its palette is closed: the page whose name is typed opens in place
of all, nothing is told, and the program does not quit. The name has to be written in lower case, without
blanks around it, and must not be empty or that of the command that quits. -/
theorem opens_by_name {c : Config} {d : Resource} {a : App} (page : d ∈ Resource.resolve c)
    (offers : Offers a c) (closed : a.palette.isOpen = false)
    (plain : Command.normalized d.name = d.name.toList) (named : d.name ≠ "")
    (stays : d.name ≠ Command.quit.name) :
    (∃ n b, (a.handIn d.name).stack = [.mounted d n b] ∧
      (a.handIn d.name).world.purposes[n]? = some d.purpose) ∧
    (a.handIn d.name).notifications = a.notifications ∧ (a.handIn d.name).hasQuit = a.hasQuit := by
  have hfind : a.resources.find? (·.name = d.name) = some d := by
    rw [offers.resources, Resource.find?_name page]
  rw [handIn_eq closed, offers.commands, Command.chosen_eq_self page named plain]
  simp only [execute, named, stays, if_false, find?, hfind]
  rw [openRoot_eq]
  exact ⟨⟨_, _, rfl, purpose_mount _ d⟩, rfl, rfl⟩

/-- A configuration with a page of its own, whose name has a blank and letters of no case in it. -/
def dealsPage : Config where
  api := ⟨"https://crm.example.com/api", .none, 20⟩
  title := none
  defaultPage := none
  notificationSecs := 4
  pages := [("сделки #1 火", { PageSettings.none with sections := some [.get "deals" "deals"] })]

/-- The program that is started with it. -/
def dealsShown : App := start dealsPage (.start 0 "" .empty fun _ _ => ⟨1, .ok .null⟩) none

/-- The page is opened from the first one. -/
theorem deals_opened : ∃ d ∈ Resource.resolve dealsPage, d.name = "сделки #1 火" ∧
    Offers dealsShown dealsPage ∧ dealsShown.palette.isOpen = false ∧
    Command.normalized d.name = d.name.toList ∧ d.name ≠ "" ∧ d.name ≠ Command.quit.name ∧
    (∃ n b, (dealsShown.handIn d.name).stack = [.mounted d n b] ∧
      (dealsShown.handIn d.name).world.purposes[n]? = some d.purpose) ∧
    (dealsShown.handIn d.name).notifications = dealsShown.notifications ∧
    (dealsShown.handIn d.name).hasQuit = dealsShown.hasQuit := by
  have hname : "сделки #1 火" ∈ Resource.names (Resource.resolve dealsPage) := by decide
  obtain ⟨d, hd, hname⟩ := List.mem_map.1 hname
  have hoffers : Offers dealsShown dealsPage := offers_start _ _ _
  have hclosed : dealsShown.palette.isOpen = false := by decide +kernel
  have hplain : Command.normalized d.name = d.name.toList := by
    rw [hname]
    decide +kernel
  have hnamed : d.name ≠ "" := by
    rw [hname]
    decide
  have hstays : d.name ≠ Command.quit.name := by
    rw [hname]
    decide
  exact ⟨d, hd, hname, hoffers, hclosed, hplain, hnamed, hstays,
    opens_by_name hd hoffers hclosed hplain hnamed hstays⟩

/-- A configuration that defines a page with a capital letter in its name. -/
def capitalPage : String :=
  "api:\n  url: https://crm.example.com/api\nresources:\n" ++
    "  Deals:\n    sections:\n      - name: deals\n        path: deals\n"

/-- The page is offered, but to hand in its name tells of an unknown command and leaves the first page
where it is. -/
theorem capital_not_opened : ∃ c d, Config.ofText capitalPage = .ok c ∧ d ∈ Resource.resolve c ∧
    d.name = "Deals" ∧
    let a := start c (.start 0 "" .empty fun _ _ => ⟨1, .ok .null⟩) none
    a.palette.isOpen = false ∧ (∀ n b, (a.handIn d.name).stack ≠ [.mounted d n b]) ∧
      a.notifications.items = [] ∧
      (a.handIn d.name).notifications.items.map (fun n => (n.message, n.kind)) =
        [("Unknown command: deals", .warning)] := by
  have hread : (Config.ofText capitalPage).toOption.any (fun c =>
      let a := start c (.start 0 "" .empty fun _ _ => ⟨1, .ok .null⟩) none
      (Resource.resolve c).any (fun d => d.name == "Deals" && d.title == "Deals") &&
        !a.palette.isOpen && (a.handIn "Deals").breadcrumb == ["Hosting"] && a.notifications.items.isEmpty &&
        (a.handIn "Deals").notifications.items.map (fun n => (n.message, n.kind)) ==
          [("Unknown command: deals", .warning)]) = true := by
    decide +kernel
  obtain ⟨c, hc, hfacts⟩ := Config.exists_of_any hread
  simp only [Bool.and_eq_true, Bool.not_eq_true', List.any_eq_true, beq_iff_eq, List.isEmpty_iff] at hfacts
  obtain ⟨⟨⟨⟨⟨d, hd, hname, htitle⟩, hclosed⟩, hbreadcrumb⟩, hnothing⟩, hwarned⟩ := hfacts
  refine ⟨c, d, hc, hd, hname, hclosed, ?_, hnothing, ?_⟩
  · intro n b hstack
    rw [hname] at hstack
    rw [breadcrumb, hstack] at hbreadcrumb
    have htitles : [(Page.mounted d n b).title] = ["Hosting"] := hbreadcrumb
    rw [Page.title_mounted, htitle] at htitles
    exact absurd htitles (by decide)
  · rw [hname]
    exact hwarned

end App

end Lookout
