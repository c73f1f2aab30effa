import Lookout.Page.Hosting

/-!
# The columns of the server table

A row of the table is put together from parts. The name, the provider and the state of a server are cut and
filled to the width of their columns; the address is only filled. So the columns up to the address begin at the
same character in all rows, and those behind it do as long as no address is longer than its column, or all
addresses that are have one length.

* **`length_column`** — how long a text is that was cut and filled.
* **`start_row`** — where each column begins in the row of a server.
* **`columns_aligned`** — when all rows begin their columns at the same characters.
-/

namespace Lookout.HostingPage

open Snapshot Text

/-! ## Columns -/

/-- The columns of the table. -/
inductive Column
  | name
  | provider
  | address
  | status
  | cost
deriving DecidableEq

/-- The address of a server, or a dash. -/
def address (s : Server) : List Char := (s.ip.getD "-").toList

/-- The characters that are kept free for addresses. -/
def addressColumns : Nat := 16

namespace Column

/-- The number of the part of a row that stands in a column. -/
def part : Column → Nat
  | .name => 0
  | .provider => 2
  | .address => 4
  | .status => 6
  | .cost => 7

/-- The text of a server in a column. -/
def text (s : Server) : Column → List Char
  | .name => column 20 s.name
  | .provider => column 12 (s.provider.getD "-")
  | .address => padRight (HostingPage.address s) addressColumns
  | .status => column 10 (s.status.getD "-")
  | .cost => costText s

/-- Where a column begins in a row: how many characters the parts in front of it have. -/
def start (k : Column) (line : List Span) : Nat := (Span.lineText (line.take k.part)).length

/-- Where a column begins behind an address of some characters. -/
def place (characters : Nat) : Column → Nat
  | .name => 0
  | .provider => 21
  | .address => 34
  | .status => 35 + max addressColumns characters
  | .cost => 45 + max addressColumns characters

/-- The column stands behind the address. -/
def IsBehindAddress (k : Column) : Prop := k = .status ∨ k = .cost

end Column

/-! ## Rows -/

variable (s : Server) (k : Column)

/-- A text that was cut and filled has the width of its column, in which the dots have room. -/
theorem length_column {size : Nat} (dots : 3 ≤ size) (text : String) : (column size text).length = size := by
  have hcut := truncate_length_le text.toList size
  rw [column, padRight_length]
  omega

/-- In its column, a row has the text of its server. -/
theorem text_row : ((row s)[k.part]?).map Span.text = some (k.text s) := by
  cases k with
  | name | provider | address | status | cost => rfl

/-- The text of a row is that of its parts: what stands in front of a column, its text, and what is behind. -/
theorem lineText_row : ∃ behind, Span.lineText (row s) =
    Span.lineText ((row s).take k.part) ++ k.text s ++ behind := by
  obtain ⟨span, hspan, htext⟩ := Option.map_eq_some_iff.1 (text_row s k)
  obtain ⟨hlt, hget⟩ := List.getElem?_eq_some_iff.1 hspan
  refine ⟨Span.lineText ((row s).drop (k.part + 1)), ?_⟩
  calc Span.lineText (row s)
      = Span.lineText ((row s).take k.part ++ (row s)[k.part] :: (row s).drop (k.part + 1)) := by
        rw [List.getElem_cons_drop, List.take_append_drop]
    _ = Span.lineText ((row s).take k.part) ++ k.text s ++ Span.lineText ((row s).drop (k.part + 1)) := by
        rw [hget, ← htext]
        simp only [Span.lineText, List.flatMap_append, List.flatMap_cons, List.append_assoc]

/-- Where a column begins depends on the length of the address only. -/
theorem start_row : k.start (row s) = k.place (address s).length := by
  have hname := length_column (by decide : 3 ≤ 20) s.name
  have hprovider := length_column (by decide : 3 ≤ 12) (s.provider.getD "-")
  have hstatus := length_column (by decide : 3 ≤ 10) (s.status.getD "-")
  have haddress : (padRight (s.ip.getD "-").toList 16).length = max addressColumns (address s).length :=
    padRight_length _ _
  have hgap : (Span.plain " ").text.length = 1 := rfl
  unfold Column.start
  cases k with
  | name => rfl
  | provider | address =>
    simp only [Column.part, row, List.take_succ_cons, List.take_zero, Span.lineText, List.flatMap_cons,
      List.flatMap_nil, List.length_append, List.length_nil, hname, hprovider, hgap, Column.place]
  | status | cost =>
    simp only [Column.part, row, List.take_succ_cons, List.take_zero, Span.lineText, List.flatMap_cons,
      List.flatMap_nil, List.length_append, List.length_nil, hname, hprovider, haddress, hstatus, hgap,
      Column.place]
    omega

/-- Two rows begin a column at the same character if the column does not stand behind the address, or if
their addresses take the same room. -/
theorem start_eq_iff (t : Server) : k.start (row s) = k.start (row t) ↔
    (k.IsBehindAddress → max addressColumns (address s).length = max addressColumns (address t).length) := by
  rw [start_row, start_row]
  cases k with
  | name | provider | address => simp [Column.place, Column.IsBehindAddress]
  | status | cost =>
    simp only [Column.place, Column.IsBehindAddress, Nat.add_left_cancel_iff, true_or, or_true, true_imp_iff]

/-! ## The table -/

/-- On every page, whatever its filter lets pass: each row has the texts of its server in its columns, each
where the length of the address puts it. The columns up to the address begin at the same character in all
rows. All columns do exactly if all addresses take the same room; if no address has more than sixteen
characters, they begin at the characters 0, 21, 34, 51 and 61. -/
theorem columns_aligned (p : HostingPage) :
    (∀ s ∈ p.visibleServers, ∀ k : Column, k.start (row s) = k.place (address s).length ∧
      ∃ before behind, Span.lineText (row s) = before ++ k.text s ++ behind ∧
        before.length = k.start (row s)) ∧
    (∀ line ∈ p.visibleServers.map row, ∀ other ∈ p.visibleServers.map row, ∀ k : Column,
      ¬ k.IsBehindAddress → k.start line = k.start other) ∧
    ((∀ line ∈ p.visibleServers.map row, ∀ other ∈ p.visibleServers.map row, ∀ k : Column,
        k.start line = k.start other) ↔
      ∀ s ∈ p.visibleServers, ∀ t ∈ p.visibleServers,
        max addressColumns (address s).length = max addressColumns (address t).length) ∧
    ((∀ s ∈ p.visibleServers, (address s).length ≤ addressColumns) →
      ∀ line ∈ p.visibleServers.map row,
        [Column.name, .provider, .address, .status, .cost].map (·.start line) = [0, 21, 34, 51, 61]) := by
  simp only [List.forall_mem_map]
  refine ⟨fun s hs k => ⟨start_row s k, ?_⟩, fun s hs t ht k front => ?_, ⟨fun h s hs t ht => ?_,
    fun h s hs t ht k => ?_⟩, fun short s hs => ?_⟩
  · obtain ⟨behind, hline⟩ := lineText_row s k
    exact ⟨_, behind, hline, rfl⟩
  · exact (start_eq_iff s k t).2 fun behind => absurd behind front
  · exact (start_eq_iff s .status t).1 (h s hs t ht .status) (.inl rfl)
  · exact (start_eq_iff s k t).2 fun _ => h s hs t ht
  · have hroom : max addressColumns (address s).length = addressColumns := Nat.max_eq_left (short s hs)
    simp only [List.map_cons, List.map_nil, start_row, Column.place, hroom]
    rfl

/-- The page of some servers without a filter. -/
def listing (servers : List Server) : HostingPage :=
  ⟨⟨0, "Hosting", some (.ok ⟨⟨0, 0, .zero false, none⟩, servers, none⟩)⟩, .new⟩

theorem visibleServers_listing (servers : List Server) : (listing servers).visibleServers = servers :=
  List.filter_eq_self.2 fun s _ => Filter.isMatch_of_isEmpty (f := .empty) rfl (searchedFields s)

/-- A server with a short address. -/
def web : Server := ⟨"1", "web-1", some "Hetzner", some "10.0.0.7", none, some "active", none⟩

/-- A server with a long name and without an address. -/
def archive : Server := ⟨"2", "Архив заявок и договоров", none, none, none, none, none⟩

/-- A server with a long address. -/
def database : Server :=
  ⟨"3", "db-1", some "Hetzner", some "2001:db8:85a3::8a2e:370:7334", none, some "active", none⟩

/-- The columns of a server with a long name and of one with a short address stand below each other. -/
theorem short_addresses_aligned :
    ∀ line ∈ [row web, row archive],
      [Column.name, .provider, .address, .status, .cost].map (·.start line) = [0, 21, 34, 51, 61] := by
  obtain ⟨-, -, -, hshort⟩ := columns_aligned (listing [web, archive])
  rw [visibleServers_listing] at hshort
  exact hshort (by decide +kernel)

/-- Behind an address of 28 characters, the state and the costs begin twelve characters later. -/
theorem long_address_shifts : ¬ ∀ p : HostingPage, ∀ line ∈ p.visibleServers.map row,
    ∀ other ∈ p.visibleServers.map row, ∀ k : Column, k.start line = k.start other := by
  intro claim
  have hpage := claim (listing [web, database])
  rw [visibleServers_listing] at hpage
  have hstatus := hpage (row web) List.mem_cons_self (row database)
    (List.mem_cons_of_mem _ List.mem_cons_self) .status
  rw [start_row, start_row] at hstatus
  exact absurd hstatus (by decide +kernel)

end Lookout.HostingPage
