import Lookout.Proofs.Input.Editing
import Mathlib.Algebra.GroupWithZero.Nat

/-!
# Keys in steps that can fail

The program counts with 64 bits and keeps a text as bytes, which it cuts at offsets. Here the inputs take
in a key in these steps, each of which can stop the program: a count can leave its bits, a remainder can
be one by zero, and a text can be cut inside a character or behind its end. While the cursor stands
inside a text that is not too long, none of them does, and together they do what the key does.

* **`cut_offsetOf`** — the offset of a character is one at which a text can be cut.
* **`LineEditor.pressChecked_eq_counted`** — a key cuts no text in the wrong place, however long it is.
* **`LineEditor.pressChecked_eq`**, **`Filter.pressChecked_eq`**, **`Palette.pressChecked_eq`** — no key
  stops an input.
-/

namespace Lookout

/-- What can stop the program within a step: a count leaves its bits, a remainder is one by zero, a text
is cut where no character starts, or a moment lies behind the end of the clock. -/
inductive Crash
  | count
  | remainder
  | cut
  | clock
deriving DecidableEq

namespace Checked

/-! ## Counts -/

/-- The first number that 64 bits do not hold. -/
def wordSize : Nat := 0x10000000000000000

/-- A sum that has to fit. -/
def plus (n m : Nat) : Except Crash Nat := if n + m < wordSize then .ok (n + m) else .error .count

/-- A difference that must not be negative. -/
def minus (n m : Nat) : Except Crash Nat := if m ≤ n then .ok (n - m) else .error .count

/-- A sum of coordinates, which has to be one. -/
def plusCoordinate (n m : Nat) : Except Crash Nat :=
  if n + m < coordinateValues then .ok (n + m) else .error .count

/-- A step that stops at a limit where it would fail. -/
def stopAt (limit : Nat) : Except Crash Nat → Nat
  | .ok n => n
  | .error _ => limit

/-- A remainder. -/
def remainder (n m : Nat) : Except Crash Nat := if m = 0 then .error .remainder else .ok (n % m)

theorem plus_eq {n m : Nat} (h : n + m < wordSize) : plus n m = .ok (n + m) := if_pos h

theorem plus_cases (n m : Nat) : plus n m = .ok (n + m) ∨ plus n m = .error .count := by
  unfold plus
  split
  · exact .inl rfl
  · exact .inr rfl

theorem minus_eq {n m : Nat} (h : m ≤ n) : minus n m = .ok (n - m) := if_pos h

theorem plusCoordinate_eq {n m : Nat} (h : n + m < coordinateValues) : plusCoordinate n m = .ok (n + m) :=
  if_pos h

/-- A sum of coordinates that stops at the last one. -/
theorem stopAt_plusCoordinate (n m : Nat) :
    stopAt (coordinateValues - 1) (plusCoordinate n m) = scrollOn n m := by
  unfold plusCoordinate scrollOn
  split
  · next h => exact (Nat.min_eq_left (Nat.le_sub_one_of_lt h)).symm
  · next h => exact (Nat.min_eq_right (Nat.le_trans (Nat.sub_le _ _) (Nat.not_lt.1 h))).symm

/-- A difference that stops at zero. -/
theorem stopAt_minus (n m : Nat) : stopAt 0 (minus n m) = n - m := by
  unfold minus
  split
  · rfl
  · next h => exact (Nat.sub_eq_zero_of_le (Nat.le_of_not_le h)).symm

theorem remainder_eq {n m : Nat} (h : m ≠ 0) : remainder n m = .ok (n % m) := if_neg h

/-- A step that does not fail hands its result on. -/
@[simp] theorem ok_bind {α β : Type} (x : α) (f : α → Except Crash β) : (.ok x >>= f) = f x := rfl

/-! ## Texts as bytes -/

/-- How many bytes a text takes. -/
def size (cs : List Char) : Nat := (cs.map Char.utf8Size).sum

/-- The offset of the character of a number; that of the end if the text is not so long. -/
def offsetOf : List Char → Nat → Nat
  | c :: cs, n + 1 => c.utf8Size + offsetOf cs n
  | _, _ => 0

/-- Cuts a text at an offset, where a character has to start or the text to end. -/
def cut : List Char → Nat → Except Crash (List Char × List Char)
  | cs, 0 => .ok ([], cs)
  | [], _ + 1 => .error .cut
  | c :: cs, n + 1 =>
    if c.utf8Size ≤ n + 1 then (cut cs (n + 1 - c.utf8Size)).map fun p => (c :: p.1, p.2)
    else .error .cut

/-- Removes the character at an offset; there has to be one. -/
def remove (cs : List Char) (offset : Nat) : Except Crash (List Char) := do
  match ← cut cs offset with
  | (front, _ :: back) => .ok (front ++ back)
  | (_, []) => .error .cut

/-- Inserts a character at an offset. -/
def insert (cs : List Char) (offset : Nat) (c : Char) : Except Crash (List Char) := do
  let (front, back) ← cut cs offset
  .ok (front ++ c :: back)

/-- The text between two offsets. -/
def slice (cs : List Char) (start finish : Nat) : Except Crash (List Char) := do
  let (front, _) ← cut cs finish
  let (_, part) ← cut front start
  .ok part

/-- The text without that between two offsets. -/
def without (cs : List Char) (start finish : Nat) : Except Crash (List Char) := do
  let (front, back) ← cut cs finish
  let (kept, _) ← cut front start
  .ok (kept ++ back)

/-- The offset of the last space. -/
def lastSpace? : List Char → Option Nat
  | [] => none
  | c :: cs =>
    match lastSpace? cs with
    | some n => some (c.utf8Size + n)
    | none => if c = ' ' then some 0 else none

@[simp] theorem size_nil : size [] = 0 := rfl

@[simp] theorem size_cons (c : Char) (cs : List Char) : size (c :: cs) = c.utf8Size + size cs := rfl

@[simp] theorem size_append (front back : List Char) : size (front ++ back) = size front + size back := by
  simp [size]

/-- No character takes more than four bytes. -/
theorem size_le (cs : List Char) : size cs ≤ 4 * cs.length := by
  induction cs with
  | nil => exact Nat.le_refl 0
  | cons c cs ih =>
    have hc := c.utf8Size_le_four
    rw [size_cons, List.length_cons]
    omega

theorem offsetOf_eq (cs : List Char) (n : Nat) : offsetOf cs n = size (cs.take n) := by
  induction cs generalizing n with
  | nil => cases n <;> rfl
  | cons c cs ih =>
    cases n with
    | zero => rfl
    | succ n => rw [offsetOf, ih, List.take_succ_cons, size_cons]

/-- A text can be cut behind any of its starts. -/
theorem cut_append (front back : List Char) : cut (front ++ back) (size front) = .ok (front, back) := by
  induction front with
  | nil => cases back <;> rfl
  | cons c front ih =>
    -- A character takes at least one byte, so the offset is not zero.
    obtain ⟨n, hn⟩ := Nat.exists_eq_add_of_lt c.utf8Size_pos
    have hsize : size (c :: front) = n + size front + 1 := by
      rw [size_cons]
      omega
    have hrest : n + size front + 1 - c.utf8Size = size front := by omega
    rw [hsize, List.cons_append, cut, if_pos (by omega), hrest, ih]
    rfl

/-- The offset of a character is one at which the text can be cut. -/
theorem cut_offsetOf (cs : List Char) (n : Nat) : cut cs (offsetOf cs n) = .ok (cs.take n, cs.drop n) := by
  have h := cut_append (cs.take n) (cs.drop n)
  rwa [List.take_append_drop, ← offsetOf_eq] at h

theorem remove_eq {cs : List Char} {n : Nat} (h : n < cs.length) :
    remove cs (offsetOf cs n) = .ok (cs.eraseIdx n) := by
  rw [remove, cut_offsetOf, ok_bind, List.drop_eq_getElem_cons h, List.eraseIdx_eq_take_drop_succ]

theorem insert_eq (cs : List Char) (n : Nat) (c : Char) :
    insert cs (offsetOf cs n) c = .ok (cs.take n ++ c :: cs.drop n) := by
  rw [insert, cut_offsetOf, ok_bind]

theorem slice_append (kept part back : List Char) :
    slice (kept ++ part ++ back) (size kept) (size (kept ++ part)) = .ok part := by
  simp only [slice, cut_append, ok_bind]

theorem without_append (kept part back : List Char) :
    without (kept ++ part ++ back) (size kept) (size (kept ++ part)) = .ok (kept ++ back) := by
  simp only [without, cut_append, ok_bind]

theorem lastSpace?_eq_none {word : List Char} (h : ' ' ∉ word) : lastSpace? word = none := by
  induction word with
  | nil => rfl
  | cons c word ih =>
    simp only [List.mem_cons, not_or] at h
    rw [lastSpace?, ih h.2]
    exact if_neg (Ne.symm h.1)

theorem lastSpace?_append {word : List Char} (h : ' ' ∉ word) (front : List Char) :
    lastSpace? (front ++ ' ' :: word) = some (size front) := by
  induction front with
  | nil =>
    show lastSpace? (' ' :: word) = some 0
    rw [lastSpace?, lastSpace?_eq_none h]
    rfl
  | cons c front ih => rw [List.cons_append, lastSpace?, ih, size_cons]

end Checked

/-! ## The line editor -/

namespace LineEditor

open Checked

/-- What is deleted of a text with its last word: the word behind the last space that is not one of the
blanks at the end, and these. -/
theorem withoutLastWord_cases (cs : List Char) : ∃ word blanks,
    Text.trimEnd cs = withoutLastWord cs ++ word ∧ cs = withoutLastWord cs ++ (word ++ blanks) ∧
      ' ' ∉ word ∧ (withoutLastWord cs = [] ∨ ∃ front, withoutLastWord cs = front ++ [' ']) := by
  let isWord (c : Char) : Bool := c ≠ ' '
  have htrim : Text.trimEnd cs ++ (cs.reverse.takeWhile Text.isBlank).reverse = cs := by
    rw [Text.trimEnd, ← List.reverse_append, List.takeWhile_append_dropWhile, List.reverse_reverse]
  have hsplit : Text.trimEnd cs =
      withoutLastWord cs ++ ((Text.trimEnd cs).reverse.takeWhile isWord).reverse := by
    rw [withoutLastWord, ← List.reverse_append, List.takeWhile_append_dropWhile, List.reverse_reverse]
  refine ⟨_, (cs.reverse.takeWhile Text.isBlank).reverse, hsplit, ?_, ?_, ?_⟩
  · rw [← List.append_assoc, ← hsplit]
    exact htrim.symm
  · intro hspace
    have hword := List.all_eq_true.1 List.all_takeWhile ' ' (List.mem_reverse.1 hspace)
    exact absurd hword (by decide)
  · rw [withoutLastWord]
    cases hrest : (Text.trimEnd cs).reverse.dropWhile (· ≠ ' ') with
    | nil => exact .inl rfl
    | cons c rest =>
      have hhead := List.head?_dropWhile_not (fun c : Char => decide (c ≠ ' ')) (Text.trimEnd cs).reverse
      rw [hrest] at hhead
      have hc : c = ' ' := by simpa using hhead
      exact .inr ⟨rest.reverse, by rw [hc, List.reverse_cons]⟩

/-- The offset at which the word starts that is deleted at the end of a text. -/
def wordStart (cs : List Char) : Except Crash Nat :=
  match lastSpace? (Text.trimEnd cs) with
  | some n => plus n 1
  | none => .ok 0

/-- A key with Control, in steps that can fail. -/
def controlChecked (e : LineEditor) : Char → Except Crash (LineEditor × EditResult)
  | 'a' => .ok ({ e with cursor := 0 }, .consumed)
  | 'e' => .ok ({ e with cursor := e.text.length }, .consumed)
  | 'u' => do
    let text ← without e.text 0 (offsetOf e.text e.cursor)
    .ok (⟨text, 0⟩, .consumed)
  | 'w' => do
    let finish := offsetOf e.text e.cursor
    let front ← slice e.text 0 finish
    let start ← wordStart front
    let word ← slice e.text start finish
    let cursor ← minus e.cursor word.length
    let text ← without e.text start finish
    .ok (⟨text, cursor⟩, .consumed)
  | _ => .ok (e, .notHandled)

/-- Takes in a key, in steps that can fail. -/
def pressChecked (e : LineEditor) (k : Key) : Except Crash (LineEditor × EditResult) :=
  match k.code with
  | .escape => .ok (e, .cancelled)
  | .enter => .ok (e, .submitted e.text)
  | .backspace =>
    if 0 < e.cursor then do
      let cursor ← minus e.cursor 1
      let text ← remove e.text (offsetOf e.text cursor)
      .ok (⟨text, cursor⟩, .consumed)
    else .ok (e, .consumed)
  | .delete =>
    if e.cursor < e.text.length then do
      let text ← remove e.text (offsetOf e.text e.cursor)
      .ok ({ e with text := text }, .consumed)
    else .ok (e, .consumed)
  | .left => .ok ({ e with cursor := e.cursor - 1 }, .consumed)
  | .right => do
    let cursor ← plus e.cursor 1
    .ok ({ e with cursor := min cursor e.text.length }, .consumed)
  | .home => .ok ({ e with cursor := 0 }, .consumed)
  | .finish => .ok ({ e with cursor := e.text.length }, .consumed)
  | .char c =>
    if k.control then e.controlChecked c
    else do
      let text ← insert e.text (offsetOf e.text e.cursor) c
      let cursor ← plus e.cursor 1
      .ok (⟨text, cursor⟩, .consumed)
  | _ => .ok (e, .notHandled)

variable {n : Nat} {e : LineEditor}

theorem offsetOf_cursor (e : LineEditor) : offsetOf e.text e.cursor = size e.before := offsetOf_eq _ _

/-- The word that is deleted starts behind what is kept, unless the text takes more bytes than 64 bits
count. -/
theorem wordStart_cases (cs : List Char) : wordStart cs = .ok (size (withoutLastWord cs)) ∨
    wordStart cs = .error .count ∧ wordSize ≤ size cs := by
  obtain ⟨word, blanks, htrim, hcs, hspace, hkept⟩ := withoutLastWord_cases cs
  generalize withoutLastWord cs = kept at *
  rw [wordStart, htrim]
  rcases hkept with rfl | ⟨front, rfl⟩
  · rw [List.nil_append, lastSpace?_eq_none hspace]
    exact .inl rfl
  · have hsize : size (front ++ [' ']) = size front + 1 := size_append front [' ']
    rw [List.append_assoc, List.singleton_append, lastSpace?_append hspace, hsize]
    by_cases hroom : size front + 1 < wordSize
    · exact .inl (plus_eq hroom)
    · refine .inr ⟨if_neg hroom, ?_⟩
      rw [hcs, size_append, hsize]
      omega

/-- The word in front of the cursor is deleted if the offset at which it starts can be counted. -/
theorem controlChecked_word (inside : e.cursor ≤ e.text.length) :
    e.controlChecked 'w' =
      (wordStart e.before).map fun _ => (e.replaceBefore (withoutLastWord e.before), .consumed) := by
  have hlength := e.length_before inside
  have hstart := wordStart_cases e.before
  obtain ⟨word, blanks, -, hbefore, -, -⟩ := withoutLastWord_cases e.before
  generalize withoutLastWord e.before = kept at *
  have htext : e.text = kept ++ (word ++ blanks) ++ e.after := by
    rw [← hbefore, before_append_after]
  have hfront : slice e.text 0 (size e.before) = .ok e.before := by
    have hslice := slice_append [] e.before e.after
    rwa [List.nil_append, before_append_after] at hslice
  have hword : slice e.text (size kept) (size e.before) = .ok (word ++ blanks) := by
    have hslice := slice_append kept (word ++ blanks) e.after
    rwa [← htext, ← hbefore] at hslice
  have hwithout : without e.text (size kept) (size e.before) = .ok (kept ++ e.after) := by
    have hcut := without_append kept (word ++ blanks) e.after
    rwa [← htext, ← hbefore] at hcut
  have hparts : kept.length + (word ++ blanks).length = e.cursor := by
    rw [← List.length_append, ← hbefore, hlength]
  have hcursor : minus e.cursor (word ++ blanks).length = .ok kept.length := by
    rw [minus_eq (by omega)]
    exact congrArg Except.ok (by omega)
  simp only [controlChecked, offsetOf_cursor, hfront, ok_bind]
  rcases hstart with hstart | ⟨hstart, -⟩
  · rw [hstart, ok_bind, hword, ok_bind, hcursor, ok_bind, hwithout]
    rfl
  · rw [hstart]
    rfl

/-- What a key makes the editor count, apart from differences. -/
def counted (e : LineEditor) (k : Key) : Except Crash Nat :=
  match k.code with
  | .right => plus e.cursor 1
  | .char c =>
    if k.control then if c = 'w' then wordStart e.before else .ok 0
    else plus e.cursor 1
  | _ => .ok 0

/-- What a key makes the editor count fits unless the text takes as many bytes as 64 bits can count. -/
theorem exists_counted (inside : e.cursor ≤ e.text.length) (k : Key) :
    (∃ m, e.counted k = .ok m) ∨
      e.counted k = .error .count ∧ wordSize ≤ 4 * e.text.length + 4 := by
  have hplus : (∃ m, plus e.cursor 1 = .ok m) ∨
      plus e.cursor 1 = .error .count ∧ wordSize ≤ 4 * e.text.length + 4 := by
    by_cases hroom : e.cursor + 1 < wordSize
    · exact .inl ⟨_, plus_eq hroom⟩
    · exact .inr ⟨if_neg hroom, by omega⟩
  unfold counted
  split
  · exact hplus
  · split
    · split
      · have hsize := size_le e.before
        have hlength := e.length_before inside
        rcases wordStart_cases e.before with hok | ⟨herror, hlong⟩
        · exact .inl ⟨_, hok⟩
        · exact .inr ⟨herror, by omega⟩
      · exact .inl ⟨0, rfl⟩
    · exact hplus
  · exact .inl ⟨0, rfl⟩

/-- A key with Control, in steps that can fail, does what it does if what it counts fits. -/
theorem controlChecked_eq (inside : e.cursor ≤ e.text.length) (c : Char) :
    e.controlChecked c = (if c = 'w' then wordStart e.before else .ok 0).map fun _ =>
      (e.control? c).elim (e, .notHandled) (·, .consumed) := by
  unfold control?
  split
  · rfl
  · rfl
  · have hwithout := without_append [] e.before e.after
    simp only [List.nil_append, before_append_after] at hwithout
    rw [controlChecked, offsetOf_cursor, ← size_nil, hwithout]
    rfl
  · exact controlChecked_word inside
  · next ha he hu hw =>
    rw [if_neg hw]
    unfold controlChecked
    split <;> first | contradiction | rfl

/-- A key, in steps that can fail, does what it does if what it counts fits: no text is cut in the wrong
place. -/
theorem pressChecked_eq_counted (inside : e.cursor ≤ e.text.length) (k : Key) :
    e.pressChecked k = (e.counted k).map fun _ => e.press k := by
  unfold pressChecked counted press edit?
  cases k.code with
  | escape | enter | left | home | finish => rfl
  | backspace =>
    dsimp only
    split
    · next hpos =>
      have hlast : (e.text.take e.cursor).dropLast = e.text.take (e.cursor - 1) := by
        rw [List.dropLast_eq_take, List.length_take, List.take_take]
        congr 1
        omega
      rw [minus_eq hpos, ok_bind, remove_eq (by omega), ok_bind, replaceBefore, before, hlast,
        List.eraseIdx_eq_take_drop_succ, List.length_take, after]
      simp only [Except.map]
      congr 4
      · congr 1
        omega
      · omega
    · next hzero =>
      have hcursor : e.cursor = 0 := by omega
      obtain ⟨text, cursor⟩ := e
      obtain rfl : cursor = 0 := hcursor
      rfl
  | delete =>
    dsimp only
    split
    · next hlt =>
      rw [remove_eq hlt, ok_bind]
      rfl
    · next hend =>
      rw [List.eraseIdx_of_length_le (Nat.le_of_not_lt hend)]
      rfl
  | right =>
    dsimp only
    rcases plus_cases e.cursor 1 with hcount | hcount
    · rw [hcount]
      rfl
    · rw [hcount]
      rfl
  | char c =>
    dsimp only
    cases k.control with
    | true =>
      simp only [if_true, controlChecked_eq inside c]
      cases e.control? c <;> rfl
    | false =>
      have htyped : e.replaceBefore (e.before ++ [c]) =
          ⟨e.text.take e.cursor ++ c :: e.text.drop e.cursor, e.cursor + 1⟩ := by
        simp only [replaceBefore, before, after, List.append_assoc, List.singleton_append,
          List.length_append, List.length_take, List.length_singleton, Nat.min_eq_left inside]
      simp only [Bool.false_eq_true, if_false, insert_eq, ok_bind, htyped]
      rcases plus_cases e.cursor 1 with hcount | hcount
      · rw [hcount]
        rfl
      · rw [hcount]
        rfl
  | _ => rfl

/-- No key stops the editor while its cursor stands inside a text that is not too long. -/
theorem pressChecked_eq (h : e.Holds n) (room : 4 * n + 4 < wordSize) (k : Key) :
    e.pressChecked k = .ok (e.press k) := by
  have hshort := h.short
  rw [pressChecked_eq_counted h.inside]
  rcases exists_counted h.inside k with ⟨m, hm⟩ | ⟨-, hlong⟩
  · rw [hm]
    rfl
  · omega

end LineEditor

/-! ## Filters -/

/-- A filter takes in a key, in steps that can fail. -/
def Filter.pressChecked (f : Filter) (k : Key) : Except Crash (Filter × FilterResult) :=
  if f.isOpen then do
    match ← f.editor.pressChecked k with
    | (e, .consumed) => .ok (⟨e, true⟩, .changed)
    | (e, .submitted _) => .ok (⟨e, false⟩, .submitted)
    | (_, .cancelled) => .ok (.empty, .changed)
    | (e, .notHandled) => .ok (⟨e, true⟩, .handled)
  else if k.isCharacter '/' then .ok (⟨.empty, true⟩, .handled)
  else .ok (f, .notHandled)

/-- No key stops a filter. -/
theorem Filter.pressChecked_eq {n : Nat} {f : Filter} (h : f.editor.Holds n)
    (room : 4 * n + 4 < Checked.wordSize) (k : Key) : f.pressChecked k = .ok (f.press k) := by
  unfold pressChecked press
  rw [LineEditor.pressChecked_eq h room, Checked.ok_bind]
  generalize f.editor.press k = pressed
  obtain ⟨e, result⟩ := pressed
  split
  · cases result <;> rfl
  · split <;> rfl

/-! ## The palette -/

namespace Palette

open Checked

/-- Selects another suggestion, if there are any, in steps that can fail. -/
def moveChecked (p : Palette) (ahead : Nat → Nat → Except Crash Nat) : Except Crash Palette :=
  let count := p.suggestions.length
  if 0 < count then do
    let place ← ahead p.selected count
    let selected ← remainder place count
    .ok { p with selected := selected }
  else .ok p

/-- The place behind the selected suggestion. -/
def behind (selected _count : Nat) : Except Crash Nat := plus selected 1

/-- The place in front of the selected suggestion, once round. -/
def inFront (selected count : Nat) : Except Crash Nat := do
  let far ← plus selected count
  minus far 1

/-- The open palette takes in a key, in steps that can fail. -/
def pressOpenChecked (p : Palette) (k : Key) : Except Crash (Palette × PaletteResult) :=
  match k.code with
  | .escape => .ok (p.reset false, .cancelled)
  | .enter => .ok (p.reset false, .submitted p.choice)
  | .tab | .down => do
    let p ← p.moveChecked behind
    .ok (p, .handled)
  | .backTab | .up => do
    let p ← p.moveChecked inFront
    .ok (p, .handled)
  | _ => do
    match ← p.editor.pressChecked k with
    | (e, .consumed) => .ok ({ p with editor := e, selected := 0 }, .handled)
    | (e, _) => .ok ({ p with editor := e }, .handled)

/-- The palette takes in a key, in steps that can fail. -/
def pressChecked (p : Palette) (k : Key) : Except Crash (Palette × PaletteResult) :=
  if p.isOpen then p.pressOpenChecked k
  else if k.isCharacter ':' then .ok (p.reset true, .handled)
  else .ok (p, .notHandled)

variable {n : Nat} {p : Palette}

/-- A place that can be counted is selected. -/
theorem moveChecked_eq {ahead : Nat → Nat → Except Crash Nat} {step : Nat → Nat}
    (h : 0 < p.suggestions.length →
      ahead p.selected p.suggestions.length = .ok (p.selected + step p.suggestions.length)) :
    p.moveChecked ahead = .ok (p.move step) := by
  unfold moveChecked Palette.move
  dsimp only
  by_cases hcount : p.suggestions.length = 0
  · rw [if_neg (by omega), if_pos hcount]
  · rw [if_pos (by omega), if_neg hcount, h (by omega), ok_bind, remainder_eq hcount, ok_bind]

/-- No key stops the palette. -/
theorem pressChecked_eq (h : p.Holds n) (room : 4 * n + 4 < wordSize)
    (few : 2 * p.commands.length + 1 < wordSize) (k : Key) : p.pressChecked k = .ok (p.press k) := by
  have hselected := h.selected
  have hsuggestions := p.length_suggestions_le
  have hbehind : p.moveChecked behind = .ok (p.move fun _ => 1) := by
    apply moveChecked_eq
    intro _
    exact plus_eq (by omega)
  have hinFront : p.moveChecked inFront = .ok (p.move (· - 1)) := by
    apply moveChecked_eq
    intro hpos
    rw [inFront, plus_eq (by omega), ok_bind, minus_eq (by omega)]
    exact congrArg Except.ok (by omega)
  unfold pressChecked press
  split
  · unfold pressOpenChecked pressOpen
    generalize k.code = code
    cases code with
    | escape | enter => rfl
    | tab | down =>
      dsimp only
      rw [hbehind, ok_bind]
    | backTab | up =>
      dsimp only
      rw [hinFront, ok_bind]
    | _ =>
      dsimp only
      rw [LineEditor.pressChecked_eq h.editor room, ok_bind]
      generalize p.editor.press k = pressed
      obtain ⟨e, result⟩ := pressed
      cases result <;> rfl
  · split <;> rfl

end Palette

end Lookout
