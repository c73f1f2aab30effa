import Lookout.Client.Basic
import Lookout.Proofs.Url.Reference

/-!
# Endpoints

The base address of a client is one of the web, and its path ends in a slash unless it is written with a
query or a fragment. A path is resolved against it as a reference, without the slashes at its start.

* **`parseBase_ok`** — what a base address is.
* **`parseBase_slash`** — when its path ends in a slash.
-/

namespace Lookout.Client

open Url

/-- The text that a base address is read from: the one that is written, with a slash at its end. -/
def slashEnded (raw : String) : List Char :=
  if raw.toList.getLast? = some '/' then raw.toList else raw.toList ++ ['/']

theorem exists_slashEnded (raw : String) : ∃ init, slashEnded raw = init ++ ['/'] ∧
    (raw.toList = init ∨ raw.toList = init ++ ['/']) := by
  unfold slashEnded
  split
  · next hlast =>
    obtain ⟨init, hinit⟩ := List.getLast?_eq_some_iff.1 hlast
    exact ⟨init, hinit, .inr hinit⟩
  · exact ⟨raw.toList, rfl, .inl rfl⟩

/-- A base address is one of the web, and is read with a slash at its end. -/
theorem read_slashEnded {raw : String} {base : Url} (h : parseBase raw = .ok base) :
    base.isWeb = true ∧ Url.read none (slashEnded raw) = .ok base := by
  unfold parseBase at h
  dsimp only at h
  split at h
  · cases h
  · next u hparse =>
    split at h
    · next hweb =>
      obtain rfl := Except.ok.inj h
      refine ⟨hweb, ?_⟩
      unfold Url.parse at hparse
      unfold slashEnded
      split at hparse
      · next hlast => rw [if_pos hlast, hparse]
      · next hlast =>
        rw [String.toList_append] at hparse
        rw [if_neg hlast]
        exact hparse
    · cases h

theorem read_of_parseBase {raw : String} {base : Url} (h : parseBase raw = .ok base) :
    base.isWeb = true ∧ ∃ cs, cs ⊆ raw.toList ∧ Url.read none (cs ++ ['/']) = .ok base := by
  obtain ⟨web, hread⟩ := read_slashEnded h
  obtain ⟨init, hended, hraw⟩ := exists_slashEnded raw
  rw [hended] at hread
  refine ⟨web, init, ?_, hread⟩
  rcases hraw with hraw | hraw
  · exact hraw ▸ List.Subset.refl _
  · exact hraw ▸ List.subset_append_left _ _

/-- A base address is one of the web, with a path of segments. -/
theorem parseBase_ok {raw : String} {base : Url} (h : parseBase raw = .ok base) :
    base.isWeb = true ∧ ∃ parts, base.path = .segments parts := by
  obtain ⟨web, cs, -, hread⟩ := read_of_parseBase h
  exact ⟨web, segments_of_isWeb hread web⟩

/-- A base address that is written without a query and a fragment has a path that ends in a slash. -/
theorem parseBase_slash {raw : String} {base : Url} (h : parseBase raw = .ok base)
    (markless : Markless raw.toList) : ∃ front, base.path = .segments (front ++ [[]]) := by
  obtain ⟨web, cs, hcs, hread⟩ := read_of_parseBase h
  exact path_of_slash (fun c hc => markless c (hcs hc)) hread web

theorem trimLeadingSlashes_concat (init : List Char) {c : Char} (h : c ≠ '/') (rest : List Char) :
    trimLeadingSlashes (init ++ c :: rest) = trimLeadingSlashes init ++ c :: rest :=
  dropWhile_stop (p := (· == '/')) (by simpa using h) init rest

/-- A text that does not end in a slash ends as it did without the slashes at its start. -/
theorem getLast?_trimLeadingSlashes {cs : List Char} {c : Char} (last : cs.getLast? = some c) (h : c ≠ '/') :
    (trimLeadingSlashes cs).getLast? = some c := by
  obtain ⟨init, rfl⟩ := List.getLast?_eq_some_iff.1 last
  rw [trimLeadingSlashes_concat init h, List.getLast?_append_cons]
  rfl

/-- Slashes at the start of a path are passed over up to a character that is none. -/
theorem trimLeadingSlashes_append {head : List Char} {d : Char}
    (named : d = '/' → ∃ c, head.getLast? = some c ∧ c ≠ '/') (rest : List Char) :
    trimLeadingSlashes (head ++ d :: rest) = trimLeadingSlashes head ++ d :: rest := by
  by_cases hd : d = '/'
  · obtain ⟨c, hlast, hc⟩ := named hd
    obtain ⟨init, rfl⟩ := List.getLast?_eq_some_iff.1 hlast
    have hinit := trimLeadingSlashes_concat init hc
    rw [List.append_assoc, hinit [], List.append_assoc]
    exact hinit (d :: rest)
  · exact trimLeadingSlashes_concat head hd rest

theorem ok_of_endpointUnder {base u : Url} {path : List Char}
    (h : endpointUnder base (String.ofList path) = .ok u) :
    Url.read (some base) (trimLeadingSlashes path) = .ok u := by
  unfold endpointUnder at h
  rw [String.toList_ofList] at h
  split at h
  · next hread =>
    obtain rfl := Except.ok.inj h
    exact hread
  · cases h

theorem endpointUnder_of_ok {base u : Url} {path : List Char}
    (h : Url.read (some base) (trimLeadingSlashes path) = .ok u) :
    endpointUnder base (String.ofList path) = .ok u := by
  rw [endpointUnder, String.toList_ofList, h]

end Lookout.Client
