import Mathlib.Data.List.TakeWhile

/-!
This module contains the parts of a file path that a name is recognised by.
-/

namespace Path

def filename (path : List Char) : List Char :=
  (path.reverse.takeWhile (· != '/')).reverse

def extension (path : List Char) : List Char :=
  let name := filename path
  let afterDot := (name.reverse.takeWhile (· != '.')).reverse
  -- A dot in front of the name does not begin an extension, nor do `.` and `..` have one.
  if name = ['.', '.'] || name.length ≤ afterDot.length + 1 then
    []
  else
    '.' :: afterDot

theorem takeWhile_ne_append {sep : Char} {text : List Char} (h : sep ∉ text) (rest : List Char)
    : (text ++ sep :: rest).takeWhile (· != sep) = text := by
  have hall : ∀ c ∈ text, (c != sep) = true := by
    intro c hc
    simp only [bne_iff_ne]
    rintro rfl
    contradiction
  rw [List.takeWhile_append_of_pos hall]
  simp

theorem suffix_takeWhile (p : Char → Bool) (text : List Char)
    : (text.reverse.takeWhile p).reverse <:+ text := by
  have hleading := List.takeWhile_prefix (l := text.reverse) p
  rw [← List.reverse_suffix, List.reverse_reverse] at hleading
  exact hleading

theorem getLast?_of_suffix {text last : List Char} (h : last <:+ text) (hempty : last ≠ [])
    : text.getLast? = last.getLast? := by
  rcases h with ⟨front, rfl⟩
  rw [List.getLast?_append, List.getLast?_eq_some_getLast hempty, Option.some_or]

theorem suffix_of_extension {path ext : List Char} (h : extension path = '.' :: ext)
    : ext <:+ path := by
  simp only [extension] at h
  split at h
  . cases h
  . cases h
    apply (suffix_takeWhile (· != '.') (filename path)).trans
    apply suffix_takeWhile (· != '/') path

end Path
