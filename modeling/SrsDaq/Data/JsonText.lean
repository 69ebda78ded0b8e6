import Mathlib.Data.List.Basic

/-!
This module contains what it means for a text to be the json array of given values, each of which
is itself a text. Whitespace may stand wherever the json grammar allows it.
-/

namespace JsonText

def isWhitespace (c : Char) : Bool :=
  c = ' ' || c = '\t' || c = '\n' || c = '\r'

def IsBlank (text : List Char) : Prop :=
  ∀ c, c ∈ text → isWhitespace c

inductive IsElements : List (List Char) → List Char → Prop where
  | nil {blank : List Char} (hblank : IsBlank blank) : IsElements [] blank
  | single {before after value : List Char} (hbefore : IsBlank before) (hafter : IsBlank after)
    : IsElements [value] (before ++ value ++ after)
  | cons {before after value next rest : List Char} {values : List (List Char)}
    (hbefore : IsBlank before) (hafter : IsBlank after) (htail : IsElements (next :: values) rest)
    : IsElements (value :: next :: values) (before ++ value ++ after ++ ',' :: rest)

def IsArrayOf (values : List (List Char)) (text : List Char) : Prop :=
  ∃ before elements after, IsBlank before ∧ IsBlank after ∧ IsElements values elements
    ∧ text = before ++ '[' :: elements ++ ']' :: after

theorem isBlank_nil : IsBlank [] := by
  simp [IsBlank]

theorem IsElements.concat {values : List (List Char)} {text : List Char} (h : IsElements values text)
    (hvalues : values ≠ []) (value : List Char)
    : IsElements (values ++ [value]) (text ++ ',' :: value) := by
  have hlast : IsElements [value] value := by
    simpa using @IsElements.single [] [] value isBlank_nil isBlank_nil
  induction h with
  | nil => contradiction
  | single hbefore hafter => exact .cons hbefore hafter hlast
  | cons hbefore hafter _ ih =>
    rw [List.append_assoc, List.cons_append]
    exact .cons hbefore hafter (ih (by simp))

theorem IsBlank.cons {c : Char} (hc : isWhitespace c) {text : List Char} (h : IsBlank text)
    : IsBlank (c :: text) := by
  simpa [IsBlank, hc] using h

theorem IsElements.cons_blank {values : List (List Char)} {text : List Char}
    (h : IsElements values text) {c : Char} (hc : isWhitespace c)
    : IsElements values (c :: text) := by
  cases h with
  | nil hblank => exact .nil (hblank.cons hc)
  | single hbefore hafter => exact .single (hbefore.cons hc) hafter
  | cons hbefore hafter htail => exact .cons (hbefore.cons hc) hafter htail

def solid (text : List Char) : List Char :=
  text.filter fun c => not (isWhitespace c)

@[simp]
theorem solid_append (text₁ text₂ : List Char) : solid (text₁ ++ text₂) = solid text₁ ++ solid text₂ := by
  apply List.filter_append ..

theorem solid_cons_of_not_isWhitespace {c : Char} (h : isWhitespace c = false) (text : List Char)
    : solid (c :: text) = c :: solid text := by
  simp [solid, h]

theorem IsBlank.solid_eq_nil {text : List Char} (h : IsBlank text) : solid text = [] := by
  simpa [solid, IsBlank] using h

theorem IsElements.solid_eq {values : List (List Char)} {text : List Char}
    (h : IsElements values text)
    : solid text = [','].intercalate (values.map solid) := by
  induction h with
  | nil hblank => simp [hblank.solid_eq_nil]
  | single hbefore hafter => simp [hbefore.solid_eq_nil, hafter.solid_eq_nil]
  | cons hbefore hafter _ ih =>
    simp only [solid_append, hbefore.solid_eq_nil, hafter.solid_eq_nil,
      solid_cons_of_not_isWhitespace (show isWhitespace ',' = false by decide), ih, List.map_cons,
      List.intercalate_cons_cons]
    simp

theorem IsArrayOf.solid_eq {values : List (List Char)} {text : List Char} (h : IsArrayOf values text)
    : solid text = '[' :: [','].intercalate (values.map solid) ++ [']'] := by
  rcases h with ⟨before, elements, after, hbefore, hafter, helements, rfl⟩
  simp only [List.cons_append, solid_append, hbefore.solid_eq_nil, helements.solid_eq,
    solid_cons_of_not_isWhitespace (show isWhitespace '[' = false by decide),
    solid_cons_of_not_isWhitespace (show isWhitespace ']' = false by decide),
    hafter.solid_eq_nil, List.nil_append]

theorem IsArrayOf.length_intercalate_eq {values values' : List (List Char)} {text : List Char}
    (h : IsArrayOf values text) (h' : IsArrayOf values' text)
    : ([','].intercalate (values.map solid)).length
        =
      ([','].intercalate (values'.map solid)).length := by
  have heq := congrArg List.length (h.solid_eq.symm.trans h'.solid_eq)
  simp only [List.cons_append, List.length_cons, List.length_append, List.length_nil] at heq
  omega

theorem IsArrayOf.not_of_cons {value : List Char} {values : List (List Char)} {text : List Char}
    (hvalues : values ≠ []) (h : IsArrayOf (value :: values) text)
    : ¬ IsArrayOf values text := by
  intro h'
  have heq := h.length_intercalate_eq h'
  have hmap : values.map solid ≠ [] := by simpa using hvalues
  rw [List.map_cons, List.intercalate_cons_of_ne_nil hmap] at heq
  simp only [List.length_append, List.length_cons] at heq
  omega

end JsonText
