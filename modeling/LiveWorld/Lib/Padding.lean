import Mathlib.Data.List.Basic
import Mathlib.Data.List.TakeWhile

/-!
# Padding

`strip` takes the items at both ends of a list that `p` holds of, and leaves a list that has none of them at its ends.
-/

namespace Padding
variable {α : Type} {p : α → Bool} {front middle back text : List α}

def strip (p : α → Bool) (text : List α) : List α := ((text.dropWhile p).reverse.dropWhile p).reverse

def Blank (p : α → Bool) (text : List α) : Prop := ∀ c ∈ text, p c = true

structure Tight (p : α → Bool) (text : List α) : Prop where
  first : ∀ c ∈ text.head?, p c = false
  last : ∀ c ∈ text.getLast?, p c = false

theorem Blank.append (one : Blank p front) (other : Blank p back) : Blank p (front ++ back) :=
  List.forall_mem_append.mpr ⟨one, other⟩

theorem Tight.of_forall (solid : ∀ c ∈ text, p c = false) : Tight p text :=
  ⟨fun c given => solid c (List.mem_of_mem_head? given), fun c given => solid c (List.mem_of_mem_getLast? given)⟩

theorem Tight.of_ends (first : ∀ c ∈ front.head?, p c = false) (nonempty : front ≠ [])
    (last : ∀ c ∈ back.getLast?, p c = false) (nonempty' : back ≠ []) : Tight p (front ++ middle ++ back) := by
  constructor
  · intro c given
    rw [List.append_assoc, List.head?_append_of_ne_nil _ nonempty] at given
    exact first c given
  · intro c given
    rw [List.getLast?_append_of_ne_nil _ nonempty'] at given
    exact last c given

theorem dropWhile_blank (blank : Blank p front) (solid : ∀ c ∈ text.head?, p c = false) :
    (front ++ text).dropWhile p = text := by
  rw [List.dropWhile_append_of_pos blank]
  cases text with
  | nil => rfl
  | cons c rest => rw [List.dropWhile_cons_of_neg (Bool.not_eq_true _ ▸ solid c rfl)]

theorem strip_padded (blank : Blank p front) (tight : Tight p middle) (blank' : Blank p back) :
    strip p (front ++ middle ++ back) = middle := by
  by_cases empty : middle = []
  · subst empty
    have all : (front ++ [] ++ back).dropWhile p = [] := by
      rw [List.append_nil, List.dropWhile_eq_nil_iff]
      exact blank.append blank'
    rw [strip, all]
    rfl
  · have first : ∀ c ∈ (middle ++ back).head?, p c = false := by
      rw [List.head?_append_of_ne_nil _ empty]
      exact tight.first
    have last : ∀ c ∈ middle.reverse.head?, p c = false := by
      rw [List.head?_reverse]
      exact tight.last
    have blankBack : Blank p back.reverse := fun c member => blank' c (List.mem_reverse.mp member)
    rw [strip, List.append_assoc, dropWhile_blank blank first, List.reverse_append, dropWhile_blank blankBack last,
      List.reverse_reverse]

theorem blank_takeWhile (p : α → Bool) (text : List α) : Blank p (text.takeWhile p) := fun _ => List.mem_takeWhile_imp

theorem solid_dropWhile (p : α → Bool) (text : List α) : ∀ c ∈ (text.dropWhile p).head?, p c = false := by
  intro c given
  have shown := List.head?_dropWhile_not p text
  rw [Option.mem_def.mp given] at shown
  exact shown

theorem exists_padding (p : α → Bool) (text : List α) :
    ∃ front back, text = front ++ strip p text ++ back ∧ Blank p front ∧ Blank p back ∧ Tight p (strip p text) := by
  have cut : text.dropWhile p = strip p text ++ ((text.dropWhile p).reverse.takeWhile p).reverse := by
    rw [strip, ← List.reverse_append, List.takeWhile_append_dropWhile, List.reverse_reverse]
  refine ⟨text.takeWhile p, ((text.dropWhile p).reverse.takeWhile p).reverse, ?_, blank_takeWhile p text, ?_, ?_, ?_⟩
  · rw [List.append_assoc, ← cut, List.takeWhile_append_dropWhile]
  · exact fun c member => blank_takeWhile p _ c (List.mem_reverse.mp member)
  · intro c given
    apply solid_dropWhile p text c
    rw [cut, List.head?_append, Option.mem_def.mp given]
    rfl
  · rw [strip, List.getLast?_reverse]
    exact solid_dropWhile p _

theorem exists_strip_cons {c : α} (solid : p c = false) (rest : List α) : ∃ more, strip p (c :: rest) = c :: more := by
  obtain ⟨front, back, padded, blank, blank', -⟩ := exists_padding p (c :: rest)
  cases front with
  | cons other more =>
      obtain ⟨rfl, -⟩ := List.cons.inj padded
      exact absurd (blank c List.mem_cons_self) (Bool.eq_false_iff.mp solid)
  | nil =>
      cases stripped : strip p (c :: rest) with
      | nil =>
          rw [stripped, List.nil_append, List.nil_append] at padded
          exact absurd (blank' c (padded ▸ List.mem_cons_self)) (Bool.eq_false_iff.mp solid)
      | cons other more =>
          rw [stripped] at padded
          obtain ⟨rfl, -⟩ := List.cons.inj padded
          exact ⟨more, rfl⟩

end Padding
