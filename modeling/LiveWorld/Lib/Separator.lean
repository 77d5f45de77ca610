import Mathlib.Data.List.Basic

/-!
# Texts with separators

`breakOn` cuts a text at the first place where the separator occurs.
-/

namespace Separator
variable {α : Type} [DecidableEq α]

def breakOn (separator : List α) : List α → Option (List α × List α)
  | [] => none
  | c :: rest =>
      if separator.isPrefixOf (c :: rest) then some ([], (c :: rest).drop separator.length)
      else (breakOn separator rest).map fun parts => (c :: parts.1, parts.2)

/-- The second of the parts that the text falls into. -/
def secondPart (separator text : List α) : Option (List α) :=
  (breakOn separator text).map fun parts => ((breakOn separator parts.2).map Prod.fst).getD parts.2

variable {separator front rest text : List α}

omit [DecidableEq α] in
/-- An item that does not occur in the front does not begin there. -/
theorem infix_of_append {x : α} {more : List α} (absent : x ∉ front) (found : x :: more <:+: front ++ rest) :
    x :: more <:+: rest := by
  induction front with
  | nil => exact found
  | cons c front ih =>
      rw [List.mem_cons, not_or] at absent
      rcases List.infix_cons_iff.mp found with here | later
      · rw [List.cons_prefix_cons] at here
        exact absurd here.1 absent.1
      · exact ih absent.2 later

theorem breakOn_eq_none (absent : ¬separator <:+: text) : breakOn separator text = none := by
  induction text with
  | nil => rfl
  | cons c rest ih =>
      have notHere : ¬separator.isPrefixOf (c :: rest) := by
        rw [List.isPrefixOf_iff_prefix]
        exact fun here => absent here.isInfix
      have notLater : ¬separator <:+: rest := fun later => absent (later.trans (List.suffix_cons c rest).isInfix)
      rw [breakOn, if_neg notHere, ih notLater]
      rfl

/-- The separator occurs first where it was put, if it does not overlap itself there. -/
theorem breakOn_append (nonempty : separator ≠ []) (absent : ¬separator <:+: front ++ separator.dropLast) :
    breakOn separator (front ++ separator ++ rest) = some (front, rest) := by
  induction front with
  | nil =>
      cases separator with
      | nil => exact absurd rfl nonempty
      | cons x more =>
          have here : (x :: more).isPrefixOf (x :: (more ++ rest)) := by
            rw [List.isPrefixOf_iff_prefix]
            exact ⟨rest, rfl⟩
          change breakOn (x :: more) (x :: (more ++ rest)) = _
          rw [breakOn, if_pos here, ← List.cons_append, List.drop_left]
  | cons c front ih =>
      have notHere : ¬separator.isPrefixOf (c :: (front ++ separator ++ rest)) := by
        rw [List.isPrefixOf_iff_prefix]
        intro here
        apply absent
        -- the occurrence ends before the last item of the separator that was put there
        have fits : separator.length ≤ (c :: front ++ separator.dropLast).length := by
          rw [List.length_append, List.length_dropLast, List.length_cons]
          omega
        have whole : c :: front ++ separator.dropLast <+: c :: (front ++ separator ++ rest) := by
          refine (List.prefix_append_right_inj (c :: front)).mpr (List.dropLast_prefix separator) |>.trans ?_
          exact ⟨rest, by simp⟩
        exact (List.prefix_of_prefix_length_le here whole fits).isInfix
      have notLater : ¬separator <:+: front ++ separator.dropLast :=
        fun later => absent (later.trans (List.suffix_cons c _).isInfix)
      change breakOn separator (c :: (front ++ separator ++ rest)) = _
      rw [breakOn, if_neg notHere, ih notLater]
      rfl

theorem secondPart_append (nonempty : separator ≠ []) (absent : ¬separator <:+: front ++ separator.dropLast)
    (last : ¬separator <:+: rest) : secondPart separator (front ++ separator ++ rest) = some rest := by
  rw [secondPart, breakOn_append nonempty absent, Option.map_some, breakOn_eq_none last]
  rfl

end Separator
