import LiveWorld.Lib.HashTable

/-!
# Maps in parts

A finite map that is the disjoint union of others. The parts are given by an index, so that an operation on one of
them is an update at that index.
-/

namespace HashTable
variable {K V W ι : Type}

/-- Each entry of `whole` is in exactly one of the `parts`. -/
structure Split (whole : K → Option V) (parts : ι → K → Option V) : Prop where
  covers : ∀ k v, whole k = some v ↔ ∃ i, parts i k = some v
  apart : ∀ k i j, (parts i k).isSome → (parts j k).isSome → i = j

namespace Split
variable {whole : K → Option V} {parts : ι → K → Option V}

theorem empty : Split (fun _ : K => (Option.none : Option V)) fun (_ : ι) _ => Option.none := by
  constructor
  · intro k v
    constructor
    · intro found
      cases found
    · rintro ⟨i, found⟩
      cases found
  · exact fun k i j here => absurd here Bool.false_ne_true

theorem isSome_iff (split : Split whole parts) (k : K) : (whole k).isSome ↔ ∃ i, (parts i k).isSome := by
  simp only [Option.isSome_iff_exists, split.covers]
  exact exists_comm

theorem none (split : Split whole parts) {k : K} (absent : whole k = none) (i : ι) : parts i k = none := by
  cases there : parts i k with
  | none => rfl
  | some v =>
      rw [(split.covers k v).mpr ⟨i, there⟩] at absent
      cases absent

theorem map (split : Split whole parts) (f : K → V → W) {whole' : K → Option W} {parts' : ι → K → Option W}
    (whole_eq : ∀ k, whole' k = (whole k).map (f k)) (parts_eq : ∀ i k, parts' i k = (parts i k).map (f k)) :
    Split whole' parts' := by
  constructor
  · intro k w
    simp only [whole_eq, parts_eq, Option.map_eq_some_iff, split.covers]
    constructor
    · rintro ⟨v, ⟨i, there⟩, same⟩
      exact ⟨i, v, there, same⟩
    · rintro ⟨i, v, there, same⟩
      exact ⟨v, ⟨i, there⟩, same⟩
  · intro k i j here there
    rw [parts_eq, Option.isSome_map] at here there
    exact split.apart k i j here there

theorem set [DecidableEq K] [DecidableEq ι] (split : Split whole parts) (i : ι) {k : K} {value : Option V}
    (others : ∀ j, j ≠ i → parts j k = Option.none) {whole' : K → Option V} {parts' : ι → K → Option V}
    (whole_eq : ∀ l, whole' l = if l = k then value else whole l)
    (parts_eq : ∀ j l, parts' j l = if j = i ∧ l = k then value else parts j l) : Split whole' parts' := by
  -- at the key itself only part `i` is left
  have here (j : ι) : parts' j k = if j = i then value else Option.none := by
    rw [parts_eq]
    by_cases same : j = i
    · rw [if_pos ⟨same, rfl⟩, if_pos same]
    · rw [if_neg fun both => same both.1, if_neg same, others j same]
  have away (j : ι) {l : K} (other : l ≠ k) : parts' j l = parts j l := by
    rw [parts_eq, if_neg fun both => other both.2]
  constructor
  · intro l v
    by_cases same : l = k
    · subst same
      simp only [whole_eq, if_pos, here]
      constructor
      · exact fun there => ⟨i, by rw [if_pos rfl]; exact there⟩
      · rintro ⟨j, there⟩
        split_ifs at there
        exact there
    · simp only [whole_eq, if_neg same, away _ same]
      exact split.covers l v
  · intro l j j' first second
    by_cases same : l = k
    · subst same
      rw [here] at first second
      split_ifs at first second with one two
      · exact one.trans two.symm
      · cases second
      · cases first
      · cases first
    · rw [away j same] at first
      rw [away j' same] at second
      exact split.apart l j j' first second

/-! ## Walking over the parts -/

theorem nodup_pairs (m : HashMap K V) (f : V → W) : (m.entries.map fun entry => (entry.1, f entry.2)).Nodup := by
  refine List.Nodup.of_map Prod.fst ?_
  rw [List.map_map]
  exact m.nodupKeys

section Walk
variable [DecidableEq K] {n : Nat} {m : HashMap K V} {part : Fin n → HashMap K V}

theorem mem_pairs {f : V → W} {k : K} {w : W} :
    (k, w) ∈ (m.entries.map fun entry => (entry.1, f entry.2)) ↔ (m.lookup k).map f = some w := by
  rw [List.mem_map, Option.map_eq_some_iff]
  constructor
  · rintro ⟨⟨key, v⟩, member, same⟩
    cases same
    exact ⟨v, HashMap.mem_entries_iff.mp member, rfl⟩
  · rintro ⟨v, found, rfl⟩
    exact ⟨⟨k, v⟩, HashMap.mem_entries_iff.mpr found, rfl⟩

theorem perm {f : V → W} {g : Fin n → V → W}
    (split : Split (fun k => (m.lookup k).map f) fun i k => ((part i).lookup k).map (g i)) :
    (m.entries.map fun entry => f entry.2).Perm
      ((List.finRange n).flatMap fun i => (part i).entries.map fun entry => g i entry.2) := by
  have pairs : (m.entries.map fun entry => (entry.1, f entry.2)).Perm
      ((List.finRange n).flatMap fun i => (part i).entries.map fun entry => (entry.1, g i entry.2)) := by
    refine (List.perm_ext_iff_of_nodup (nodup_pairs m f) ?_).mpr ?_
    · refine List.nodup_flatMap.mpr ⟨fun i _ => nodup_pairs (part i) (g i), ?_⟩
      refine (List.nodup_finRange n).imp ?_
      intro i j different
      rintro ⟨k, w⟩ first second
      refine different (split.apart k i j ?_ ?_)
      · exact Option.isSome_iff_exists.mpr ⟨w, mem_pairs.mp first⟩
      · exact Option.isSome_iff_exists.mpr ⟨w, mem_pairs.mp second⟩
    · rintro ⟨k, w⟩
      rw [mem_pairs, split.covers, List.mem_flatMap]
      simp only [List.mem_finRange, true_and, mem_pairs]
  have values := pairs.map Prod.snd
  rw [List.map_map, List.map_flatMap] at values
  simp only [List.map_map] at values
  exact values

theorem size_eq {f : V → W} {g : Fin n → V → W}
    (split : Split (fun k => (m.lookup k).map f) fun i k => ((part i).lookup k).map (g i)) :
    HashMap.size m = ((List.finRange n).map fun i => HashMap.size (part i)).sum := by
  have lengths := split.perm.length_eq
  simpa [List.length_flatMap, HashMap.size] using lengths

end Walk

end Split

end HashTable
