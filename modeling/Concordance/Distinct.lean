import Std.Data.TreeSet

/-!
# Lists without repetitions

`distinct` keeps each element of a list where it stands first. Nothing is added, nothing is lost
and nothing remains twice.
-/
namespace Concordance

variable {α : Type} [Ord α]

/-- Goes on through a list. `kept` holds the elements met before, last first, and `seen` holds the
same elements. -/
def distinctFrom (seen : Std.TreeSet α) (kept : List α) : List α → List α
  | [] => kept.reverse
  | element :: rest =>
    if seen.contains element then distinctFrom seen kept rest
    else distinctFrom (seen.insert element) (element :: kept) rest

/-- The elements of a list, each where it stands first. -/
def distinct (list : List α) : List α :=
  distinctFrom ∅ [] list

variable [Std.TransOrd α] [Std.LawfulEqOrd α]

theorem mem_insert_iff_mem_cons {seen : Std.TreeSet α} {kept : List α}
    (same : ∀ other, other ∈ seen ↔ other ∈ kept) (first other : α) :
    other ∈ seen.insert first ↔ other ∈ first :: kept := by
  rw [Std.TreeSet.mem_insert, List.mem_cons, same other, Std.LawfulEqOrd.compare_eq_iff_eq]
  exact or_congr_left ⟨Eq.symm, Eq.symm⟩

theorem mem_distinctFrom {seen : Std.TreeSet α} {kept list : List α} {element : α}
    (same : ∀ other, other ∈ seen ↔ other ∈ kept) :
    element ∈ distinctFrom seen kept list ↔ element ∈ kept ∨ element ∈ list := by
  induction list generalizing seen kept with
  | nil => simp [distinctFrom]
  | cons first rest ih =>
    simp only [distinctFrom]
    split
    · next repeated =>
      have before : first ∈ kept := (same first).mp (Std.TreeSet.mem_iff_contains.mpr repeated)
      rw [ih same, List.mem_cons]
      constructor
      · rintro (old | new)
        · exact .inl old
        · exact .inr (.inr new)
      · rintro (old | rfl | new)
        · exact .inl old
        · exact .inl before
        · exact .inr new
    · next fresh =>
      rw [ih (mem_insert_iff_mem_cons same first), List.mem_cons, List.mem_cons]
      constructor
      · rintro ((rfl | old) | new)
        · exact .inr (.inl rfl)
        · exact .inl old
        · exact .inr (.inr new)
      · rintro (old | rfl | new)
        · exact .inl (.inr old)
        · exact .inl (.inl rfl)
        · exact .inr new

@[simp]
theorem mem_distinct {list : List α} {element : α} : element ∈ distinct list ↔ element ∈ list := by
  rw [distinct, mem_distinctFrom (by simp)]
  simp

theorem nodup_distinctFrom {seen : Std.TreeSet α} {kept list : List α}
    (same : ∀ other, other ∈ seen ↔ other ∈ kept) (nodup : kept.Nodup) :
    (distinctFrom seen kept list).Nodup := by
  induction list generalizing seen kept with
  | nil =>
    simp only [distinctFrom]
    exact List.pairwise_reverse.mpr (nodup.imp Ne.symm)
  | cons first rest ih =>
    simp only [distinctFrom]
    split
    · exact ih same nodup
    · next fresh =>
      have absent : first ∉ kept := fun member =>
        fresh (Std.TreeSet.mem_iff_contains.mp ((same first).mpr member))
      exact ih (mem_insert_iff_mem_cons same first) (List.nodup_cons.mpr ⟨absent, nodup⟩)

theorem nodup_distinct (list : List α) : (distinct list).Nodup :=
  nodup_distinctFrom (by simp) List.nodup_nil

end Concordance
