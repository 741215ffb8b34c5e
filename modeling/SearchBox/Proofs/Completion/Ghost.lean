import SearchBox.Completion.Ghost
import SearchBox.Proofs.Text.Collapsed

namespace SearchBox.Completion

variable {c : Completion} {literal : String}

theorem ghost_eq_ofList {rest : List Char}
    (h : (Text.normalize c.plain).toList = (Text.normalize literal).toList ++ rest) :
    c.ghost literal = String.ofList rest := by
  simp only [ghost, h]
  rw [if_pos (List.isPrefixOf_iff_prefix.2 (List.prefix_append _ _)), List.drop_left]

theorem ghost_of_not_isPrefix
    (h : ¬ (Text.normalize literal).toList <+: (Text.normalize c.plain).toList) :
    c.ghost literal = "" := by
  rw [ghost, if_neg (mt List.isPrefixOf_iff_prefix.1 h)]

theorem ghost_of_normalize_eq (h : Text.normalize literal = Text.normalize c.plain) :
    c.ghost literal = "" := by
  have happend : (Text.normalize c.plain).toList = (Text.normalize literal).toList ++ [] := by
    rw [h, List.append_nil]
  exact ghost_eq_ofList happend

/-- Normalizing twice is normalizing once, and a literal that a completion continues becomes that
completion, up to what normalizing ignores, when its ghost is typed. -/
theorem ghost_completes :
    (∀ s, Text.normalize (Text.normalize s) = Text.normalize s) ∧
    ∀ (c : Completion) (literal : String), 'Σ' ∉ literal.toList →
      ((Text.normalize literal).toList <+: (Text.normalize c.plain).toList →
        Text.normalize (literal ++ c.ghost literal) = Text.normalize c.plain ∧
          c.ghost (literal ++ c.ghost literal) = "") ∧
      (¬ (Text.normalize literal).toList <+: (Text.normalize c.plain).toList →
        c.ghost literal = "") := by
  refine ⟨Text.normalize_normalize, fun c literal hsigma => ⟨?_, ghost_of_not_isPrefix⟩⟩
  rintro ⟨rest, hrest⟩
  have hcompleted : Text.normalize (literal ++ c.ghost literal) = Text.normalize c.plain := by
    rw [ghost_eq_ofList hrest.symm]
    exact Text.normalize_append hsigma hrest.symm
  exact ⟨hcompleted, ghost_of_normalize_eq hcompleted⟩

/-- The dotted capital becomes two letters, and the sigma that ends a word becomes a final one. -/
theorem ghost_completes_dotted :
    let c : Completion := .ofOperator ⟨"İzmir", .root, []⟩ ⟨"ΩΣ", .root, []⟩
    'Σ' ∉ " \t İZ".toList ∧ c.ghost " \t İZ" = "mir ως " ∧
      Text.normalize (" \t İZ" ++ c.ghost " \t İZ") = Text.normalize c.plain ∧
      c.ghost (" \t İZ" ++ c.ghost " \t İZ") = "" ∧ c.ghost "Izmir" = "" := by
  intro c
  have hsigma : 'Σ' ∉ " \t İZ".toList := by decide
  have htyped : (Text.normalize " \t İZ").toList = "i̇z".toList := by decide +kernel
  have hwhole : (Text.normalize c.plain).toList = "i̇z".toList ++ "mir ως ".toList := by
    decide +kernel
  have hother : (Text.normalize "Izmir").toList = "izmir".toList := by decide +kernel
  obtain ⟨-, hghost⟩ := ghost_completes
  obtain ⟨hcompletes, -⟩ := hghost c " \t İZ" hsigma
  obtain ⟨hnormalize, hempty⟩ := hcompletes ⟨"mir ως ".toList, by rw [htyped, hwhole]⟩
  obtain ⟨-, hdiverges⟩ := hghost c "Izmir" (by decide)
  have hdotless : c.ghost "Izmir" = "" := hdiverges (by rw [hother, hwhole]; decide)
  have htail : c.ghost " \t İZ" = "mir ως " := by
    rw [ghost_eq_ofList (by rw [hwhole, htyped]), String.ofList_toList]
  exact ⟨hsigma, htail, hnormalize, hempty, hdotless⟩

end SearchBox.Completion
