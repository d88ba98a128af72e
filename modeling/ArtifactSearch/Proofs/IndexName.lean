import ArtifactSearch.IndexName
import ArtifactSearch.Proofs.Entries

/-!
# ArtifactSearch.Proofs.IndexName

**Names from file names.** Whatever the file name, its index name has ASCII
letters and digits only (`isAlphanumeric_of_mem_normalize`), and the canonical
casing of a known export differs from the stripped name in casing alone
(`lower_normalize`). So two file names stand for the same index exactly if their
**folded** names agree.

An index name taken for a file name has no extension to lose and nothing to strip
(`strip_of_isAlphanumeric`), and its folded name is that of the file. Index names are
therefore a normal form of file names (`normalize_normal`).
-/

namespace ArtifactSearch.IndexName

/-- The folded name of a file: its stripped name in lower case. -/
def fold (fileName : Text) : Text := Text.lower (strip fileName)

theorem isAlphanumeric_of_mem_strip {fileName : Text} {c : Char} (h : c ∈ strip fileName) :
    Text.isAlphanumeric c = true :=
  (List.mem_filter.mp h).2

/-- The table is consistent: an alias is its key in another casing. -/
theorem lower_of_mem_known :
    ∀ entry ∈ known, Text.lower entry.2 = entry.1 ∧ entry.2.all Text.isAlphanumeric = true := by
  decide +kernel

theorem normalize_cases (fileName : Text) :
    normalize fileName = strip fileName ∨ (fold fileName, normalize fileName) ∈ known := by
  unfold normalize normalizeBy
  cases halias : known.get? (Text.lower (strip fileName)) with
  | none => exact .inl rfl
  | some canonical => exact .inr (Entries.mem_of_get? halias)

theorem isAlphanumeric_of_mem_normalize {fileName : Text} {c : Char}
    (h : c ∈ normalize fileName) : Text.isAlphanumeric c = true := by
  rcases normalize_cases fileName with hstrip | hknown
  · rw [hstrip] at h
    exact isAlphanumeric_of_mem_strip h
  · exact List.all_eq_true.mp (lower_of_mem_known _ hknown).2 c h

theorem lower_normalize (fileName : Text) : Text.lower (normalize fileName) = fold fileName := by
  rcases normalize_cases fileName with hstrip | hknown
  · rw [hstrip, fold]
  · exact (lower_of_mem_known _ hknown).1

/-! ### Names as file names -/

theorem normalize_eq (fileName : Text) :
    normalize fileName = (known.get? (fold fileName)).getD (strip fileName) := rfl

/-- An extension starts with a dot. -/
theorem dropExtension_of_not_mem {s : Text} (h : '.' ∉ s) : dropExtension s = s := by
  unfold dropExtension
  split
  · simp at h
  · rfl

theorem strip_of_isAlphanumeric {s : Text} (h : ∀ c ∈ s, Text.isAlphanumeric c = true) :
    strip s = s := by
  have hdot : '.' ∉ s.reverse := fun hmem => by
    have hletter := h '.' (List.mem_reverse.mp hmem)
    revert hletter
    decide
  rw [strip, stem, dropExtension_of_not_mem hdot, List.reverse_reverse, List.filter_eq_self.mpr h]

theorem strip_normalize (fileName : Text) : strip (normalize fileName) = normalize fileName :=
  strip_of_isAlphanumeric fun _ => isAlphanumeric_of_mem_normalize

theorem fold_normalize (fileName : Text) : fold (normalize fileName) = fold fileName := by
  rw [fold, strip_normalize, lower_normalize]

/-- The alias that is found for a file is found for its index name. -/
theorem normalize_normalize (fileName : Text) :
    normalize (normalize fileName) = normalize fileName := by
  rw [normalize_eq (normalize fileName), fold_normalize, strip_normalize, normalize_eq]
  cases known.get? (fold fileName) with
  | none => rfl
  | some canonical => rfl

/-- Each alias is found under its key. -/
theorem get?_of_mem_known : ∀ entry ∈ known, known.get? entry.1 = some entry.2 := by
  decide +kernel

/-- **Index names are a normal form of file names.** An index name has ASCII letters and digits
only, is its own index name, and agrees in lower case with the stripped file name. Two index
names agree ignoring case exactly if the stripped file names do, and those of two files of the
same known export are one name, letter for letter. -/
theorem normalize_normal (f g : Text) :
    (normalize f).all Text.isAlphanumeric = true ∧
    normalize (normalize f) = normalize f ∧
    Text.lower (normalize f) = Text.lower (strip f) ∧
    (Text.lower (normalize f) = Text.lower (normalize g) ↔
      Text.lower (strip f) = Text.lower (strip g)) ∧
    ∀ key canonical, (key, canonical) ∈ known → Text.lower (strip f) = key →
      Text.lower (strip g) = key → normalize f = canonical ∧ normalize g = canonical := by
  refine ⟨?_, normalize_normalize f, lower_normalize f, ?_, ?_⟩
  · exact List.all_eq_true.mpr fun _ => isAlphanumeric_of_mem_normalize
  · rw [lower_normalize, lower_normalize, fold, fold]
  · intro key canonical hknown hf hg
    have halias : known.get? key = some canonical := get?_of_mem_known _ hknown
    constructor
    · rw [normalize_eq, fold, hf, halias, Option.getD_some]
    · rw [normalize_eq, fold, hg, halias, Option.getD_some]

/-- Two files of one export in different spellings. One has a long s in its extension. -/
theorem normalize_normal_spellings :
    let f := "DNS_cache.cſv".toList
    let g := "-dns.cache.CSV".toList
    ("dnscache".toList, "DNSCache".toList) ∈ known ∧
      Text.lower (strip f) = "dnscache".toList ∧ Text.lower (strip g) = "dnscache".toList ∧
      normalize f = "DNSCache".toList ∧ normalize g = "DNSCache".toList := by
  intro f g
  have hknown : ("dnscache".toList, "DNSCache".toList) ∈ known := by decide
  have hf : Text.lower (strip f) = "dnscache".toList := by decide
  have hg : Text.lower (strip g) = "dnscache".toList := by decide
  obtain ⟨hnamed, hnamed'⟩ := (normalize_normal f g).2.2.2.2 _ _ hknown hf hg
  exact ⟨hknown, hf, hg, hnamed, hnamed'⟩

end ArtifactSearch.IndexName
