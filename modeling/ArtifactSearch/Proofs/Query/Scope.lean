import ArtifactSearch.Proofs.Query.Block
import ArtifactSearch.Proofs.Query.Reading
import ArtifactSearch.Proofs.Store.Invariant
import ArtifactSearch.Proofs.Text.Alphanumeric

/-!
# ArtifactSearch.Proofs.Query.Scope

**Asking for one index by its name.** Behind the keyword, a name of letters and digits
is read as that name and nothing further (`read_keyword_append`), unless it is empty:
the keyword alone is plain text. What stands behind the name and a space is the further text
(`exists_scoped_keyword_append_space`), and is read so if it is on one line
(`read_keyword_append_space`). On a well-formed map the query has results in
that index and no others (`hits_within_eq_block`), since no other name agrees with this
one ignoring case.
-/

namespace ArtifactSearch

namespace Query

theorem isKeyword_index : IsKeyword "index=".toList :=
  ⟨'i', 'n', 'd', 'e', 'x', rfl, by decide, by decide, by decide, by decide, by decide⟩

section Keyword

variable {name : Text} (hne : name ≠ []) (h : ∀ c ∈ name, Text.isAlphanumeric c = true)

include hne h

theorem scoped_keyword_append {further : Text}
    (hfurther : ∀ c, further.head? = some c → Blank.isSpace c = true) :
    Scoped ("index=".toList ++ (name ++ further)) name further where
  spelled := ⟨_, isKeyword_index, rfl⟩
  occupied := hne
  unspaced := fun c hc => Blank.isSpace_of_isAlphanumeric (h c hc)
  maximal := hfurther

theorem trim_keyword_append {further after : Text}
    (hlast : ∀ c, further.getLast? = some c → Blank.isSpace c = false)
    (hafter : ∀ c ∈ after, Blank.isSpace c = true) :
    Text.trim Blank.isSpace ("index=".toList ++ (name ++ (further ++ after)))
      = "index=".toList ++ (name ++ further) := by
  have htrimmed : Text.Trimmed Blank.isSpace ("index=".toList ++ (name ++ further)) := by
    constructor
    · intro c hc
      cases hc
      decide
    · intro c hc
      rw [List.getLast?_append, List.getLast?_append] at hc
      cases hfurther : further.getLast? with
      | some d => exact hlast c (by simpa [hfurther] using hc)
      | none =>
          rw [hfurther, List.getLast?_eq_some_getLast hne] at hc
          cases hc
          exact Blank.isSpace_of_isAlphanumeric (h _ (List.getLast_mem hne))
  have htrim := Text.trim_append (List.forall_mem_nil _) htrimmed hafter
  rwa [List.nil_append, List.append_assoc, List.append_assoc] at htrim

theorem scoped_trim_keyword_append (further after : Text)
    (hhead : ∀ c, further.head? = some c → Blank.isSpace c = true)
    (hlast : ∀ c, further.getLast? = some c → Blank.isSpace c = false)
    (hafter : ∀ c ∈ after, Blank.isSpace c = true) :
    Scoped (Text.trim Blank.isSpace ("index=".toList ++ (name ++ (further ++ after))))
      name further := by
  rw [trim_keyword_append hne h hlast hafter]
  exact scoped_keyword_append hne h hhead

theorem read_keyword_append : read ("index=".toList ++ name) = .within (Text.lower name) [] := by
  have hscoped := scoped_trim_keyword_append hne h [] [] nofun nofun nofun
  rw [List.append_nil, List.append_nil] at hscoped
  rw [read_of_scoped hscoped, if_neg (by decide)]
  rfl

/-- Behind the name and a space stands the further text. White space around it does not
count. -/
theorem exists_scoped_keyword_append_space (further : Text) :
    ∃ rest, Scoped (Text.trim Blank.isSpace ("index=".toList ++ (name ++ ' ' :: further)))
        name rest ∧ Text.trim Blank.isSpace rest = Text.trim Blank.isSpace further := by
  obtain ⟨before, after, hsplit, hbefore, hafter⟩ := Text.exists_trim_eq Blank.isSpace further
  have htrimmed : Text.Trimmed Blank.isSpace (Text.trim Blank.isSpace further) :=
    Text.trimmed_trim further
  generalize Text.trim Blank.isSpace further = needle at hsplit htrimmed ⊢
  subst hsplit
  have hgap : ∀ c ∈ ' ' :: before, Blank.isSpace c = true := List.forall_mem_cons.mpr ⟨rfl, hbefore⟩
  cases needle with
  | nil =>
      -- There is only white space, and the query ends with the name.
      have hblank : ∀ c ∈ ' ' :: before ++ after, Blank.isSpace c = true := fun c hc =>
        (List.mem_append.mp hc).elim (hgap c) (hafter c)
      exact ⟨[], scoped_trim_keyword_append hne h [] _ nofun nofun hblank, rfl⟩
  | cons c rest =>
      have htrim : Text.trim Blank.isSpace (' ' :: before ++ c :: rest) = c :: rest := by
        have := Text.trim_append hgap htrimmed (List.forall_mem_nil _)
        rwa [List.append_nil] at this
      have hlast : ∀ d, (' ' :: before ++ c :: rest).getLast? = some d →
          Blank.isSpace d = false := fun d hd => by
        rw [List.getLast?_append_of_ne_nil _ (List.cons_ne_nil c rest)] at hd
        exact htrimmed.last d hd
      have hscoped := scoped_trim_keyword_append hne h (' ' :: before ++ c :: rest) after
        (fun d hd => hgap d (List.mem_of_mem_head? hd)) hlast hafter
      refine ⟨' ' :: before ++ c :: rest, ?_, htrim⟩
      simpa using hscoped

theorem read_keyword_append_space {further : Text} (hline : '\n' ∉ further) :
    read ("index=".toList ++ (name ++ ' ' :: further))
      = .within (Text.lower name) (Text.lower (Text.trim Blank.isSpace further)) := by
  obtain ⟨rest, hscoped, hrest⟩ := exists_scoped_keyword_append_space hne h further
  rw [read_of_scoped hscoped, hrest, if_neg fun hc => hline (Text.mem_of_mem_trim hc)]

end Keyword

variable {m : IndexMap} {index : Index}

theorem block_within_self (index : Index) :
    (within (Text.lower index.name) []).block index
      = index.records.map fun record => ⟨index.name, record⟩ := by
  have hall : (within (Text.lower index.name) []).picks index = fun _ => true := by
    funext record
    simp [picks]
  rw [block, hall, List.filter_true]

theorem block_within_of_ne {name needle : Text} (h : Text.lower index.name ≠ name) :
    (within name needle).block index = [] := by
  have hnone : (within name needle).picks index = fun _ => false := by
    funext record
    simp [picks, h]
  rw [block, hnone, List.filter_false, List.map_nil]

/-- The results within a loaded index are its own and no others. -/
theorem hits_within_eq_block (h : m.WellFormed) (hindex : index ∈ m.values) (needle : Text) :
    (within (Text.lower index.name) needle).hits m.values
      = (within (Text.lower index.name) needle).block index := by
  obtain ⟨before, after, hsplit, hothers⟩ := h.exists_split hindex
  have hnone : ∀ entry ∈ before ++ after,
      (within (Text.lower index.name) needle).block entry.2 = [] := fun entry hentry => by
    have hmem : entry ∈ m := by
      rw [hsplit, List.mem_append, List.mem_cons]
      exact (List.mem_append.mp hentry).imp id .inr
    have hname : entry.2.name = entry.1 := h.name entry.1 entry.2 hmem
    exact block_within_of_ne (hname ▸ hothers entry.1 (List.mem_map_of_mem hentry))
  rw [hits_eq_flatMap, hsplit, Entries.values, List.flatMap_map, List.flatMap_append,
    List.flatMap_cons,
    List.flatMap_eq_nil_iff.mpr fun entry hentry => hnone entry (List.mem_append_left _ hentry),
    List.flatMap_eq_nil_iff.mpr fun entry hentry => hnone entry (List.mem_append_right _ hentry),
    List.nil_append, List.append_nil]

/-- The results within a loaded index are its records, in order. -/
theorem hits_within (h : m.WellFormed) (hindex : index ∈ m.values) :
    (within (Text.lower index.name) []).hits m.values
      = index.records.map fun record => ⟨index.name, record⟩ := by
  rw [hits_within_eq_block h hindex, block_within_self]

end Query

end ArtifactSearch
