import ArtifactSearch.Content

/-!
# ArtifactSearch.Proofs.Content

**Which files have a text**, said apart from the order in which things are checked.
`HasText` asks for bytes that unpack, if the name says they are packed, to bytes
without a zero that encode the text; `decode_eq_ok_iff` says that these files and
no others are decoded.

The others are rejected, but for packed files with wrong deflated data
(`decode_cases`). Those fail in a way of their own, which not every reader is
prepared for.
-/

namespace ArtifactSearch.Content

/-! ### Files with a text -/

/-- The name and the bytes that a file goes on with. -/
inductive Unpacks (fileName : Text) (raw : Bytes) : Text → Bytes → Prop where
  | asIs : isPacked fileName = false → Unpacks fileName raw fileName raw
  | packed {bytes : Bytes} : isPacked fileName = true → gunzip raw = .ok bytes →
      Unpacks fileName raw (fileName.take (fileName.length - 3)) bytes

/-- The file has a text, and goes on under `name`. -/
def HasText (fileName : Text) (raw : Bytes) (name text : Text) : Prop :=
  ∃ bytes, Unpacks fileName raw name bytes ∧ 0 ∉ bytes ∧ Encoding.utf8Signed.decode bytes = .ok text

/-- The deflated data of a packed file are wrong. -/
def Corrupt (fileName : Text) (raw : Bytes) (fault : DeflateFault) : Prop :=
  isPacked fileName = true ∧ gunzip raw = .error (.corrupt fault)

/-! ### Unpacking -/

theorem unpack_eq_ok_iff {fileName : Text} {raw : Bytes} {name : Text} {bytes : Bytes} :
    unpack fileName raw = .ok (name, bytes) ↔ Unpacks fileName raw name bytes := by
  unfold unpack
  constructor
  · intro h
    split at h
    · rename_i hpacked
      split at h
      · rename_i hgunzip
        cases h
        exact .packed hpacked hgunzip
      · cases h
      · cases h
    · rename_i hpacked
      cases h
      exact .asIs (by simpa using hpacked)
  · rintro (hplain | ⟨hpacked, hgunzip⟩)
    · rw [if_neg (by simp [hplain])]
    · rw [if_pos hpacked, hgunzip]

theorem unpack_cases (fileName : Text) (raw : Bytes) :
    (∃ name bytes, unpack fileName raw = .ok (name, bytes)) ∨
      (∃ name cause, unpack fileName raw = .error (.rejected name cause)) ∨
      ∃ fault, Corrupt fileName raw fault ∧ unpack fileName raw = .error (.corrupt fault) := by
  unfold unpack
  split
  · rename_i hpacked
    split
    · exact .inl ⟨_, _, rfl⟩
    · rename_i fault hgunzip
      exact .inr (.inr ⟨fault, ⟨hpacked, hgunzip⟩, rfl⟩)
    · exact .inr (.inl ⟨_, _, rfl⟩)
  · exact .inl ⟨_, _, rfl⟩

/-! ### Texts -/

theorem textOf_defaultEncoding (fileName : Text) (bytes : Bytes) :
    textOf defaultEncoding fileName bytes =
      if 0 ∈ bytes then .error (.rejected fileName .binary)
      else (Encoding.utf8Signed.decode bytes).mapError fun fault =>
        .rejected fileName (.notText defaultEncoding fault) := by
  have hknown : Encoding.ofName? defaultEncoding = some .utf8Signed := by decide
  unfold textOf
  rw [hknown]
  by_cases hzero : 0 ∈ bytes
  · rw [if_pos (by simpa using hzero), if_pos hzero]
  · rw [if_neg (by simpa using hzero), if_neg hzero]
    cases bytes with
    | nil => rfl
    | cons b rest =>
        rw [List.isEmpty_cons, if_neg Bool.false_ne_true]
        dsimp only
        cases Encoding.utf8Signed.decode (b :: rest) with
        | ok text => rfl
        | error fault => rfl

theorem textOf_eq_ok_iff {fileName : Text} {bytes : Bytes} {text : Text} :
    textOf defaultEncoding fileName bytes = .ok text ↔
      0 ∉ bytes ∧ Encoding.utf8Signed.decode bytes = .ok text := by
  rw [textOf_defaultEncoding]
  by_cases hzero : 0 ∈ bytes
  · rw [if_pos hzero]
    exact iff_of_false nofun fun h => h.1 hzero
  · rw [if_neg hzero]
    cases Encoding.utf8Signed.decode bytes with
    | ok decoded =>
        constructor
        · rintro ⟨⟩
          exact ⟨hzero, rfl⟩
        · rintro ⟨-, ⟨⟩⟩
          rfl
    | error fault => exact iff_of_false nofun nofun

/-- What fails at the text of unpacked bytes is a rejection. -/
theorem textOf_cases (fileName : Text) (bytes : Bytes) :
    (∃ text, textOf defaultEncoding fileName bytes = .ok text) ∨
      ∃ cause, textOf defaultEncoding fileName bytes = .error (.rejected fileName cause) := by
  rw [textOf_defaultEncoding]
  split
  · exact .inr ⟨_, rfl⟩
  · cases Encoding.utf8Signed.decode bytes with
    | ok text => exact .inl ⟨text, rfl⟩
    | error fault => exact .inr ⟨_, rfl⟩

/-! ### Decoding -/

theorem decode_of_unpack {fileName : Text} {raw : Bytes} {name : Text} {bytes : Bytes}
    (h : unpack fileName raw = .ok (name, bytes)) :
    decode fileName raw = (textOf defaultEncoding name bytes).map fun text => (name, text) := by
  rw [decode, decodeIn, h]
  rfl

theorem decode_of_unpack_error {fileName : Text} {raw : Bytes} {error : ContentError}
    (h : unpack fileName raw = .error error) : decode fileName raw = .error error := by
  rw [decode, decodeIn, h]
  rfl

theorem decode_eq_ok_iff {fileName : Text} {raw : Bytes} {name text : Text} :
    decode fileName raw = .ok (name, text) ↔ HasText fileName raw name text := by
  constructor
  · intro h
    cases hunpack : unpack fileName raw with
    | error error =>
        rw [decode_of_unpack_error hunpack] at h
        cases h
    | ok result =>
        obtain ⟨name', bytes⟩ := result
        rw [decode_of_unpack hunpack] at h
        cases htext : textOf defaultEncoding name' bytes with
        | error error =>
            rw [htext] at h
            cases h
        | ok text' =>
            rw [htext] at h
            cases h
            exact ⟨bytes, unpack_eq_ok_iff.mp hunpack, textOf_eq_ok_iff.mp htext⟩
  · rintro ⟨bytes, hunpacks, htext⟩
    rw [decode_of_unpack (unpack_eq_ok_iff.mpr hunpacks), textOf_eq_ok_iff.mpr htext]
    rfl

/-- A file is decoded or rejected, or its deflated data are wrong. -/
theorem decode_cases (fileName : Text) (raw : Bytes) :
    (∃ name text, decode fileName raw = .ok (name, text)) ∨
      (∃ name cause, decode fileName raw = .error (.rejected name cause)) ∨
      ∃ fault, Corrupt fileName raw fault ∧ decode fileName raw = .error (.corrupt fault) := by
  rcases unpack_cases fileName raw with ⟨name, bytes, h⟩ | ⟨name, cause, h⟩ | ⟨fault, hcorrupt, h⟩
  · rw [decode_of_unpack h]
    rcases textOf_cases name bytes with ⟨text, htext⟩ | ⟨cause, htext⟩
    · exact .inl ⟨name, text, by rw [htext]; rfl⟩
    · exact .inr (.inl ⟨name, cause, by rw [htext]; rfl⟩)
  · exact .inr (.inl ⟨name, cause, decode_of_unpack_error h⟩)
  · exact .inr (.inr ⟨fault, hcorrupt, decode_of_unpack_error h⟩)

theorem decode_eq_corrupt_iff {fileName : Text} {raw : Bytes} {fault : DeflateFault} :
    decode fileName raw = .error (.corrupt fault) ↔ Corrupt fileName raw fault := by
  constructor
  · intro h
    rcases decode_cases fileName raw with ⟨_, _, h'⟩ | ⟨_, _, h'⟩ | ⟨fault', hcorrupt, h'⟩
    · cases h.symm.trans h'
    · cases h.symm.trans h'
    · cases h.symm.trans h'
      exact hcorrupt
  · rintro ⟨hpacked, hgunzip⟩
    refine decode_of_unpack_error ?_
    rw [unpack, if_pos hpacked, hgunzip]

end ArtifactSearch.Content
